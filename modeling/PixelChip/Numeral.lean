/-!
# Positional numerals of a fixed length

Every layout on the wire is a numeral: a command payload is written in base 32 (one symbol a
digit), an extended write in base 65536 (one register value a digit), a frame in base 256 (one
byte a digit). The most significant digit comes first throughout.

`value_expand` and `expand_value` say that `expand` and `value` undo each other: writing a number
with `count` digits and reading them back keeps the number modulo `size base count`, and reading
proper digits and writing them again keeps the digits.
-/

namespace PixelChip
namespace Numeral

/-- The number that the digits denote, the most significant digit first. -/
def value (base : Nat) (digits : List Nat) : Nat :=
  digits.foldl (fun n digit => base * n + digit) 0

/-- The lowest `count` digits of a number, the most significant of them first. -/
def expand (base : Nat) : (count : Nat) → Nat → List Nat
  | 0, _ => []
  | count + 1, n => expand base count (n / base) ++ [n % base]

/-- How many numbers `count` digits can denote. -/
def size (base : Nat) : (count : Nat) → Nat
  | 0 => 1
  | count + 1 => base * size base count

/-- A digit at the end makes room for itself. -/
@[simp]
theorem value_concat (base : Nat) (digits : List Nat) (digit : Nat) :
    value base (digits ++ [digit]) = base * value base digits + digit := by
  simp [value]

@[simp]
theorem length_expand (base count n : Nat) : (expand base count n).length = count := by
  induction count generalizing n with
  | zero => rfl
  | succ count ih => simp [expand, ih]

/-- The most significant digit comes first. -/
theorem expand_succ_cons (base count n : Nat) :
    expand base (count + 1) n = n / size base count % base :: expand base count n := by
  induction count generalizing n with
  | zero => simp [expand, size]
  | succ count ih =>
    rw [expand, ih (n / base), size, Nat.div_div_eq_div_mul]
    rfl

/-- Every digit written is a digit of the base. -/
theorem lt_of_mem_expand {base count n digit : Nat} (hbase : 0 < base)
    (h : digit ∈ expand base count n) : digit < base := by
  induction count generalizing n with
  | zero => simp [expand] at h
  | succ count ih =>
    rcases List.mem_append.1 h with h | h
    · exact ih h
    · rw [List.mem_singleton.1 h]
      exact Nat.mod_lt _ hbase

/-- Writing keeps the number modulo the size of the field. -/
theorem value_expand (base count n : Nat) :
    value base (expand base count n) = n % size base count := by
  induction count generalizing n with
  | zero => simp [value, expand, size, Nat.mod_one]
  | succ count ih =>
    rw [expand, value_concat, ih, size, Nat.mod_mul, Nat.add_comm]

/-- Reading proper digits and writing them again keeps the digits. `digits` is the numeral with
its last digit first. -/
theorem expand_value_reverse {base : Nat} {digits : List Nat}
    (h : ∀ digit ∈ digits, digit < base) :
    expand base digits.length (value base digits.reverse) = digits.reverse := by
  induction digits with
  | nil => rfl
  | cons digit rest ih =>
    have hdigit : digit < base := h digit List.mem_cons_self
    have hrest : ∀ d ∈ rest, d < base := fun d hd => h d (List.mem_cons_of_mem digit hd)
    have hbase : 0 < base := Nat.lt_of_le_of_lt (Nat.zero_le _) hdigit
    rw [List.reverse_cons, value_concat, List.length_cons, expand,
      Nat.mul_add_div hbase, Nat.div_eq_of_lt hdigit, Nat.add_zero, ih hrest,
      Nat.mul_add_mod, Nat.mod_eq_of_lt hdigit]

/-- Reading proper digits and writing them again keeps the digits. -/
theorem expand_value {base : Nat} {digits : List Nat} (h : ∀ digit ∈ digits, digit < base) :
    expand base digits.length (value base digits) = digits := by
  have hreverse := expand_value_reverse fun digit hd => h digit (List.mem_reverse.1 hd)
  rwa [List.reverse_reverse, List.length_reverse] at hreverse

end Numeral
end PixelChip
