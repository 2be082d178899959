import PixelChip.Numeral
import PixelChip.Proofs.Text.Digits
import PixelChip.Proofs.Text.Fragments

/-!
# Fields of a text can be told apart

A number in a text ends where no digit follows, so that two texts that are equal have equal numbers
in the same place and are equal behind them (`IsNumeral.append_inj`).  A text that consists of
labels and numbers is thus taken apart field by field: `IsNumeral.label_inj` removes one number and
the label behind it.
-/

namespace PixelChip
namespace Text

/-! ## The number that digits denote -/

/-- The number that digits denote. -/
def numberOf (base : Nat) (digits : List Char) : Nat :=
  Numeral.value base (digits.map digitChars.idxOf)

lemma idxOf_digitChar : ∀ d < 16, digitChars.idxOf (Nat.digitChar d) = d := by
  decide

lemma numberOf_toDigits {base : Nat} (hbase : 1 < base) (hle : base ≤ 16) (n : Nat) :
    numberOf base (Nat.toDigits base n) = n := by
  induction n using Nat.strongRecOn with
  | ind n ih =>
      by_cases hlt : n < base
      · rw [Nat.toDigits_of_lt_base hlt, numberOf, List.map_singleton,
          idxOf_digitChar n (Nat.lt_of_lt_of_le hlt hle)]
        exact Nat.zero_add n
      · have hge : base ≤ n := Nat.le_of_not_lt hlt
        have hdigit : n % base < base := Nat.mod_lt n (by omega)
        have hshorter := ih (n / base) (Nat.div_lt_self (by omega) hbase)
        rw [numberOf] at hshorter
        rw [Nat.toDigits_of_base_le hbase hge, numberOf, List.map_append, List.map_singleton,
          Numeral.value_concat, hshorter, idxOf_digitChar _ (Nat.lt_of_lt_of_le hdigit hle),
          Nat.div_add_mod]

/-- Zeros in front of digits do not count. -/
lemma numberOf_leftpad (base width : Nat) (digits : List Char) :
    numberOf base (digits.leftpad width '0') = numberOf base digits := by
  rw [List.leftpad]
  induction width - digits.length with
  | zero => rfl
  | succ count ih => rw [List.replicate_succ, List.cons_append, ← ih]; rfl

/-! ## Numbers in a text -/

/-- A way of writing numbers in digits, different numbers differently. -/
structure IsNumeral (write : Nat → String) : Prop where
  mem_digitChars : ∀ n, ∀ c ∈ (write n).toList, c ∈ digitChars
  injective : ∀ n m, (write n).toList = (write m).toList → n = m

lemma isNumeral_padded {base : Nat} (width : Nat) (hbase : 1 < base) (hle : base ≤ 16) :
    IsNumeral (padded base width) where
  mem_digitChars _ _ hc := mem_digitChars_of_mem_padded hbase hle hc
  injective n m h := by
    have hnumber := congrArg (numberOf base) h
    rwa [padded, padded, String.toList_ofList, String.toList_ofList, numberOf_leftpad,
      numberOf_leftpad, numberOf_toDigits hbase hle, numberOf_toDigits hbase hle] at hnumber

lemma isNumeral_hex (width : Nat) : IsNumeral (hex width) :=
  isNumeral_padded width (by decide) (by decide)

lemma isNumeral_binary (width : Nat) : IsNumeral (binary width) :=
  isNumeral_padded width (by decide) (by decide)

lemma isNumeral_decimal : IsNumeral decimal where
  mem_digitChars _ _ hc := mem_digitChars_of_mem_decimal hc
  injective n m h := by
    have hnumber := congrArg (numberOf 10) h
    rwa [decimal, decimal, String.toList_ofList, String.toList_ofList,
      numberOf_toDigits (by decide) (by decide), numberOf_toDigits (by decide) (by decide)]
      at hnumber

/-- A text that does not go on with a digit. -/
def Stops (text : List Char) : Prop :=
  ∀ c ∈ text.head?, c ∉ digitChars

lemma stops_nil : Stops [] := by
  simp [Stops]

lemma stops_cons {c : Char} (h : c ∉ digitChars) (text : List Char) : Stops (c :: text) := by
  rintro d hd
  obtain rfl : c = d := Option.some.inj hd
  exact h

namespace IsNumeral

variable {write : Nat → String} {n m : Nat} {rest rest' : List Char}

/-- **A number is known from a text that starts with it**, and so is what follows. -/
theorem append_inj (hwrite : IsNumeral write) (hrest : Stops rest) (hrest' : Stops rest')
    (h : (write n).toList ++ rest = (write m).toList ++ rest') : n = m ∧ rest = rest' := by
  have hsolid : ∀ k, ∀ c ∈ (write k).toList, decide (c ∉ digitChars) = false := fun k c hc => by
    simpa using hwrite.mem_digitChars k c hc
  obtain ⟨hnumber, hrest⟩ := append_inj_of_solid (hsolid n) (hsolid m)
    (fun c hc => by simpa using hrest c hc) (fun c hc => by simpa using hrest' c hc) h
  exact ⟨hwrite.injective n m hnumber, hrest⟩

/-- A number in front of a label, which starts with no digit. -/
lemma label_inj (hwrite : IsNumeral write) {c : Char} {label : List Char} (hc : c ∉ digitChars)
    (h : (write n).toList ++ (c :: label ++ rest) = (write m).toList ++ (c :: label ++ rest')) :
    n = m ∧ rest = rest' := by
  have hstops : ∀ rest, Stops (c :: label ++ rest) := fun rest => stops_cons hc _
  obtain ⟨hnumber, hrest⟩ := hwrite.append_inj (hstops rest) (hstops rest') h
  exact ⟨hnumber, List.append_cancel_left hrest⟩

end IsNumeral

end Text
end PixelChip
