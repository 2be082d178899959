import Mathlib.Tactic.Lemma
import PixelChip.Text.Number

/-!
# Numbers are made of digits

A number in any base up to sixteen is one or more of sixteen digits.  So it holds no line break,
which matters where a report is cut into lines again.
-/

namespace PixelChip
namespace Text

/-! ## Digits -/

/-- The digits of base sixteen, among which are those of every smaller base. -/
def digitChars : List Char :=
  (List.range 16).map Nat.digitChar

lemma digitChar_mem_digitChars {d : Nat} (h : d < 16) : Nat.digitChar d ∈ digitChars :=
  List.mem_map_of_mem (List.mem_range.2 h)

lemma mem_digitChars_of_mem_toDigits {base n : Nat} (hbase : 1 < base) (hle : base ≤ 16) {c : Char}
    (h : c ∈ Nat.toDigits base n) : c ∈ digitChars := by
  induction n using Nat.strongRecOn with
  | ind n ih =>
      by_cases hlt : n < base
      · rw [Nat.toDigits_of_lt_base hlt, List.mem_singleton] at h
        rw [h]
        exact digitChar_mem_digitChars (Nat.lt_of_lt_of_le hlt hle)
      · have hge : base ≤ n := Nat.le_of_not_lt hlt
        rw [Nat.toDigits_of_base_le hbase hge, List.mem_append, List.mem_singleton] at h
        obtain h | rfl := h
        · exact ih (n / base) (Nat.div_lt_self (by omega) hbase) h
        · have hdigit : n % base < base := Nat.mod_lt n (by omega)
          exact digitChar_mem_digitChars (Nat.lt_of_lt_of_le hdigit hle)

lemma mem_digitChars_of_mem_decimal {n : Nat} {c : Char} (h : c ∈ (decimal n).toList) :
    c ∈ digitChars := by
  rw [decimal, String.toList_ofList] at h
  exact mem_digitChars_of_mem_toDigits (by decide) (by decide) h

lemma mem_digitChars_of_mem_padded {base width n : Nat} (hbase : 1 < base) (hle : base ≤ 16)
    {c : Char} (h : c ∈ (padded base width n).toList) : c ∈ digitChars := by
  rw [padded, String.toList_ofList, List.leftpad, List.mem_append] at h
  obtain h | h := h
  · rw [List.eq_of_mem_replicate h]
    decide
  · exact mem_digitChars_of_mem_toDigits hbase hle h

lemma toList_decimal_ne_nil (n : Nat) : (decimal n).toList ≠ [] := by
  rw [decimal, String.toList_ofList]
  exact Nat.toDigits_ne_nil

lemma toList_padded_ne_nil (base width n : Nat) : (padded base width n).toList ≠ [] := by
  rw [padded, String.toList_ofList, List.leftpad]
  exact List.append_ne_nil_of_right_ne_nil _ Nat.toDigits_ne_nil

/-! ## Line breaks -/

lemma newline_not_mem_digitChars : '\n' ∉ digitChars := by
  decide

@[simp]
lemma newline_not_mem_decimal (n : Nat) : '\n' ∉ (decimal n).toList := fun h =>
  newline_not_mem_digitChars (mem_digitChars_of_mem_decimal h)

@[simp]
lemma newline_not_mem_hex (width n : Nat) : '\n' ∉ (hex width n).toList := fun h =>
  newline_not_mem_digitChars (mem_digitChars_of_mem_padded (by decide) (by decide) h)

@[simp]
lemma newline_not_mem_binary (width n : Nat) : '\n' ∉ (binary width n).toList := fun h =>
  newline_not_mem_digitChars (mem_digitChars_of_mem_padded (by decide) (by decide) h)

/-- What stands neither in some parts nor between them does not stand in all of it. -/
lemma not_mem_intercalate {α : Type} {x : α} {between : List α} {parts : List (List α)}
    (hbetween : x ∉ between) (h : ∀ part ∈ parts, x ∉ part) : x ∉ between.intercalate parts := by
  induction parts with
  | nil => simp
  | cons first rest ih =>
      have hfirst := h first List.mem_cons_self
      have hrest := ih fun part hpart => h part (List.mem_cons_of_mem first hpart)
      obtain _ | ⟨second, rest⟩ := rest
      · rwa [List.intercalate_singleton]
      · rw [List.intercalate_cons_cons, List.mem_append, List.mem_append, not_or, not_or]
        exact ⟨⟨hfirst, hbetween⟩, hrest⟩

end Text
end PixelChip
