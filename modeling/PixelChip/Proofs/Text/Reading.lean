import Mathlib.Data.List.DropRight
import Mathlib.Tactic.Lemma
import PixelChip.Numeral
import PixelChip.Text.Blank
import PixelChip.Text.Number

/-!
# What a setting's text denotes

`IsCore` and `IsDecimal` say which text stands between the blanks of another and which number a text
denotes, without the loops that find them.  `isCore_iff` and `unsigned?_eq_some_iff` say that
trimming and reading a number find exactly these.  Reading gives up at no length: a number is
refused for its size and never for its leading zeros.
-/

namespace PixelChip
namespace Text

variable {text core : List Char} {n limit seen : Nat}

/-! ## The blanks around a text -/

/-- The text that is left when the blanks at both ends of another are taken away. -/
def IsCore (text core : List Char) : Prop :=
  ∃ ahead behind, text = ahead ++ core ++ behind ∧ (∀ c ∈ ahead ++ behind, isBlank c) ∧
    (∀ c ∈ core.head?, ¬ isBlank c) ∧ ∀ c ∈ core.getLast?, ¬ isBlank c

lemma trim_eq_rdropWhile (text : List Char) :
    trim text = (text.dropWhile isBlank).rdropWhile isBlank :=
  rfl

lemma dropWhile_append_of_blank {ahead : List Char} (h : ∀ c ∈ ahead, isBlank c)
    (rest : List Char) : (ahead ++ rest).dropWhile isBlank = rest.dropWhile isBlank :=
  List.dropWhile_append_of_pos h

lemma dropWhile_of_head (h : ∀ c ∈ text.head?, ¬ isBlank c) : text.dropWhile isBlank = text := by
  cases text with
  | nil => rfl
  | cons c text => exact List.dropWhile_cons_of_neg (h c rfl)

lemma trim_append {ahead behind : List Char} (hblank : ∀ c ∈ ahead ++ behind, isBlank c)
    (hhead : ∀ c ∈ core.head?, ¬ isBlank c) (hlast : ∀ c ∈ core.getLast?, ¬ isBlank c) :
    trim (ahead ++ core ++ behind) = core := by
  obtain ⟨hahead, hbehind⟩ := List.forall_mem_append.1 hblank
  rw [trim, List.append_assoc, dropWhile_append_of_blank hahead]
  cases core with
  | nil =>
      rw [List.nil_append, List.dropWhile_eq_nil_iff.2 hbehind]
      rfl
  | cons c core =>
      have hbehind' : ∀ d ∈ behind.reverse, isBlank d := fun d hd =>
        hbehind d (List.mem_reverse.1 hd)
      have hlast' : ∀ d ∈ (c :: core).reverse.head?, ¬ isBlank d := by
        rwa [List.head?_reverse]
      have hhead' : ∀ d ∈ (c :: core ++ behind).head?, ¬ isBlank d := hhead
      rw [dropWhile_of_head hhead', List.reverse_append, dropWhile_append_of_blank hbehind',
        dropWhile_of_head hlast', List.reverse_reverse]

lemma isCore_trim (text : List Char) : IsCore text (trim text) := by
  refine ⟨text.takeWhile isBlank, (text.dropWhile isBlank).rtakeWhile isBlank, ?_, ?_, ?_, ?_⟩
  · rw [List.append_assoc, trim_eq_rdropWhile, List.rdropWhile_append_rtakeWhile,
      List.takeWhile_append_dropWhile]
  · rintro c hc
    obtain hc | hc := List.mem_append.1 hc
    · exact List.mem_takeWhile_imp hc
    · exact List.mem_rtakeWhile_imp hc
  · rintro c hc hblank
    obtain ⟨behind, hbehind⟩ := List.rdropWhile_prefix isBlank (l := text.dropWhile isBlank)
    have hkept : (text.dropWhile isBlank).head? = some c := by
      rw [← hbehind, List.head?_append, ← trim_eq_rdropWhile, Option.mem_def.1 hc,
        Option.some_or]
    have hnot := List.head?_dropWhile_not isBlank text
    rw [hkept] at hnot
    exact absurd hblank (by simpa using hnot)
  · rintro c hc
    obtain ⟨hne, rfl⟩ := List.mem_getLast?_eq_getLast hc
    exact List.rdropWhile_last_not isBlank _ hne

/-- **Trimming takes away the blanks at both ends and nothing else.** -/
theorem isCore_iff : IsCore text core ↔ core = trim text := by
  constructor
  · rintro ⟨ahead, behind, rfl, hblank, hhead, hlast⟩
    exact (trim_append hblank hhead hlast).symm
  · rintro rfl
    exact isCore_trim text

/-! ## Numbers -/

/-- The text is an optional plus sign and one or more ASCII digits that denote the number. -/
def IsDecimal (text : List Char) (n : Nat) : Prop :=
  ∃ digits : List Nat, digits ≠ [] ∧ (∀ d ∈ digits, d < 10) ∧ Numeral.value 10 digits = n ∧
    (text = digits.map Nat.digitChar ∨ text = '+' :: digits.map Nat.digitChar)

lemma digitChar_eq_ofNat : ∀ d < 10, Nat.digitChar d = Char.ofNat ('0'.toNat + d) := by
  decide

lemma digitChar_ne_plus : ∀ d < 10, Nat.digitChar d ≠ '+' := by
  decide

lemma digit?_digitChar : ∀ d < 10, digit? (Nat.digitChar d) = some d := by
  decide

lemma digit?_eq_some_iff {c : Char} {d : Nat} :
    digit? c = some d ↔ d < 10 ∧ c = Nat.digitChar d := by
  constructor
  · intro h
    rw [digit?] at h
    split_ifs at h with hc
    have hlow : '0'.toNat ≤ c.toNat := hc.1
    have hhigh : c.toNat ≤ '0'.toNat + 9 := hc.2
    obtain rfl := Option.some.inj h
    have hlt : c.toNat - '0'.toNat < 10 := by omega
    rw [digitChar_eq_ofNat _ hlt, Nat.add_sub_cancel' hlow, Char.ofNat_toNat]
    exact ⟨hlt, rfl⟩
  · rintro ⟨hd, rfl⟩
    exact digit?_digitChar d hd

lemma digits?_eq_some_iff : digits? seen text = some n ↔ ∃ digits : List Nat,
    (∀ d ∈ digits, d < 10) ∧ digits.foldl (fun n digit => 10 * n + digit) seen = n ∧
      text = digits.map Nat.digitChar := by
  induction text generalizing seen with
  | nil =>
      constructor
      · intro h
        exact ⟨[], by simp, Option.some.inj h, rfl⟩
      · rintro ⟨digits, -, rfl, htext⟩
        rw [List.map_eq_nil_iff.1 htext.symm]
        rfl
  | cons c text ih =>
      rw [digits?, Option.bind_eq_some_iff]
      constructor
      · rintro ⟨d, hd, hrest⟩
        obtain ⟨hlt, rfl⟩ := digit?_eq_some_iff.1 hd
        obtain ⟨digits, hdigits, hvalue, rfl⟩ := ih.1 hrest
        exact ⟨d :: digits, List.forall_mem_cons.2 ⟨hlt, hdigits⟩, hvalue, rfl⟩
      · rintro ⟨digits, hdigits, hvalue, htext⟩
        obtain _ | ⟨d, digits⟩ := digits
        · nomatch htext
        · obtain ⟨hlt, hdigits⟩ := List.forall_mem_cons.1 hdigits
          obtain ⟨rfl, rfl⟩ := List.cons.inj htext
          exact ⟨d, digit?_digitChar d hlt, ih.2 ⟨digits, hdigits, hvalue, rfl⟩⟩

/-- The text without a plus sign in front. -/
def dropPlus : List Char → List Char
  | '+' :: rest => rest
  | text => text

lemma dropPlus_cons {c : Char} (hc : c ≠ '+') (text : List Char) :
    dropPlus (c :: text) = c :: text := by
  rw [dropPlus]
  rintro rest ⟨⟩
  exact hc rfl

lemma eq_or_eq_plus (text : List Char) : text = dropPlus text ∨ text = '+' :: dropPlus text := by
  obtain _ | ⟨c, rest⟩ := text
  · exact .inl rfl
  · by_cases hc : c = '+'
    · exact .inr (by rw [hc]; rfl)
    · exact .inl (dropPlus_cons hc rest).symm

lemma unsigned?_eq (limit : Nat) (text : List Char) :
    unsigned? limit text =
      if dropPlus text = [] then none else (digits? 0 (dropPlus text)).filter (· < limit) := by
  obtain _ | ⟨c, rest⟩ := text
  · rfl
  · by_cases hc : c = '+'
    · rw [hc]
      cases rest <;> rfl
    · rw [dropPlus_cons hc, if_neg (List.cons_ne_nil c rest), unsigned?]
      · rintro rest ⟨⟩
        exact hc rfl
      · exact List.cons_ne_nil c rest

lemma isDecimal_iff :
    IsDecimal text n ↔ dropPlus text ≠ [] ∧ digits? 0 (dropPlus text) = some n := by
  constructor
  · rintro ⟨digits, hne, hdigits, hvalue, htext⟩
    have hdrop : dropPlus text = digits.map Nat.digitChar := by
      obtain rfl | rfl := htext
      · obtain ⟨d, digits, rfl⟩ := List.exists_cons_of_ne_nil hne
        exact dropPlus_cons (digitChar_ne_plus d (hdigits d List.mem_cons_self)) _
      · rfl
    rw [hdrop]
    exact ⟨mt List.map_eq_nil_iff.1 hne, digits?_eq_some_iff.2 ⟨digits, hdigits, hvalue, rfl⟩⟩
  · rintro ⟨hne, h⟩
    obtain ⟨digits, hdigits, hvalue, hdrop⟩ := digits?_eq_some_iff.1 h
    refine ⟨digits, ?_, hdigits, hvalue, hdrop ▸ eq_or_eq_plus text⟩
    rintro rfl
    exact hne hdrop

/-- **A number is read exactly from the texts that denote one below the limit.** -/
theorem unsigned?_eq_some_iff : unsigned? limit text = some n ↔ IsDecimal text n ∧ n < limit := by
  rw [unsigned?_eq, isDecimal_iff]
  split_ifs with hempty
  · simp [hempty]
  · simp [hempty, Option.filter_eq_some_iff]

end Text
end PixelChip
