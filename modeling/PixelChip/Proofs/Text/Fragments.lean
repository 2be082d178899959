import Mathlib.Data.List.Basic
import Mathlib.Tactic.Lemma

/-!
# Fragments of a text at their places

A text that is cut at some characters falls into fragments.  Here every fragment comes with all that
stands before it, so that it is known where it was.  `mem_fragments_iff` says which fragments there
are without mentioning the cutting: those that hold no character at which the text is cut and end on
both sides at such a character or at an end of the text.
-/

namespace PixelChip
namespace Text

/-- A part of a text, with what stands before it. -/
structure Fragment where
  before : List Char
  text : List Char
  deriving DecidableEq

/-- The fragments of a text in order.  `before` and then `begun` were read already, and the first
fragment starts with `begun`. -/
def fragmentsFrom (p : Char → Bool) (before begun : List Char) : List Char → List Fragment
  | [] => [⟨before, begun⟩]
  | c :: rest =>
    if p c then ⟨before, begun⟩ :: fragmentsFrom p (before ++ begun ++ [c]) [] rest
    else fragmentsFrom p before (begun ++ [c]) rest

/-- The fragments of a text in order. -/
def fragments (p : Char → Bool) (before text : List Char) : List Fragment :=
  fragmentsFrom p before [] text

variable {p : Char → Bool}

/-- Without their places, the fragments are what cutting a text gives. -/
lemma map_text_fragmentsFrom (before begun text : List Char) :
    (fragmentsFrom p before begun text).map Fragment.text =
      (text.splitOnP p).modifyHead (begun ++ ·) := by
  induction text generalizing before begun with
  | nil => simp [fragmentsFrom]
  | cons c rest ih =>
      rw [fragmentsFrom, List.splitOnP_cons_eq_if_modifyHead]
      by_cases hc : p c = true
      · rw [if_pos hc, if_pos hc, List.map_cons, ih, List.modifyHead_cons, List.append_nil]
        cases rest.splitOnP p <;> rfl
      · rw [if_neg hc, if_neg hc, ih, List.modifyHead_modifyHead]
        congr 1
        funext fragment
        simp

lemma map_text_fragments (before text : List Char) :
    (fragments p before text).map Fragment.text = text.splitOnP p := by
  rw [fragments, map_text_fragmentsFrom]
  cases text.splitOnP p <;> rfl

/-- A fragment stands at its place in a text that follows `before`: it holds no character at which the
text is cut, and on both sides there is such a character or the end of the text. -/
structure Fragment.CutOf (p : Char → Bool) (before text : List Char) (fragment : Fragment) :
    Prop where
  solid : ∀ c ∈ fragment.text, p c = false
  placed : ∃ ahead behind, fragment.before = before ++ ahead ∧
    text = ahead ++ fragment.text ++ behind ∧
    (∀ c ∈ ahead.getLast?, p c = true) ∧ ∀ c ∈ behind.head?, p c = true

/-- What is free of separators ends at the first of them, wherever it is known to end. -/
lemma append_inj_of_solid {first second rest rest' : List Char}
    (hfirst : ∀ c ∈ first, p c = false) (hsecond : ∀ c ∈ second, p c = false)
    (hrest : ∀ c ∈ rest.head?, p c = true) (hrest' : ∀ c ∈ rest'.head?, p c = true)
    (h : first ++ rest = second ++ rest') : first = second ∧ rest = rest' := by
  have hends : ∀ more tail : List Char, (∀ c ∈ more, p c = false) →
      (∀ c ∈ (more ++ tail).head?, p c = true) → more = [] := by
    intro more tail hmore htail
    cases more with
    | nil => rfl
    | cons c more =>
        have hfalse := hmore c List.mem_cons_self
        rw [htail c rfl] at hfalse
        exact absurd hfalse (by decide)
  obtain ⟨more, rfl, rfl⟩ | ⟨more, rfl, rfl⟩ := List.append_eq_append_iff.1 h
  · obtain rfl := hends more rest' (fun c hc => hsecond c (List.mem_append_right _ hc)) hrest
    exact ⟨(List.append_nil _).symm, rfl⟩
  · obtain rfl := hends more rest (fun c hc => hfirst c (List.mem_append_right _ hc)) hrest'
    exact ⟨List.append_nil _, rfl⟩

/-- A separator behind another is the last of all that stands before what follows. -/
lemma forall_mem_getLast?_iff {begun ahead : List Char} {c : Char} (hc : p c = true) :
    (∀ d ∈ (begun ++ c :: ahead).getLast?, p d = true) ↔ ∀ d ∈ ahead.getLast?, p d = true := by
  rw [List.getLast?_append, List.getLast?_cons]
  cases ahead.getLast? with
  | none => simpa using hc
  | some last => simp

/-- Where a text is known to start without separators and one is found, the first of them is not
behind it. -/
lemma exists_of_separator {begun rest ahead tail : List Char} {c last : Char}
    (hbegun : ∀ c ∈ begun, p c = false) (hlast : p last = true)
    (h : begun ++ c :: rest = ahead ++ last :: tail) :
    ∃ more, ahead ++ [last] = begun ++ c :: more ∧ rest = more ++ tail := by
  obtain ⟨more, rfl, hmore⟩ | ⟨more, rfl, hmore⟩ := List.append_eq_append_iff.1 h
  · obtain _ | ⟨d, more⟩ := more
    · obtain ⟨rfl, rfl⟩ := List.cons.inj hmore
      exact ⟨[], by simp, rfl⟩
    · obtain ⟨rfl, rfl⟩ := List.cons.inj hmore
      exact ⟨more ++ [last], by simp, by simp⟩
  · obtain _ | ⟨d, more⟩ := more
    · obtain ⟨rfl, rfl⟩ := List.cons.inj hmore
      exact ⟨[], by simp, rfl⟩
    · obtain ⟨rfl, -⟩ := List.cons.inj hmore
      have hfalse := hbegun last (by simp)
      rw [hlast] at hfalse
      exact absurd hfalse (by decide)

/-- What stands behind the first separator of a text is cut like a text of its own. -/
lemma cutOf_cons_iff {before begun rest : List Char} {c : Char} (hc : p c = true)
    (hbegun : ∀ c ∈ begun, p c = false) (fragment : Fragment) :
    fragment.CutOf p before (begun ++ c :: rest) ↔
      fragment = ⟨before, begun⟩ ∨ fragment.CutOf p (before ++ begun ++ [c]) rest := by
  have hhead : ∀ d ∈ (c :: rest).head?, p d = true := by
    intro d hd
    obtain rfl : c = d := Option.some.inj hd
    exact hc
  constructor
  · rintro ⟨hsolid, ahead, behind, hbefore, htext, hahead, hbehind⟩
    obtain rfl | ⟨ahead, last, rfl⟩ := List.eq_nil_or_concat' ahead
    · -- the fragment starts where the text does and so ends at the separator
      left
      obtain ⟨rfl, -⟩ := append_inj_of_solid hbegun hsolid hhead hbehind htext
      cases fragment
      simpa using hbefore
    · -- it starts behind a separator, of which the one given is the first
      right
      have hlast : p last = true := hahead last (by simp)
      have htext' : begun ++ c :: rest = ahead ++ last :: (fragment.text ++ behind) := by
        rw [htext]
        simp
      obtain ⟨more, hmore, rfl⟩ := exists_of_separator hbegun hlast htext'
      rw [hmore] at hbefore hahead
      refine ⟨hsolid, more, behind, ?_, by simp, (forall_mem_getLast?_iff hc).1 hahead, hbehind⟩
      rw [hbefore]
      simp
  · rintro (rfl | ⟨hsolid, ahead, behind, hbefore, rfl, hahead, hbehind⟩)
    · exact ⟨hbegun, [], c :: rest, (List.append_nil _).symm, rfl, by simp, hhead⟩
    · refine ⟨hsolid, begun ++ c :: ahead, behind, ?_, by simp,
        (forall_mem_getLast?_iff hc).2 hahead, hbehind⟩
      rw [hbefore]
      simp

/-- A text without separators is one fragment. -/
lemma cutOf_solid_iff {before begun : List Char} (hbegun : ∀ c ∈ begun, p c = false)
    (fragment : Fragment) : fragment.CutOf p before begun ↔ fragment = ⟨before, begun⟩ := by
  constructor
  · rintro ⟨-, ahead, behind, hbefore, rfl, hahead, hbehind⟩
    obtain rfl : ahead = [] := by
      rw [← List.getLast?_eq_none_iff, Option.eq_none_iff_forall_not_mem]
      intro c hc
      have hfalse := hbegun c (by simp [List.mem_of_getLast? hc])
      rw [hahead c hc] at hfalse
      exact absurd hfalse (by decide)
    obtain rfl : behind = [] := by
      rw [← List.head?_eq_none_iff, Option.eq_none_iff_forall_not_mem]
      intro c hc
      have hfalse := hbegun c (by simp [List.mem_of_head? hc])
      rw [hbehind c hc] at hfalse
      exact absurd hfalse (by decide)
    cases fragment
    simp_all
  · rintro rfl
    exact ⟨hbegun, [], [], (List.append_nil _).symm, by simp, by simp, by simp⟩

/-- **Which fragments there are**, with a beginning that was read already. -/
lemma mem_fragmentsFrom_iff {before begun : List Char} (hbegun : ∀ c ∈ begun, p c = false)
    (text : List Char) (fragment : Fragment) :
    fragment ∈ fragmentsFrom p before begun text ↔ fragment.CutOf p before (begun ++ text) := by
  induction text generalizing before begun with
  | nil => rw [fragmentsFrom, List.mem_singleton, List.append_nil, cutOf_solid_iff hbegun]
  | cons c rest ih =>
      rw [fragmentsFrom]
      by_cases hc : p c = true
      · rw [if_pos hc, List.mem_cons, ih (by simp), List.nil_append, cutOf_cons_iff hc hbegun]
      · have hbegun' : ∀ d ∈ begun ++ [c], p d = false := by
          intro d hd
          rcases List.mem_append.1 hd with hd | hd
          · exact hbegun d hd
          · rw [List.mem_singleton.1 hd]
            exact Bool.not_eq_true _ ▸ hc
        rw [if_neg hc, ih hbegun', List.append_assoc, List.singleton_append]

/-- **Which fragments there are.** -/
theorem mem_fragments_iff (before text : List Char) (fragment : Fragment) :
    fragment ∈ fragments p before text ↔ fragment.CutOf p before text :=
  mem_fragmentsFrom_iff (by simp) text fragment

/-! ## The order of the fragments -/

lemma Fragment.CutOf.le_length {before text : List Char} {fragment : Fragment}
    (h : fragment.CutOf p before text) : before.length ≤ fragment.before.length ∧
      fragment.before.length + fragment.text.length ≤ before.length + text.length := by
  obtain ⟨ahead, behind, hbefore, rfl, -, -⟩ := h.placed
  rw [hbefore]
  simp only [List.length_append]
  omega

lemma length_le_of_mem_fragmentsFrom {before begun text : List Char} {fragment : Fragment}
    (h : fragment ∈ fragmentsFrom p before begun text) :
    before.length ≤ fragment.before.length := by
  induction text generalizing before begun with
  | nil =>
      rw [fragmentsFrom, List.mem_singleton] at h
      exact h ▸ Nat.le_refl _
  | cons c rest ih =>
      rw [fragmentsFrom] at h
      split at h
      · rcases List.mem_cons.1 h with rfl | h
        · exact Nat.le_refl _
        · have hle := ih h
          simp only [List.length_append] at hle
          omega
      · exact ih h

/-- A fragment ends before the next begins. -/
lemma pairwise_fragmentsFrom (before begun text : List Char) :
    (fragmentsFrom p before begun text).Pairwise fun fragment fragment' =>
      fragment.before.length + fragment.text.length < fragment'.before.length := by
  induction text generalizing before begun with
  | nil => exact List.pairwise_singleton _ _
  | cons c rest ih =>
      rw [fragmentsFrom]
      split
      · refine List.pairwise_cons.2 ⟨fun fragment hfragment => ?_, ih _ _⟩
        have hle := length_le_of_mem_fragmentsFrom hfragment
        simp only [List.length_append, List.length_singleton] at hle
        show before.length + begun.length < fragment.before.length
        omega
      · exact ih _ _

lemma pairwise_fragments (before text : List Char) :
    (fragments p before text).Pairwise fun fragment fragment' =>
      fragment.before.length + fragment.text.length < fragment'.before.length :=
  pairwise_fragmentsFrom before [] text

end Text
end PixelChip
