import Mathlib.Data.List.DropRight
import PixelChip.Dissect.HexDump
import PixelChip.Proofs.Text.Fragments

/-!
# The tokens of a hex dump

The tokens of a text are given here by where they stand: between separators, behind no `#` of their
line, and with digits behind the marker of hexadecimal numbers.  `mem_tokensIn_iff` says so without
mentioning how the text is cut, and `pairwise_tokensIn` that they are listed in their order.
-/

namespace PixelChip
namespace HexDump

open Text

/-- The line at the end of a text. -/
def lastLine (text : List Char) : List Char :=
  text.rtakeWhile (· ≠ '\n')

/-- Text before a line and a beginning of that line. -/
lemma lastLine_append {lines rest : List Char} (hlines : ∀ c ∈ lines.getLast?, c = '\n')
    (hrest : '\n' ∉ rest) : lastLine (lines ++ rest) = rest := by
  induction rest using List.reverseRecOn with
  | nil =>
      obtain rfl | ⟨lines, last, rfl⟩ := List.eq_nil_or_concat' lines
      · rfl
      · obtain rfl := hlines last (by simp)
        rw [List.append_nil, lastLine, List.rtakeWhile_concat_neg _ _ _ (by decide)]
  | append_singleton rest c ih =>
      have hne : c ≠ '\n' := fun h => hrest (by simp [h])
      have hrest' : '\n' ∉ rest := fun h => hrest (List.mem_append_left _ h)
      rw [lastLine, ← List.append_assoc, List.rtakeWhile_concat_pos _ _ _ (by simpa using hne)]
      exact congrArg (· ++ [c]) (ih hrest')

/-- A text is made of lines and the one at its end. -/
lemma exists_lastLine (text : List Char) : ∃ lines, text = lines ++ lastLine text ∧
    (∀ c ∈ lines.getLast?, c = '\n') ∧ '\n' ∉ lastLine text := by
  induction text using List.reverseRecOn with
  | nil => exact ⟨[], rfl, by simp, by simp [lastLine]⟩
  | append_singleton text c ih =>
      by_cases hc : c = '\n'
      · refine ⟨text ++ [c], ?_, by simpa using hc, ?_⟩
        all_goals rw [lastLine, List.rtakeWhile_concat_neg _ _ _ (by simpa using hc)]; simp
      · obtain ⟨lines, htext, hlines, hline⟩ := ih
        have hlast : lastLine (text ++ [c]) = lastLine text ++ [c] := by
          rw [lastLine, List.rtakeWhile_concat_pos _ _ _ (by simpa using hc)]
          rfl
        rw [hlast]
        refine ⟨lines, ?_, hlines, by simp [hline, Ne.symm hc]⟩
        rw [← List.append_assoc, ← htext]

/-- **Where tokens stand**: between separators or ends of the text, where a `#` ends a token too and
none comes before it on its line.  A token without digits does not count. -/
structure StandsIn (text : List Char) (token : Fragment) : Prop where
  digits_ne_nil : digitsOf token.text ≠ []
  solid : ∀ c ∈ token.text, isSeparator c = false ∧ c ≠ '#'
  uncommented : '#' ∉ lastLine token.before
  separated : ∀ c ∈ token.before.getLast?, isSeparator c = true
  ends : ∃ behind, text = token.before ++ token.text ++ behind ∧
    ∀ c ∈ behind.head?, isSeparator c = true ∨ c = '#'

/-- The tokens of a line, empty ones included. -/
def tokensOfLine (line : Fragment) : List Fragment :=
  fragments isSeparator line.before (line.text.takeWhile (· ≠ '#'))

/-- The lines of a text. -/
def linesOf (text : List Char) : List Fragment :=
  fragments (· = '\n') [] text

/-- The tokens of a text, in order. -/
def tokensIn (text : List Char) : List Fragment :=
  ((linesOf text).flatMap tokensOfLine).filter (digitsOf ·.text ≠ [])

lemma isSeparator_newline : isSeparator '\n' = true := by
  decide

lemma eq_of_mem_head?_dropWhile {c d : Char} {text : List Char}
    (h : d ∈ (text.dropWhile (· ≠ c)).head?) : d = c := by
  have hnot := List.head?_dropWhile_not (· ≠ c) text
  rw [Option.mem_def.1 h] at hnot
  simpa using hnot

/-- Behind a token comes the rest of its line, or else a comment, or else the next line. -/
lemma isSeparator_or_eq_of_mem_head? {behind line below : List Char}
    (hbehind : ∀ c ∈ behind.head?, isSeparator c = true) (hbelow : ∀ c ∈ below.head?, c = '\n') :
    ∀ c ∈ (behind ++ line.dropWhile (· ≠ '#') ++ below).head?,
      isSeparator c = true ∨ c = '#' := by
  intro c hc
  rw [List.append_assoc, List.head?_append] at hc
  cases hhead : behind.head? with
  | some d =>
      rw [hhead] at hc
      exact .inl (hbehind c (hhead ▸ hc))
  | none =>
      rw [hhead, Option.none_or, List.head?_append] at hc
      cases hrest : (line.dropWhile (· ≠ '#')).head? with
      | some d =>
          rw [hrest] at hc
          obtain rfl : d = c := Option.some.inj hc
          exact .inr (eq_of_mem_head?_dropWhile hrest)
      | none =>
          rw [hrest, Option.none_or] at hc
          rw [hbelow c hc]
          exact .inl isSeparator_newline

/-- A token cut out of a line stands in the text. -/
lemma standsIn_of_cutOf {text : List Char} {line token : Fragment}
    (hline : line.CutOf (· = '\n') [] text)
    (htoken : token.CutOf isSeparator line.before (line.text.takeWhile (· ≠ '#')))
    (hdigits : digitsOf token.text ≠ []) : StandsIn text token := by
  obtain ⟨hbreaks, lines, below, hlines, rfl, hlast, hbelow⟩ := hline
  obtain ⟨hsolid, ahead, behind, hbefore, hcut, hahead, hbehind⟩ := htoken
  have hnotcomment : '#' ∉ line.text.takeWhile (· ≠ '#') := fun h => by
    simpa using List.mem_takeWhile_imp h
  rw [List.nil_append] at hlines
  have hwhole : line.text =
      ahead ++ token.text ++ (behind ++ line.text.dropWhile (· ≠ '#')) := by
    rw [← List.append_assoc, ← hcut, List.takeWhile_append_dropWhile]
  have hmem : ∀ c ∈ ahead ++ token.text, c ∈ line.text := fun c hc => by
    rw [hwhole]
    exact List.mem_append_left _ hc
  refine ⟨hdigits, ?_, ?_, ?_, behind ++ line.text.dropWhile (· ≠ '#') ++ below, ?_, ?_⟩
  · refine fun c hc => ⟨hsolid c hc, ?_⟩
    rintro rfl
    exact hnotcomment (hcut ▸ by simp [hc])
  · have hahead' : '\n' ∉ ahead := fun h => by
      simpa using hbreaks '\n' (hmem '\n' (List.mem_append_left _ h))
    rw [hbefore, hlines, lastLine_append (by simpa using hlast) hahead']
    exact fun h => hnotcomment (hcut ▸ by simp [h])
  · rw [hbefore, List.getLast?_append]
    cases hend : ahead.getLast? with
    | some c => simpa [hend] using hahead
    | none =>
        intro c hc
        obtain rfl : c = '\n' := by simpa using hlast c (by simpa [hlines] using hc)
        exact isSeparator_newline
  · rw [hbefore, hlines]
    conv_lhs => rw [hwhole]
    simp
  · exact isSeparator_or_eq_of_mem_head? hbehind (by simpa using hbelow)

/-- What ends a token is a separator, if it still stands on the line and in front of a comment. -/
lemma isSeparator_of_mem_head? {behind : List Char}
    (h : ∀ c ∈ behind.head?, isSeparator c = true ∨ c = '#') :
    ∀ c ∈ ((behind.takeWhile (· ≠ '\n')).takeWhile (· ≠ '#')).head?, isSeparator c = true := by
  intro c hc
  cases behind with
  | nil => simp at hc
  | cons d behind =>
      by_cases hd : d = '\n'
      · simp [hd] at hc
      · by_cases hd' : d = '#'
        · simp [hd'] at hc
        · obtain rfl : d = c := by simpa [hd, hd'] using hc
          exact (h d rfl).resolve_right hd'

/-- The line of a token: what stands before the token on its line, the token, and what is left of
the line. -/
def lineOf (lines : List Char) (token : Fragment) (behind : List Char) : Fragment :=
  ⟨lines, lastLine token.before ++ token.text ++ behind.takeWhile (· ≠ '\n')⟩

lemma cutOf_lineOf {lines behind : List Char} {token : Fragment}
    (hbefore : token.before = lines ++ lastLine token.before)
    (hlines : ∀ c ∈ lines.getLast?, c = '\n') (hbreaks : '\n' ∉ lastLine token.before)
    (hsolid : '\n' ∉ token.text) :
    (lineOf lines token behind).CutOf (· = '\n') [] (token.before ++ token.text ++ behind) := by
  refine ⟨?_, lines, behind.dropWhile (· ≠ '\n'), rfl, ?_, by simpa using hlines, ?_⟩
  · intro c hc
    rw [decide_eq_false_iff_not]
    rintro rfl
    obtain hc | hc := List.mem_append.1 hc
    · exact (List.mem_append.1 hc).elim hbreaks hsolid
    · simpa using List.mem_takeWhile_imp hc
  · conv_lhs => rw [hbefore]
    simp [lineOf, List.append_assoc]
  · intro c hc
    rw [decide_eq_true_eq]
    exact eq_of_mem_head?_dropWhile hc

/-- A token that stands in a text is cut out of one of its lines. -/
lemma exists_line_of_standsIn {text : List Char} {token : Fragment} (h : StandsIn text token) :
    ∃ line : Fragment, line.CutOf (· = '\n') [] text ∧
      token.CutOf isSeparator line.before (line.text.takeWhile (· ≠ '#')) := by
  obtain ⟨hdigits, hsolid, huncommented, hseparated, behind, rfl, hbehind⟩ := h
  obtain ⟨lines, hbefore, hlines, hbreaks⟩ := exists_lastLine token.before
  have hbreaks' : '\n' ∉ token.text := fun h => by
    simpa [isSeparator_newline] using (hsolid '\n' h).1
  have hcomment' : '#' ∉ token.text := fun h => (hsolid '#' h).2 rfl
  have hcut : (lineOf lines token behind).text.takeWhile (· ≠ '#') =
      lastLine token.before ++ token.text ++
        (behind.takeWhile (· ≠ '\n')).takeWhile (· ≠ '#') := by
    refine List.takeWhile_append_of_pos fun c hc => ?_
    rw [decide_eq_true_eq]
    rintro rfl
    exact (List.mem_append.1 hc).elim huncommented hcomment'
  refine ⟨lineOf lines token behind, cutOf_lineOf hbefore hlines hbreaks hbreaks',
    fun c hc => (hsolid c hc).1, lastLine token.before, _, hbefore, hcut, ?_,
    isSeparator_of_mem_head? hbehind⟩
  intro c hc
  refine hseparated c ?_
  rw [hbefore, List.getLast?_append, Option.mem_def.1 hc]
  rfl

/-- **Which tokens there are.** -/
theorem mem_tokensIn_iff (text : List Char) (token : Fragment) :
    token ∈ tokensIn text ↔ StandsIn text token := by
  rw [tokensIn, List.mem_filter, List.mem_flatMap, decide_eq_true_eq]
  constructor
  · rintro ⟨⟨line, hline, htoken⟩, hdigits⟩
    exact standsIn_of_cutOf ((mem_fragments_iff _ _ _).1 hline) ((mem_fragments_iff _ _ _).1 htoken)
      hdigits
  · intro h
    obtain ⟨line, hline, htoken⟩ := exists_line_of_standsIn h
    exact ⟨⟨line, (mem_fragments_iff _ _ _).2 hline, (mem_fragments_iff _ _ _).2 htoken⟩,
      h.digits_ne_nil⟩

/-- The tokens are listed in the order in which they stand. -/
lemma pairwise_tokensIn (text : List Char) :
    (tokensIn text).Pairwise fun token token' =>
      token.before.length < token'.before.length := by
  refine List.Pairwise.filter _ (List.pairwise_flatMap.2 ⟨fun line _ => ?_, ?_⟩)
  · exact (pairwise_fragments _ _).imp fun h => by omega
  · refine (pairwise_fragments _ _).imp fun {line line'} hlines token htoken token' htoken' => ?_
    have hle := ((mem_fragments_iff _ _ _).1 htoken).le_length
    have hle' := ((mem_fragments_iff _ _ _).1 htoken').le_length
    have hcut := (List.takeWhile_sublist (l := line.text) (· ≠ '#')).length_le
    omega

end HexDump
end PixelChip
