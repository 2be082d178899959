import Mathlib.Data.List.Nodup
import Mathlib.Data.List.Perm.Basic
import PixelChip.Proofs.Command.Kind

/-!
# The order of the parsers

The nine parsers are tried in a fixed order, and the first success or the most specific failure is
the answer.  The order is of no consequence.  A parser that recognises something of a buffer is that
of the variant which the first byte starts, and no byte starts two (`Kind.eq_of_mem_firsts`), so that
the others never have a say.
-/

namespace PixelChip
namespace Command

/-- A parser recognises a buffer if it succeeds, or if its failure is more specific than that nothing
matches. -/
def recognises (src : List UInt8) (parser : Parser) : Bool :=
  match parser src with
  | .ok _ => true
  | .error cause => 0 < cause.specificity

namespace Kind

/-- What the parser of a variant recognises starts like the variant. -/
lemma mem_firsts_of_recognises {kind : Kind} {first : UInt8} {rest : List UInt8}
    (h : recognises (first :: rest) kind.parser = true) : first ∈ kind.firsts := by
  by_contra hfirst
  obtain ⟨cause, hcause, hzero⟩ := parser_of_not_mem hfirst rest
  simp [recognises, hcause, hzero] at h

/-- At most one of the variants starts with a byte. -/
lemma countP_mem_firsts_le_one (first : UInt8) :
    order.countP (fun kind => first ∈ kind.firsts) ≤ 1 := by
  cases hstart : ofFirst? first with
  | none =>
      have hnone : order.countP (fun kind => first ∈ kind.firsts) = 0 :=
        List.countP_eq_zero.2 (List.find?_eq_none.1 hstart)
      rw [hnone]
      exact Nat.zero_le 1
  | some kind =>
      -- Counting the variants that start with the byte is counting this one.
      have hnodup : order.Nodup := by decide
      refine Nat.le_trans (List.countP_mono_left fun kind' _ hkind' => ?_)
        (List.nodup_iff_count_le_one.1 hnodup kind)
      exact beq_iff_eq.2 (eq_of_mem_firsts (of_decide_eq_true hkind') (ofFirst?_eq_some_iff.1 hstart))

/-- Whichever variant is looked at first, the one that a byte starts is found. -/
lemma find?_eq_ofFirst? {kinds : List Kind} (hall : ∀ kind : Kind, kind ∈ kinds) (first : UInt8) :
    kinds.find? (fun kind => first ∈ kind.firsts) = ofFirst? first := by
  cases hfind : kinds.find? (fun kind => first ∈ kind.firsts) with
  | some kind => exact (ofFirst?_eq_some_iff.2 (by simpa using List.find?_some hfind)).symm
  | none =>
      refine (List.find?_eq_none.2 fun kind _ => ?_).symm
      exact List.find?_eq_none.1 hfind kind (hall kind)

end Kind

/-- The parsers in another order are those of the variants in another order. -/
lemma exists_kinds_of_perm {others : List Parser} (h : others.Perm parsers) :
    ∃ kinds : List Kind, others = kinds.map Kind.parser ∧ ∀ kind : Kind, kind ∈ kinds := by
  have hparsers : List.Forall₂ (fun parser kind => parser = Kind.parser kind) parsers Kind.order := by
    rw [Kind.parsers_eq, List.forall₂_map_left_iff]
    exact List.forall₂_same.2 fun kind _ => rfl
  obtain ⟨kinds, hothers, hkinds⟩ := List.perm_comp_forall₂ h hparsers
  refine ⟨kinds, ?_, fun kind => hkinds.mem_iff.2 (Kind.mem_order kind)⟩
  rwa [← List.forall₂_eq_eq_eq, List.forall₂_map_right_iff]

/-- At most one of the parsers recognises a buffer. -/
lemma countP_recognises_le_one (src : List UInt8) : parsers.countP (recognises src) ≤ 1 := by
  obtain _ | ⟨first, rest⟩ := src
  · decide
  · rw [Kind.parsers_eq, List.countP_map]
    refine Nat.le_trans (List.countP_mono_left fun kind _ h => ?_)
      (Kind.countP_mem_firsts_le_one first)
    exact decide_eq_true (Kind.mem_firsts_of_recognises h)

/-- Nothing is recognised where there is nothing. -/
lemma firstSuccess_nil (kinds : List Kind) :
    firstSuccess [] .identifierMismatch (kinds.map Kind.parser) = .error .identifierMismatch := by
  apply firstSuccess_eq_error
  intro parser hparser
  obtain ⟨kind, -, rfl⟩ := List.mem_map.1 hparser
  cases kind <;> exact ⟨.identifierMismatch, rfl, Nat.le_refl _⟩

/-- **The order in which the parsers are tried does not matter.**  The nine in any other order give
the same command and length or the same failure.  At most one of them succeeds or fails with more to
say than that nothing matches. -/
theorem parse_order_does_not_matter (src : List UInt8) {others : List Parser}
    (h : others.Perm parsers) :
    firstSuccess src .identifierMismatch others = parse src ∧
      parsers.countP (recognises src) ≤ 1 := by
  refine ⟨?_, countP_recognises_le_one src⟩
  obtain ⟨kinds, rfl, hall⟩ := exists_kinds_of_perm h
  obtain _ | ⟨first, rest⟩ := src
  · rw [firstSuccess_nil, parse_nil]
  · rw [firstSuccess_parsers, Kind.find?_eq_ofFirst? hall, parse_cons]

/-- The parsers from the last to the first, on an extended write of which the end is missing. -/
theorem parse_order_does_not_matter_reversed :
    parsers.reverse.Perm parsers ∧
      firstSuccess [0x66, 0x66, 0x6C, 0x6A, 0x6A, 0x6A, 0x6A, 0x6A] .identifierMismatch
        parsers.reverse = .error (.truncated 24 8) := by
  have hperm : parsers.reverse.Perm parsers := List.reverse_perm parsers
  obtain ⟨hsame, -⟩ :=
    parse_order_does_not_matter [0x66, 0x66, 0x6C, 0x6A, 0x6A, 0x6A, 0x6A, 0x6A] hperm
  refine ⟨hperm, hsame.trans ?_⟩
  decide

end Command
end PixelChip
