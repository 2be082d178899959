import Mathlib.Data.List.Infix
import PixelChip.Proofs.Command.Grammar
import PixelChip.Proofs.Link.Streaming

/-!
# Beginnings that can be completed

The parser answers that bytes are missing when the identifier matches and the buffer is too short,
and a stream decoder waits on that answer.  All bytes of a layout are asked for before the first of
its symbols is looked at, so the answer is the same where the payload that has arrived is corrupt,
and no bytes that follow make a command of it.

`completable_iff` draws the line: what can still become a command is what the parser waits on, less
the beginnings with a corrupt payload.  A stream decoder keeps both kinds, and what stands behind
the second kind waits with it.
-/

namespace PixelChip

/-- Symbols are the symbols of some values. -/
lemma Symbol.exists_spell {bytes : List UInt8}
    (h : ∀ byte ∈ bytes, Symbol.isSymbol byte = true) : ∃ values, bytes = Symbol.spell values := by
  induction bytes with
  | nil => exact ⟨[], rfl⟩
  | cons byte bytes ih =>
      obtain ⟨values, rfl⟩ := ih fun b hb => h b (List.mem_cons_of_mem byte hb)
      obtain ⟨value, hvalue⟩ := Option.isSome_iff_exists.1 (h byte List.mem_cons_self)
      obtain rfl := Symbol.decode?_eq_some_iff.1 hvalue
      exact ⟨value :: values, rfl⟩

lemma Symbol.spell_append (values values' : List (Fin 32)) :
    Symbol.spell (values ++ values') = Symbol.spell values ++ Symbol.spell values' :=
  List.map_append

namespace Command

/-- The bytes are no command, and become one when the right bytes follow. -/
def Completable (src : List UInt8) : Prop :=
  (∀ parsed, parse src ≠ .ok parsed) ∧ ∃ later parsed, parse (src ++ later) = .ok parsed

/-! ## What starts like a command and goes on with symbols

No command has more than 22 bytes of payload, so that an identifier and as many symbols hold one,
whatever the layout is that the first of them choose. -/

/-- Values with enough symbols behind the identifier start with a form. -/
lemma Kind.exists_written {kind : Kind} {first second : UInt8} {values : List (Fin 32)}
    (hfirst : first ∈ kind.firsts)
    (hsecond : kind.second? = some second ∨ kind.second? = none ∧ Symbol.isSymbol second = true)
    (hvalues : 22 ≤ values.length) :
    ∃ bytes behind command, first :: second :: Symbol.spell values = bytes ++ behind ∧
      Written bytes command := by
  obtain ⟨d2, d3, d4, d5, d6, d7, tail, rfl⟩ : ∃ d2 d3 d4 d5 d6 d7 tail,
      values = d2 :: d3 :: d4 :: d5 :: d6 :: d7 :: tail := by
    match values, hvalues with
    | d2 :: d3 :: d4 :: d5 :: d6 :: d7 :: tail, _ => exact ⟨d2, d3, d4, d5, d6, d7, tail, rfl⟩
  have htail : 16 ≤ tail.length := by simpa using hvalues
  cases kind with
  | trigger =>
      obtain ⟨place, rfl⟩ := List.get_of_mem (show first ∈ Trigger.patterns from hfirst)
      rcases hsecond with hsecond | ⟨-, hsymbol⟩
      · exact absurd hsecond (by simp [Kind.second?])
      · obtain ⟨tag, htag⟩ := Option.isSome_iff_exists.1 hsymbol
        obtain rfl := Symbol.decode?_eq_some_iff.1 htag
        exact ⟨_, _, _, rfl, .trigger place tag⟩
  | write =>
      obtain rfl := List.mem_singleton.1 hfirst
      obtain rfl := Kind.eq_of_second? rfl hsecond
      by_cases heven : d2.val % 2 = 0
      · exact ⟨_, Symbol.spell tail, _, rfl, .single d2 d3 d4 d5 d6 d7 heven⟩
      · refine ⟨_, Symbol.spell (tail.drop 16), _, ?_,
          .six d2 d3 d4 d5 d6 d7 (tail.take 16) heven (List.length_take_of_le htail)⟩
        simp only [Symbol.spell_cons, List.cons_append]
        rw [← Symbol.spell_append, List.take_append_drop]
  | ecr | bcr | noop | sync =>
      obtain rfl := List.mem_singleton.1 hfirst
      obtain rfl := Kind.eq_of_second? rfl hsecond
      exact ⟨[_, _], _, _, rfl, by constructor⟩
  | pulse =>
      obtain rfl := List.mem_singleton.1 hfirst
      obtain rfl := Kind.eq_of_second? rfl hsecond
      exact ⟨_, _, _, rfl, .pulse d2 d3⟩
  | cal =>
      obtain rfl := List.mem_singleton.1 hfirst
      obtain rfl := Kind.eq_of_second? rfl hsecond
      exact ⟨_, _, _, rfl, .cal d2 d3 d4 d5⟩
  | read =>
      obtain rfl := List.mem_singleton.1 hfirst
      obtain rfl := Kind.eq_of_second? rfl hsecond
      exact ⟨_, _, _, rfl, .read d2 d3 d4 d5⟩

/-- The same for a buffer: what starts like a command and goes on with enough symbols parses. -/
lemma exists_parse {kind : Kind} {first second : UInt8} {payload : List UInt8}
    (hfirst : first ∈ kind.firsts)
    (hsecond : kind.second? = some second ∨ kind.second? = none ∧ Symbol.isSymbol second = true)
    (hpayload : ∀ byte ∈ payload, Symbol.isSymbol byte = true) (hlength : 22 ≤ payload.length) :
    ∃ parsed, parse (first :: second :: payload) = .ok parsed := by
  obtain ⟨values, rfl⟩ := Symbol.exists_spell hpayload
  rw [Symbol.length_spell] at hlength
  obtain ⟨bytes, behind, command, hsplit, hwritten⟩ :=
    Kind.exists_written hfirst hsecond hlength
  exact ⟨_, parse_eq_ok_iff.2 ⟨bytes, behind, hsplit, hwritten, rfl⟩⟩

/-! ## What the parser waits on -/

/-- A variant waits only on what may be its beginning: if a second byte is there, it is that of the
identifier.  A trigger does not wait then, since it has all its bytes. -/
lemma Kind.second?_of_isPending {kind : Kind} {first second : UInt8} {rest : List UInt8}
    (hpending : isPending (kind.verdict first (second :: rest)) = true) :
    kind.second? = some second := by
  rw [verdict] at hpending
  by_cases hadmits : (second :: rest).head?.all kind.admits = true
  · rw [if_pos hadmits] at hpending
    cases hsecond : kind.second? with
    | some byte =>
        have hbyte : second = byte := by simpa [admits, hsecond] using hadmits
        rw [hbyte]
    | none =>
        obtain rfl : kind = .trigger := by
          cases kind with
          | trigger => rfl
          | _ => exact absurd hsecond (by simp [second?])
        have hwithin : (reader first .trigger).Within 2 0 := by
          simp [reader, payload, length, Reader.Within]
        have hshort := Reader.length_lt_of_run hwithin (Nat.zero_le _) hpending
        simp only [List.length_cons] at hshort
        omega
  · rw [if_neg hadmits] at hpending
    exact absurd hpending (by decide)

/-- Symbols complete what the parser waits on, unless the payload is corrupt already. -/
lemma exists_completion {src : List UInt8} (hpending : isPending (parse src) = true)
    (hpayload : ∀ byte ∈ src.drop 2, Symbol.isSymbol byte = true) :
    ∃ later parsed, parse (src ++ later) = .ok parsed := by
  have hzeros : ∀ byte ∈ Symbol.spell (List.replicate 22 0), Symbol.isSymbol byte = true :=
    fun byte => Symbol.isSymbol_of_mem_spell
  rcases src with _ | ⟨first, rest⟩
  · exact absurd hpending (by decide)
  rw [parse_cons] at hpending
  cases hkind : Kind.ofFirst? first with
  | none => exact absurd hpending (by simp [hkind, ParseError.isTruncated])
  | some kind =>
      simp only [hkind] at hpending
      have hfirst := Kind.ofFirst?_eq_some_iff.1 hkind
      rcases rest with _ | ⟨second, payload⟩
      · -- Nothing but the first byte is there.
        obtain ⟨second, hsecond⟩ : ∃ second, kind.second? = some second ∨
            kind.second? = none ∧ Symbol.isSymbol second = true := by
          cases kind.second? with
          | some second => exact ⟨second, .inl rfl⟩
          | none => exact ⟨Symbol.encode 0, .inr ⟨rfl, Symbol.isSymbol_encode 0⟩⟩
        exact ⟨second :: Symbol.spell (List.replicate 22 0),
          exists_parse hfirst hsecond hzeros (by simp)⟩
      · refine ⟨Symbol.spell (List.replicate 22 0),
          exists_parse hfirst (.inl (Kind.second?_of_isPending hpending)) ?_ (by simp)⟩
        intro byte hbyte
        rcases List.mem_append.1 hbyte with hbyte | hbyte
        · exact hpayload byte hbyte
        · exact hzeros byte hbyte

/-- **What can still become a command** is what the parser waits on, unless its payload is corrupt
already. -/
lemma completable_iff {src : List UInt8} (hsrc : src ≠ []) :
    Completable src ↔
      isPending (parse src) = true ∧ ∀ byte ∈ src.drop 2, Symbol.isSymbol byte = true := by
  constructor
  · rintro ⟨hnone, later, ⟨command, n⟩, hlater⟩
    have hpending : isPending (parse src) = true := by
      by_contra hfinal
      rw [parse_append hsrc (by simpa using hfinal)] at hlater
      exact hnone _ hlater
    refine ⟨hpending, ?_⟩
    obtain ⟨bytes, behind, hsplit, hwritten, -⟩ := parse_eq_ok_iff.1 hlater
    -- The form that is read in the end does not fit into what is there.
    obtain ⟨more, rfl⟩ | ⟨more, rfl⟩ : src <+: bytes ∨ bytes <+: src :=
      List.prefix_or_prefix_of_prefix ⟨later, hsplit⟩ ⟨behind, rfl⟩
    · obtain ⟨kind, first, second, payload, hshape, -, -, hsymbols⟩ := hwritten.shape
      have hpayload : src.drop 2 <+: payload := by
        have hprefix : src <+: first :: second :: payload := ⟨more, hshape⟩
        exact List.IsPrefix.drop hprefix 2
      exact fun byte hbyte => hsymbols byte (hpayload.subset hbyte)
    · exact absurd (parse_eq_ok_iff.2 ⟨bytes, more, rfl, hwritten, rfl⟩) (hnone _)
  · rintro ⟨hpending, hpayload⟩
    refine ⟨fun parsed hparsed => ?_, exists_completion hpending hpayload⟩
    rw [hparsed] at hpending
    exact absurd hpending (by simp)

end Command

/-! ## What a stream decoder keeps -/

namespace StreamDecoder

open Command

/-- After a call that yields nothing, nothing is left but what the parser waits on. -/
lemma kept_of_next_none {decoder rest : StreamDecoder Command}
    (h : decoder.next = (none, rest)) :
    rest.buffer = [] ∨ isPending (parse rest.buffer) = true := by
  have hkept := (drain_agrees (α := Command) decoder.skipped decoder.buffer).kept
  rw [drain_of_next_none h] at hkept
  exact hkept

/-- **What is waited on can become a command unless its payload is corrupt.**  The parser waits on
all that can become a command, and besides on beginnings with a byte behind the identifier that is
no symbol.  These are all that a stream decoder ever keeps in vain. -/
theorem waits_unless_corrupt (src : List UInt8) (hsrc : src ≠ []) :
    (Completable src ↔
      isPending (parse src) = true ∧ ∀ byte ∈ src.drop 2, Symbol.isSymbol byte = true) ∧
    ∀ decoder rest : StreamDecoder Command, decoder.next = (none, rest) →
      rest.buffer = [] ∨
        isPending (parse rest.buffer) = true ∧
          (Completable rest.buffer ↔
            ∀ byte ∈ rest.buffer.drop 2, Symbol.isSymbol byte = true) := by
  refine ⟨completable_iff hsrc, fun decoder rest hnext => ?_⟩
  rcases kept_of_next_none hnext with hempty | hpending
  · exact .inl hempty
  · have hbuffer : rest.buffer ≠ [] := by
      intro hempty
      rw [hempty] at hpending
      exact absurd hpending (by decide)
    refine .inr ⟨hpending, ?_⟩
    rw [completable_iff hbuffer]
    exact and_iff_right hpending

/-- A pulse of which the last byte is missing, kept by a decoder. -/
theorem waits_unless_corrupt_pulse :
    ([0x5C, 0x5C, 0x6A] : List UInt8) ≠ [] ∧
      Completable [0x5C, 0x5C, 0x6A] ∧
      next { skipped := 0, buffer := [0x5C, 0x5C, 0x6A] } =
        ((none : Option Command), { skipped := 0, buffer := [0x5C, 0x5C, 0x6A] }) := by
  have hsrc : ([0x5C, 0x5C, 0x6A] : List UInt8) ≠ [] := by decide
  obtain ⟨hcompletable, -⟩ := waits_unless_corrupt [0x5C, 0x5C, 0x6A] hsrc
  have hpending : isPending (parse [0x5C, 0x5C, 0x6A]) = true := by decide
  have hpayload : ∀ byte ∈ ([0x5C, 0x5C, 0x6A] : List UInt8).drop 2,
      Symbol.isSymbol byte = true := by
    intro byte hbyte
    obtain rfl := List.mem_singleton.1 hbyte
    decide
  exact ⟨hsrc, hcompletable.2 ⟨hpending, hpayload⟩, next_of_isPending hsrc hpending⟩

/-- **Valid commands wait behind a corrupt beginning, and are lost with it.**  The parser waits on
three bytes that no bytes complete to a command.  Where an extended write is corrupt in its ninth
byte, a decoder keeps the counter reset behind it and discards both at the end of the stream, while
a channel skips the write and finds the reset. -/
theorem holds_back_commands :
    ¬(∀ src : List UInt8, src ≠ [] → (isPending (parse src) = true ↔ Completable src)) ∧
    ∃ src : List UInt8, src = [0x66, 0x66, 0x6C, 0x6A, 0x6A, 0x6A, 0x6A, 0x6A, 0x00, 0x59, 0x59] ∧
      ¬Completable src ∧
      (empty.feed src).drain = (([] : List Command), { skipped := 0, buffer := src }) ∧
      finish { skipped := 0, buffer := src } =
        ((none : Option Command), { skipped := 11, buffer := [] }) ∧
      (Channel.ofBytes src).items = #[Command.bcr] := by
  refine ⟨fun hiff => ?_, _, rfl, ?_, ?_, ?_, ?_⟩
  · have hsrc : ([0x5C, 0x5C, 0x00] : List UInt8) ≠ [] := by decide
    have hcompletable := (hiff [0x5C, 0x5C, 0x00] hsrc).1 (by decide)
    have hsymbol := ((completable_iff hsrc).1 hcompletable).2 0x00 (by simp)
    exact absurd hsymbol (by decide)
  · intro hcompletable
    have hsymbol := ((completable_iff (by decide)).1 hcompletable).2 0x00 (by simp)
    exact absurd hsymbol (by decide)
  · exact drain_of_next_none (next_of_isPending (by decide) (by decide))
  · rw [finish, next_of_isPending (by decide) (by decide)]
    rfl
  · decide

end StreamDecoder
end PixelChip
