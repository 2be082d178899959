import PixelChip.Proofs.Command.Reader

/-!
# Which variant a buffer belongs to

The first byte of a buffer decides which of the nine parsers can recognise it: no byte starts two
variants.  The others fail without having recognised anything, so their failures never win, and
`parse_cons` gives the answer of all nine in a closed form: the variant of the first byte checks
the second, then asks for its length, then reads its payload.
-/

namespace PixelChip

/-- The place of a byte among the trigger patterns, 0 if it is none of them. -/
def Trigger.place (byte : UInt8) : Fin 15 :=
  (Trigger.patterns.finIdxOf? byte).getD ⟨0, by decide⟩

namespace Command

/-- The nine variants. -/
inductive Kind where
  | cal
  | ecr
  | bcr
  | pulse
  | read
  | write
  | noop
  | sync
  | trigger
  deriving DecidableEq, Repr

namespace Kind

/-- The order in which the parsers are tried. -/
def order : List Kind :=
  [cal, ecr, bcr, pulse, read, write, noop, sync, trigger]

lemma mem_order (kind : Kind) : kind ∈ order := by
  cases kind <;> decide

/-- The parser of the variant. -/
def parser : Kind → Parser
  | cal => parseAs .cal Cal.parse
  | ecr => parseBare 0x5A 0x5A .ecr
  | bcr => parseBare 0x59 0x59 .bcr
  | pulse => parseAs .pulse Pulse.parse
  | read => parseAs .read RegisterRead.parse
  | write => parseAs .write RegisterWrite.parse
  | noop => parseBare 0x69 0x69 .noop
  | sync => parseBare 0x41 0x7E .sync
  | trigger => parseAs .trigger Trigger.parse

lemma parsers_eq : parsers = order.map parser := rfl

/-- The bytes that start the variant. -/
def firsts : Kind → List UInt8
  | cal => [0x63]
  | ecr => [0x5A]
  | bcr => [0x59]
  | pulse => [0x5C]
  | read => [0x65]
  | write => [0x66]
  | noop => [0x69]
  | sync => [0x41]
  | trigger => Trigger.patterns

/-- The second byte of the identifier.  A trigger has none. -/
def second? : Kind → Option UInt8
  | cal => some 0x63
  | ecr => some 0x5A
  | bcr => some 0x59
  | pulse => some 0x5C
  | read => some 0x65
  | write => some 0x66
  | noop => some 0x69
  | sync => some 0x7E
  | trigger => none

/-- How many bytes a parser asks for before it looks at the payload. -/
def length : Kind → Nat
  | ecr | bcr | noop | sync | trigger => 2
  | pulse => 4
  | cal | read => 6
  | write => 8

/-- **No byte starts two variants.** -/
theorem eq_of_mem_firsts {kind kind' : Kind} {byte : UInt8} (h : byte ∈ kind.firsts)
    (h' : byte ∈ kind'.firsts) : kind = kind' := by
  have hdisjoint : ∀ k ∈ order, ∀ k' ∈ order, ∀ b ∈ k.firsts, b ∈ k'.firsts → k = k' := by
    decide +kernel
  exact hdisjoint kind (mem_order kind) kind' (mem_order kind') byte h h'

/-- The variant that a byte starts. -/
def ofFirst? (byte : UInt8) : Option Kind :=
  order.find? fun kind => byte ∈ kind.firsts

lemma ofFirst?_eq_some_iff {byte : UInt8} {kind : Kind} :
    ofFirst? byte = some kind ↔ byte ∈ kind.firsts := by
  constructor
  · intro h
    simpa using List.find?_some h
  · intro h
    cases hfind : ofFirst? byte with
    | none => exact absurd h (by simpa using List.find?_eq_none.1 hfind kind (mem_order kind))
    | some kind' =>
        have h' : byte ∈ kind'.firsts := by simpa using List.find?_some hfind
        rw [eq_of_mem_firsts h h']

/-! ## The payload of a variant -/

/-- The first value of a register write: its top bit shares a symbol with the address. -/
def firstValue (d4 d5 d6 d7 : Fin 32) : UInt16 :=
  .ofNat (d4.val % 2 * 32768 + d5.val * 1024 + d6.val * 32 + d7.val)

/-- The values of an extended write: the five after the first are one string of 80 bits. -/
def extendedData (v0 : UInt16) (tail : List (Fin 32)) : WriteData :=
  let bits := Numeral.value 32 (tail.map Fin.val)
  let word (low : Nat) : UInt16 := .ofNat (bits >>> (16 * low))
  .six v0 (word 4) (word 3) (word 2) (word 1) (word 0)

/-- Reads a register write.  The lowest bit of the chip ID symbol tells the layouts apart. -/
def writePayload : Reader (Command × Nat) :=
  .symbol 2 fun d2 => .symbol 4 fun d4 => .symbol 3 fun d3 => .symbol 5 fun d5 =>
    .symbol 6 fun d6 => .symbol 7 fun d7 =>
      if d2.val % 2 = 0 then
        .done
          (.write
            { chipId := .ofNat (d2.val / 2)
              address := .ofNat (d3.val * 16 + d4.val / 2)
              data := .single (firstValue d4 d5 d6 d7) }, 8)
      else
        .need 24 (.symbols (List.range' 8 16) fun tail =>
          .done
            (.write
              { chipId := .ofNat (d2.val / 2)
                address := .ofNat (d3.val * 16 + d4.val / 2)
                data := extendedData (firstValue d4 d5 d6 d7) tail }, 24))

/-- Reads the payload of the variant, given the first byte of the buffer. -/
def payload (first : UInt8) : Kind → Reader (Command × Nat)
  | ecr => .done (.ecr, 2)
  | bcr => .done (.bcr, 2)
  | noop => .done (.noop, 2)
  | sync => .done (.sync, 2)
  | pulse => .symbol 2 fun d2 => .symbol 3 fun d3 =>
      .done (.pulse { chipId := .ofNat (d2.val / 2), length := .ofNat (d3.val / 2) }, 4)
  | cal => .symbol 2 fun d2 => .symbol 3 fun d3 => .symbol 4 fun d4 => .symbol 5 fun d5 =>
      .done
        (.cal
          { chipId := .ofNat (d2.val / 2)
            edgeMode := d2.val % 2 = 1
            edgeDelay := .ofNat (d3.val / 4)
            edgeWidth := .ofNat (d3.val % 4 * 16 + d4.val / 2)
            auxMode := d4.val % 2 = 1
            auxDelay := .ofNat d5.val }, 6)
  | read => .symbol 2 fun d2 => .symbol 3 fun d3 => .symbol 4 fun d4 => .symbol 5 fun _ =>
      .done
        (.read { chipId := .ofNat (d2.val / 2), address := .ofNat (d3.val * 16 + d4.val / 2) }, 6)
  | write => writePayload
  | trigger => .symbol 1 fun tag =>
      .done (.trigger (Trigger.ofPattern (Trigger.place first) tag), 2)

/-- The whole procedure after the identifier. -/
def reader (first : UInt8) (kind : Kind) : Reader (Command × Nat) :=
  .need kind.length (kind.payload first)

/-- Whether a byte may follow the first. -/
def admits (kind : Kind) (byte : UInt8) : Bool :=
  kind.second?.all (byte = ·)

/-- The answer for a buffer whose first byte starts the variant. -/
def verdict (kind : Kind) (first : UInt8) (rest : List UInt8) :
    Except ParseError (Command × Nat) :=
  if rest.head?.all kind.admits then (kind.reader first).run (first :: rest)
  else .error .identifierMismatch

/-- A payload is only looked at where its bytes are known to be, and 24 bytes are enough. -/
lemma within_payload (first : UInt8) (kind : Kind) :
    (kind.payload first).Within 24 kind.length := by
  cases kind with
  | write =>
      refine ⟨by decide, fun d2 => ⟨by decide, fun d4 => ⟨by decide, fun d3 => ⟨by decide,
        fun d5 => ⟨by decide, fun d6 => ⟨by decide, fun d7 => ?_⟩⟩⟩⟩⟩⟩
      by_cases heven : d2.val % 2 = 0
      · simp only [if_pos heven]
        trivial
      · simp only [if_neg heven]
        refine ⟨Nat.le_refl 24, Reader.within_symbols ?_ fun _ => trivial⟩
        decide
  | _ => simp [payload, Reader.Within, length]

lemma within_reader (first : UInt8) (kind : Kind) : (kind.reader first).Within 24 0 := by
  refine ⟨by cases kind <;> decide, ?_⟩
  rw [Nat.zero_max]
  exact within_payload first kind

/-! ## The parser of a variant -/

/-- What is checked once the first byte matches. -/
lemma expectIdentifier_cons (first second : UInt8) (length : Nat) (rest : List UInt8) :
    expectIdentifier first second length (first :: rest) =
      if rest.head?.all (· = second) then
        if (first :: rest).length < length then .error (.truncated length (first :: rest).length)
        else .ok ()
      else .error .identifierMismatch := by
  cases rest with
  | nil => simp [expectIdentifier]
  | cons byte rest =>
      by_cases hbyte : byte = second
      · simp [expectIdentifier, hbyte]
      · simp [expectIdentifier, hbyte]

/-- A parser whose variant another byte starts recognises nothing. -/
lemma expectIdentifier_of_ne {first byte : UInt8} (h : byte ≠ first) (second : UInt8)
    (length : Nat) (rest : List UInt8) :
    expectIdentifier first second length (byte :: rest) = .error .identifierMismatch := by
  simp [expectIdentifier, h]

/-- A parser that has checked the identifier asks for its length and goes on. -/
lemma expectIdentifier_bind {α : Type} (first second : UInt8) (length : Nat) (rest : List UInt8)
    (payload : Reader α) :
    (expectIdentifier first second length (first :: rest) >>= fun _ =>
        payload.run (first :: rest)) =
      if rest.head?.all (· = second) then (Reader.need length payload).run (first :: rest)
      else .error .identifierMismatch := by
  rw [expectIdentifier_cons, Reader.run]
  by_cases hsecond : rest.head?.all (· = second)
  · rw [if_pos hsecond, if_pos hsecond]
    by_cases hshort : (first :: rest).length < length
    · rw [if_pos hshort, if_pos hshort]
      rfl
    · rw [if_neg hshort, if_neg hshort]
      rfl
  · rw [if_neg hsecond, if_neg hsecond]
    rfl

/-- On a buffer whose first byte starts the variant, its parser gives the verdict. -/
theorem parser_of_mem {kind : Kind} {first : UInt8} (h : first ∈ kind.firsts)
    (rest : List UInt8) : kind.parser (first :: rest) = kind.verdict first rest := by
  cases kind with
  | trigger =>
      obtain ⟨place, hplace⟩ : ∃ place, Trigger.patterns.finIdxOf? first = some place :=
        Option.isSome_iff_exists.1 (by rw [List.isSome_finIdxOf?]; exact List.elem_eq_true_of_mem h)
      have hsecond : rest.head?.all trigger.admits = true := by
        cases rest <;> rfl
      simp only [parser, parseAs, Trigger.parse, hplace]
      rw [verdict, if_pos hsecond, reader, Reader.run]
      by_cases hshort : (first :: rest).length < 2
      · rw [if_pos hshort, if_pos (show (first :: rest).length < trigger.length from hshort)]
        rfl
      · rw [if_neg hshort, if_neg (show ¬(first :: rest).length < trigger.length from hshort)]
        simp only [bind_assoc, pure_bind, symbolAt_bind, payload, Trigger.place, hplace,
          Reader.run]
        congr 1
        funext tag
        simp
        rfl
  | ecr =>
      obtain rfl := List.mem_singleton.1 h
      exact expectIdentifier_bind 0x5A 0x5A 2 rest (payload 0x5A ecr)
  | bcr =>
      obtain rfl := List.mem_singleton.1 h
      exact expectIdentifier_bind 0x59 0x59 2 rest (payload 0x59 bcr)
  | noop =>
      obtain rfl := List.mem_singleton.1 h
      exact expectIdentifier_bind 0x69 0x69 2 rest (payload 0x69 noop)
  | sync =>
      obtain rfl := List.mem_singleton.1 h
      exact expectIdentifier_bind 0x41 0x7E 2 rest (payload 0x41 sync)
  | cal =>
      obtain rfl := List.mem_singleton.1 h
      simp only [parser, parseAs, Cal.parse, bind_assoc, pure_bind, symbolAt_bind]
      exact expectIdentifier_bind 0x63 0x63 6 rest (payload 0x63 cal)
  | pulse =>
      obtain rfl := List.mem_singleton.1 h
      simp only [parser, parseAs, Pulse.parse, bind_assoc, pure_bind, symbolAt_bind]
      exact expectIdentifier_bind 0x5C 0x5C 4 rest (payload 0x5C pulse)
  | read =>
      obtain rfl := List.mem_singleton.1 h
      simp only [parser, parseAs, RegisterRead.parse, bind_assoc, pure_bind, symbolAt_bind]
      exact expectIdentifier_bind 0x65 0x65 6 rest (payload 0x65 read)
  | write =>
      obtain rfl := List.mem_singleton.1 h
      simp only [parser, parseAs, RegisterWrite.parse, bind_assoc, symbolAt_bind]
      refine Eq.trans ?_ (expectIdentifier_bind 0x66 0x66 8 rest writePayload)
      congr 1
      funext _
      simp only [writePayload, Reader.run]
      congr 1; funext d2; congr 1; funext d4; congr 1; funext d3
      congr 1; funext d5; congr 1; funext d6; congr 1; funext d7
      by_cases heven : d2.val % 2 = 0
      · simp only [if_pos heven, pure_bind]
        rfl
      · simp only [if_neg heven, Reader.run]
        by_cases hshort : (0x66 :: rest).length < 24
        · rw [if_pos hshort, if_pos hshort]
          rfl
        · rw [if_neg hshort, if_neg hshort, bind_assoc]
          exact Reader.symbolsAt_bind fun values => rfl

/-- On any other buffer its parser fails without having recognised anything. -/
theorem parser_of_not_mem {kind : Kind} {first : UInt8} (h : first ∉ kind.firsts)
    (rest : List UInt8) :
    ∃ cause, kind.parser (first :: rest) = .error cause ∧ cause.specificity = 0 := by
  cases kind with
  | trigger =>
      have hplace : Trigger.patterns.finIdxOf? first = none := List.finIdxOf?_eq_none_iff.2 h
      refine ⟨.invalidTriggerPattern first, ?_, rfl⟩
      simp only [parser, parseAs, Trigger.parse, hplace]
      rfl
  | _ =>
      refine ⟨.identifierMismatch, ?_, rfl⟩
      have hne := List.ne_of_not_mem_cons h
      simp only [parser, parseBare, parseAs, Cal.parse, Pulse.parse, RegisterRead.parse,
        RegisterWrite.parse, expectIdentifier_of_ne hne]
      rfl

/-- A verdict that is not a plain mismatch says more than one. -/
lemma specificity_of_verdict {kind : Kind} {first : UInt8} {rest : List UInt8}
    {cause : ParseError} (h : kind.verdict first rest = .error cause) :
    cause = .identifierMismatch ∨ 0 < cause.specificity := by
  rw [verdict] at h
  by_cases hsecond : rest.head?.all kind.admits
  · rw [if_pos hsecond] at h
    exact .inr (Reader.specificity_of_run (within_reader first kind) (Nat.zero_le _) h)
  · rw [if_neg hsecond] at h
    exact .inl (Except.error.inj h).symm

/-- One byte alone is the beginning of the variant that it starts. -/
lemma verdict_nil (kind : Kind) (first : UInt8) :
    kind.verdict first [] = .error (.truncated kind.length 1) := by
  cases kind <;> rfl

/-- What a variant accepts: an identifier, enough bytes, and a payload. -/
lemma verdict_eq_ok_iff {kind : Kind} {first : UInt8} {rest : List UInt8}
    {parsed : Command × Nat} :
    kind.verdict first rest = .ok parsed ↔
      rest.head?.all kind.admits = true ∧ kind.length ≤ (first :: rest).length ∧
        (kind.payload first).Accepts (first :: rest) parsed := by
  rw [verdict]
  by_cases hsecond : rest.head?.all kind.admits
  · rw [if_pos hsecond, Reader.run_eq_ok_iff]
    simp only [hsecond, true_and]
    rfl
  · simp [hsecond]

end Kind

/-! ## The answer of all parsers -/

/-- Parsers that fail with nothing more specific than the failure at hand leave it standing. -/
lemma firstSuccess_eq_error {src : List UInt8} {failure : ParseError} {parsers : List Parser}
    (h : ∀ parser ∈ parsers, ∃ cause, parser src = .error cause ∧
      cause.specificity ≤ failure.specificity) :
    firstSuccess src failure parsers = .error failure := by
  induction parsers with
  | nil => rfl
  | cons parser parsers ih =>
      obtain ⟨cause, hcause, hle⟩ := h parser List.mem_cons_self
      rw [firstSuccess, hcause]
      simp only [Nat.not_lt_of_le hle, if_false]
      exact ih fun p hp => h p (List.mem_cons_of_mem parser hp)

/-- After the variant of the first byte has failed, the others leave its failure standing. -/
lemma firstSuccess_behind {kind : Kind} {first : UInt8} {rest : List UInt8}
    {cause failure : ParseError} (hfirst : first ∈ kind.firsts)
    (hverdict : kind.verdict first rest = .error cause)
    (hfailure : cause.specificity ≤ failure.specificity) (kinds : List Kind) :
    firstSuccess (first :: rest) failure (kinds.map Kind.parser) = .error failure := by
  apply firstSuccess_eq_error
  intro parser hparser
  obtain ⟨kind', -, rfl⟩ := List.mem_map.1 hparser
  by_cases hfirst' : first ∈ kind'.firsts
  · obtain rfl := Kind.eq_of_mem_firsts hfirst hfirst'
    exact ⟨cause, by rw [Kind.parser_of_mem hfirst, hverdict], hfailure⟩
  · obtain ⟨cause', hcause', hzero⟩ := Kind.parser_of_not_mem hfirst' rest
    exact ⟨cause', hcause', by omega⟩

/-- **The order of the parsers does not matter.**  In whatever order and however often the
variants are tried, the answer is the verdict of the one that the first byte starts, if it is
among them. -/
theorem firstSuccess_parsers (kinds : List Kind) (first : UInt8) (rest : List UInt8) :
    firstSuccess (first :: rest) .identifierMismatch (kinds.map Kind.parser) =
      match kinds.find? (fun kind => first ∈ kind.firsts) with
      | none => .error .identifierMismatch
      | some kind => kind.verdict first rest := by
  induction kinds with
  | nil => rfl
  | cons kind kinds ih =>
      rw [List.map_cons, firstSuccess]
      by_cases hfirst : first ∈ kind.firsts
      · rw [Kind.parser_of_mem hfirst, List.find?_cons_of_pos (by simpa using hfirst)]
        cases hverdict : kind.verdict first rest with
        | ok parsed => simp only [hverdict]
        | error cause =>
            simp only [hverdict]
            rcases Kind.specificity_of_verdict hverdict with rfl | hpos
            · exact firstSuccess_behind hfirst hverdict (Nat.le_refl _) kinds
            · have hlt : ParseError.identifierMismatch.specificity < cause.specificity := hpos
              rw [if_pos hlt]
              exact firstSuccess_behind hfirst hverdict (Nat.le_refl _) kinds
      · obtain ⟨cause, hcause, hzero⟩ := Kind.parser_of_not_mem hfirst rest
        have hlt : ¬ParseError.identifierMismatch.specificity < cause.specificity := by
          rw [hzero]
          decide
        rw [hcause, List.find?_cons_of_neg (by simpa using hfirst)]
        simp only [if_neg hlt]
        exact ih

/-- **The parser in closed form.**  The variant of the first byte gives the verdict, and a byte
that starts none is a mismatch. -/
theorem parse_cons (first : UInt8) (rest : List UInt8) :
    parse (first :: rest) =
      match Kind.ofFirst? first with
      | none => .error .identifierMismatch
      | some kind => kind.verdict first rest := by
  rw [parse, Kind.parsers_eq]
  exact firstSuccess_parsers Kind.order first rest

@[simp] lemma parse_nil : parse [] = .error .identifierMismatch := rfl

/-- **A verdict is final.**  Unless the answer is that bytes are missing, bytes that arrive later
do not change it. -/
theorem parse_append {src : List UInt8} (hsrc : src ≠ []) (hpending : isPending (parse src) = false)
    (later : List UInt8) : parse (src ++ later) = parse src := by
  obtain _ | ⟨first, rest⟩ := src
  · exact absurd rfl hsrc
  · rw [List.cons_append, parse_cons, parse_cons]
    rw [parse_cons] at hpending
    cases hkind : Kind.ofFirst? first with
    | none => rfl
    | some kind =>
        simp only [hkind, Kind.verdict] at hpending ⊢
        obtain _ | ⟨second, rest⟩ := rest
        · rw [← Kind.verdict, Kind.verdict_nil] at hpending
          exact absurd hpending (by simp [ParseError.isTruncated])
        · rw [List.cons_append, List.head?_cons, List.head?_cons] at *
          by_cases hsecond : (some second).all kind.admits
          · rw [if_pos hsecond] at hpending ⊢
            rw [if_pos hsecond]
            exact Reader.run_append (Kind.within_reader first kind) (Nat.zero_le _) hpending later
          · rw [if_neg hsecond, if_neg hsecond]

/-- A buffer that the parser waits on is shorter than the longest command. -/
theorem length_lt_of_isPending {src : List UInt8} (hpending : isPending (parse src) = true) :
    src.length < 24 := by
  obtain _ | ⟨first, rest⟩ := src
  · exact absurd hpending (by decide)
  · rw [parse_cons] at hpending
    cases hkind : Kind.ofFirst? first with
    | none => exact absurd hpending (by simp [hkind, ParseError.isTruncated])
    | some kind =>
        simp only [hkind, Kind.verdict] at hpending
        by_cases hsecond : rest.head?.all kind.admits
        · rw [if_pos hsecond] at hpending
          exact Reader.length_lt_of_run (Kind.within_reader first kind) (Nat.zero_le _) hpending
        · rw [if_neg hsecond] at hpending
          exact absurd hpending (by decide)

end Command
end PixelChip
