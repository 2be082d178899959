import PixelChip.Proofs.Command.Kind

/-!
# The grammar of the command link

`Written bytes command` says that the bytes are a form of the command: an identifier or a trigger
pattern, and then the symbols of its fields.  Most commands have one form.  The lowest bit of some
symbols and all of the last symbol of a read request mean nothing, so a pulse and a read request
have several.

`parse_eq_ok_iff` says that the parser accepts exactly these forms, whatever follows them, and
`written_encode` that what a command encodes to is a form of what the wire keeps of it.
-/

namespace PixelChip
namespace Command

/-- The bytes are a form of the command. -/
inductive Written : List UInt8 → Command → Prop where
  | ecr : Written [0x5A, 0x5A] .ecr
  | bcr : Written [0x59, 0x59] .bcr
  | noop : Written [0x69, 0x69] .noop
  | sync : Written [0x41, 0x7E] .sync
  | pulse (d2 d3 : Fin 32) :
      Written (0x5C :: 0x5C :: Symbol.spell [d2, d3])
        (.pulse { chipId := .ofNat (d2.val / 2), length := .ofNat (d3.val / 2) })
  | cal (d2 d3 d4 d5 : Fin 32) :
      Written (0x63 :: 0x63 :: Symbol.spell [d2, d3, d4, d5])
        (.cal
          { chipId := .ofNat (d2.val / 2)
            edgeMode := d2.val % 2 = 1
            edgeDelay := .ofNat (d3.val / 4)
            edgeWidth := .ofNat (d3.val % 4 * 16 + d4.val / 2)
            auxMode := d4.val % 2 = 1
            auxDelay := .ofNat d5.val })
  | read (d2 d3 d4 d5 : Fin 32) :
      Written (0x65 :: 0x65 :: Symbol.spell [d2, d3, d4, d5])
        (.read { chipId := .ofNat (d2.val / 2), address := .ofNat (d3.val * 16 + d4.val / 2) })
  | single (d2 d3 d4 d5 d6 d7 : Fin 32) (heven : d2.val % 2 = 0) :
      Written (0x66 :: 0x66 :: Symbol.spell [d2, d3, d4, d5, d6, d7])
        (.write
          { chipId := .ofNat (d2.val / 2)
            address := .ofNat (d3.val * 16 + d4.val / 2)
            data := .single (Kind.firstValue d4 d5 d6 d7) })
  | six (d2 d3 d4 d5 d6 d7 : Fin 32) (tail : List (Fin 32)) (hodd : d2.val % 2 ≠ 0)
      (htail : tail.length = 16) :
      Written (0x66 :: 0x66 :: Symbol.spell (d2 :: d3 :: d4 :: d5 :: d6 :: d7 :: tail))
        (.write
          { chipId := .ofNat (d2.val / 2)
            address := .ofNat (d3.val * 16 + d4.val / 2)
            data := Kind.extendedData (Kind.firstValue d4 d5 d6 d7) tail })
  | trigger (place : Fin 15) (tag : Fin 32) :
      Written (Trigger.patterns.get place :: Symbol.spell [tag])
        (.trigger (Trigger.ofPattern place tag))

/-! ## Accepted forms -/

lemma Trigger.place_get (place : Fin 15) : Trigger.place (Trigger.patterns.get place) = place := by
  revert place
  decide

/-- Every form is accepted, whatever follows it. -/
lemma Written.verdict {bytes : List UInt8} {command : Command} (h : Written bytes command) :
    ∃ kind : Kind, ∃ first rest, bytes = first :: rest ∧ first ∈ kind.firsts ∧
      ∀ behind, kind.verdict first (rest ++ behind) = .ok (command, bytes.length) := by
  cases h with
  | ecr => exact ⟨.ecr, _, _, rfl, by decide, fun behind => rfl⟩
  | bcr => exact ⟨.bcr, _, _, rfl, by decide, fun behind => rfl⟩
  | noop => exact ⟨.noop, _, _, rfl, by decide, fun behind => rfl⟩
  | sync => exact ⟨.sync, _, _, rfl, by decide, fun behind => rfl⟩
  | pulse d2 d3 =>
      refine ⟨.pulse, _, _, rfl, by decide, fun behind => Kind.verdict_eq_ok_iff.2 ?_⟩
      exact ⟨rfl, by simp [Kind.length], d2, rfl, d3, rfl, rfl⟩
  | cal d2 d3 d4 d5 =>
      refine ⟨.cal, _, _, rfl, by decide, fun behind => Kind.verdict_eq_ok_iff.2 ?_⟩
      exact ⟨rfl, by simp [Kind.length], d2, rfl, d3, rfl, d4, rfl, d5, rfl, rfl⟩
  | read d2 d3 d4 d5 =>
      refine ⟨.read, _, _, rfl, by decide, fun behind => Kind.verdict_eq_ok_iff.2 ?_⟩
      exact ⟨rfl, by simp [Kind.length], d2, rfl, d3, rfl, d4, rfl, d5, rfl, rfl⟩
  | single d2 d3 d4 d5 d6 d7 heven =>
      refine ⟨.write, _, _, rfl, by decide, fun behind => Kind.verdict_eq_ok_iff.2 ?_⟩
      refine ⟨rfl, by simp [Kind.length], d2, rfl, d4, rfl, d3, rfl, d5, rfl, d6, rfl, d7, rfl, ?_⟩
      simp only [if_pos heven]
      rfl
  | six d2 d3 d4 d5 d6 d7 tail hodd htail =>
      refine ⟨.write, _, _, rfl, by decide, fun behind => Kind.verdict_eq_ok_iff.2 ?_⟩
      refine ⟨rfl, by simp [Kind.length], d2, rfl, d4, rfl, d3, rfl, d5, rfl, d6, rfl, d7, rfl, ?_⟩
      simp only [if_neg hodd]
      refine ⟨by simp [htail], Reader.accepts_symbols_range'.2 ⟨tail, htail, ?_, ?_⟩⟩
      · exact ⟨behind, rfl⟩
      · simp [Reader.Accepts, htail]
  | trigger place tag =>
      have hmem : Trigger.patterns.get place ∈ Kind.trigger.firsts :=
        List.get_mem Trigger.patterns place
      refine ⟨.trigger, _, _, rfl, hmem, fun behind => Kind.verdict_eq_ok_iff.2 ?_⟩
      refine ⟨rfl, by simp [Kind.length], tag, rfl, ?_⟩
      simp only [Reader.Accepts, Trigger.place_get]
      rfl

/-- A symbol at the front of a buffer. -/
lemma exists_cons_of_getElem?_zero (src : List UInt8) {byte : UInt8} (h : src[0]? = some byte) :
    ∃ behind, src = byte :: behind := by
  obtain _ | ⟨first, behind⟩ := src
  · exact absurd h (by simp)
  · exact ⟨behind, by simpa using h⟩

/-- What a variant accepts is a form. -/
lemma Kind.written_of_verdict {kind : Kind} {first : UInt8} {rest : List UInt8}
    {command : Command} {n : Nat} (hfirst : first ∈ kind.firsts)
    (h : kind.verdict first rest = .ok (command, n)) :
    ∃ bytes behind, first :: rest = bytes ++ behind ∧ Written bytes command ∧
      n = bytes.length := by
  obtain _ | ⟨second, rest⟩ := rest
  · rw [verdict_nil] at h
    exact absurd h (by simp)
  obtain ⟨hsecond, -, haccepts⟩ := verdict_eq_ok_iff.1 h
  cases kind with
  | ecr | bcr | noop | sync =>
      obtain rfl := List.mem_singleton.1 hfirst
      obtain rfl := of_decide_eq_true hsecond
      obtain ⟨rfl, rfl⟩ := Prod.mk.inj haccepts
      exact ⟨[_, _], rest, rfl, by constructor, rfl⟩
  | pulse =>
      obtain rfl := List.mem_singleton.1 hfirst
      obtain rfl := of_decide_eq_true hsecond
      obtain ⟨d2, h2, d3, h3, heq⟩ := haccepts
      obtain ⟨rest, rfl⟩ := exists_cons_of_getElem?_zero rest h2
      obtain ⟨rest, rfl⟩ := exists_cons_of_getElem?_zero rest h3
      obtain ⟨rfl, rfl⟩ := Prod.mk.inj heq
      exact ⟨_, rest, rfl, .pulse d2 d3, rfl⟩
  | cal =>
      obtain rfl := List.mem_singleton.1 hfirst
      obtain rfl := of_decide_eq_true hsecond
      obtain ⟨d2, h2, d3, h3, d4, h4, d5, h5, heq⟩ := haccepts
      obtain ⟨rest, rfl⟩ := exists_cons_of_getElem?_zero rest h2
      obtain ⟨rest, rfl⟩ := exists_cons_of_getElem?_zero rest h3
      obtain ⟨rest, rfl⟩ := exists_cons_of_getElem?_zero rest h4
      obtain ⟨rest, rfl⟩ := exists_cons_of_getElem?_zero rest h5
      obtain ⟨rfl, rfl⟩ := Prod.mk.inj heq
      exact ⟨_, rest, rfl, .cal d2 d3 d4 d5, rfl⟩
  | read =>
      obtain rfl := List.mem_singleton.1 hfirst
      obtain rfl := of_decide_eq_true hsecond
      obtain ⟨d2, h2, d3, h3, d4, h4, d5, h5, heq⟩ := haccepts
      obtain ⟨rest, rfl⟩ := exists_cons_of_getElem?_zero rest h2
      obtain ⟨rest, rfl⟩ := exists_cons_of_getElem?_zero rest h3
      obtain ⟨rest, rfl⟩ := exists_cons_of_getElem?_zero rest h4
      obtain ⟨rest, rfl⟩ := exists_cons_of_getElem?_zero rest h5
      obtain ⟨rfl, rfl⟩ := Prod.mk.inj heq
      exact ⟨_, rest, rfl, .read d2 d3 d4 d5, rfl⟩
  | write =>
      obtain rfl := List.mem_singleton.1 hfirst
      obtain rfl := of_decide_eq_true hsecond
      obtain ⟨d2, h2, d4, h4, d3, h3, d5, h5, d6, h6, d7, h7, hdata⟩ := haccepts
      obtain ⟨rest, rfl⟩ := exists_cons_of_getElem?_zero rest h2
      obtain ⟨rest, rfl⟩ := exists_cons_of_getElem?_zero rest h3
      obtain ⟨rest, rfl⟩ := exists_cons_of_getElem?_zero rest h4
      obtain ⟨rest, rfl⟩ := exists_cons_of_getElem?_zero rest h5
      obtain ⟨rest, rfl⟩ := exists_cons_of_getElem?_zero rest h6
      obtain ⟨rest, rfl⟩ := exists_cons_of_getElem?_zero rest h7
      by_cases heven : d2.val % 2 = 0
      · simp only [if_pos heven] at hdata
        obtain ⟨rfl, rfl⟩ := Prod.mk.inj hdata
        exact ⟨_, rest, rfl, .single d2 d3 d4 d5 d6 d7 heven, rfl⟩
      · simp only [if_neg heven] at hdata
        obtain ⟨tail, htail, ⟨behind, hbehind⟩, heq⟩ := Reader.accepts_symbols_range'.1 hdata.2
        obtain rfl : Symbol.spell tail ++ behind = rest := hbehind
        obtain ⟨rfl, rfl⟩ := Prod.mk.inj heq
        exact ⟨_, behind, rfl, .six d2 d3 d4 d5 d6 d7 tail heven htail, by simp [htail]⟩
  | trigger =>
      obtain ⟨place, rfl⟩ := List.get_of_mem (show first ∈ Trigger.patterns from hfirst)
      obtain ⟨tag, h1, heq⟩ := haccepts
      obtain rfl : second = Symbol.encode tag.val := by simpa using h1
      have hplace : Trigger.place (Trigger.patterns.get place) = place := Trigger.place_get place
      simp only [Reader.Accepts, hplace] at heq
      obtain ⟨rfl, rfl⟩ := Prod.mk.inj heq
      exact ⟨_, rest, rfl, .trigger place tag, rfl⟩

/-- **The parser accepts exactly the forms of the grammar**, whatever follows them. -/
theorem parse_eq_ok_iff {src : List UInt8} {command : Command} {n : Nat} :
    parse src = .ok (command, n) ↔
      ∃ bytes behind, src = bytes ++ behind ∧ Written bytes command ∧ n = bytes.length := by
  constructor
  · intro h
    obtain _ | ⟨first, rest⟩ := src
    · exact absurd h (by simp)
    · rw [parse_cons] at h
      cases hkind : Kind.ofFirst? first with
      | none => exact absurd h (by simp [hkind])
      | some kind =>
          simp only [hkind] at h
          exact Kind.written_of_verdict (Kind.ofFirst?_eq_some_iff.1 hkind) h
  · rintro ⟨bytes, behind, rfl, hwritten, rfl⟩
    obtain ⟨kind, first, rest, rfl, hfirst, hverdict⟩ := hwritten.verdict
    rw [List.cons_append, parse_cons, Kind.ofFirst?_eq_some_iff.2 hfirst]
    exact hverdict behind

/-! ## The shape of a form

Identifiers and patterns are no symbols, and the second byte of an identifier starts no variant
but its own.  So the bytes of a form tell where in it they stand. -/

lemma Kind.isSymbol_of_mem_firsts {kind : Kind} {byte : UInt8} (h : byte ∈ kind.firsts) :
    Symbol.isSymbol byte = false := by
  have hall : ∀ k ∈ order, ∀ b ∈ k.firsts, Symbol.isSymbol b = false := by
    decide +kernel
  exact hall kind (mem_order kind) byte h

/-- The second byte of an identifier starts its own variant, as the only byte that does, or
none. -/
lemma Kind.firsts_of_second? {kind kind' : Kind} {byte : UInt8} (h : kind.second? = some byte)
    (h' : byte ∈ kind'.firsts) : kind' = kind ∧ kind.firsts = [byte] := by
  have hall : ∀ k ∈ order, ∀ b ∈ k.second?, ∀ k' ∈ order, b ∈ k'.firsts →
      k' = k ∧ k.firsts = [b] := by
    decide +kernel
  exact hall kind (mem_order kind) byte h kind' (mem_order kind') h'

/-- The second byte of an identifier is all that can follow its first. -/
lemma Kind.eq_of_second? {kind : Kind} {byte byte' : UInt8} (h : kind.second? = some byte)
    (h' : kind.second? = some byte' ∨ kind.second? = none ∧ Symbol.isSymbol byte' = true) :
    byte' = byte := by
  obtain h' | ⟨h', -⟩ := h'
  · exact Option.some.inj (h'.symm.trans h)
  · rw [h] at h'
    exact absurd h' (by simp)

/-- A form is a first byte, a second byte, and symbols. -/
lemma Written.shape {bytes : List UInt8} {command : Command} (h : Written bytes command) :
    ∃ kind : Kind, ∃ first second payload, bytes = first :: second :: payload ∧
      first ∈ kind.firsts ∧
      (kind.second? = some second ∨ kind.second? = none ∧ Symbol.isSymbol second = true) ∧
      ∀ byte ∈ payload, Symbol.isSymbol byte = true := by
  cases h with
  | ecr => exact ⟨.ecr, _, _, _, rfl, by decide, .inl rfl, by simp⟩
  | bcr => exact ⟨.bcr, _, _, _, rfl, by decide, .inl rfl, by simp⟩
  | noop => exact ⟨.noop, _, _, _, rfl, by decide, .inl rfl, by simp⟩
  | sync => exact ⟨.sync, _, _, _, rfl, by decide, .inl rfl, by simp⟩
  | pulse =>
      exact ⟨.pulse, _, _, _, rfl, by decide, .inl rfl, fun _ => Symbol.isSymbol_of_mem_spell⟩
  | cal =>
      exact ⟨.cal, _, _, _, rfl, by decide, .inl rfl, fun _ => Symbol.isSymbol_of_mem_spell⟩
  | read =>
      exact ⟨.read, _, _, _, rfl, by decide, .inl rfl, fun _ => Symbol.isSymbol_of_mem_spell⟩
  | single =>
      exact ⟨.write, _, _, _, rfl, by decide, .inl rfl, fun _ => Symbol.isSymbol_of_mem_spell⟩
  | six =>
      exact ⟨.write, _, _, _, rfl, by decide, .inl rfl, fun _ => Symbol.isSymbol_of_mem_spell⟩
  | trigger place tag =>
      exact ⟨.trigger, _, _, _, rfl, List.get_mem Trigger.patterns place,
        .inr ⟨rfl, Symbol.isSymbol_encode tag.val⟩, by simp⟩

/-- A form has the length of its command on the wire. -/
lemma Written.length_eq {bytes : List UInt8} {command : Command} (h : Written bytes command) :
    bytes.length = command.wireLength := by
  cases h with
  | six d2 d3 d4 d5 d6 d7 tail hodd htail =>
      simp [wireLength, Kind.extendedData, WriteData.isExtended, htail]
  | _ => rfl

/-- No field of a parsed command is too wide. -/
lemma Written.inWidth {bytes : List UInt8} {command : Command} (h : Written bytes command) :
    command.InWidth := by
  cases h with
  | pulse d2 d3 =>
      simp only [InWidth, UInt8.toNat_ofNat']
      omega
  | cal d2 d3 d4 d5 =>
      simp only [InWidth, UInt8.toNat_ofNat']
      omega
  | read d2 d3 d4 d5 =>
      simp only [InWidth, UInt8.toNat_ofNat', UInt16.toNat_ofNat']
      omega
  | single d2 d3 d4 =>
      simp only [InWidth, UInt8.toNat_ofNat', UInt16.toNat_ofNat']
      omega
  | six d2 d3 d4 =>
      simp only [InWidth, UInt8.toNat_ofNat', UInt16.toNat_ofNat']
      omega
  | _ => trivial

/-- No field of a parsed command is too wide. -/
theorem inWidth_of_parse {src : List UInt8} {command : Command} {n : Nat}
    (h : parse src = .ok (command, n)) : command.InWidth := by
  obtain ⟨bytes, behind, -, hwritten, -⟩ := parse_eq_ok_iff.1 h
  exact hwritten.inWidth

end Command
end PixelChip
