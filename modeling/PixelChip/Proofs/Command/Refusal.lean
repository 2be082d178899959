import PixelChip.Proofs.Command.Kind

/-!
# Why bytes are no command

All nine parsers fail on bytes that are no command, and one of the failures is the answer.  It is
that of the variant which the bytes begin like, if there is one.  Such bytes are refused for one of
three reasons: they are too few, or a byte of the payload is no symbol, or they are the beginning of
an extended write that is good so far.  `Kind.Refuses` lists these reasons.

A payload has a reading order.  Of several corrupt bytes the first in this order is reported, which
in a register write is not the first in the buffer (`Kind.offsets`).
-/

namespace PixelChip
namespace Command

/-! ## Corrupt payload -/

/-- The first of some offsets at which a buffer has no symbol. -/
def corrupt? (src : List UInt8) (offsets : List Nat) : Option Nat :=
  offsets.find? fun offset => !src[offset]?.any Symbol.isSymbol

/-- Whether a register write has the layout of six values: the lowest bit of the symbol that it
shares with the chip ID is set. -/
def isExtended (src : List UInt8) : Bool :=
  (src[2]?.bind Symbol.decode?).any fun value => value.val % 2 = 1

/-- Symbols are read at some offsets in order, and this fails with the cause: at the first offset
that has none, or behind them all. -/
def FailsFrom (src : List UInt8) (cause : ParseError) (behind : Prop) (offsets : List Nat) : Prop :=
  (∃ offset byte, corrupt? src offsets = some offset ∧ src[offset]? = some byte ∧
      cause = .invalidSymbol byte offset) ∨
    corrupt? src offsets = none ∧ behind

section FailsFrom

variable {src : List UInt8} {cause : ParseError} {behind : Prop} {offset : Nat} {offsets : List Nat}

lemma failsFrom_nil : FailsFrom src cause behind [] ↔ behind := by
  simp [FailsFrom, corrupt?]

/-- A symbol is passed over. -/
lemma failsFrom_cons_of_symbol {value : Fin 32} (h : src[offset]? = some (Symbol.encode value)) :
    FailsFrom src cause behind (offset :: offsets) ↔ FailsFrom src cause behind offsets := by
  simp [FailsFrom, corrupt?, h]

/-- Another byte is reported. -/
lemma failsFrom_cons_of_corrupt {byte : UInt8} (h : src[offset]? = some byte)
    (hcorrupt : Symbol.isSymbol byte = false) :
    FailsFrom src cause behind (offset :: offsets) ↔ cause = .invalidSymbol byte offset := by
  simp [FailsFrom, corrupt?, h, hcorrupt]

/-- Offsets are read one part after another. -/
lemma failsFrom_append (others : List Nat) :
    FailsFrom src cause behind (offsets ++ others) ↔
      FailsFrom src cause (FailsFrom src cause behind others) offsets := by
  have hfirst : corrupt? src (offsets ++ others) = (corrupt? src offsets).or (corrupt? src others) :=
    List.find?_append
  unfold FailsFrom
  rw [hfirst]
  cases corrupt? src offsets <;> simp

end FailsFrom

end Command

namespace Reader

open Command

variable {α : Type} {src : List UInt8} {cause : ParseError} {behind : Prop} {offset : Nat}
  {offsets : List Nat}

lemma run_done_eq_error_iff (result : α) :
    (done result).run src = .error cause ↔ FailsFrom src cause False [] := by
  rw [failsFrom_nil]
  exact iff_of_false (by simp [run]) not_false

/-- **Reading a symbol** fails where there is none, and then as what comes after it does. -/
lemma run_symbol_eq_error_iff {next : Fin 32 → Reader α} (hoffset : offset < src.length)
    (hnext : ∀ value : Fin 32, src[offset]? = some (Symbol.encode value) →
      ((next value).run src = .error cause ↔ FailsFrom src cause behind offsets)) :
    (symbol offset next).run src = .error cause ↔
      FailsFrom src cause behind (offset :: offsets) := by
  rw [run]
  cases hvalue : valueAt src offset with
  | ok value =>
      have hsymbol := valueAt_eq_ok_iff.1 hvalue
      rw [failsFrom_cons_of_symbol hsymbol]
      exact hnext value hsymbol
  | error cause' =>
      obtain ⟨rfl, hcorrupt⟩ := valueAt_error hoffset hvalue
      rw [failsFrom_cons_of_corrupt (List.getElem?_eq_getElem hoffset) hcorrupt]
      exact ⟨fun h => (Except.error.inj h).symm, fun h => congrArg Except.error h.symm⟩

/-- Reading a stretch of symbols fails where there is none. -/
lemma run_symbols_eq_error_iff {next : List (Fin 32) → Reader α}
    (hoffsets : ∀ offset ∈ offsets, offset < src.length)
    (hnext : ∀ values, ∃ result, next values = done result) :
    (symbols offsets next).run src = .error cause ↔ FailsFrom src cause False offsets := by
  induction offsets generalizing next with
  | nil =>
      obtain ⟨result, hresult⟩ := hnext []
      rw [symbols, hresult]
      exact run_done_eq_error_iff result
  | cons offset offsets ih =>
      refine run_symbol_eq_error_iff (hoffsets offset List.mem_cons_self) fun value _ => ?_
      exact ih (fun other hother => hoffsets other (List.mem_cons_of_mem offset hother))
        fun values => hnext (value :: values)

end Reader

namespace Command

/-! ## Reasons -/

namespace Kind

/-- The offsets of the symbols that every command of the variant has, in the order in which they are
read.  In a register write the third symbol is read before the second. -/
def offsets : Kind → List Nat
  | ecr | bcr | noop | sync => []
  | pulse => [2, 3]
  | cal | read => [2, 3, 4, 5]
  | write => [2, 4, 3, 5, 6, 7]
  | trigger => [1]

/-- The offsets of all symbols, as far as a buffer has them.  Those of an extended write that come
after the first value are read only when all are there. -/
def allOffsets (src : List UInt8) (kind : Kind) : List Nat :=
  kind.offsets ++
    if kind = write ∧ isExtended src = true ∧ 24 ≤ src.length then List.range' 8 16 else []

/-- A buffer begins like the variant: its first byte starts it, and where the identifier has a second
byte, the second byte of the buffer is no other. -/
structure Begins (kind : Kind) (src : List UInt8) : Prop where
  first : ∃ byte ∈ kind.firsts, src[0]? = some byte
  second : ∀ byte ∈ src[1]?, kind.admits byte = true

/-- Why a buffer that begins like the variant is refused. -/
inductive Refuses : Kind → List UInt8 → ParseError → Prop where
  /-- It does not hold the symbols that every command of the variant has. -/
  | short {kind : Kind} {src : List UInt8} (hlength : src.length < kind.length) :
      Refuses kind src (.truncated kind.length src.length)
  /-- It holds another byte in the place of a symbol. -/
  | corrupt {kind : Kind} {src : List UInt8} {offset : Nat} {byte : UInt8}
      (hlength : kind.length ≤ src.length)
      (hfirst : corrupt? src (kind.allOffsets src) = some offset)
      (hbyte : src[offset]? = some byte) : Refuses kind src (.invalidSymbol byte offset)
  /-- It is the beginning of an extended write, with a first value that is good. -/
  | shortExtended {src : List UInt8} (hlength : 8 ≤ src.length) (hshort : src.length < 24)
      (hextended : isExtended src = true) (hsymbols : corrupt? src write.offsets = none) :
      Refuses write src (.truncated 24 src.length)

variable {kind : Kind} {src : List UInt8} {cause : ParseError}

/-- With enough bytes for the symbols of every command, the payload decides. -/
lemma refuses_iff_of_length_le (h : kind.length ≤ src.length) :
    kind.Refuses src cause ↔
      FailsFrom src cause False (kind.allOffsets src) ∨
        kind = write ∧ src.length < 24 ∧ isExtended src = true ∧
          corrupt? src write.offsets = none ∧ cause = .truncated 24 src.length := by
  constructor
  · intro hrefuses
    cases hrefuses with
    | short hshort => exact absurd h (Nat.not_le_of_lt hshort)
    | corrupt _ hfirst hbyte => exact .inl (.inl ⟨_, _, hfirst, hbyte, rfl⟩)
    | shortExtended _ hshort hextended hsymbols =>
        exact .inr ⟨rfl, hshort, hextended, hsymbols, rfl⟩
  · rintro ((⟨offset, byte, hfirst, hbyte, rfl⟩ | ⟨-, hfalse⟩) |
      ⟨rfl, hshort, hextended, hsymbols, rfl⟩)
    · exact .corrupt h hfirst hbyte
    · exact hfalse.elim
    · exact .shortExtended h hshort hextended hsymbols

/-- The layout of a write follows from the symbol that tells. -/
lemma isExtended_eq {value : Fin 32} (h : src[2]? = some (Symbol.encode value)) :
    isExtended src = decide (value.val % 2 = 1) := by
  simp [isExtended, h, Symbol.decode?_encode_fin]

/-- What reading a write fails with. -/
lemma run_writePayload_eq_error_iff (h : 8 ≤ src.length) :
    writePayload.run src = .error cause ↔
      FailsFrom src cause
        (isExtended src = true ∧
          (src.length < 24 ∧ cause = .truncated 24 src.length ∨
            24 ≤ src.length ∧ FailsFrom src cause False (List.range' 8 16)))
        write.offsets := by
  refine Reader.run_symbol_eq_error_iff (by omega) fun d2 hd2 => ?_
  refine Reader.run_symbol_eq_error_iff (by omega) fun d4 _ => ?_
  refine Reader.run_symbol_eq_error_iff (by omega) fun d3 _ => ?_
  refine Reader.run_symbol_eq_error_iff (by omega) fun d5 _ => ?_
  refine Reader.run_symbol_eq_error_iff (by omega) fun d6 _ => ?_
  refine Reader.run_symbol_eq_error_iff (by omega) fun d7 _ => ?_
  rw [failsFrom_nil, isExtended_eq hd2]
  by_cases heven : d2.val % 2 = 0
  · rw [if_pos heven, Reader.run_done_eq_error_iff, failsFrom_nil]
    simp [heven]
  · have hodd : d2.val % 2 = 1 := Nat.mod_two_ne_zero.1 heven
    rw [if_neg heven, Reader.run]
    by_cases hshort : src.length < 24
    · rw [if_pos hshort]
      simp [hodd, hshort, Nat.not_le_of_lt hshort, eq_comm]
    · have hoffsets : ∀ offset ∈ List.range' 8 16, offset < src.length := by
        intro offset hoffset
        have hlt := (List.mem_range'_1.1 hoffset).2
        omega
      rw [if_neg hshort, Reader.run_symbols_eq_error_iff hoffsets fun _ => ⟨_, rfl⟩]
      simp [hodd, hshort, Nat.le_of_not_lt hshort]

/-- What reading the payload of another variant fails with. -/
lemma run_payload_eq_error_iff (first : UInt8) (hkind : kind ≠ write)
    (h : kind.length ≤ src.length) :
    (kind.payload first).run src = .error cause ↔ FailsFrom src cause False kind.offsets := by
  cases kind with
  | ecr | bcr | noop | sync => exact Reader.run_done_eq_error_iff _
  | write => exact absurd rfl hkind
  | trigger =>
      have hlength : 2 ≤ src.length := h
      refine Reader.run_symbol_eq_error_iff (by omega) fun tag _ => ?_
      exact Reader.run_done_eq_error_iff _
  | pulse =>
      have hlength : 4 ≤ src.length := h
      refine Reader.run_symbol_eq_error_iff (by omega) fun d2 _ => ?_
      refine Reader.run_symbol_eq_error_iff (by omega) fun d3 _ => ?_
      exact Reader.run_done_eq_error_iff _
  | cal | read =>
      have hlength : 6 ≤ src.length := h
      refine Reader.run_symbol_eq_error_iff (by omega) fun d2 _ => ?_
      refine Reader.run_symbol_eq_error_iff (by omega) fun d3 _ => ?_
      refine Reader.run_symbol_eq_error_iff (by omega) fun d4 _ => ?_
      refine Reader.run_symbol_eq_error_iff (by omega) fun d5 _ => ?_
      exact Reader.run_done_eq_error_iff _

/-- **The procedure of a variant fails for exactly these reasons.** -/
lemma run_reader_eq_error_iff (first : UInt8) :
    (kind.reader first).run src = .error cause ↔ kind.Refuses src cause := by
  rw [reader, Reader.run]
  by_cases hshort : src.length < kind.length
  · rw [if_pos hshort]
    constructor
    · intro h
      obtain rfl := Except.error.inj h
      exact .short hshort
    · intro hrefuses
      cases hrefuses with
      | short => rfl
      | corrupt hlength => exact absurd hlength (Nat.not_le_of_lt hshort)
      | shortExtended hlength => exact absurd hlength (Nat.not_le_of_lt hshort)
  · have hlength : kind.length ≤ src.length := Nat.le_of_not_lt hshort
    rw [if_neg hshort, refuses_iff_of_length_le hlength, allOffsets]
    by_cases hkind : kind = write
    · subst hkind
      rw [show payload first write = writePayload from rfl, run_writePayload_eq_error_iff hlength]
      by_cases hextended : isExtended src = true
      · by_cases hall : 24 ≤ src.length
        · rw [if_pos ⟨rfl, hextended, hall⟩, failsFrom_append]
          simp [hextended, hall, Nat.not_lt_of_le hall]
        · rw [if_neg (by simp [hall]), List.append_nil]
          simp [FailsFrom, hextended, hall, Nat.lt_of_not_le hall]
      · rw [if_neg (by simp [hextended]), List.append_nil]
        simp [hextended]
    · rw [if_neg (by simp [hkind]), List.append_nil, run_payload_eq_error_iff first hkind hlength]
      simp [hkind]

/-- No variant asks for 24 bytes before it looks at the payload. -/
lemma Refuses.isExtended_of_need (h : kind.Refuses src (.truncated 24 src.length)) :
    kind = write ∧ 8 ≤ src.length ∧ src.length < 24 ∧ isExtended src = true ∧
      corrupt? src write.offsets = none := by
  generalize hcause : ParseError.truncated 24 src.length = cause at h
  cases h with
  | short =>
      have hneed : 24 = kind.length := (ParseError.truncated.inj hcause).1
      cases kind <;> exact absurd hneed (by decide)
  | corrupt => cases hcause
  | shortExtended hlength hshort hextended hsymbols =>
      exact ⟨rfl, hlength, hshort, hextended, hsymbols⟩

/-! ## The variant that a buffer begins like -/

lemma begins_cons_iff {first : UInt8} {rest : List UInt8} :
    kind.Begins (first :: rest) ↔ first ∈ kind.firsts ∧ rest.head?.all kind.admits = true := by
  constructor
  · rintro ⟨⟨byte, hbyte, hfirst⟩, hsecond⟩
    obtain rfl : first = byte := by simpa using hfirst
    refine ⟨hbyte, ?_⟩
    cases rest with
    | nil => rfl
    | cons second rest => exact hsecond second rfl
  · rintro ⟨hfirst, hsecond⟩
    refine ⟨⟨first, hfirst, rfl⟩, fun byte hbyte => ?_⟩
    cases rest with
    | nil => exact absurd hbyte (by simp)
    | cons second rest =>
        obtain rfl : second = byte := by simpa using hbyte
        exact hsecond

/-- No buffer begins like two variants. -/
lemma Begins.unique {other : Kind} (h : kind.Begins src) (h' : other.Begins src) : kind = other := by
  obtain ⟨byte, hbyte, hfirst⟩ := h.first
  obtain ⟨byte', hbyte', hfirst'⟩ := h'.first
  obtain rfl : byte = byte' := Option.some.inj (hfirst.symm.trans hfirst')
  exact eq_of_mem_firsts hbyte hbyte'

end Kind

/-- A buffer begins like no command. -/
inductive Foreign : List UInt8 → Prop where
  /-- Nothing is there. -/
  | empty : Foreign []
  /-- The first byte starts no variant. -/
  | first {first : UInt8} {rest : List UInt8} (h : ∀ kind : Kind, first ∉ kind.firsts) :
      Foreign (first :: rest)
  /-- The second byte is not that of the identifier. -/
  | second {kind : Kind} {first second identifier : UInt8} {rest : List UInt8}
      (hfirst : first ∈ kind.firsts) (hidentifier : kind.second? = some identifier)
      (hne : second ≠ identifier) : Foreign (first :: second :: rest)

lemma foreign_iff {src : List UInt8} : Foreign src ↔ ∀ kind : Kind, ¬kind.Begins src := by
  constructor
  · rintro hforeign kind hbegins
    cases hforeign with
    | empty =>
        obtain ⟨byte, -, hbyte⟩ := hbegins.first
        exact absurd hbyte (by simp)
    | first h => exact h kind (Kind.begins_cons_iff.1 hbegins).1
    | @second kind' first second identifier rest hfirst hidentifier hne =>
        obtain ⟨hfirst', hsecond⟩ := Kind.begins_cons_iff.1 hbegins
        obtain rfl := Kind.eq_of_mem_firsts hfirst hfirst'
        exact hne (by simpa [Kind.admits, hidentifier] using hsecond)
  · intro hnone
    rcases src with _ | ⟨first, rest⟩
    · exact .empty
    · by_cases hforeign : ∀ kind : Kind, first ∉ kind.firsts
      · exact .first hforeign
      · obtain ⟨kind, hfirst⟩ := not_forall_not.1 hforeign
        have hsecond := hnone kind
        rw [Kind.begins_cons_iff, not_and] at hsecond
        rcases rest with _ | ⟨second, rest⟩
        · exact absurd rfl (hsecond hfirst)
        · have hadmits : kind.admits second = false := by simpa using hsecond hfirst
          cases hidentifier : kind.second? with
          | none => exact absurd hadmits (by simp [Kind.admits, hidentifier])
          | some identifier =>
              exact .second hfirst hidentifier (by simpa [Kind.admits, hidentifier] using hadmits)

/-! ## The answer of all parsers -/

/-- What begins like a variant fails as its procedure does. -/
lemma parse_of_begins {kind : Kind} {src : List UInt8} (h : kind.Begins src) :
    ∃ first, parse src = (kind.reader first).run src := by
  rcases src with _ | ⟨first, rest⟩
  · obtain ⟨byte, -, hbyte⟩ := h.first
    exact absurd hbyte (by simp)
  · obtain ⟨hfirst, hsecond⟩ := Kind.begins_cons_iff.1 h
    refine ⟨first, ?_⟩
    rw [parse_cons, Kind.ofFirst?_eq_some_iff.2 hfirst]
    exact if_pos hsecond

/-- What begins like no command is a mismatch. -/
lemma parse_of_foreign {src : List UInt8} (h : Foreign src) :
    parse src = .error .identifierMismatch := by
  cases h with
  | empty => exact parse_nil
  | first h =>
      have hkind : Kind.ofFirst? _ = none := List.find?_eq_none.2 fun kind _ => by simpa using h kind
      rw [parse_cons, hkind]
  | @second kind first second identifier rest hfirst hidentifier hne =>
      rw [parse_cons, Kind.ofFirst?_eq_some_iff.2 hfirst]
      exact if_neg (by simp [Kind.admits, hidentifier, hne])

/-- **Why bytes are no command.** -/
lemma parse_eq_error_iff {src : List UInt8} {cause : ParseError} :
    parse src = .error cause ↔
      cause = .identifierMismatch ∧ Foreign src ∨
        ∃ kind : Kind, kind.Begins src ∧ kind.Refuses src cause := by
  by_cases hforeign : Foreign src
  · have hnone := foreign_iff.1 hforeign
    rw [parse_of_foreign hforeign]
    simp [hforeign, hnone, eq_comm]
  · obtain ⟨kind, hbegins⟩ : ∃ kind : Kind, kind.Begins src := by
      simpa [foreign_iff] using hforeign
    obtain ⟨first, hparse⟩ := parse_of_begins hbegins
    rw [hparse, Kind.run_reader_eq_error_iff]
    constructor
    · exact fun hrefuses => .inr ⟨kind, hbegins, hrefuses⟩
    · rintro (⟨-, h⟩ | ⟨other, hother, hrefuses⟩)
      · exact absurd h hforeign
      · rwa [hbegins.unique hother]

/-- **Failures are classified exactly.**  A buffer that begins like no command is a mismatch.  One
that begins like a command begins like one variant, and it is refused because it is too short for
what every command of the variant has, or because of the first byte in reading order that should be
a symbol and is none.  It is refused as too short for 24 bytes exactly if it is the beginning of an
extended write of which all symbols of the first value are there.  No other failure is an answer. -/
theorem failures_are_classified (src : List UInt8) :
    (∀ cause, parse src = .error cause ↔
      cause = .identifierMismatch ∧ Foreign src ∨
        ∃ kind : Kind, kind.Begins src ∧ kind.Refuses src cause) ∧
    (∀ kind other : Kind, kind.Begins src → other.Begins src → kind = other) ∧
    (parse src = .error .identifierMismatch ↔ Foreign src) ∧
    (parse src = .error (.truncated 24 src.length) ↔
      Kind.write.Begins src ∧ 8 ≤ src.length ∧ src.length < 24 ∧ isExtended src = true ∧
        corrupt? src Kind.write.offsets = none) ∧
    (∀ byte, parse src ≠ .error (.invalidTriggerPattern byte)) ∧
    (∀ byte, parse src ≠ .error (.invalidAuroraCode byte)) ∧
    (∀ field value max, parse src ≠ .error (.fieldOutOfRange field value max)) ∧
    ∀ offset, parse src ≠ .error (.pastEnd offset) := by
  have hnever : ∀ cause, cause ≠ .identifierMismatch →
      (∀ kind : Kind, ¬kind.Refuses src cause) → parse src ≠ .error cause := by
    intro cause hcause hrefuses hparse
    rcases parse_eq_error_iff.1 hparse with ⟨hmismatch, -⟩ | ⟨kind, -, h⟩
    · exact hcause hmismatch
    · exact hrefuses kind h
  refine ⟨fun cause => parse_eq_error_iff, fun kind other h h' => h.unique h', ?_, ?_, ?_, ?_, ?_, ?_⟩
  · refine ⟨fun hparse => ?_, parse_of_foreign⟩
    rcases parse_eq_error_iff.1 hparse with ⟨-, hforeign⟩ | ⟨kind, -, hrefuses⟩
    · exact hforeign
    · cases hrefuses
  · rw [parse_eq_error_iff]
    constructor
    · rintro (⟨hmismatch, -⟩ | ⟨kind, hbegins, hrefuses⟩)
      · cases hmismatch
      · obtain ⟨rfl, hextended⟩ := hrefuses.isExtended_of_need
        exact ⟨hbegins, hextended⟩
    · rintro ⟨hbegins, hlength, hshort, hextended, hsymbols⟩
      exact .inr ⟨.write, hbegins, .shortExtended hlength hshort hextended hsymbols⟩
  · exact fun byte => hnever _ nofun nofun
  · exact fun byte => hnever _ nofun nofun
  · exact fun field value max => hnever _ nofun nofun
  · exact fun offset => hnever _ nofun nofun

/-- Of two corrupt bytes of a register write, the second in the buffer is read first. -/
example : parse [0x66, 0x66, 0x6A, 0x00, 0x01, 0x6A, 0x6A, 0x6A] =
    .error (.invalidSymbol 0x01 4) := by
  decide

end Command
end PixelChip
