import Mathlib.Tactic.Common
import PixelChip.Link.Command.Wire

/-!
# Reading a payload

A parser of a command reads symbols at fixed offsets, in an order of its own, and may ask for more
bytes on the way.  `Reader` writes such a procedure down as a tree, so that what holds of every
parser is proved once, by induction on the tree:

* `run_append`: bytes that arrive later do not change a verdict, unless the verdict was that bytes
  are missing;
* `run_eq_ok_iff`: a success is a path through the tree on which every byte looked at is the
  symbol of the value that was read;
* `specificity_of_run`: every failure says more than that the identifier did not match.

`Within limit n` says that the procedure looks at no byte before it knows that the byte is there,
given that `n` bytes are, and that it never asks for more than `limit` bytes.
-/

namespace PixelChip

/-! ## Verdicts -/

/-- Whether a parser answers that bytes are missing. -/
def isPending {α : Type} : Except ParseError α → Bool
  | .ok _ => false
  | .error cause => cause.isTruncated

@[simp] lemma isPending_ok {α : Type} (a : α) : isPending (.ok a) = false := rfl

@[simp] lemma isPending_error {α : Type} (cause : ParseError) :
    isPending (.error cause : Except ParseError α) = cause.isTruncated := rfl

/-! ## Symbols -/

lemma Symbol.decode?_eq_some_iff {byte : UInt8} {value : Fin 32} :
    Symbol.decode? byte = some value ↔ byte = Symbol.encode value := by
  constructor
  · intro h
    exact (Symbol.encode_of_decode? h).symm
  · rintro rfl
    exact Symbol.decode?_encode_fin value

@[simp] lemma Symbol.isSymbol_encode (value : Nat) : Symbol.isSymbol (Symbol.encode value) := by
  simp [Symbol.isSymbol, Symbol.decode?_encode]

/-- Encoding a value of more than five bits drops the others. -/
lemma Symbol.encode_mod (value : Nat) : Symbol.encode (value % 32) = Symbol.encode value :=
  congrArg Symbol.alphabet.get (Fin.ext (Nat.mod_mod value 32))

/-- The symbols of some values. -/
def Symbol.spell (values : List (Fin 32)) : List UInt8 :=
  values.map fun value => Symbol.encode value.val

@[simp] lemma Symbol.spell_nil : Symbol.spell [] = [] := rfl

@[simp] lemma Symbol.spell_cons (value : Fin 32) (values : List (Fin 32)) :
    Symbol.spell (value :: values) = Symbol.encode value.val :: Symbol.spell values := rfl

@[simp] lemma Symbol.length_spell (values : List (Fin 32)) :
    (Symbol.spell values).length = values.length := by
  simp [Symbol.spell]

lemma Symbol.isSymbol_of_mem_spell {values : List (Fin 32)} {byte : UInt8}
    (h : byte ∈ Symbol.spell values) : Symbol.isSymbol byte = true := by
  obtain ⟨value, -, rfl⟩ := List.mem_map.1 h
  exact Symbol.isSymbol_encode value.val

/-- The value of the symbol at an offset, as a number of five bits. -/
def valueAt (src : List UInt8) (offset : Nat) : Except ParseError (Fin 32) :=
  match src[offset]? with
  | none => .error (.pastEnd offset)
  | some byte =>
    match Symbol.decode? byte with
    | none => .error (.invalidSymbol byte offset)
    | some value => .ok value

/-- A parser that goes on with the value of a symbol goes on with a number of five bits. -/
lemma symbolAt_bind {β : Type} (src : List UInt8) (offset : Nat)
    (next : Nat → Except ParseError β) :
    (symbolAt src offset >>= next) = (valueAt src offset >>= fun value => next value.val) := by
  unfold symbolAt valueAt
  cases src[offset]? with
  | none => rfl
  | some byte =>
      simp only
      cases Symbol.decode? byte with
      | none => rfl
      | some value => rfl

lemma valueAt_eq_ok_iff {src : List UInt8} {offset : Nat} {value : Fin 32} :
    valueAt src offset = .ok value ↔ src[offset]? = some (Symbol.encode value) := by
  rw [valueAt]
  cases src[offset]? with
  | none => simp
  | some byte =>
      simp only [Option.some.injEq, ← Symbol.decode?_eq_some_iff]
      cases Symbol.decode? byte with
      | none => simp
      | some value' => simp

lemma valueAt_append {src : List UInt8} {offset : Nat} (h : offset < src.length)
    (later : List UInt8) : valueAt (src ++ later) offset = valueAt src offset := by
  rw [valueAt, valueAt, List.getElem?_append_left h]

/-- What is refused inside of a buffer is a byte that is no symbol. -/
lemma valueAt_error {src : List UInt8} {offset : Nat} {cause : ParseError}
    (h : offset < src.length) (herror : valueAt src offset = .error cause) :
    cause = .invalidSymbol src[offset] offset ∧ Symbol.isSymbol src[offset] = false := by
  rw [valueAt, List.getElem?_eq_getElem h] at herror
  simp only at herror
  cases hdecode : Symbol.decode? src[offset] with
  | none =>
      rw [hdecode] at herror
      exact ⟨(Except.error.inj herror).symm, by simp [Symbol.isSymbol, hdecode]⟩
  | some value =>
      rw [hdecode] at herror
      exact absurd herror (by simp)

/-! ## Procedures -/

/-- A procedure that reads a payload. -/
inductive Reader (α : Type) where
  /-- All has been read. -/
  | done (result : α)
  /-- Asks for a buffer of at least `length` bytes. -/
  | need (length : Nat) (next : Reader α)
  /-- Reads the symbol at an offset. -/
  | symbol (offset : Nat) (next : Fin 32 → Reader α)

namespace Reader

variable {α : Type}

/-- Runs the procedure on a buffer. -/
def run (src : List UInt8) : Reader α → Except ParseError α
  | done result => .ok result
  | need length next =>
    if src.length < length then .error (.truncated length src.length) else next.run src
  | symbol offset next => do
    let value ← valueAt src offset
    (next value).run src

/-- Reads the symbols at several offsets. -/
def symbols : List Nat → (List (Fin 32) → Reader α) → Reader α
  | [], next => next []
  | offset :: offsets, next =>
    symbol offset fun value => symbols offsets fun values => next (value :: values)

/-- When `n` bytes are known to be there, the procedure only looks at bytes that are known to be
there, and asks for at most `limit` bytes. -/
def Within (limit : Nat) : Nat → Reader α → Prop
  | _, done _ => True
  | n, need length next => length ≤ limit ∧ next.Within limit (max n length)
  | n, symbol offset next => offset < n ∧ ∀ value, (next value).Within limit n

/-- The procedure can end with a result: every byte on the way is the symbol of the value read. -/
def Accepts (src : List UInt8) (a : α) : Reader α → Prop
  | done result => a = result
  | need length next => length ≤ src.length ∧ next.Accepts src a
  | symbol offset next =>
    ∃ value : Fin 32, src[offset]? = some (Symbol.encode value) ∧ (next value).Accepts src a

/-! ### Several symbols -/

/-- A parser that goes on with the values of several symbols is a procedure, if what it goes on
with is. -/
lemma symbolsAt_bind {src : List UInt8} {offsets : List Nat} {next : List Nat → Except ParseError α}
    {reader : List (Fin 32) → Reader α}
    (h : ∀ values : List (Fin 32), next (values.map Fin.val) = (reader values).run src) :
    (symbolsAt src offsets >>= next) = (symbols offsets reader).run src := by
  induction offsets generalizing next reader with
  | nil => exact h []
  | cons offset offsets ih =>
      rw [symbolsAt, symbols, run]
      simp only [bind_assoc, pure_bind, symbolAt_bind]
      congr 1
      funext value
      exact ih fun values => h (value :: values)

lemma within_symbols {limit n : Nat} {offsets : List Nat} {next : List (Fin 32) → Reader α}
    (hoffsets : ∀ offset ∈ offsets, offset < n) (hnext : ∀ values, (next values).Within limit n) :
    (symbols offsets next).Within limit n := by
  induction offsets generalizing next with
  | nil => exact hnext []
  | cons offset offsets ih =>
      refine ⟨hoffsets offset List.mem_cons_self, fun value => ?_⟩
      exact ih (fun o ho => hoffsets o (List.mem_cons_of_mem offset ho)) fun values => hnext _

/-- Reading a stretch of symbols accepts a buffer that has the symbols of some values there. -/
lemma accepts_symbols_range' {src : List UInt8} {a : α} {start count : Nat}
    {next : List (Fin 32) → Reader α} :
    (symbols (List.range' start count) next).Accepts src a ↔
      ∃ values : List (Fin 32), values.length = count ∧
        Symbol.spell values <+: src.drop start ∧
        (next values).Accepts src a := by
  induction count generalizing start next with
  | zero => simp [symbols]
  | succ count ih =>
      rw [List.range'_succ, symbols, Accepts]
      constructor
      · rintro ⟨value, hvalue, haccepts⟩
        obtain ⟨values, rfl, hprefix, hnext⟩ := ih.1 haccepts
        refine ⟨value :: values, rfl, ?_, hnext⟩
        obtain ⟨hlt, hget⟩ := List.getElem?_eq_some_iff.1 hvalue
        rw [List.drop_eq_getElem_cons hlt, hget, Symbol.spell_cons]
        exact (List.prefix_cons_inj _).2 hprefix
      · rintro ⟨values, hlength, hprefix, hnext⟩
        obtain _ | ⟨value, values⟩ := values
        · exact absurd hlength (by simp)
        · have hlt : start < src.length := by
            have := hprefix.length_le
            simp only [Symbol.length_spell, List.length_cons, List.length_drop] at this
            omega
          rw [List.drop_eq_getElem_cons hlt, Symbol.spell_cons, List.cons_prefix_cons] at hprefix
          refine ⟨value, ?_, ih.2 ⟨values, by simpa using hlength, hprefix.2, hnext⟩⟩
          rw [List.getElem?_eq_getElem hlt, hprefix.1]

/-! ### Running a procedure -/

theorem run_eq_ok_iff (reader : Reader α) (src : List UInt8) (a : α) :
    reader.run src = .ok a ↔ reader.Accepts src a := by
  induction reader with
  | done result => simp [run, Accepts, eq_comm]
  | need length next ih =>
      rw [run, Accepts, ← ih]
      by_cases h : src.length < length
      · simp [h, Nat.not_le_of_lt h]
      · simp [h, Nat.le_of_not_lt h]
  | symbol offset next ih =>
      rw [run, Accepts]
      simp only [← ih, ← valueAt_eq_ok_iff]
      cases valueAt src offset with
      | error cause => simp [bind, Except.bind]
      | ok value => simp [bind, Except.bind]

/-- **A verdict is final.**  Unless the procedure answers that bytes are missing, bytes that
arrive later do not change its answer. -/
theorem run_append {reader : Reader α} {limit n : Nat} {src : List UInt8}
    (hwithin : reader.Within limit n) (hn : n ≤ src.length)
    (hpending : isPending (reader.run src) = false) (later : List UInt8) :
    reader.run (src ++ later) = reader.run src := by
  induction reader generalizing n with
  | done result => rfl
  | need length next ih =>
      rw [run] at hpending ⊢
      rw [run]
      by_cases h : src.length < length
      · -- The answer is that bytes are missing, which is excluded.
        rw [if_pos h] at hpending
        exact absurd hpending (by simp [ParseError.isTruncated])
      · have hlater : ¬(src ++ later).length < length := by
          rw [List.length_append]
          omega
        rw [if_neg h] at hpending ⊢
        rw [if_neg hlater]
        exact ih hwithin.2 (by omega) hpending
  | symbol offset next ih =>
      obtain ⟨hoffset, hnext⟩ := hwithin
      rw [run] at hpending ⊢
      rw [run, valueAt_append (by omega)]
      cases hvalue : valueAt src offset with
      | error cause => rfl
      | ok value =>
          rw [hvalue] at hpending
          exact ih value (hnext value) hn hpending

/-- A failure is a request for bytes that the buffer does not have, or a byte that is no symbol. -/
theorem run_error {reader : Reader α} {limit n : Nat} {src : List UInt8} {cause : ParseError}
    (hwithin : reader.Within limit n) (hn : n ≤ src.length) (h : reader.run src = .error cause) :
    (∃ length ≤ limit, src.length < length ∧ cause = .truncated length src.length) ∨
      ∃ offset, ∃ hlt : offset < src.length,
        cause = .invalidSymbol src[offset] offset ∧ Symbol.isSymbol src[offset] = false := by
  induction reader generalizing n with
  | done result => exact absurd h (by simp [run])
  | need length next ih =>
      obtain ⟨hlimit, hnext⟩ := hwithin
      rw [run] at h
      by_cases hshort : src.length < length
      · rw [if_pos hshort] at h
        exact .inl ⟨length, hlimit, hshort, (Except.error.inj h).symm⟩
      · rw [if_neg hshort] at h
        exact ih hnext (by omega) h
  | symbol offset next ih =>
      obtain ⟨hoffset, hnext⟩ := hwithin
      rw [run] at h
      cases hvalue : valueAt src offset with
      | error cause' =>
          have hlt : offset < src.length := by omega
          rw [hvalue] at h
          obtain rfl : cause' = cause := Except.error.inj h
          exact .inr ⟨offset, hlt, valueAt_error hlt hvalue⟩
      | ok value =>
          rw [hvalue] at h
          exact ih value (hnext value) hn h

/-- Every failure says more than that the identifier did not match. -/
theorem specificity_of_run {reader : Reader α} {limit n : Nat} {src : List UInt8}
    {cause : ParseError} (hwithin : reader.Within limit n) (hn : n ≤ src.length)
    (h : reader.run src = .error cause) : 0 < cause.specificity := by
  rcases run_error hwithin hn h with ⟨length, -, -, rfl⟩ | ⟨offset, hlt, rfl, -⟩
  · simp [ParseError.specificity]
  · simp [ParseError.specificity]

/-- A buffer that the procedure finds too short is shorter than the most that it asks for. -/
theorem length_lt_of_run {reader : Reader α} {limit n : Nat} {src : List UInt8}
    (hwithin : reader.Within limit n) (hn : n ≤ src.length)
    (hpending : isPending (reader.run src) = true) : src.length < limit := by
  cases hrun : reader.run src with
  | ok a => exact absurd hpending (by simp [hrun])
  | error cause =>
      rw [hrun, isPending_error] at hpending
      rcases run_error hwithin hn hrun with ⟨length, hlimit, hshort, -⟩ | ⟨offset, hlt, rfl, -⟩
      · omega
      · exact absurd hpending (by simp [ParseError.isTruncated])

end Reader
end PixelChip
