import PixelChip.Log.Record
import PixelChip.Text.Alphanumeric
import PixelChip.Text.Number
import PixelChip.Text.Slice

/-!
# Directives of a log filter

A directive gives a verbosity to the records that it applies to. It is a verbosity alone (`debug`),
for all records, or it has the form `target[span{name=value}]=verbosity`, in which every part may be
left out. Without a verbosity everything is shown.

* The target is the beginning of the path of the parts of the program that are meant.
* A name in braces asks for records that have a value of this name.
* A span, or a value for the name, asks for records made while such a span is open. The program
  opens no spans, so a directive with one of them applies to nothing.

The marks are looked for in the word without the blanks around it. The pieces between them are then
cut, at the places found, from the word as it stands. So a blank in front moves every piece, and a
blank behind belongs to the last one.
-/

namespace PixelChip

/-- What a directive asks of the values of a record. -/
structure ValueCondition where
  name : String
  value : Option String
  deriving DecidableEq, Repr

/-- A verbosity for the records that it applies to. -/
structure LogDirective where
  /-- Empty for all parts of the program. -/
  target : String
  span : Option String := none
  condition : Option ValueCondition := none
  verbosity : Nat
  deriving DecidableEq, Repr

/-- Why a word is no directive. -/
inductive LogDirectiveError where
  | malformed
  /-- What follows the `=` is no verbosity. -/
  | unknownVerbosity
  deriving DecidableEq, Repr

/-- The text that reports the error. -/
def LogDirectiveError.message : LogDirectiveError → String
  | malformed => "invalid filter directive"
  | unknownVerbosity =>
    "error parsing level filter: expected one of \"off\", \"error\", \"warn\", \"info\", "
      ++ "\"debug\", \"trace\", or a number 0-5"

/-- The condition in a text. The name ends at the first `=`, and the value behind it at the next. -/
def ValueCondition.ofText (text : List Char) : ValueCondition :=
  { name := String.ofList (text.takeWhile (· ≠ '='))
    value :=
      match text.dropWhile (· ≠ '=') with
      | [] => none
      | _ :: value => some (String.ofList (value.takeWhile (· ≠ '='))) }

namespace LogDirective

/-! ## Reading -/

/-- The verbosity at which everything is shown. -/
def fullVerbosity : Nat := LogLevel.trace.verbosity

/-- The verbosity that a number up to the full one, or a word in any letter case, stands for. -/
def verbosity? (word : List Char) : Option Nat :=
  match Text.unsigned? (fullVerbosity + 1) word with
  | some number => some number
  | none =>
    match String.ofList (word.map Char.toLower) with
    | "off" => some 0
    | "error" => some LogLevel.error.verbosity
    | "warn" => some LogLevel.warn.verbosity
    | "info" => some LogLevel.info.verbosity
    | "debug" => some LogLevel.debug.verbosity
    | "trace" => some LogLevel.trace.verbosity
    | _ => none

/-- Whether a target may begin with a character. -/
def startsTarget (c : Char) : Bool :=
  c = '-' || c = ':' || c = '_' || Text.isAlphanumeric c

/-- The rest of a word as it stands, from the place where `rest` begins in the word without the
blanks around it. -/
def remainder (word rest : List Char) : List Char :=
  Text.dropBytes (Text.byteLength (Text.trim word) - Text.byteLength rest) word

/-- The piece of a word as it stands, between the places where `first` and then `rest` begin in the
word without the blanks around it. -/
def piece (word first rest : List Char) : List Char :=
  Text.takeBytes (Text.byteLength first - Text.byteLength rest) (remainder word first)

/-- The verbosity that ends a directive: a word after `=`, or none. -/
def ending (word : List Char) : List Char → Except LogDirectiveError Nat
  | [] => .ok fullVerbosity
  | '=' :: rest =>
    match remainder word rest with
    | [] => .ok fullVerbosity
    | level => (verbosity? level).elim (.error .unknownVerbosity) .ok
  | _ => .error .malformed

/-- What stands in brackets, and what follows the closing one. An empty span in front of a brace is
none, an empty condition is refused. -/
def bracketed (word inside : List Char) :
    Except LogDirectiveError (Option String × Option ValueCondition × List Char) :=
  match inside.dropWhile fun c => c ≠ ']' && c ≠ '\x7b' with
  | ']' :: rest => .ok (some (String.ofList (piece word inside (']' :: rest))), none, rest)
  | '\x7b' :: braced =>
    let span := piece word inside ('\x7b' :: braced)
    match braced.dropWhile (· ≠ '\x7d') with
    | '\x7d' :: ']' :: rest =>
      let condition := piece word braced ('\x7d' :: ']' :: rest)
      if condition.isEmpty then .error .malformed
      else
        .ok (if span.isEmpty then none else some (String.ofList span),
          some (ValueCondition.ofText condition), rest)
    | _ => .error .malformed
  | _ => .error .malformed

/-- The directive that a word without commas denotes. A word without marks is a verbosity if it
can be, and a target else. -/
def parse (word : List Char) : Except LogDirectiveError LogDirective :=
  let text := Text.trim word
  match text with
  | [] => .error .malformed
  | first :: _ =>
    let rest := text.dropWhile fun c => c ≠ '=' && c ≠ '['
    let target := String.ofList (piece word text rest)
    if first ≠ '[' && !startsTarget first then .error .malformed
    else match rest with
      | [] =>
        match verbosity? word with
        | some verbosity => .ok { target := "", verbosity }
        | none => .ok { target := String.ofList word, verbosity := fullVerbosity }
      | '[' :: inside => do
        let (span, condition, rest) ← bracketed word inside
        return { target, span, condition, verbosity := ← ending word rest }
      | rest => return { target, verbosity := ← ending word rest }

/-! ## Meaning -/

/-- Whether a record has a value of some name. Its message counts as one. -/
def hasValue (record : LogRecord) (name : String) : Bool :=
  name = "message" || record.values.any (·.1 = name)

/-- Whether the directive applies to a record. -/
def applies (directive : LogDirective) (record : LogRecord) : Bool :=
  record.target.startsWith directive.target && directive.span.isNone
    && directive.condition.all fun condition =>
      condition.value.isNone && hasValue record condition.name

/-- The name that the directive asks for, empty if it asks for none. -/
def name (directive : LogDirective) : String :=
  directive.condition.elim "" (·.name)

/-- Whether the directive is no more specific than another one that applies to the same record: by
the length of the target, then by the order of the names in the dictionary. -/
def isAtMost (directive other : LogDirective) : Bool :=
  directive.target.length < other.target.length
    || directive.target.length = other.target.length
      && !other.name.toList.lex directive.name.toList fun c d => c.toNat < d.toNat

end LogDirective
end PixelChip
