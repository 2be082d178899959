import PixelChip.Dissect.Dissection
import PixelChip.Dissect.Help

/-!
# Command line of the dissector

    CAPTURE [-l|--link command|data] [-f|--format hex|binary] [-x|--hex] [-o|--output FILE]
      [--no-color] [-d|--debug] [-h|--help] [-V|--version]

Long options take their value after `=` or as the next argument, short ones also directly. Short
options may be joined, the last of them with a value. After `--` every argument is the name of the
capture. An option or capture given twice, an unknown option, a flag with a value and an option
without one are refused, as is a missing capture. Arguments are read from left to right up to the
first that is refused or asks for help. The long name asks for the full help, the short one for a
summary.
-/

namespace PixelChip

/-- How a capture file stores its bytes. -/
inductive CaptureFormat where
  | hex
  | binary
  deriving DecidableEq, Repr

/-- What to dissect and how. -/
structure DissectOptions where
  input : String
  link : Link
  format : CaptureFormat
  showRawHex : Bool
  output : Option String
  noColor : Bool
  debug : Bool
  deriving DecidableEq, Repr

/-- What a command line asks for. -/
inductive DissectRequest where
  | dissect (options : DissectOptions)
  | help (form : HelpForm)
  | version
  | usageError
  deriving DecidableEq, Repr

namespace DissectRequest

/-- An option that takes a value. -/
inductive ValueOption where
  | link
  | format
  | output
  deriving DecidableEq, Repr

/-- An option without a value. -/
inductive FlagOption where
  | hex
  | noColor
  | debug
  | help (form : HelpForm)
  | version
  deriving DecidableEq, Repr

/-- An option of either kind. -/
inductive AnyOption where
  | value (option : ValueOption)
  | flag (option : FlagOption)
  deriving DecidableEq, Repr

/-- The option with a long name. -/
def ofLongName? (name : List Char) : Option AnyOption :=
  match String.ofList name with
  | "link" => some (.value .link)
  | "format" => some (.value .format)
  | "output" => some (.value .output)
  | "hex" => some (.flag .hex)
  | "no-color" => some (.flag .noColor)
  | "debug" => some (.flag .debug)
  | "help" => some (.flag (.help .full))
  | "version" => some (.flag .version)
  | _ => none

/-- The option with a short name. -/
def ofShortName? : Char → Option AnyOption
  | 'l' => some (.value .link)
  | 'f' => some (.value .format)
  | 'o' => some (.value .output)
  | 'x' => some (.flag .hex)
  | 'd' => some (.flag .debug)
  | 'h' => some (.flag (.help .summary))
  | 'V' => some (.flag .version)
  | _ => none

/-- What the arguments read so far have given. -/
structure Given where
  input : Option String
  link : Option Link
  format : Option CaptureFormat
  output : Option String
  hex : Bool
  noColor : Bool
  debug : Bool

/-- Nothing was given. -/
def Given.nothing : Given := ⟨none, none, none, none, false, false, false⟩

/-- Why reading stops before the end of the arguments. -/
inductive Stop where
  | help (form : HelpForm)
  | version
  | usageError

/-- A value for a place that may be filled once. -/
def once {α : Type} (old : Option α) (new : Option α) : Except Stop (Option α) :=
  match old, new with
  | none, some value => .ok (some value)
  | _, _ => .error .usageError

/-- A file name: anything but the empty text. -/
def fileName? (text : List Char) : Option String :=
  if text.isEmpty then none else some (String.ofList text)

/-- Takes the value of an option. -/
def Given.setValue (given : Given) (option : ValueOption) (text : List Char) :
    Except Stop Given := do
  match option with
  | .link =>
    let link := match String.ofList text with
      | "command" => some Link.command
      | "data" => some Link.data
      | _ => none
    return { given with link := ← once given.link link }
  | .format =>
    let format := match String.ofList text with
      | "hex" => some CaptureFormat.hex
      | "binary" => some CaptureFormat.binary
      | _ => none
    return { given with format := ← once given.format format }
  | .output => return { given with output := ← once given.output (fileName? text) }

/-- Takes a flag, which may be given once. -/
def Given.setFlag (given : Given) (option : FlagOption) : Except Stop Given :=
  match option with
  | .hex => if given.hex then .error .usageError else .ok { given with hex := true }
  | .noColor => if given.noColor then .error .usageError else .ok { given with noColor := true }
  | .debug => if given.debug then .error .usageError else .ok { given with debug := true }
  | .help form => .error (.help form)
  | .version => .error .version

/-- Takes the name of the capture. -/
def Given.setInput (given : Given) (text : List Char) : Except Stop Given := do
  return { given with input := ← once given.input (fileName? text) }

/-- Reads a long option without its two dashes. An option that takes a value and has none is
waiting for the next argument. -/
def readLong (given : Given) (text : List Char) : Except Stop (Given × Option ValueOption) := do
  match ofLongName? (text.takeWhile (· ≠ '=')), text.dropWhile (· ≠ '=') with
  | none, _ => .error .usageError
  | some (.flag option), [] => return (← given.setFlag option, none)
  | some (.flag _), _ :: _ => .error .usageError
  | some (.value option), [] => return (given, some option)
  | some (.value option), _ :: value => return (← given.setValue option value, none)

/-- Reads joined short options without their dash. -/
def readShort (given : Given) : List Char → Except Stop (Given × Option ValueOption)
  | [] => .ok (given, none)
  | name :: rest =>
    match ofShortName? name with
    | none => .error .usageError
    | some (.flag option) => do readShort (← given.setFlag option) rest
    | some (.value option) => do
      match rest with
      | [] => return (given, some option)
      | '=' :: value => return (← given.setValue option value, none)
      | value => return (← given.setValue option value, none)

/-- Reads arguments. `waiting` is an option whose value is the next argument, and `namesOnly` holds
after `--`. -/
def readFrom (given : Given) (waiting : Option ValueOption) (namesOnly : Bool) :
    List (List Char) → Except Stop Given
  | [] => if waiting.isSome then .error .usageError else .ok given
  | argument :: rest =>
    if namesOnly then do readFrom (← given.setInput argument) none true rest
    else match waiting, argument with
      | some _, '-' :: _ :: _ => .error .usageError
      | some option, value => do readFrom (← given.setValue option value) none false rest
      | none, ['-', '-'] => readFrom given none true rest
      | none, '-' :: '-' :: option => do
        let (given, waiting) ← readLong given option
        readFrom given waiting false rest
      | none, '-' :: name :: names => do
        let (given, waiting) ← readShort given (name :: names)
        readFrom given waiting false rest
      | none, name => do readFrom (← given.setInput name) none false rest

/-- What a command line asks for. The link is that to the host and the format hexadecimal unless
given otherwise. -/
def ofArguments (arguments : List String) : DissectRequest :=
  match readFrom .nothing none false (arguments.map String.toList) with
  | .error (.help form) => .help form
  | .error .version => .version
  | .error .usageError => .usageError
  | .ok given =>
    match given.input with
    | none => .usageError
    | some input =>
      .dissect
        { input
          link := given.link.getD .data
          format := given.format.getD .hex
          showRawHex := given.hex
          output := given.output
          noColor := given.noColor
          debug := given.debug }

end DissectRequest
end PixelChip
