/-!
# Log records

A record has a level, the part of the program that it comes from, a message and named values. It is
printed as a line with the time of day and the message, and if there are values a second line with
them, indented under the name of the part.
-/

namespace PixelChip

/-- How important a record is. -/
inductive LogLevel where
  | error
  | warn
  | info
  | debug
  | trace
  deriving DecidableEq, Repr

namespace LogLevel

/-- Records of a level are shown from this verbosity on. -/
def verbosity : LogLevel → Nat
  | error => 1
  | warn => 2
  | info => 3
  | debug => 4
  | trace => 5

/-- The level in five characters. -/
def name : LogLevel → String
  | error => "ERROR"
  | warn => "WARN "
  | info => "INFO "
  | debug => "DEBUG"
  | trace => "TRACE"

/-- The terminal code of the colour of the level. -/
def color : LogLevel → String
  | error => "31"
  | warn => "33"
  | info => "32"
  | debug => "34"
  | trace => "35"

end LogLevel

/-- Parts of the program that log, below the path of the program itself. -/
def programPath : String := "rd53_emulator::"

/-- A log record. -/
structure LogRecord where
  level : LogLevel
  /-- The part of the program, without the path of the program. -/
  part : String
  message : String
  /-- Names and values, in order. -/
  values : List (String × String)
  deriving DecidableEq, Repr

namespace LogRecord

/-- The full path of the part, which filters refer to. -/
def target (record : LogRecord) : String :=
  programPath ++ record.part

/-- The printed record, with a given time of day. -/
def text (time : String) (record : LogRecord) : String :=
  let first := time ++ " \x1b[" ++ record.level.color ++ "m" ++ record.level.name ++ "\x1b[0m "
    ++ record.part ++ ": " ++ record.message
  match record.values with
  | [] => first
  | values =>
    first ++ "\n\x1b[90m               "
      ++ ", ".intercalate (values.map fun (name, value) => name ++ "=" ++ value) ++ "\x1b[0m"

end LogRecord
end PixelChip
