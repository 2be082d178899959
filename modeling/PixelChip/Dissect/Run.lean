import PixelChip.Dissect.CommandLine
import PixelChip.Dissect.HexDigits
import PixelChip.Dissect.HexDump
import PixelChip.Dissect.Report
import PixelChip.Log.Decoding
import PixelChip.Log.Filter
import PixelChip.OsError

/-!
# Running the dissector

A run of the dissector is a function of its arguments and surroundings: the files that it may read,
whether it may create the file that it is to write, the filter for its log, and whether its output
is a terminal. It answers with what it prints, what it writes, and the exit status.

A failure is reported as a chain of causes, the outermost first.
-/

namespace PixelChip

/-- What a run can see. -/
structure Surroundings where
  /-- The bytes of a file. -/
  read : String → Except OsError (List UInt8)
  /-- Whether a file can be created. -/
  create : String → Except OsError Unit
  /-- The filter for the log, if one is set. -/
  logFilter : Option String
  /-- Whether the output goes to a terminal. -/
  terminal : Bool

/-- What a run does. -/
structure Outcome where
  exit : Nat
  /-- Log records, printed before anything else. -/
  records : List LogRecord
  /-- Lines printed. -/
  printed : List String
  /-- Lines reported as errors. -/
  reported : List String
  /-- A file written, with its lines. -/
  written : Option (String × List String)

namespace Dissector

/-- The lines that report a chain of causes. Causes of causes are numbered if there are several. -/
def reportLines : List String → List String
  | [] => ["Error: "]
  | [failure] => ["Error: " ++ failure]
  | [failure, cause] => ["Error: " ++ failure, "", "Caused by:", "    " ++ cause]
  | failure :: causes =>
    ["Error: " ++ failure, "", "Caused by:"]
      ++ causes.zipIdx.map fun (cause, i) => "    " ++ Text.decimal i ++ ": " ++ cause

/-- The bytes of a capture file, or the causes why there are none. -/
def readCapture (surroundings : Surroundings) (path : String) (format : CaptureFormat) :
    Except (List String) (List UInt8) := do
  match surroundings.read path with
  | .error error => .error ["Failed to read " ++ Text.quoted path.toList, error.message]
  | .ok raw =>
    match format with
    | .binary => return raw
    | .hex =>
      match Text.decodeUtf8 raw with
      | .error error => .error ["Hex capture is not valid UTF-8", error.message]
      | .ok text => (HexDump.parse text).mapError HexDumpError.causes

/-- The log records of decoding a capture. -/
def decodingRecords (link : Link) (capture : List UInt8) : List LogRecord :=
  match link with
  | .command => Decoding.bufferRecords Command capture
  | .data => Decoding.bufferRecords Frame capture

/-- The records that a run shows, and the lines about words of the filter that are no directives.
Only a run with debug output has a log. -/
def log (surroundings : Surroundings) (options : DissectOptions) (records : List LogRecord) :
    List LogRecord × List String :=
  if options.debug then
    let (filter, refused) := LogFilter.parse .debug (surroundings.logFilter.getD "")
    (records.filter filter.admits,
     refused.map fun (word, error) => "ignoring `" ++ word ++ "`: " ++ error.message)
  else ([], [])

/-- Runs with options that were accepted. -/
def dissect (surroundings : Surroundings) (options : DissectOptions) : Outcome :=
  match readCapture surroundings options.input options.format with
  | .error causes =>
    let (_, ignored) := log surroundings options []
    { exit := 1
      records := []
      printed := []
      reported := ignored
        ++ reportLines (("Failed to load capture: " ++ Text.quoted options.input.toList) :: causes)
      written := none }
  | .ok capture =>
    let (records, ignored) := log surroundings options (decodingRecords options.link capture)
    let style : ReportStyle :=
      { showRawHex := options.showRawHex
        useColor := !options.noColor && options.output.isNone && surroundings.terminal }
    let lines := Report.texts style options.link capture
    match options.output with
    | none => { exit := 0, records, printed := lines, reported := ignored, written := none }
    | some path =>
      match surroundings.create path with
      | .ok () =>
        { exit := 0, records, printed := [], reported := ignored, written := some (path, lines) }
      | .error error =>
        { exit := 1
          records
          printed := []
          reported := ignored ++ reportLines
            ["Failed to create output file: " ++ Text.quoted path.toList, error.message]
          written := none }

/-- Runs with some arguments. -/
def run (surroundings : Surroundings) (arguments : List String) : Outcome :=
  match DissectRequest.ofArguments arguments with
  | .dissect options => dissect surroundings options
  | .help form =>
    { exit := 0, records := [], printed := DissectHelp.lines form, reported := [], written := none }
  | .version =>
    { exit := 0, records := [], printed := [DissectHelp.version], reported := [], written := none }
  | .usageError =>
    { exit := 2, records := [], printed := [], reported := ["Invalid arguments"], written := none }

end Dissector
end PixelChip
