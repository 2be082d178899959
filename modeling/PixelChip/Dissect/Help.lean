/-!
# Help on the command line of the dissector

The arguments and options, each with a text. The summary gives a line to each, the full help a
paragraph, in which a value is explained if there is something to say about it.
-/

namespace PixelChip

/-- How much help is asked for. -/
inductive HelpForm where
  | summary
  | full
  deriving DecidableEq, Repr

/-- A value that an option accepts. -/
structure HelpValue where
  name : String
  meaning : Option String := none

/-- An argument or option as help shows it. -/
structure HelpEntry where
  term : String
  text : String
  default : Option String := none
  values : List HelpValue := []

namespace HelpEntry

/-- Whether the full help explains the values. -/
def explainsValues (entry : HelpEntry) : Bool :=
  entry.values.any (·.meaning.isSome)

/-- Notes in brackets: the default, and the values unless they are explained. -/
def notes (form : HelpForm) (entry : HelpEntry) : List String :=
  let default := entry.default.toList.map fun name => "[default: " ++ name ++ "]"
  if entry.values.isEmpty || form = .full && entry.explainsValues then default
  else default
    ++ ["[possible values: " ++ ", ".intercalate (entry.values.map (·.name)) ++ "]"]

/-- A text filled with blanks up to a width. -/
def fill (width : Nat) (text : String) : String :=
  String.ofList (text.toList.rightpad width ' ')

/-- The line of the entry in a summary, with its text in the given column. -/
def summaryLine (column : Nat) (entry : HelpEntry) : String :=
  fill column ("  " ++ entry.term) ++ " ".intercalate (entry.text :: entry.notes .summary)

/-- The indentation of paragraphs. -/
def indent : String := "          "

/-- The paragraph of the entry in the full help. -/
def paragraph (entry : HelpEntry) : List String :=
  let notes := entry.notes .full
  let width := (entry.values.map (·.name.length)).foldl max 0
  ["  " ++ entry.term, indent ++ entry.text]
    ++ (if notes.isEmpty then [] else indent :: notes.map (indent ++ ·))
    ++ (if entry.explainsValues then
        ["", indent ++ "Possible values:"] ++ entry.values.map fun value =>
          indent ++ "- " ++ match value.meaning with
            | some meaning => fill (width + 2) (value.name ++ ":") ++ meaning
            | none => value.name
      else [])

end HelpEntry

namespace DissectHelp

/-- The name of the program and its version. -/
def version : String := "rd53-dissect 0.1.0"

/-- The arguments. -/
def arguments : List HelpEntry :=
  [{ term := "<INPUT>", text := "Capture file" }]

/-- The options. -/
def options (form : HelpForm) : List HelpEntry :=
  [{ term := "-l, --link <LINK>", text := "Link the capture was taken on", default := "data"
     values := [⟨"command", "Host to chip"⟩, ⟨"data", "Chip to host"⟩] },
   { term := "-f, --format <FORMAT>", text := "Capture file format", default := "hex"
     values := [⟨"hex", none⟩, ⟨"binary", none⟩] },
   { term := "-x, --hex", text := "Show raw hex data for each item" },
   { term := "-o, --output <OUTPUT>", text := "Output file (default: stdout)" },
   { term := "    --no-color", text := "Disable colored output" },
   { term := "-d, --debug", text := "Enable debug logging" },
   { term := "-h, --help"
     text := match form with
       | .summary => "Print help (see more with '--help')"
       | .full => "Print help (see a summary with '-h')" },
   { term := "-V, --version", text := "Print version" }]

/-- The entries in a form of help. Texts of a summary stand two columns behind the longest term. -/
def entryLines (form : HelpForm) (entries : List HelpEntry) : List String :=
  match form with
  | .summary =>
    let column := (entries.map (·.term.length)).foldl max 0 + 4
    entries.map (·.summaryLine column)
  | .full => [""].intercalate (entries.map (·.paragraph))

/-- The lines of the help. -/
def lines (form : HelpForm) : List String :=
  ["Dissector for RD53A command and data link captures", "",
   "Usage: rd53-dissect [OPTIONS] <INPUT>", "", "Arguments:"]
    ++ entryLines form arguments ++ ["", "Options:"] ++ entryLines form (options form)

end DissectHelp
end PixelChip
