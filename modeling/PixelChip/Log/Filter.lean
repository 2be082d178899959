import PixelChip.Log.Directive

/-!
# Log filters

A filter decides which records are printed. It is a list of directives separated by commas. Of the
directives that apply to a record the most specific one decides, the last of equal ones. Where none
applies nothing is printed.
-/

namespace PixelChip

/-- Which records are printed. -/
structure LogFilter where
  directives : List LogDirective
  deriving DecidableEq, Repr

namespace LogFilter

/-- The filter that a text denotes, and the words in it that are no directives. A text without any
directive stands for the default verbosity. -/
def parse (default : LogLevel) (text : String) : LogFilter × List (String × LogDirectiveError) :=
  let words := (text.splitOn ",").filter (· ≠ "")
  let directives := words.filterMap fun word => (LogDirective.parse word.toList).toOption
  let refused := words.filterMap fun word =>
    match LogDirective.parse word.toList with
    | .ok _ => none
    | .error error => some (word, error)
  ({ directives :=
      if directives.isEmpty then [{ target := "", verbosity := default.verbosity }]
      else directives },
   refused)

/-- The directive that decides about a record. -/
def deciding (filter : LogFilter) (record : LogRecord) : Option LogDirective :=
  (filter.directives.filter (·.applies record)).foldl (fun best directive =>
    if best.all (·.isAtMost directive) then some directive else best) none

/-- Whether a record is printed. -/
def admits (filter : LogFilter) (record : LogRecord) : Bool :=
  record.level.verbosity ≤ (filter.deciding record).elim 0 (·.verbosity)

end LogFilter
end PixelChip
