/-!
# Output modes

Which frames a chip outputs. A mode is named by a word, in any letter case, or by a number.
-/

namespace PixelChip

/-- Which frames a chip outputs. Frames that a mode suppresses still count as slots. -/
inductive OutputMode where
  /-- Data and service frames. -/
  | all
  /-- Data frames only. -/
  | dataOnly
  /-- Service frames only. -/
  | serviceOnly
  deriving DecidableEq, Repr

namespace OutputMode

/-- The modes by ascending number. -/
def modes : List OutputMode :=
  [all, dataOnly, serviceOnly]

/-- The word for a mode. -/
def name : OutputMode → String
  | all => "all"
  | dataOnly => "data"
  | serviceOnly => "service"

/-- The number of a mode. -/
def number : OutputMode → Nat
  | all => 0
  | dataOnly => 1
  | serviceOnly => 2

/-- The mode with a number. -/
def ofNumber? (n : Nat) : Option OutputMode :=
  modes.find? (·.number = n)

/-- The mode that a word names, in any letter case of ASCII. -/
def ofName? (text : List Char) : Option OutputMode :=
  modes.find? fun mode => text.map Char.toLower = mode.name.toList

/-- Whether the mode lets data frames out. -/
def sendsData (mode : OutputMode) : Bool :=
  mode ≠ serviceOnly

/-- Whether the mode lets service frames out. -/
def sendsService (mode : OutputMode) : Bool :=
  mode ≠ dataOnly

end OutputMode
end PixelChip
