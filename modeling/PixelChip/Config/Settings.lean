import PixelChip.Chip
import PixelChip.Config.SocketAddress
import PixelChip.Text.Blank
import PixelChip.Text.Utf8

/-!
# Settings from the environment

Each setting is read from one variable of its own and keeps its default when that variable is
unset, is not text, or does not denote a value. Numbers are limited to the range in which the chip
works.
-/

namespace PixelChip

/-- The variables of an environment. Their values are bytes and need not be text. -/
abbrev Environment := String → Option (List UInt8)

/-- What a variable says. -/
inductive Reading (α : Type) where
  /-- The variable is unset or is not text. -/
  | unset
  /-- The text denotes no value. -/
  | refused (text : String)
  | accepted (value : α)

namespace Reading

variable {α : Type}

/-- The value, or a default where there is none. -/
def getD (reading : Reading α) (default : α) : α :=
  match reading with
  | accepted value => value
  | _ => default

/-- The value, if there is one. -/
def toOption : Reading α → Option α
  | accepted value => some value
  | _ => none

/-- The text that was refused, if one was. -/
def refused? : Reading α → Option String
  | refused text => some text
  | _ => none

end Reading

/-- How to run a chip and where to listen for its host. -/
structure Settings where
  listen : SocketAddress
  /-- At most 7. -/
  chipId : UInt8
  outputMode : OutputMode
  /-- Slots between service frames, at least 1. -/
  serviceInterval : UInt32
  randomThresholds : Bool
  pixelNoise : Bool
  /-- Milliseconds between two calls that process the queue, at least 1. -/
  processPeriod : UInt64
  /-- Seed of the random values. -/
  seed : Option UInt64

namespace Settings

/-- The settings of an empty environment. -/
def default : Settings where
  listen := .v4 #v[127, 0, 0, 1] 5053
  chipId := 0
  outputMode := .all
  serviceInterval := Readout.defaultInterval
  randomThresholds := false
  pixelNoise := false
  processPeriod := 1
  seed := none

/-- The characters of a variable, if it is set and text. -/
def textOf (environment : Environment) (name : String) : Option (List Char) :=
  (environment name).bind fun bytes => (Text.decodeUtf8 bytes).toOption

/-- Reads a variable by a function on its characters without the blanks around them. -/
def readWith {α : Type} (parse : List Char → Option α) (environment : Environment)
    (name : String) : Reading α :=
  match textOf environment name with
  | none => .unset
  | some text =>
    match parse (Text.trim text) with
    | some value => .accepted value
    | none => .refused (String.ofList text)

/-- A switch in words or digits, in any letter case. Nothing at all is off. -/
def switch? (text : List Char) : Option Bool :=
  let word := String.ofList (text.map Char.toLower)
  if ["1", "true", "yes", "on"].contains word then some true
  else if ["0", "false", "no", "off", ""].contains word then some false
  else none

/-- An output mode by number or name. A number that is none of the modes is not looked up as a
name. -/
def mode? (text : List Char) : Option OutputMode :=
  match Text.unsigned? 256 text with
  | some number => OutputMode.ofNumber? number
  | none => OutputMode.ofName? text

/-- What each variable says. -/
structure Readings where
  listen : Reading SocketAddress
  chipId : Reading Nat
  outputMode : Reading OutputMode
  serviceInterval : Reading Nat
  randomThresholds : Reading Bool
  pixelNoise : Reading Bool
  processPeriod : Reading Nat
  seed : Reading Nat

/-- Reads all variables. -/
def readings (environment : Environment) : Readings where
  listen := readWith SocketAddress.ofText? environment "RD53_LISTEN"
  chipId := readWith (Text.unsigned? UInt8.size) environment "RD53_CHIP_ID"
  outputMode := readWith mode? environment "RD53_OUTPUT_MODE"
  serviceInterval := readWith (Text.unsigned? UInt32.size) environment "RD53_SERVICE_INTERVAL"
  randomThresholds := readWith switch? environment "RD53_RANDOM_THRESHOLDS"
  pixelNoise := readWith switch? environment "RD53_PIXEL_NOISE"
  processPeriod := readWith (Text.unsigned? UInt64.size) environment "RD53_PROCESS_PERIOD_MS"
  seed := readWith (Text.unsigned? UInt64.size) environment "RD53_SEED"

/-- The settings of an environment. -/
def ofEnvironment (environment : Environment) : Settings :=
  let r := readings environment
  { listen := r.listen.getD default.listen
    chipId := .ofNat (min (r.chipId.getD default.chipId.toNat) 7)
    outputMode := r.outputMode.getD default.outputMode
    serviceInterval := .ofNat (max (r.serviceInterval.getD default.serviceInterval.toNat) 1)
    randomThresholds := r.randomThresholds.getD default.randomThresholds
    pixelNoise := r.pixelNoise.getD default.pixelNoise
    processPeriod := .ofNat (max (r.processPeriod.getD default.processPeriod.toNat) 1)
    seed := r.seed.toOption.map UInt64.ofNat }

end Settings

/-- A chip at power-on with the given settings. Without a seed its generator starts as for seed
0. -/
def Chip.ofSettings {G : Type} [Generator G] (settings : Settings) : Chip G :=
  let chip := Chip.powerOn settings.chipId settings.outputMode (Generator.ofSeed 0)
  let chip := chip.setInterval settings.serviceInterval
  let chip := chip.setRandomThresholds settings.randomThresholds
  let chip := chip.setPixelNoise settings.pixelNoise
  match settings.seed with
  | some seed => chip.setSeed seed
  | none => chip

end PixelChip
