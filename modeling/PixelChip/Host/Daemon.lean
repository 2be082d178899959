import PixelChip.Host.Network
import PixelChip.Log.Filter
import PixelChip.Log.Serving
import PixelChip.Log.Settings

/-!
# The daemon

The daemon reads its settings, listens at an address and serves one host after another until a
signal ends it. If it cannot listen it ends at once, but not with a failure: the log says why.
-/

namespace PixelChip

/-- A signal that ends the daemon. -/
inductive Signal where
  | interrupt
  | terminate
  deriving DecidableEq, Repr

/-- The name of a signal. -/
def Signal.name : Signal → String
  | interrupt => "SIGINT"
  | terminate => "SIGTERM"

/-- What hosts receive that visit a chip one after another. Each connects first; the first that
cannot gets nothing but its error. -/
def Network.visits {G : Type} [Generator G] (network : Network) (address : SocketAddress)
    (chip : Chip G) (streams : List (List UInt8)) : Except OsError (List Visit) := do
  streams.forM fun _ => network.connect address
  return (Visit.ofStreams chip streams).1

namespace Daemon

/-- A record of the daemon. -/
def record (level : LogLevel) (message : String) (values : List (String × String)) : LogRecord where
  level := level
  part := "daemon"
  message := message
  values := values

/-- The record of the settings in force. -/
def settingsRecord (settings : Settings) : LogRecord :=
  record .info "Configuration"
    [("listen", settings.listen.text),
     ("chip_id", Text.decimal settings.chipId.toNat),
     ("mode", settings.outputMode.name),
     ("service_interval", Text.decimal settings.serviceInterval.toNat),
     ("random_thresholds", Execution.switchText settings.randomThresholds),
     ("pixel_noise", Execution.switchText settings.pixelNoise)]

/-- The records of a start. -/
def startRecords (settings : Settings) : List LogRecord :=
  [settingsRecord settings, record .info "Started." [],
   record .info "For debugging, set RUST_LOG=rd53_emulator=debug or trace." []]

/-- The records of an address that cannot be listened at. -/
def bindRecord (address : SocketAddress) (error : OsError) : LogRecord :=
  record .error ("Server error: Failed to bind " ++ address.text ++ ": " ++ error.message) []

/-- A run of the daemon. -/
structure Run where
  exit : Nat
  visits : List Visit
  /-- All that the filter admits, in order. -/
  records : List LogRecord

/-- The filter that the environment asks for. -/
def filter (environment : Environment) : LogFilter :=
  (LogFilter.parse .info
    (((Settings.textOf environment "RUST_LOG").map String.ofList).getD "")).1

/-- Runs in an environment and a network, with hosts of a given address that send some bytes each,
until a signal. A host that cannot connect gets an error. -/
def run (G : Type) [Generator G] (environment : Environment) (network : Network) (peer : String)
    (streams : List (List UInt8)) (signal : Signal) : Except OsError Run := do
  let settings := Settings.ofEnvironment environment
  let admitted (records : List LogRecord) := records.filter (filter environment).admits
  let started := Settings.refusedRecords environment ++ startRecords settings
  let exiting := record .info "Exiting." []
  match network.bind settings.listen with
  | .error error =>
    return { exit := 0, visits := []
             records := admitted (started ++ [bindRecord settings.listen error, exiting]) }
  | .ok () =>
    let chip : Chip G := Chip.ofSettings settings
    let visits ← network.visits settings.listen chip streams
    let served := Serving.listeningRecord settings.listen.text chip
      :: Serving.visitsRecords peer chip streams
    let received := record .info ("Received " ++ signal.name ++ ".") []
    return { exit := 0, visits
             records := admitted (started ++ served ++ [received, exiting]) }

end Daemon
end PixelChip
