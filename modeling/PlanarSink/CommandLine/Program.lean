import PlanarSink.Binary.Sine
import PlanarSink.Catalogue
import PlanarSink.CommandLine.Invocation
import PlanarSink.Data.Json
import PlanarSink.Environment
import PlanarSink.Tone.Playback

/-! The program: it lists the drivers of its configuration or plays a tone
through one of them. -/
namespace PlanarSink.CommandLine

/-- Where the program reads files and variables. -/
structure World (m : Type → Type) where
  /-- The text of a file, or why it cannot be read. -/
  read : String → m (Except String String)
  /-- The value of an environment variable. -/
  valueOf : String → m (Option String)

/-- What the program leaves: its exit code and what it writes to its two outputs. -/
structure Finish where
  code : UInt32
  output : String
  complaint : String
deriving DecidableEq, Repr

namespace Finish

def success (output : String) : Finish := ⟨0, output, ""⟩

/-- An error with its causes, the outermost first. -/
def failure (messages : List String) : Finish :=
  let causes := match messages.drop 1 with
    | [] => ""
    | causes => "\n\nCaused by:" ++ String.join (causes.map ("\n    " ++ ·))
  ⟨1, "", "Error: " ++ messages.headD "" ++ causes ++ "\n"⟩

/-- A panic, of which what it says is left out. -/
def crash : Finish := ⟨101, "", ""⟩

def misuse (complaint : String) : Finish :=
  ⟨2, "", "error: " ++ complaint ++ "\n\nFor more information, try '--help'.\n"⟩

end Finish

def programName : String := "asiosink"

def version : String := "0.0.7"

def help : String :=
  "Probe ASIO-style drivers and play test tones\n\n" ++
  "Usage: " ++ programName ++ " [OPTIONS] <COMMAND>\n\n" ++
  "Commands:\n" ++
  "  list  List drivers with their channels, rates and formats\n" ++
  "  tone  Play a sine tone through a driver\n" ++
  "  help  Print this message or the help of the given subcommand(s)\n\n" ++
  "Options:\n" ++
  "  -c, --config <CONFIG>  TOML configuration file; defaults to $ASIOSINK_CONFIG\n" ++
  "  -h, --help             Print help\n" ++
  "  -V, --version          Print version\n"

def loadSettings [Monad m] (world : World m) (path? : Option String) :
    m (Except (List String) Settings) := do
  match path? with
  | none => return .ok .standard
  | some path =>
    match ← world.read path with
    | .error cause => return .error ["reading config " ++ path, cause]
    | .ok text =>
      match Settings.parse text with
      | .ok settings => return .ok settings
      | .error .malformed => return .error ["parsing config " ++ path, "not a TOML document"]
      | .error (.unfit message) => return .error ["parsing config " ++ path, message]

def list (settings : Settings) (json : Bool) : String :=
  let devices := (Catalogue.devices (.ofProfiles settings.drivers)).1
  if json then Json.pretty 0 (Datum.ofList DeviceInfo.toDatum devices) ++ "\n"
  else if devices.isEmpty then "No drivers found\n"
  else String.join (devices.map DeviceInfo.text)

/-- Plays the tone of the settings on a host. A driver with a clock delivers its
periods one after the other, another one none. -/
def playOn (host : Host) (settings : Settings) : Playback.Played :=
  let schedule (s : Session) : Schedule :=
    match host.profile? settings.device with
    | some profile => if profile.clock then .steady s else .idle
    | none => .idle
  Playback.play Binary.Double.sine schedule settings 0 (.ofHosts [host] [])

/-- The settings with the ring capacity that the environment asks for. -/
def withCapacity (settings : Settings) (value : Option String) : Settings :=
  { settings with sink := settings.sink.withBufferPeriods (Environment.size? value) }

def perform [Monad m] (world : World m) (invocation : Invocation) : m Finish := do
  let named ← world.valueOf Environment.configVariable
  match ← loadSettings world (invocation.given.config.or named) with
  | .error messages => return .failure messages
  | .ok settings =>
    match invocation.command with
    | .list => return .success (list settings invocation.given.json)
    | .tone =>
      let capacity ← world.valueOf Environment.bufferPeriodsVariable
      let settings := withCapacity (invocation.given.override settings) capacity
      match (playOn (.ofProfiles settings.drivers) settings).outcome with
      | .ok () => return .success ""
      | .error .panic => return .crash
      | .error cause => return .failure cause.messages

def run [Monad m] (world : World m) (arguments : List String) : m Finish := do
  if arguments.isEmpty then return ⟨2, "", help⟩
  else match Invocation.ofArguments arguments with
    | .ok invocation => perform world invocation
    | .error (.notice .help) => return .success help
    | .error (.notice .version) => return .success (programName ++ " " ++ version ++ "\n")
    | .error (.misuse complaint) => return .misuse complaint

end PlanarSink.CommandLine
