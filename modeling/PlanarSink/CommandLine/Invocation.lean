import PlanarSink.CommandLine.Switch
import PlanarSink.Settings

/-! What a command line asks for: a command, a configuration file, and settings
that take precedence over those of the file. -/
namespace PlanarSink.CommandLine

inductive Command where
  | list
  | tone
deriving DecidableEq, Repr

structure Given where
  config : Option String
  json : Bool
  device : Option String
  sampleRate : Option UInt32
  channels : Option Nat
  format : Option InputFormat
  seconds : Option Binary.Double
  frequency : Option Binary.Double
deriving DecidableEq, Repr

namespace Given

def nothing : Given := ⟨none, false, none, none, none, none, none, none⟩

/-- The settings, with those given in place of theirs. -/
def override (given : Given) (s : Settings) : Settings :=
  { s with
    device := given.device.getD s.device
    sampleRate := given.sampleRate.getD s.sampleRate
    channels := given.channels.getD s.channels
    format := given.format.getD s.format
    seconds := given.seconds.getD s.seconds
    frequency := given.frequency.getD s.frequency }

end Given

def option (name : String) (letter : Option Char) (read? : String → Option α)
    (store : α → Given → Given) : Switch Given :=
  ⟨name, letter, .value fun text given => (read? text).map fun value => store value given⟩

/-- A text that is not empty. -/
def path? (text : String) : Option String :=
  if text.isEmpty then none else some text

/-- A number in 32 bits, with an optional sign. -/
def rate? (text : String) : Option UInt32 :=
  match Text.integer? text.toList with
  | some n => if 0 ≤ n ∧ n < 0x100000000 then some (UInt32.ofNat n.toNat) else none
  | none => none

def format? (text : String) : Option InputFormat :=
  (InputFormat.parse text).toOption

def common : List (Switch Given) :=
  [option "config" (some 'c') path? fun config given => { given with config := some config },
   ⟨"help", some 'h', .notice .help⟩]

def leading : List (Switch Given) :=
  common ++ [⟨"version", some 'V', .notice .version⟩]

namespace Command

def names : List (String × Command) := [("list", list), ("tone", tone)]

def switches : Command → List (Switch Given)
  | list => common ++ [⟨"json", none, .flag fun given => { given with json := true }⟩]
  | tone => common ++
    [option "device" (some 'd') some fun device given => { given with device := some device },
     option "sample-rate" (some 'r') rate? fun rate given => { given with sampleRate := some rate },
     option "channels" (some 'n') Text.size? fun channels given =>
       { given with channels := some channels },
     option "format" (some 'f') format? fun format given => { given with format := some format },
     option "seconds" (some 's') Text.double? fun seconds given =>
       { given with seconds := some seconds },
     option "frequency" none Text.double? fun frequency given =>
       { given with frequency := some frequency }]

end Command

/-- A command together with what was given. -/
structure Invocation where
  command : Command
  given : Given
deriving DecidableEq, Repr

namespace Invocation

/-- Asking for help by its name, on the program or one of its commands. -/
def helpOn : List String → Halt
  | [] => .notice .help
  | name :: rest =>
    if (name = "help" ∨ (Command.names.lookup name).isSome) ∧ rest.isEmpty then .notice .help
    else .misuse ("unrecognized subcommand '" ++ (rest.getLast?.getD name) ++ "'")

/-- Reads a command line: switches, a command, and the switches of that. -/
def ofArguments (arguments : List String) : Except Halt Invocation := do
  let (given, rest) ← Switch.readAll leading [] .nothing arguments
  match rest with
  | [] => .error (.misuse "a command is required")
  | name :: rest =>
    if name = "help" then .error (helpOn rest)
    else match Command.names.lookup name with
      | none => .error (.misuse ("unrecognized subcommand '" ++ name ++ "'"))
      | some command =>
        match ← Switch.readAll command.switches [] given rest with
        | (given, []) => return ⟨command, given⟩
        | (_, text :: _) => .error (Switch.unexpected text)

end Invocation

end PlanarSink.CommandLine
