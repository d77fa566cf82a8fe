import PlanarSink.Text.Blank
import PlanarSink.Text.Number

/-! Settings taken from environment variables, and the level of detail of a log. -/
namespace PlanarSink

namespace Environment

def configVariable : String := "ASIOSINK_CONFIG"

def bufferPeriodsVariable : String := "ASIOSINK_BUFFER_PERIODS"

def affirmatives : List String := ["1", "true", "yes", "on"]

def flag (value : Option String) : Bool :=
  value.any fun text =>
    affirmatives.any fun word => Text.fold (Text.trim text) == word.toList

/-- The size a variable holds, between blanks; anything else counts as unset. -/
def size? (value : Option String) : Option Nat :=
  value.bind fun text => Text.size? (Text.trim text)

end Environment

inductive LogLevel where
  | error
  | warn
  | info
  | debug
  | trace
deriving DecidableEq, Repr

namespace LogLevel

def name : LogLevel → String
  | error => "ERROR"
  | warn => "WARN"
  | info => "INFO"
  | debug => "DEBUG"
  | trace => "TRACE"

/-- From the least to the most detailed level, which have the numbers from one on. -/
def all : List LogLevel := [error, warn, info, debug, trace]

/-- A level by its number or by its name in any case. -/
def parse? (text : String) : Option LogLevel :=
  match Text.size? text with
  | some (number + 1) => all[number]?
  | some 0 => none
  | none => all.find? fun level => Text.sameFolded level.name text

/-- The level with a name between blanks, `info` for any other text; a detailed
log overrides it. -/
def choose (text : String) (verbose : Bool) : LogLevel :=
  if verbose then debug else (parse? (Text.trim text)).getD info

end LogLevel

end PlanarSink
