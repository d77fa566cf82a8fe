/-! Switches on a command line: `--name`, `--name value`, `--name=value`, and
the same with a letter after a single dash, where the value may also follow the
letter directly. -/
namespace PlanarSink.CommandLine

inductive Notice where
  | help
  | version
deriving DecidableEq, Repr

inductive Halt where
  | notice (notice : Notice)
  | misuse (complaint : String)
deriving DecidableEq, Repr

/-- What a switch does to what was read so far. -/
inductive Effect (σ : Type) where
  | flag (store : σ → σ)
  /-- Stores a value, unless it does not fit. -/
  | value (store : String → σ → Option σ)
  | notice (notice : Notice)

structure Switch (σ : Type) where
  name : String
  letter : Option Char
  effect : Effect σ

/-- The kinds of arguments. -/
inductive Argument where
  /-- Two dashes, after which there are no switches. -/
  | terminator
  | named (name : String) (attached : Option String)
  | lettered (letter : Char) (attached : Option String)
  | plain (text : String)
deriving DecidableEq, Repr

namespace Argument

/-- A single dash is a plain argument. -/
def ofText (text : String) : Argument :=
  match text.toList with
  | ['-', '-'] => terminator
  | '-' :: '-' :: rest =>
    let name := String.ofList (rest.takeWhile (· != '='))
    match rest.dropWhile (· != '=') with
    | _ :: attached => named name (some (String.ofList attached))
    | [] => named name none
  | ['-', letter] => lettered letter none
  | '-' :: letter :: '=' :: attached => lettered letter (some (String.ofList attached))
  | '-' :: letter :: attached => lettered letter (some (String.ofList attached))
  | _ => plain text

end Argument

namespace Switch

variable {σ : Type}

def unexpected (text : String) : Halt :=
  .misuse ("unexpected argument '" ++ text ++ "' found")

def unfit (switch : Switch σ) (text : String) : Halt :=
  .misuse ("invalid value '" ++ text ++ "' for '--" ++ switch.name ++ "'")

def store (switch : Switch σ) (set : String → σ → Option σ) (used : List String) (text : String)
    (state : σ) : Except Halt σ :=
  if switch.name ∈ used then
    .error (.misuse ("the argument '--" ++ switch.name ++ "' cannot be used multiple times"))
  else match set text state with
    | some state => .ok state
    | none => .error (switch.unfit text)

/-- Reads arguments up to the first plain one, and gives what was read and the
arguments from there on. Every switch is used once at most. -/
def readAll (switches : List (Switch σ)) (used : List String) (state : σ) :
    List String → Except Halt (σ × List String)
  | [] => .ok (state, [])
  | text :: rest =>
    let argument := Argument.ofText text
    let found := match argument with
      | .named name _ => switches.find? fun (switch : Switch σ) => switch.name == name
      | .lettered letter _ => switches.find? fun (switch : Switch σ) => switch.letter == some letter
      | _ => none
    let attached := match argument with
      | .named _ attached => attached
      | .lettered _ attached => attached
      | _ => none
    match argument, found with
    | .plain _, _ => .ok (state, text :: rest)
    | .terminator, _ =>
      match rest with
      | [] => .ok (state, [])
      | next :: _ => .error (unexpected next)
    | _, none => .error (unexpected text)
    | .lettered .., some ⟨_, _, .notice notice⟩ => .error (.notice notice)
    | _, some switch =>
      match switch.effect, attached with
      | .notice notice, none => .error (.notice notice)
      | .notice _, some value => .error (switch.unfit value)
      | .flag _, some value => .error (switch.unfit value)
      | .flag set, none => do
        let state ← switch.store (fun _ state => some (set state)) used "" state
        readAll switches (switch.name :: used) state rest
      | .value set, some value => do
        let state ← switch.store set used value state
        readAll switches (switch.name :: used) state rest
      | .value set, none =>
        match rest with
        | [] => .error (.misuse ("a value is required for '--" ++ switch.name ++ "'"))
        | value :: rest =>
          match Argument.ofText value with
          | .plain _ => do
            let state ← switch.store set used value state
            readAll switches (switch.name :: used) state rest
          | _ => .error (.misuse ("a value is required for '--" ++ switch.name ++ "'"))

end Switch

end PlanarSink.CommandLine
