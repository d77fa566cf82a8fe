/-! The callback slot as threads share it. Every atomic access is a step of its
own, so that callbacks run between any two accesses of those who claim the slot
and change its target. Whoever takes a target out of the slot waits until no
callback is counted before it gives the target away. -/
namespace PlanarSink.SharedSlot

/-- Where a target stands. -/
inductive Fate where
  /-- It was never in the slot. -/
  | fresh
  /-- It is in the slot, or was taken out and may still be in use. -/
  | placed
  | handedBack
  | freed
deriving DecidableEq, Repr

/-- What becomes of a target that was taken out. -/
inductive Purpose where
  /-- Another took its place. -/
  | replace
  | handBack
  /-- The claim is given up. -/
  | vacate
deriving DecidableEq, Repr

/-- What a thread is about to do with its claim. -/
inductive OwnerStage where
  /-- It holds no claim. -/
  | outside
  | ready
  /-- It waits until no callback is counted. -/
  | waiting (old : Nat) (purpose : Purpose)
  /-- It saw that none was. -/
  | cleared (old : Nat) (purpose : Purpose)
  /-- The slot is empty and the claim about to be given up. -/
  | leaving
deriving DecidableEq, Repr

/-- What a thread that runs callbacks is about to do. -/
inductive CallbackStage where
  | idle
  /-- It is counted and about to look up the target. -/
  | counted
  /-- It found this target, and uses it if there is one. -/
  | found (target : Option Nat)
  | finished
deriving DecidableEq, Repr

/-- The value of `f` changed at one place. -/
def put (f : Nat → α) (place : Nat) (value : α) : Nat → α :=
  fun other => if other = place then value else f other

/-- The shared words, the threads, and the targets, all known by numbers. -/
structure State where
  claimed : Bool
  active : Option Nat
  inFlight : Nat
  owner : Nat → OwnerStage
  callback : Nat → CallbackStage
  fate : Nat → Fate

def initial : State :=
  ⟨false, none, 0, fun _ => .outside, fun _ => .idle, fun _ => .fresh⟩

/-- The stage after a target was swapped out, if there was one. -/
def afterSwap (old : Option Nat) (purpose : Purpose) (otherwise : OwnerStage) : OwnerStage :=
  match old with
  | some old => .waiting old purpose
  | none => otherwise

/-- What becomes of a target given away for a purpose. -/
def Purpose.fate : Purpose → Fate
  | replace => .freed
  | handBack => .handedBack
  | vacate => .freed

/-- What a thread does after it gave a target away. -/
def Purpose.next : Purpose → OwnerStage
  | replace => .ready
  | handBack => .ready
  | vacate => .leaving

/-- One atomic access of one thread. -/
inductive Step : State → State → Prop where
  | claim {s : State} (i : Nat) (outside : s.owner i = .outside) (free : s.claimed = false) :
      Step s { s with claimed := true, owner := put s.owner i .ready }
  | install {s : State} (i target : Nat) (ready : s.owner i = .ready)
      (loose : s.fate target = .fresh ∨ s.fate target = .handedBack) :
      Step s { s with
        active := some target
        owner := put s.owner i (afterSwap s.active .replace .ready)
        fate := put s.fate target .placed }
  | uninstall {s : State} (i : Nat) (ready : s.owner i = .ready) :
      Step s { s with
        active := none
        owner := put s.owner i (afterSwap s.active .handBack .ready) }
  | giveUp {s : State} (i : Nat) (ready : s.owner i = .ready) :
      Step s { s with
        active := none
        owner := put s.owner i (afterSwap s.active .vacate .leaving) }
  | see {s : State} (i old : Nat) (purpose : Purpose) (waiting : s.owner i = .waiting old purpose)
      (quiet : s.inFlight = 0) :
      Step s { s with owner := put s.owner i (.cleared old purpose) }
  | giveAway {s : State} (i old : Nat) (purpose : Purpose)
      (cleared : s.owner i = .cleared old purpose) :
      Step s { s with
        owner := put s.owner i purpose.next
        fate := put s.fate old purpose.fate }
  | leave {s : State} (i : Nat) (leaving : s.owner i = .leaving) :
      Step s { s with claimed := false, owner := put s.owner i .outside }
  | enter {s : State} (r : Nat) (idle : s.callback r = .idle) :
      Step s { s with inFlight := s.inFlight + 1, callback := put s.callback r .counted }
  | find {s : State} (r : Nat) (counted : s.callback r = .counted) :
      Step s { s with callback := put s.callback r (.found s.active) }
  | use {s : State} (r target : Nat) (found : s.callback r = .found (some target)) :
      Step s { s with callback := put s.callback r .finished }
  | pass {s : State} (r : Nat) (found : s.callback r = .found none) :
      Step s { s with callback := put s.callback r .finished }
  | exit {s : State} (r : Nat) (finished : s.callback r = .finished) :
      Step s { s with inFlight := s.inFlight - 1, callback := put s.callback r .idle }

inductive Reachable : State → Prop where
  | start : Reachable initial
  | step {s t : State} (before : Reachable s) (step : Step s t) : Reachable t

def State.Holds (s : State) (i : Nat) : Prop :=
  s.owner i ≠ .outside

/-- A thread is about to give a target away. -/
def State.Retires (s : State) (i target : Nat) : Prop :=
  ∃ purpose, s.owner i = .waiting target purpose ∨ s.owner i = .cleared target purpose

def State.Uses (s : State) (r target : Nat) : Prop :=
  s.callback r = .found (some target)

end PlanarSink.SharedSlot
