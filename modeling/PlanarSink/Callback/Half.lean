import PlanarSink.Bytes

/-! The two halves of a driver's double buffers. -/
namespace PlanarSink

/-- A driver plays one half of its buffers while the other is filled. -/
inductive Half where
  | first
  | second
deriving DecidableEq, Repr

namespace Half

def other : Half → Half
  | first => second
  | second => first

def index : Half → Nat
  | first => 0
  | second => 1

/-- The half with an index as drivers count them. -/
def ofIndex? (index : Int) : Option Half :=
  if index = 0 then some first
  else if index = 1 then some second
  else none

theorem ofIndex?_index (half : Half) : ofIndex? half.index = some half := by
  cases half <;> rfl

end Half

/-- The double buffer of one plane. -/
structure DoubleBuffer where
  first : Bytes
  second : Bytes
deriving DecidableEq, Repr

namespace DoubleBuffer

/-- The bytes that it takes in a list, apart from what its halves hold. -/
def bytes : Nat := 48

def filled (size : Nat) (byte : UInt8) : DoubleBuffer :=
  ⟨List.replicate size byte, List.replicate size byte⟩

def get (buffer : DoubleBuffer) : Half → Bytes
  | .first => buffer.first
  | .second => buffer.second

def set (buffer : DoubleBuffer) (half : Half) (bytes : Bytes) : DoubleBuffer :=
  match half with
  | .first => { buffer with first := bytes }
  | .second => { buffer with second := bytes }

@[simp] theorem get_set (buffer : DoubleBuffer) (half : Half) (bytes : Bytes) :
    (buffer.set half bytes).get half = bytes := by
  cases half <;> rfl

@[simp] theorem get_set_other (buffer : DoubleBuffer) (half : Half) (bytes : Bytes) :
    (buffer.set half bytes).get half.other = buffer.get half.other := by
  cases half <;> rfl

/-- A buffer of even halves stays one when a half is written in whole. -/
theorem length_get_set {buffer : DoubleBuffer} {size : Nat}
    (even : ∀ half, (buffer.get half).length = size) {written : Half} {bytes : Bytes}
    (whole : bytes.length = size) (half : Half) :
    ((buffer.set written bytes).get half).length = size := by
  by_cases here : half = written
  · rw [here, get_set]
    exact whole
  · have other : half = written.other := by cases half <;> cases written <;> trivial
    rw [other, get_set_other]
    exact even _

end DoubleBuffer

end PlanarSink
