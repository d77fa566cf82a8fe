import PlanarSink.Text.Number

/-! The status codes of driver calls and their texts. -/
namespace PlanarSink

structure Status where
  code : Int32
deriving DecidableEq, Repr

namespace Status

def ofInt (code : Int) : Status := ⟨Int32.ofInt code⟩

def notPresent : Status := ofInt (-1000)
def hardwareMalfunction : Status := ofInt (-999)
def invalidParameter : Status := ofInt (-998)
def invalidMode : Status := ofInt (-997)
def noClock : Status := ofInt (-995)
def noMemory : Status := ofInt (-994)

def named : List (Int × String) :=
  [(0, "ASE_OK (0)"),
   (0x3F4847A0, "ASE_SUCCESS (0x3F4847A0)"),
   (-1000, "ASE_NotPresent (-1000)"),
   (-999, "ASE_HWMalfunction (-999)"),
   (-998, "ASE_InvalidParameter (-998)"),
   (-997, "ASE_InvalidMode (-997)"),
   (-996, "ASE_SPNotAdvancing (-996)"),
   (-995, "ASE_NoClock (-995)"),
   (-994, "ASE_NoMemory (-994)")]

/-- The text of a code; other codes are shown in decimal and as the hexadecimal
word that holds them. -/
def text (status : Status) : String :=
  match named.lookup status.code.toInt with
  | some text => text
  | none =>
    "ASIOError " ++ toString status.code.toInt ++ " (0x" ++
      Text.hex status.code.toUInt32.toNat ++ ")"

instance : ToString Status := ⟨text⟩

def failure (operation : String) (status : Status) : String :=
  "ASIO " ++ operation ++ " failed: " ++ status.text

end Status

end PlanarSink
