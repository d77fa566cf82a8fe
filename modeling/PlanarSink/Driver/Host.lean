import PlanarSink.Driver.Simulated

/-! A host: the drivers it offers, the leases taken on it, and the drivers that
were opened, numbered in the order of opening. A number stays valid after its
driver is dropped. -/
namespace PlanarSink

/-- An opened driver, and whether it has not been dropped yet. -/
structure OpenedDriver where
  driver : Simulated
  live : Bool
deriving DecidableEq, Repr

structure Host where
  profiles : List Profile
  /-- Leases not yet given back. -/
  held : Nat
  /-- Leases given back so far. -/
  releases : Nat
  /-- Whether leases are refused. -/
  refusing : Bool
  opened : List OpenedDriver
deriving DecidableEq, Repr

namespace Host

def ofProfiles (profiles : List Profile) : Host :=
  ⟨profiles, 0, 0, false, []⟩

/-- Takes a lease. -/
def acquire (host : Host) : Except Status Unit × Host :=
  if host.refusing then (.error .notPresent, host)
  else (.ok (), { host with held := host.held + 1 })

def release (host : Host) : Host :=
  { host with held := host.held - 1, releases := host.releases + 1 }

def liveDrivers (host : Host) : Nat :=
  host.opened.countP OpenedDriver.live

/-- The first profile with an id. -/
def profile? (host : Host) (id : String) : Option Profile :=
  host.profiles.find? fun profile => profile.id == id

/-- Opens the driver with an id and gives its number. -/
def openDriver (host : Host) (id : String) : Except Status Nat × Host :=
  match host.profile? id with
  | none => (.error .notPresent, host)
  | some profile =>
    if profile.failAt = some .openDriver then (.error FailPoint.openDriver.status, host)
    else (.ok host.opened.length,
      { host with opened := host.opened ++ [⟨.boot profile, true⟩] })

def driver? (host : Host) (number : Nat) : Option Simulated :=
  host.opened[number]?.map OpenedDriver.driver

def lastOpened? (host : Host) : Option Nat :=
  if host.opened.isEmpty then none else some (host.opened.length - 1)

def setDriver (host : Host) (number : Nat) (driver : Simulated) : Host :=
  { host with opened := host.opened.modify number fun opened => { opened with driver } }

/-- Makes a call on a driver, while a thread can be had or not; there is nothing to call where
none was opened. -/
def call (host : Host) (thread : Bool) (number : Nat) (call : DriverCall) : call.Reply × Host :=
  match host.driver? number with
  | none => (.error (call.fault .notPresent), host)
  | some driver =>
    let (reply, driver) := driver.perform thread call
    (reply, host.setDriver number driver)

def dropDriver (host : Host) (number : Nat) : Host :=
  { host with opened := host.opened.modify number fun opened => ⟨opened.driver.halt, false⟩ }

end Host

end PlanarSink
