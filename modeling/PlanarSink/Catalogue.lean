import PlanarSink.Data.Datum
import PlanarSink.Driver.Host
import PlanarSink.Sample.Format

/-! The drivers a host offers, with the capabilities each of them shows when it
is opened and asked. -/
namespace PlanarSink

inductive Speaker where
  | frontLeft
  | frontRight
  | frontCenter
  | lfe
  | backLeft
  | backRight
  | sideLeft
  | sideRight
deriving DecidableEq, Repr

namespace Speaker

def order : List Speaker :=
  [frontLeft, frontRight, frontCenter, lfe, backLeft, backRight, sideLeft, sideRight]

def name : Speaker → String
  | frontLeft => "FrontLeft"
  | frontRight => "FrontRight"
  | frontCenter => "FrontCenter"
  | lfe => "Lfe"
  | backLeft => "BackLeft"
  | backRight => "BackRight"
  | sideLeft => "SideLeft"
  | sideRight => "SideRight"

end Speaker

structure DeviceInfo where
  id : String
  displayName : String
  channels : List Speaker
  sampleRates : List UInt32
  dataFormats : List InputFormat
deriving DecidableEq, Repr

namespace DeviceInfo

/-- A device of which nothing but its name is known. -/
def named (id displayName : String) : DeviceInfo :=
  ⟨id, displayName, [], [], []⟩

def toDatum (info : DeviceInfo) : Datum :=
  .table
    [("id", .text info.id),
     ("display_name", .text info.displayName),
     ("device_type", .text "Pcm"),
     ("wants_iec_passthrough", .boolean true),
     ("channels", .ofList (fun speaker => .text speaker.name) info.channels),
     ("sample_rates", .ofList (fun rate => .integer rate.toNat) info.sampleRates),
     ("data_formats", .ofList (fun format => .text format.name) info.dataFormats)]

def text (info : DeviceInfo) : String :=
  info.displayName ++ " (" ++ info.id ++ ")\n" ++
    "  channels: [" ++ ", ".intercalate (info.channels.map Speaker.name) ++ "]\n" ++
    "  sample rates: " ++
      ", ".intercalate (info.sampleRates.map fun rate => toString rate.toNat) ++ "\n" ++
    "  formats: [" ++ ", ".intercalate (info.dataFormats.map InputFormat.name) ++ "]\n"

end DeviceInfo

namespace Catalogue

/-- The rates worth asking for: two families, each doubled four times. -/
def probeRates (factor : UInt32) : List UInt32 :=
  [44100, 48000].flatMap fun base =>
    (List.range 5).map fun doublings => base * factor * UInt32.ofNat (Nat.pow 2 doublings)

/-- One-bit rates are those of plain samples times this factor. -/
def dsdRateFactor : UInt32 := 64

def insertNew [DecidableEq α] (values : List α) (value : α) : List α :=
  if value ∈ values then values else values ++ [value]

/-- The rates known so far and those of the probe that the driver accepts. -/
def acceptedRates (driver : Simulated) (factor : UInt32) (known : List UInt32) : List UInt32 :=
  ((probeRates factor).filter fun rate => (driver.canRate (.ofNat rate.toNat)).isOk).foldl
    insertNew known

def addNative (driver : Simulated) (known : List InputFormat) : List InputFormat :=
  match driver.channelInfo 0 false with
  | .ok info => (InputFormat.nativeTo info.sampleType).elim known (insertNew known)
  | .error _ => known

def speakers (driver : Simulated) : List Speaker :=
  match driver.channelCounts with
  | .ok counts => Speaker.order.take (max 2 (min counts.outputs Speaker.order.length))
  | .error _ => []

def inspect (driver : Simulated) (factor : UInt32) (info : DeviceInfo) : DeviceInfo :=
  { info with
    sampleRates := acceptedRates driver factor info.sampleRates
    dataFormats := addNative driver info.dataFormats }

/-- What a driver shows in plain and, if it has one, in one-bit mode. It is left
in plain mode where it agrees to return to it. -/
def probe (driver : Simulated) (info : DeviceInfo) : DeviceInfo × Simulated :=
  let info := inspect driver 1 { info with channels := speakers driver }
  match driver.setIoMode .dsd with
  | (.error _, driver) => (info, driver)
  | (.ok (), driver) =>
    let info := inspect driver dsdRateFactor info
    ({ info with dataFormats := insertNew info.dataFormats .u8 }, (driver.setIoMode .pcm).2)

/-- Opens, probes and drops the driver of a profile's id. One that cannot be
opened has no capabilities. -/
def probeProfile (host : Host) (profile : Profile) : DeviceInfo × Host :=
  let info := DeviceInfo.named profile.id profile.name
  match host.openDriver profile.id with
  | (.error _, host) => (info, host)
  | (.ok number, host) =>
    match host.driver? number with
    | none => (info, host)
    | some driver =>
      let (info, driver) := probe driver info
      (info, (host.setDriver number driver).dropDriver number)

def probeAll (host : Host) : List Profile → List DeviceInfo × Host
  | [] => ([], host)
  | profile :: rest =>
    let (info, host) := probeProfile host profile
    let (infos, host) := probeAll host rest
    (info :: infos, host)

def devices (host : Host) : List DeviceInfo × Host :=
  match host.acquire with
  | (.error _, host) => ([], host)
  | (.ok (), host) =>
    let (infos, host) := probeAll host host.profiles
    (infos, host.release)

end Catalogue

end PlanarSink
