import PlanarSink.Proofs.Negotiation
import PlanarSink.Studio

/-! What one seat reaches: the record of its host and the slot. A driver call reaches
no more than one driver on the host. What the process can give is the same before and after. -/
namespace PlanarSink

namespace Host

variable {host : Host} {number : Nat}

theorem setDriver_self {driver : Simulated} (found : host.driver? number = some driver) :
    host.setDriver number driver = host := by
  obtain ⟨current, present, rfl⟩ := Option.map_eq_some_iff.mp found
  have same : host.opened.modify number (fun opened => { opened with driver := current.driver }) =
      host.opened := by
    apply List.ext_getElem?
    intro other
    by_cases here : number = other
    · subst here
      simp [present]
    · simp [List.getElem?_modify_ne _ _ here]
  rw [setDriver, same]

theorem driver?_setDriver (present : number < host.opened.length) (driver : Simulated) :
    (host.setDriver number driver).driver? number = some driver := by
  simp [driver?, setDriver, present]

theorem call_of_driver? {driver : Simulated} (found : host.driver? number = some driver)
    (thread : Bool) (c : DriverCall) :
    host.call thread number c =
      ((driver.perform thread c).1, host.setDriver number (driver.perform thread c).2) := by
  simp [call, found]

def withOpened (host : Host) (opened : OpenedDriver) : Host :=
  { host with opened := host.opened ++ [opened] }

theorem openDriver_cases (host : Host) (id : String) :
    (∃ status, host.openDriver id = (.error status, host)) ∨
      ∃ profile, host.profile? id = some profile ∧ profile.failAt ≠ some .openDriver ∧
        host.openDriver id = (.ok host.opened.length, host.withOpened ⟨.boot profile, true⟩) := by
  unfold openDriver
  split
  · exact .inl ⟨_, rfl⟩
  · next profile found =>
    split
    · exact .inl ⟨_, rfl⟩
    · next works => exact .inr ⟨profile, found, works, rfl⟩

@[simp] theorem driver?_withOpened (host : Host) (opened : OpenedDriver) :
    (host.withOpened opened).driver? host.opened.length = some opened.driver := by
  simp [driver?, withOpened]

@[simp] theorem setDriver_withOpened (host : Host) (opened : OpenedDriver) (driver : Simulated) :
    (host.withOpened opened).setDriver host.opened.length driver =
      host.withOpened ⟨driver, opened.live⟩ := by
  simp [setDriver, withOpened, List.modify_eq_take_drop]

@[simp] theorem dropDriver_withOpened (host : Host) (opened : OpenedDriver) :
    (host.withOpened opened).dropDriver host.opened.length =
      host.withOpened ⟨opened.driver.halt, false⟩ := by
  simp [dropDriver, withOpened, List.modify_eq_take_drop]

end Host

namespace Studio

def place (studio : Studio) (number : Nat) (host : Host) (slot : Slot Feed) : Studio :=
  { studio with hosts := studio.hosts.set number host, slot }

@[simp] theorem slot_place (studio : Studio) (number : Nat) (host : Host) (slot : Slot Feed) :
    (studio.place number host slot).slot = slot :=
  rfl

theorem place_self {studio : Studio} {number : Nat} {host : Host}
    (found : studio.hosts[number]? = some host) : studio.place number host studio.slot = studio := by
  obtain ⟨present, rfl⟩ := List.getElem?_eq_some_iff.mp found
  simp [place]

theorem onHost_place {studio : Studio} {number : Nat} (present : number < studio.hosts.length)
    (host : Host) (slot : Slot Feed) (otherwise : α) (step : Host → α × Host) :
    (studio.place number host slot).onHost number otherwise step =
      ((step host).1, studio.place number (step host).2 slot) := by
  simp [onHost, place, present]

end Studio

namespace Seat

def place (seat : Seat) (host : Host) (slot : Slot Feed) : Seat :=
  { seat with studio := seat.studio.place seat.host host slot }

variable {seat : Seat} {host : Host} {slot : Slot Feed}

theorem place_self (found : seat.studio.hosts[seat.host]? = some host) :
    seat.place host seat.studio.slot = seat := by
  rw [place, Studio.place_self found]

theorem onHost_place (present : seat.host < seat.studio.hosts.length) (otherwise : α)
    (step : Host → α × Host) :
    (seat.place host slot).onHost otherwise step = ((step host).1, seat.place (step host).2 slot) := by
  simp only [onHost, place, Studio.onHost_place present]

/-- What a request does to the record of the host and to the slot. -/
def effect (seat : Seat) (host : Host) (slot : Slot Feed) : (request : Request) →
    request.Reply × Host × Slot Feed
  | .acquireHost => (host.acquire.1, host.acquire.2, slot)
  | .releaseHost => ((), host.release, slot)
  | .claimSlot => (slot.claim.1, host, slot.claim.2)
  | .vacateSlot => ((), host, slot.vacate)
  | .install driver dispatcher =>
    ((), host, slot.install ⟨seat.sink, seat.host, driver, dispatcher⟩)
  | .openDriver device => ((host.openDriver device).1, (host.openDriver device).2, slot)
  | .dropDriver driver => ((), host.dropDriver driver, slot)
  | .allocateRing capacity planes => (seat.studio.supply.hasRing capacity planes, host, slot)
  | .reserve bytes => (seat.studio.supply.hasScratch bytes, host, slot)
  | .call driver c =>
    ((host.call seat.studio.supply.thread driver c).1,
      (host.call seat.studio.supply.thread driver c).2, slot)

theorem perform_place (present : seat.host < seat.studio.hosts.length) (request : Request) :
    Backend.perform request (seat.place host slot) =
      ((seat.effect host slot request).1,
        seat.place (seat.effect host slot request).2.1 (seat.effect host slot request).2.2) := by
  cases request with
  | claimSlot | vacateSlot | install | allocateRing | reserve => rfl
  | acquireHost | openDriver | call => exact onHost_place present _ _
  | releaseHost => exact onHost_place present () fun host => ((), host.release)
  | dropDriver number => exact onHost_place present () fun host => ((), host.dropDriver number)

theorem ends_ask (present : seat.host < seat.studio.hosts.length) (request : Request)
    (format : StreamFormat) {ok : request.Reply → Opening Seat → Prop}
    {failed : Interruption → Opening Seat → Prop} :
    (OpeningM.ask request).Ends ⟨seat.place host slot, format⟩ ok failed ↔
      ok (seat.effect host slot request).1
        ⟨seat.place (seat.effect host slot request).2.1 (seat.effect host slot request).2.2,
          format⟩ := by
  rw [OpeningM.ends_ask, perform_place present]

theorem placed_withOpened (present : seat.host < seat.studio.hosts.length) (host : Host)
    (slot : Slot Feed) :
    Placed host.opened.length seat.studio.supply.thread fun driver =>
      seat.place (host.withOpened ⟨driver, true⟩) slot := by
  intro driver c
  rw [perform_place present]
  simp [effect, Host.call_of_driver? (Host.driver?_withOpened host ⟨driver, true⟩)]

end Seat

end PlanarSink
