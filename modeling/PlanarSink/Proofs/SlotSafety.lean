import Mathlib.Data.Finset.Card
import Mathlib.Logic.Relation
import PlanarSink.Callback.Shared

/-! No callback uses a target that was given away. Whoever takes a target out of the
slot waits for a moment without callbacks, and callbacks that begin later find
something else. -/
namespace PlanarSink.SharedSlot

section Put

variable {α : Type} {f : Nat → α} {place : Nat} {value : α}

@[simp] theorem put_self : put f place value place = value :=
  if_pos rfl

theorem put_of_ne {other : Nat} (ne : other ≠ place) : put f place value other = f other :=
  if_neg ne

end Put

namespace OwnerStage

/-- The target that a thread is about to give away. -/
def retiring? : OwnerStage → Option Nat
  | waiting old _ | cleared old _ => some old
  | outside | ready | leaving => none

/-- A thread leaves no target in the slot once it has begun to give up its claim. -/
def emptied : OwnerStage → Bool
  | outside | leaving | waiting _ .vacate | cleared _ .vacate => true
  | ready | waiting _ _ | cleared _ _ => false

end OwnerStage

theorem State.retires_iff {s : State} {i target : Nat} :
    s.Retires i target ↔ (s.owner i).retiring? = some target := by
  unfold Retires
  cases s.owner i with
  | waiting old purpose | cleared old purpose => simp [OwnerStage.retiring?]
  | outside | ready | leaving => simp [OwnerStage.retiring?]

/-- What always holds of a slot that no thread but the keeper can have claimed: whatever
was put into it is there or about to be given away by the keeper, and callbacks have
found nothing else. -/
structure Kept (s : State) (keeper : Nat) (stage : OwnerStage) : Prop where
  here : s.owner keeper = stage
  alone : ∀ other, other ≠ keeper → s.owner other = .outside
  claimed : s.claimed = true ↔ stage ≠ .outside
  counted : ∃ busy : Finset Nat, (∀ r, r ∈ busy ↔ s.callback r ≠ .idle) ∧ s.inFlight = busy.card
  installed : ∀ target, s.active = some target →
    s.fate target = .placed ∧ stage.retiring? ≠ some target
  retiring : ∀ target, stage.retiring? = some target → s.fate target = .placed
  placed : ∀ target, s.fate target = .placed →
    s.active = some target ∨ stage.retiring? = some target
  used : ∀ r target, s.Uses r target →
    s.active = some target ∨ ∃ purpose, stage = .waiting target purpose
  emptied : stage.emptied = true → s.active = none

namespace Kept

variable {s : State} {keeper : Nat} {stage : OwnerStage}

theorem initial (keeper : Nat) : Kept initial keeper .outside where
  here := rfl
  alone _ _ := rfl
  claimed := by simp [SharedSlot.initial]
  counted := ⟨∅, by simp [SharedSlot.initial], rfl⟩
  installed := nofun
  retiring := nofun
  placed := nofun
  used := nofun
  emptied _ := rfl

theorem eq_keeper (kept : Kept s keeper stage) {i : Nat} (holds : s.Holds i) : i = keeper := by
  by_contra other
  exact holds (kept.alone i other)

theorem eq_stage (kept : Kept s keeper stage) {i : Nat} {there : OwnerStage}
    (found : s.owner i = there) (inside : there ≠ .outside) : keeper = i ∧ stage = there := by
  have same : i = keeper := kept.eq_keeper (by simpa [State.Holds, found] using inside)
  exact ⟨same.symm, by rw [← kept.here, ← same, found]⟩

theorem hand (kept : Kept s keeper stage) (free : s.claimed = false) (next : Nat) :
    Kept s next .outside := by
  have nobody : stage = .outside := by
    by_contra inside
    simp [kept.claimed.mpr inside] at free
  subst nobody
  have outside (i : Nat) : s.owner i = .outside := by
    by_cases same : i = keeper
    · rw [same, kept.here]
    · exact kept.alone i same
  exact { kept with here := outside next, alone := fun i _ => outside i }

theorem active_of_uses (kept : Kept s keeper stage)
    (settled : ∀ target purpose, stage ≠ .waiting target purpose) {r target : Nat}
    (uses : s.Uses r target) : s.active = some target := by
  rcases kept.used r target uses with active | ⟨purpose, waiting⟩
  · exact active
  · exact absurd waiting (settled target purpose)

theorem fate_of_uses (kept : Kept s keeper stage) {r target : Nat} (uses : s.Uses r target) :
    s.fate target = .placed := by
  rcases kept.used r target uses with active | ⟨purpose, rfl⟩
  · exact (kept.installed target active).1
  · exact kept.retiring target rfl

section Owner

variable {i : Nat}

theorem claim (kept : Kept s i .outside) :
    Kept { s with claimed := true, owner := put s.owner i .ready } i .ready where
  here := put_self
  alone other ne := (put_of_ne ne).trans (kept.alone other ne)
  claimed := by simp
  counted := kept.counted
  installed := kept.installed
  retiring := nofun
  placed := kept.placed
  used _ _ uses := .inl (kept.active_of_uses nofun uses)
  emptied := nofun

/-- Whatever comes into the slot, what was there before is about to be given away. -/
theorem swap (kept : Kept s i .ready) (purpose : Purpose) (otherwise : OwnerStage)
    (inside : otherwise ≠ .outside) (nothing : otherwise.retiring? = none) {next : Option Nat}
    (vacating : (afterSwap s.active purpose otherwise).emptied = true → next = none)
    {fate : Nat → Fate} (loose : ∀ target, next = some target → s.fate target ≠ .placed)
    (fates : ∀ target, fate target = .placed ↔ next = some target ∨ s.fate target = .placed) :
    Kept { s with
      active := next
      owner := put s.owner i (afterSwap s.active purpose otherwise)
      fate } i (afterSwap s.active purpose otherwise) := by
  have leaving (target : Nat) :
      (afterSwap s.active purpose otherwise).retiring? = some target ↔ s.active = some target := by
    cases s.active with
    | none => simp [afterSwap, nothing]
    | some old => simp [afterSwap, OwnerStage.retiring?]
  refine ⟨put_self, fun other ne => (put_of_ne ne).trans (kept.alone other ne), ?claimed,
    kept.counted, ?installed, ?retiring, ?placed, ?used, vacating⟩
  case claimed =>
    have claimed : s.claimed = true := kept.claimed.mpr nofun
    cases s.active <;> simp [afterSwap, claimed, inside]
  case installed =>
    intro target there
    refine ⟨(fates target).mpr (.inl there), fun old => loose target there ?_⟩
    exact (kept.installed target ((leaving target).mp old)).1
  case retiring =>
    intro target old
    exact (fates target).mpr (.inr (kept.installed target ((leaving target).mp old)).1)
  case placed =>
    intro target placed
    rcases (fates target).mp placed with new | before
    · exact .inl new
    · rcases kept.placed target before with active | none
      · exact .inr ((leaving target).mpr active)
      · contradiction
  case used =>
    intro r target uses
    exact .inr ⟨purpose, by rw [kept.active_of_uses nofun uses]; rfl⟩

theorem install (kept : Kept s i .ready) {target : Nat}
    (loose : s.fate target = .fresh ∨ s.fate target = .handedBack) :
    Kept { s with
      active := some target
      owner := put s.owner i (afterSwap s.active .replace .ready)
      fate := put s.fate target .placed } i (afterSwap s.active .replace .ready) := by
  refine kept.swap .replace .ready nofun rfl ?vacating ?loose ?fates
  case vacating =>
    cases s.active <;> exact nofun
  case loose =>
    rintro _ ⟨⟩
    rcases loose with fresh | handedBack <;> simp [*]
  case fates =>
    intro other
    by_cases same : other = target
    · simp [same]
    · simp [put_of_ne same, Ne.symm same]

theorem takeOut (kept : Kept s i .ready) (purpose : Purpose) (otherwise : OwnerStage)
    (inside : otherwise ≠ .outside) (nothing : otherwise.retiring? = none) :
    Kept { s with
      active := none
      owner := put s.owner i (afterSwap s.active purpose otherwise) } i
      (afterSwap s.active purpose otherwise) :=
  kept.swap purpose otherwise inside nothing (fun _ => rfl) nofun (by simp)

theorem unused (kept : Kept s keeper stage) (quiet : s.inFlight = 0) (r target : Nat) :
    ¬s.Uses r target := by
  intro uses
  obtain ⟨busy, members, count⟩ := kept.counted
  have empty : busy = ∅ := Finset.card_eq_zero.mp (count.symm.trans quiet)
  have member : r ∈ busy := (members r).mpr (by simp [show s.callback r = _ from uses])
  simp [empty] at member

theorem see {old : Nat} {purpose : Purpose} (kept : Kept s i (.waiting old purpose))
    (quiet : s.inFlight = 0) :
    Kept { s with owner := put s.owner i (.cleared old purpose) } i (.cleared old purpose) where
  here := put_self
  alone other ne := (put_of_ne ne).trans (kept.alone other ne)
  claimed := by simpa using kept.claimed
  counted := kept.counted
  installed := kept.installed
  retiring := kept.retiring
  placed := kept.placed
  used r target uses := absurd uses (kept.unused quiet r target)
  emptied vacating := kept.emptied (by cases purpose <;> first | contradiction | rfl)

theorem not_used {old : Nat} {purpose : Purpose} (kept : Kept s i (.cleared old purpose)) (r : Nat) :
    ¬s.Uses r old := by
  intro uses
  exact (kept.installed old (kept.active_of_uses nofun uses)).2 rfl

theorem giveAway {old : Nat} {purpose : Purpose} (kept : Kept s i (.cleared old purpose)) :
    Kept { s with
      owner := put s.owner i purpose.next
      fate := put s.fate old purpose.fate } i purpose.next := by
  have nothing : purpose.next.retiring? = none := by cases purpose <;> rfl
  have gone : purpose.fate ≠ .placed := by cases purpose <;> nofun
  refine ⟨put_self, fun other ne => (put_of_ne ne).trans (kept.alone other ne), ?claimed,
    kept.counted, ?installed, ?retiring, ?placed, ?used, ?emptied⟩
  case claimed =>
    have claimed : s.claimed = true := kept.claimed.mpr nofun
    cases purpose <;> simp [claimed, Purpose.next]
  case installed =>
    intro target active
    obtain ⟨placed, other⟩ := kept.installed target active
    have ne : target ≠ old := fun same => other (same ▸ rfl)
    exact ⟨(put_of_ne ne).trans placed, by simp [nothing]⟩
  case retiring =>
    intro target retiring
    rw [nothing] at retiring
    contradiction
  case placed =>
    intro target placed
    by_cases same : target = old
    · subst same
      exact absurd (put_self.symm.trans placed) gone
    · rcases kept.placed target ((put_of_ne same).symm.trans placed) with active | retiring
      · exact .inl active
      · exact absurd (Option.some.inj retiring).symm same
  case used => exact fun _ _ uses => .inl (kept.active_of_uses nofun uses)
  case emptied =>
    intro vacating
    exact kept.emptied (by cases purpose <;> first | contradiction | rfl)

theorem leave (kept : Kept s i .leaving) :
    Kept { s with claimed := false, owner := put s.owner i .outside } i .outside where
  here := put_self
  alone other ne := (put_of_ne ne).trans (kept.alone other ne)
  claimed := by simp
  counted := kept.counted
  installed := kept.installed
  retiring := nofun
  placed := kept.placed
  used _ _ uses := .inl (kept.active_of_uses nofun uses)
  emptied _ := kept.emptied rfl

end Owner

section Callback

variable {r : Nat}

/-- A callback may go on as long as it finds nothing but what is in the slot. -/
theorem callback (kept : Kept s keeper stage) {inFlight : Nat} {next : CallbackStage}
    (counted : ∃ busy : Finset Nat, (∀ other, other ∈ busy ↔ put s.callback r next other ≠ .idle) ∧
      inFlight = busy.card)
    (finds : ∀ target, next = .found (some target) → s.active = some target) :
    Kept { s with inFlight, callback := put s.callback r next } keeper stage := by
  refine { kept with counted := counted, used := ?_ }
  intro other target uses
  by_cases same : other = r
  · subst same
    exact .inl (finds target (put_self.symm.trans uses))
  · exact kept.used other target ((put_of_ne same).symm.trans uses)

theorem enter (kept : Kept s keeper stage) (idle : s.callback r = .idle) :
    Kept { s with inFlight := s.inFlight + 1, callback := put s.callback r .counted }
      keeper stage := by
  obtain ⟨busy, members, count⟩ := kept.counted
  have new : r ∉ busy := by simp [members, idle]
  refine kept.callback ⟨insert r busy, fun other => ?_, ?_⟩ nofun
  · by_cases same : other = r
    · simp [same]
    · simp [same, put_of_ne same, members]
  · rw [Finset.card_insert_of_notMem new, count]

theorem proceed (kept : Kept s keeper stage) (busy : s.callback r ≠ .idle) {next : CallbackStage}
    (still : next ≠ .idle) (finds : ∀ target, next = .found (some target) → s.active = some target) :
    Kept { s with callback := put s.callback r next } keeper stage := by
  obtain ⟨counted, members, count⟩ := kept.counted
  refine kept.callback ⟨counted, fun other => ?_, count⟩ finds
  by_cases same : other = r
  · simp [same, members, busy, still]
  · simp [put_of_ne same, members]

theorem exit (kept : Kept s keeper stage) (busy : s.callback r ≠ .idle) :
    Kept { s with inFlight := s.inFlight - 1, callback := put s.callback r .idle }
      keeper stage := by
  obtain ⟨counted, members, count⟩ := kept.counted
  have member : r ∈ counted := (members r).mpr busy
  refine kept.callback ⟨counted.erase r, fun other => ?_, ?_⟩ nofun
  · by_cases same : other = r
    · simp [same]
    · simp [same, put_of_ne same, members]
  · rw [Finset.card_erase_of_mem member, count]

end Callback

theorem step {t : State} (kept : Kept s keeper stage) (step : Step s t) :
    ∃ keeper stage, Kept t keeper stage := by
  cases step with
  | claim i outside free => exact ⟨i, _, (kept.hand free i).claim⟩
  | install i target ready loose =>
    obtain ⟨rfl, rfl⟩ := kept.eq_stage ready nofun
    exact ⟨_, _, kept.install loose⟩
  | uninstall i ready =>
    obtain ⟨rfl, rfl⟩ := kept.eq_stage ready nofun
    exact ⟨_, _, kept.takeOut .handBack .ready nofun rfl⟩
  | giveUp i ready =>
    obtain ⟨rfl, rfl⟩ := kept.eq_stage ready nofun
    exact ⟨_, _, kept.takeOut .vacate .leaving nofun rfl⟩
  | see i old purpose waiting quiet =>
    obtain ⟨rfl, rfl⟩ := kept.eq_stage waiting nofun
    exact ⟨_, _, kept.see quiet⟩
  | giveAway i old purpose cleared =>
    obtain ⟨rfl, rfl⟩ := kept.eq_stage cleared nofun
    exact ⟨_, _, kept.giveAway⟩
  | leave i leaving =>
    obtain ⟨rfl, rfl⟩ := kept.eq_stage leaving nofun
    exact ⟨_, _, kept.leave⟩
  | enter r idle => exact ⟨_, _, kept.enter idle⟩
  | find r counted =>
    exact ⟨_, _, kept.proceed (by simp [counted]) nofun fun _ found => CallbackStage.found.inj found⟩
  | use r target found => exact ⟨_, _, kept.proceed (by simp [found]) nofun nofun⟩
  | pass r found => exact ⟨_, _, kept.proceed (by simp [found]) nofun nofun⟩
  | exit r finished => exact ⟨_, _, kept.exit (by simp [finished])⟩

theorem of_reachable (reached : Reachable s) : ∃ keeper stage, Kept s keeper stage := by
  induction reached with
  | start => exact ⟨0, _, .initial 0⟩
  | step _ step ih =>
    obtain ⟨_, _, kept⟩ := ih
    exact kept.step step

end Kept

/-- Where a target can be that was in the slot at some time. -/
inductive Place where
  | installed
  | retiring
  | handedBack
  | freed
deriving DecidableEq, Repr

/-- A target is at a place; the one who retires it holds the claim. -/
def State.At (s : State) (target : Nat) : Place → Prop
  | .installed => s.active = some target
  | .retiring => ∃ i, s.Holds i ∧ s.Retires i target
  | .handedBack => s.fate target = .handedBack
  | .freed => s.fate target = .freed

/-- What is noted of a target at a place. -/
def Place.fate : Place → Fate
  | installed | retiring => .placed
  | handedBack => .handedBack
  | freed => .freed

namespace Kept

variable {s : State} {keeper : Nat} {stage : OwnerStage}

theorem at_retiring_iff (kept : Kept s keeper stage) (target : Nat) :
    s.At target .retiring ↔ stage.retiring? = some target := by
  constructor
  · rintro ⟨i, holds, retires⟩
    have same := kept.eq_keeper holds
    rwa [same, State.retires_iff, kept.here] at retires
  · intro retiring
    refine ⟨keeper, ?_, State.retires_iff.mpr (kept.here ▸ retiring)⟩
    intro outside
    rw [← kept.here, outside] at retiring
    contradiction

theorem fate_of_at (kept : Kept s keeper stage) {target : Nat} {place : Place}
    (there : s.At target place) : s.fate target = place.fate := by
  cases place with
  | installed => exact (kept.installed target there).1
  | retiring => exact kept.retiring target ((kept.at_retiring_iff target).mp there)
  | handedBack | freed => exact there

theorem at_unique (kept : Kept s keeper stage) {target : Nat} {one two : Place}
    (first : s.At target one) (second : s.At target two) : one = two := by
  have notBoth (installed : s.At target .installed) (retiring : s.At target .retiring) : False :=
    (kept.installed target installed).2 ((kept.at_retiring_iff target).mp retiring)
  have same : one.fate = two.fate := (kept.fate_of_at first).symm.trans (kept.fate_of_at second)
  cases one with
  | installed =>
    cases two with
    | installed => rfl
    | retiring => exact (notBoth first second).elim
    | handedBack | freed => contradiction
  | retiring =>
    cases two with
    | installed => exact (notBoth second first).elim
    | retiring => rfl
    | handedBack | freed => contradiction
  | handedBack | freed => cases two <;> first | rfl | contradiction

theorem exists_at (kept : Kept s keeper stage) {target : Nat} (known : s.fate target ≠ .fresh) :
    ∃ place, s.At target place := by
  cases fate : s.fate target with
  | fresh => contradiction
  | placed =>
    rcases kept.placed target fate with active | retiring
    · exact ⟨.installed, active⟩
    · exact ⟨.retiring, (kept.at_retiring_iff target).mpr retiring⟩
  | handedBack => exact ⟨.handedBack, fate⟩
  | freed => exact ⟨.freed, fate⟩

/-- Once in the slot, a target is never again as it was before, and what was freed stays
freed. -/
theorem fate_step (kept : Kept s keeper stage) {t : State} (step : Step s t) (target : Nat) :
    (s.fate target ≠ .fresh → t.fate target ≠ .fresh) ∧
      (s.fate target = .freed → t.fate target = .freed) := by
  cases step with
  | install i new ready loose =>
    by_cases same : target = new
    · subst same
      rcases loose with fresh | handedBack <;> simp [*]
    · simp [put_of_ne same]
  | giveAway i old purpose cleared =>
    obtain ⟨rfl, rfl⟩ := kept.eq_stage cleared nofun
    by_cases same : target = old
    · subst same
      have placed := kept.retiring target rfl
      cases purpose <;> simp [placed, Purpose.fate]
    · simp [put_of_ne same]
  | claim | uninstall | giveUp | see | leave | enter | find | use | pass | exit => exact ⟨id, id⟩

theorem run (kept : Kept s keeper stage) {t : State} (later : Relation.ReflTransGen Step s t)
    (target : Nat) :
    (∃ keeper stage, Kept t keeper stage) ∧ (s.fate target ≠ .fresh → t.fate target ≠ .fresh) ∧
      (s.fate target = .freed → t.fate target = .freed) := by
  induction later with
  | refl => exact ⟨⟨_, _, kept⟩, id, id⟩
  | tail _ step ih =>
    obtain ⟨⟨_, _, before⟩, known, freed⟩ := ih
    have next := before.fate_step step target
    exact ⟨before.step step, next.1 ∘ known, next.2 ∘ freed⟩

end Kept

/-- However the accesses of all threads follow each other, at most one of them holds the
claim, and the slot is claimed while one does and empty while none does. A callback uses
nothing that was handed back or freed, and none is about to use what is being given away.
From the time it is in the slot, a target is at exactly one place, and once freed it stays
freed and nobody is about to give it away again. -/
theorem targets_outlive_callbacks {s : State} (reached : Reachable s) :
    (∀ i j, s.Holds i → s.Holds j → i = j) ∧
      (s.claimed = true ↔ ∃ i, s.Holds i) ∧
      (s.claimed = false → s.active = none) ∧
      (∀ r target, s.Uses r target → ¬s.At target .handedBack ∧ ¬s.At target .freed) ∧
      (∀ i target purpose, s.owner i = .cleared target purpose → ∀ r, ¬s.Uses r target) ∧
      (∀ target t, s.active = some target → Relation.ReflTransGen Step s t →
        ∃! place, t.At target place) ∧
      ∀ target t, s.fate target = .freed → Relation.ReflTransGen Step s t →
        t.fate target = .freed ∧ ∀ i, ¬t.Retires i target := by
  obtain ⟨keeper, stage, kept⟩ := Kept.of_reachable reached
  refine ⟨fun i j one two => ?_, ?claimed, ?vacant, ?used, ?given, ?places, ?freed⟩
  · rw [kept.eq_keeper one, kept.eq_keeper two]
  case claimed =>
    rw [kept.claimed, ← kept.here]
    exact ⟨fun holds => ⟨keeper, holds⟩, fun ⟨i, holds⟩ => kept.eq_keeper holds ▸ holds⟩
  case vacant =>
    intro free
    exact (kept.hand free keeper).emptied rfl
  case used =>
    intro r target uses
    have placed := kept.fate_of_uses uses
    exact ⟨fun handedBack => Fate.noConfusion (placed.symm.trans handedBack),
      fun freed => Fate.noConfusion (placed.symm.trans freed)⟩
  case given =>
    intro i target purpose cleared
    obtain ⟨rfl, rfl⟩ := kept.eq_stage cleared nofun
    exact kept.not_used
  case places =>
    intro target t active later
    obtain ⟨⟨_, _, after⟩, known, _⟩ := kept.run later target
    have placed := (kept.installed target active).1
    obtain ⟨place, there⟩ := after.exists_at (known (by simp [placed]))
    exact ⟨place, there, fun other elsewhere => after.at_unique elsewhere there⟩
  case freed =>
    intro target t freed later
    obtain ⟨⟨_, _, after⟩, _, still⟩ := kept.run later target
    refine ⟨still freed, fun i retires => ?_⟩
    have holds : t.Holds i := by
      rcases retires with ⟨purpose, waiting | cleared⟩ <;> simp [State.Holds, *]
    have retiring : t.At target .retiring := ⟨i, holds, retires⟩
    exact Fate.noConfusion ((after.fate_of_at retiring).symm.trans (still freed))

theorem exists_overtaken : ∃ s t, Reachable s ∧ s.active = some 7 ∧ Relation.ReflTransGen Step s t ∧
    Reachable t ∧ t.active = none ∧ t.Uses 3 7 ∧ t.owner 0 = .waiting 7 .vacate := by
  obtain ⟨s, installed, active, ready, idle⟩ : ∃ s, Reachable s ∧ s.active = some 7 ∧
      s.owner 0 = .ready ∧ s.callback 3 = .idle := by
    have claimed := Reachable.start.step (.claim 0 rfl rfl)
    exact ⟨_, claimed.step (.install 0 7 rfl (.inl rfl)), rfl, rfl, rfl⟩
  have found := (Relation.ReflTransGen.single (Step.enter 3 idle)).tail (.find 3 rfl)
  have reached := (installed.step (.enter 3 idle)).step (.find 3 rfl)
  refine ⟨s, _, installed, active, found.tail (.giveUp 0 ready), reached.step (.giveUp 0 ready), rfl,
    ?_, ?_⟩
  · simp [State.Uses, active]
  · simp [active, afterSwap]

theorem targets_outlive_callbacks_overtaken : ∃ t, Reachable t ∧ t.active = none ∧ t.Uses 3 7 ∧
    t.claimed = true ∧ ¬t.At 7 .freed ∧ ∃! place, t.At 7 place := by
  obtain ⟨s, t, before, active, later, reached, empty, uses, waiting⟩ := exists_overtaken
  obtain ⟨_, _, _, _, _, places, _⟩ := targets_outlive_callbacks before
  obtain ⟨_, claimed, _, used, _⟩ := targets_outlive_callbacks reached
  exact ⟨t, reached, empty, uses, claimed.mpr ⟨0, by simp [State.Holds, waiting]⟩,
    (used 3 7 uses).2, places 7 t active later⟩

end PlanarSink.SharedSlot
