import KinuxKernel.PinAccesses
import KinuxKernel.PinStores

/-!
# Removing a sensor that has been used

What stays claimed when a sensor is removed that has been configured through its attributes.
`P_driver_remove` frees the interrupt without asking whether there is one, cancels a timer that
only a measurement run initialises, and frees the pins that the two fields name.
-/

namespace KinuxKernel

namespace Sensor

open TraceRun ResourceLedger

/-- Stores to attributes, and measurement runs with their events. -/
inductive UseEvent where
  | store (attr : Attribute) (tmp : BitVec 32)
  | write (events : List MeasurementEvent)

/-- The accepted store to a pin that an event is. -/
def UseEvent.pinStore : UseEvent → Option PinStore
  | .store .trigger tmp => if tmp.toInt > 13 ∨ tmp.toInt < 1 then none else some (.trigger tmp)
  | .store .echo tmp => if tmp.toInt > 13 ∨ tmp.toInt < 1 then none else some (.echo tmp)
  | .store .numberSamples _ | .store .samplePeriod _ | .store .enable _ | .write _ => none

def pinStores (trace : List UseEvent) : List PinStore :=
  trace.filterMap UseEvent.pinStore

def UseEvent.IsWrite : UseEvent → Prop
  | .write _ => True
  | .store _ _ => False

variable (inUse : Resource → Bool) (gpioToIrq : BitVec 32 → Int)

/-- An event that completes; a completed run has no echo outside the sample arrays. -/
def useAttribute (driver : Driver) (session : Session) : UseEvent → Option Session
  | .store attr tmp => (store (grantFree inUse) gpioToIrq tmp session attr).map Prod.fst
  | .write events => operate (grantFree inUse) gpioToIrq driver session (.write events)

/-- Stored pins are not in use elsewhere; echoes come after a trigger. -/
def UseEvent.Legal : UseEvent → Prop
  | .store attr tmp =>
      ∀ stored ∈ (UseEvent.store attr tmp).pinStore, stored.Legal inUse gpioToIrq
  | .write events => (Operation.write events).Legal gpioToIrq inUse

/-- A sensor with its structure in any memory, for which nothing is claimed yet. -/
abbrev UseRun (driver : Driver) (contents : HSCStruct) : List UseEvent → Session → Prop :=
  Run (useAttribute inUse gpioToIrq driver) (each (UseEvent.Legal inUse gpioToIrq)) ⟨contents, []⟩

/-- What holds of a sensor as long as its stores are safe. -/
structure UseInvariant (contents : HSCStruct) (trace : List UseEvent) (session : Session) :
    Prop where
  stored : StoreInvariant gpioToIrq contents (pinStores trace) session
  legal : ∀ event ∈ pinStores trace, event.Legal inUse gpioToIrq
  off : session.structp.hrTimer ≠ .pending
  timer : session.structp.hrTimer = .idle ↔
    contents.hrTimer = .idle ∨ ∃ event ∈ trace, event.IsWrite

section Using

variable {inUse gpioToIrq} {driver : Driver} {contents : HSCStruct} {trace : List UseEvent}
  {session after : Session} {event : UseEvent} {stores : List PinStore}

/-- Only the pins, the interrupt and the ledger matter. -/
theorem StoreInvariant.keep (invariant : StoreInvariant gpioToIrq contents stores session)
    (ledger : after.ledger = session.ledger)
    (trigger : after.structp.trigger = session.structp.trigger)
    (echo : after.structp.echo = session.structp.echo)
    (irqnum : after.structp.irqnum = session.structp.irqnum) :
    StoreInvariant gpioToIrq contents stores after := by
  constructor
  · exact trigger.trans invariant.trigger
  · exact echo.trans invariant.echo
  · rw [irqnum]
    exact invariant.irqnum
  · rw [ledger]
    exact invariant.owns

theorem UseInvariant.start (off : contents.hrTimer ≠ .pending) :
    UseInvariant inUse gpioToIrq contents [] ⟨contents, []⟩ where
  stored := .start
  legal := by simp [pinStores]
  off := off
  timer := by simp

/-- An event that stores no pin. -/
theorem UseInvariant.keep (invariant : UseInvariant inUse gpioToIrq contents trace session)
    (noPin : event.pinStore = none)
    (stored : StoreInvariant gpioToIrq contents (pinStores trace) after)
    (off : after.structp.hrTimer ≠ .pending)
    (timer : after.structp.hrTimer = .idle ↔ session.structp.hrTimer = .idle ∨ event.IsWrite) :
    UseInvariant inUse gpioToIrq contents (event :: trace) after := by
  have same : pinStores (event :: trace) = pinStores trace := List.filterMap_cons_none noPin
  constructor
  · rwa [same]
  · rw [same]
    exact invariant.legal
  · exact off
  · rw [timer, invariant.timer, List.exists_mem_cons_iff, or_assoc, or_comm (b := event.IsWrite)]

/-- A store of a pin leaves the timer. -/
theorem storePin_hrTimer {stored : PinStore}
    (stepTo : storePin inUse gpioToIrq session stored = some after) :
    after.structp.hrTimer = session.structp.hrTimer := by
  cases stored with
  | trigger tmp =>
      obtain ⟨⟨result, code⟩, answered, rfl⟩ := Option.map_eq_some_iff.mp stepTo
      obtain ⟨-, rfl⟩ | ⟨-, same⟩ := triggerStore_cases answered
      · rfl
      · simp [same]
  | echo tmp =>
      obtain ⟨⟨result, code⟩, answered, rfl⟩ := Option.map_eq_some_iff.mp stepTo
      obtain ⟨-, rfl⟩ | ⟨-, irqnum, same⟩ := echoStore_cases answered
      · rfl
      · simp [same]

/-- An event that stores a pin safely. -/
theorem UseInvariant.pin (invariant : UseInvariant inUse gpioToIrq contents trace session)
    {stored : PinStore} (isPin : event.pinStore = some stored) (noWrite : ¬ event.IsWrite)
    (legal : stored.Legal inUse gpioToIrq) (safe : StoreSafe contents (pinStores trace) stored)
    (stepTo : storePin inUse gpioToIrq session stored = some after) :
    UseInvariant inUse gpioToIrq contents (event :: trace) after := by
  have stores : pinStores (event :: trace) = stored :: pinStores trace :=
    List.filterMap_cons_some isPin
  have allLegal : ∀ other ∈ stored :: pinStores trace, other.Legal inUse gpioToIrq :=
    List.forall_mem_cons.mpr ⟨legal, invariant.legal⟩
  obtain ⟨result, reached, owns⟩ := (invariant.stored.step_iff allLegal).mpr safe
  obtain rfl := Option.some.inj (reached.symm.trans stepTo)
  have timer := storePin_hrTimer stepTo
  constructor
  · rw [stores]
    exact invariant.stored.step legal reached owns
  · rwa [stores]
  · rw [timer]
    exact invariant.off
  · rw [timer, invariant.timer, List.exists_mem_cons_iff]
    simp [noWrite]

/-- A store that is refused, or to a field that names no pin. -/
theorem UseInvariant.other (invariant : UseInvariant inUse gpioToIrq contents trace session)
    {attr : Attribute} {tmp : BitVec 32} {code : Int}
    (noPin : (UseEvent.store attr tmp).pinStore = none)
    (stored : store (grantFree inUse) gpioToIrq tmp session attr = some (after, code)) :
    UseInvariant inUse gpioToIrq contents (.store attr tmp :: trace) after := by
  have field (ledger : after.ledger = session.ledger)
      (trigger : after.structp.trigger = session.structp.trigger)
      (echo : after.structp.echo = session.structp.echo)
      (irqnum : after.structp.irqnum = session.structp.irqnum)
      (hrTimer : after.structp.hrTimer = session.structp.hrTimer) :
      UseInvariant inUse gpioToIrq contents (.store attr tmp :: trace) after := by
    apply invariant.keep noPin (invariant.stored.keep ledger trigger echo irqnum)
    · rw [hrTimer]
      exact invariant.off
    · simp [hrTimer, UseEvent.IsWrite]
  cases attr with
  | trigger =>
      obtain ⟨-, rfl⟩ | ⟨accepted, -⟩ := triggerStore_cases stored
      · exact field rfl rfl rfl rfl rfl
      · simp [UseEvent.pinStore, accepted] at noPin
  | echo =>
      obtain ⟨-, rfl⟩ | ⟨accepted, -⟩ := echoStore_cases stored
      · exact field rfl rfl rfl rfl rfl
      · simp [UseEvent.pinStore, accepted] at noPin
  | numberSamples =>
      obtain ⟨rfl, -⟩ := Prod.mk.inj (Option.some.inj stored)
      unfold HSCStruct.samplesStore at *
      split_ifs at * <;> exact field rfl rfl rfl rfl rfl
  | samplePeriod =>
      obtain ⟨rfl, -⟩ := Prod.mk.inj (Option.some.inj stored)
      unfold HSCStruct.speriodStore at *
      split_ifs at * <;> exact field rfl rfl rfl rfl rfl
  | enable =>
      obtain ⟨rfl, -⟩ := Prod.mk.inj (Option.some.inj stored)
      unfold HSCStruct.enableStore at *
      split_ifs at * <;> exact field rfl rfl rfl rfl rfl

theorem useAttribute_pin {attr : Attribute} {tmp : BitVec 32} {stored : PinStore}
    (isPin : (UseEvent.store attr tmp).pinStore = some stored) :
    useAttribute inUse gpioToIrq driver session (.store attr tmp) =
      storePin inUse gpioToIrq session stored := by
  cases attr with
  | trigger | echo =>
      obtain ⟨-, same⟩ := Option.ite_none_left_eq_some.mp isPin
      obtain rfl := Option.some.inj same
      rfl
  | numberSamples | samplePeriod | enable => cases isPin

theorem UseInvariant.step (invariant : UseInvariant inUse gpioToIrq contents trace session)
    (legal : event.Legal inUse gpioToIrq)
    (safe : ∀ stored ∈ event.pinStore, StoreSafe contents (pinStores trace) stored)
    (stepTo : useAttribute inUse gpioToIrq driver session event = some after) :
    UseInvariant inUse gpioToIrq contents (event :: trace) after := by
  cases event with
  | write events =>
      have echoes : (Operation.write events).Legal gpioToIrq inUse := legal
      obtain ⟨ledger, settings, idle⟩ := write_spec invariant.off echoes stepTo
      apply invariant.keep rfl
        (invariant.stored.keep ledger settings.trigger settings.echo settings.irqnum)
      · simp [idle]
      · simp [idle, UseEvent.IsWrite]
  | store attr tmp =>
      cases isPin : (UseEvent.store attr tmp).pinStore with
      | none =>
          obtain ⟨⟨result, code⟩, stored, rfl⟩ := Option.map_eq_some_iff.mp stepTo
          exact invariant.other isPin stored
      | some stored =>
          rw [useAttribute_pin isPin] at stepTo
          exact invariant.pin isPin (fun isWrite => isWrite) (legal stored isPin)
            (safe stored isPin) stepTo

theorem pinStores_suffix : pinStores trace <:+ pinStores (event :: trace) := by
  unfold pinStores
  cases isPin : event.pinStore with
  | none => rw [List.filterMap_cons_none isPin]
  | some stored =>
      rw [List.filterMap_cons_some isPin]
      exact List.suffix_cons stored _

/-- As long as all stores are safe, the sensor holds what its pins need. -/
theorem UseRun.invariant (off : contents.hrTimer ≠ .pending)
    (run : UseRun inUse gpioToIrq driver contents trace session)
    (safe : ∀ stored earlier, stored :: earlier <:+ pinStores trace →
      StoreSafe contents earlier stored) :
    UseInvariant inUse gpioToIrq contents trace session := by
  induction run with
  | start => exact .start off
  | next _ legal stepTo ih =>
      have before := ih fun stored earlier inside =>
        safe stored earlier (inside.trans pinStores_suffix)
      apply before.step legal _ stepTo
      intro stored isPin
      apply safe stored
      rw [pinStores, pinStores, List.filterMap_cons_some isPin]

/-- The trigger that a sensor has after its stores. -/
def triggerField (contents : HSCStruct) (stores : List PinStore) : Int :=
  (lastTrigger stores).getD contents.trigger

/-- The fields of a sensor that releases everything when it is removed. -/
def Removable (contents : HSCStruct) (stores : List PinStore) : Prop :=
  ∃ echo, lastEcho stores = some echo ∧ echo ≠ triggerField contents stores ∧
    (0 ≤ triggerField contents stores ∧ triggerField contents stores ≤ 19 →
      lastTrigger stores = some (triggerField contents stores))

theorem proper_of_releaseTrigger {lowered : Ledger}
    (released : releaseTrigger session = some lowered) (proper : Proper lowered) :
    Proper session.ledger := by
  unfold releaseTrigger at released
  split_ifs at released
  · obtain ⟨row, -, rfl⟩ := Option.map_eq_some_iff.mp released
    exact proper.of_freeAll
  · obtain rfl := Option.some.inj released
    exact proper

theorem proper_of_echo {echo : Int} {ledger final : Ledger}
    (deregistered : (if echo ≥ 0 ∧ echo ≤ 19 then gpioDeregisterIn echo ledger else some ledger) =
      some final) (proper : Proper final) : Proper ledger := by
  split_ifs at deregistered
  · obtain ⟨row, -, rfl⟩ := Option.map_eq_some_iff.mp deregistered
    exact proper.of_freeAll
  · obtain rfl := Option.some.inj deregistered
    exact proper

/-- A remove that frees only what is held. -/
theorem StoreInvariant.removable (invariant : StoreInvariant gpioToIrq contents stores session)
    (legal : ∀ event ∈ stores, event.Legal inUse gpioToIrq)
    (removed : removeSensor session = some after) (proper : Proper after.ledger) :
    Removable contents stores := by
  have field : triggerField contents stores = session.structp.trigger := invariant.trigger.symm
  have valid := storedPins_valid legal
  obtain ⟨ret, -, removed⟩ := Option.bind_eq_some_iff.mp removed
  obtain ⟨lowered, trigger, removed⟩ := Option.bind_eq_some_iff.mp removed
  obtain ⟨final, deregistered, rfl⟩ := Option.map_eq_some_iff.mp removed
  have properLowered := proper_of_echo deregistered proper
  -- the interrupt is held only if an echo pin has been stored
  have held := (proper_of_releaseTrigger trigger properLowered).1
  have irq := (invariant.owns.irqnum _).mp held
  obtain ⟨echo, isLast, -⟩ := Option.bind_eq_some_iff.mp irq
  obtain rfl := invariant.eq_echo echo isLast
  have owns := invariant.owns
  rw [irq] at owns
  have named := owns.freeIrq.named_of_releaseTrigger valid trigger properLowered
  obtain ⟨ledger, released, ownsEcho⟩ := owns.freeIrq.releaseTrigger valid named
  obtain rfl := Option.some.inj (released.symm.trans trigger)
  obtain ⟨low, high⟩ := valid _ (.inr isLast)
  rw [if_pos ⟨low, by omega⟩] at deregistered
  obtain ⟨row, found, rfl⟩ := Option.map_eq_some_iff.mp deregistered
  have others : ∀ ioPin ∈ storedPins stores \ {session.structp.trigger}, ValidPin ioPin :=
    fun ioPin member => valid ioPin member.1
  have different := (ownsEcho.release others found proper).1.2
  refine ⟨session.structp.echo, isLast, ?_, ?_⟩
  · rw [field]
    exact different
  · rw [field]
    intro looksLike
    refine (named looksLike).resolve_right fun isEcho => different ?_
    exact Option.some.inj (isLast.symm.trans isEcho)

/-- A remove of a sensor whose timer has been initialised. -/
theorem StoreInvariant.releases (invariant : StoreInvariant gpioToIrq contents stores session)
    (legal : ∀ event ∈ stores, event.Legal inUse gpioToIrq)
    (idle : session.structp.hrTimer = .idle) (removable : Removable contents stores) :
    ∃ after, removeSensor session = some after ∧ Released after.ledger := by
  have valid := storedPins_valid legal
  obtain ⟨echo, isLast, different, trigger⟩ := removable
  obtain rfl := invariant.eq_echo echo isLast
  rw [triggerField, ← invariant.trigger] at different trigger
  have irq : storedIrq gpioToIrq stores = some session.structp.irqnum := by
    rw [storedIrq, isLast]
    exact invariant.irqnum _ isLast
  have owns := invariant.owns
  rw [irq] at owns
  let freed : Session :=
    { session with ledger := .free (.irq session.structp.irqnum) :: session.ledger }
  have ownsPins : Owns freed.ledger (storedPins stores) none := owns.freeIrq
  obtain ⟨lowered, released, ownsEcho⟩ :=
    ownsPins.releaseTrigger valid fun looksLike => .inl (trigger looksLike)
  have others : ∀ ioPin ∈ storedPins stores \ {session.structp.trigger}, ValidPin ioPin :=
    fun ioPin member => valid ioPin member.1
  obtain ⟨row, found, ownsNone⟩ := ownsEcho.release_of_mem others ⟨.inr isLast, different⟩
  obtain ⟨low, high⟩ := valid _ (.inr isLast)
  have inTable : session.structp.echo ≥ 0 ∧ session.structp.echo ≤ 19 := ⟨low, by omega⟩
  refine ⟨⟨{ session.structp with hrTimer := .idle, minorNum := -1 },
    freeAll lowered (rowGpios row)⟩, ?_, released_iff.mpr ⟨ownsNone.proper, fun resource => ?_⟩⟩
  · rw [removeSensor, idle, hrtimerCancel, Option.bind_some, released, Option.bind_some,
      if_pos inTable, gpioDeregisterIn, found, Option.map_some, Option.map_some]
  · rw [Bool.eq_false_iff]
    intro held
    cases resource with
    | irq number => cases (ownsNone.irqnum number).mp held
    | gpio number =>
        obtain ⟨ioPin, ⟨⟨isTrigger | isEcho, notTrigger⟩, notEcho⟩, -⟩ :=
          (ownsNone.gpio number).mp held
        · exact notTrigger (invariant.eq_trigger ioPin isTrigger)
        · exact notEcho (invariant.eq_echo ioPin isEcho)

/-- A sensor whose stores are safe, and of pins that are not in use elsewhere, releases everything
when it is removed if and only if its timer has been initialised, an echo pin has been stored, and
the trigger is another pin, which has been stored or is none. -/
theorem removal_releases_iff (off : contents.hrTimer ≠ .pending)
    (run : UseRun inUse gpioToIrq driver contents trace session)
    (safe : ∀ stored earlier, stored :: earlier <:+ pinStores trace →
      StoreSafe contents earlier stored) :
    (∃ after, removeSensor session = some after ∧ Released after.ledger) ↔
      (contents.hrTimer = .idle ∨ ∃ event ∈ trace, event.IsWrite) ∧
        Removable contents (pinStores trace) := by
  have invariant := UseRun.invariant off run safe
  rw [← invariant.timer]
  constructor
  · rintro ⟨after, removed, released⟩
    refine ⟨?_, invariant.stored.removable invariant.legal removed released.onlyHeld⟩
    obtain ⟨ret, cancelled, -⟩ := Option.bind_eq_some_iff.mp removed
    exact idle_of_hrtimerCancel invariant.off cancelled
  · rintro ⟨idle, removable⟩
    exact invariant.stored.releases invariant.legal idle removable

end Using

/-- Pins, the number of samples and a measurement. -/
def scripted (now : Timeval) : List UseEvent :=
  [.write (threeExpiries now), .store .enable 1, .store .numberSamples 3, .store .echo 3,
    .store .trigger 8]

theorem removal_releases_iff_scripted :
    ∃ session, UseRun (fun _ => false) shiftedIrq (part2 1000) unnamedPins (scripted ⟨1, 0⟩)
      session ∧ ∃ after, removeSensor session = some after ∧ Released after.ledger := by
  have legal : ∀ event ∈ scripted ⟨1, 0⟩, event.Legal (fun _ => false) shiftedIrq := by
    simp only [scripted, List.forall_mem_cons]
    refine ⟨threeExpiries_legal shiftedIrq _, ?_, ?_, ?_, ?_, by simp⟩
    · rintro _ ⟨⟩
    · rintro _ ⟨⟩
    · rintro _ ⟨⟩
      exact legal_of_accepted _ (by decide)
    · rintro _ ⟨⟩
      exact legal_of_accepted _ (by decide)
  have completes : (replay (useAttribute (fun _ => false) shiftedIrq (part2 1000))
      ⟨unnamedPins, []⟩ (scripted ⟨1, 0⟩)).isSome := by decide +kernel
  obtain ⟨session, run⟩ := exists_run_of_replay legal completes
  refine ⟨session, run, (removal_releases_iff (by decide) run ?_).mpr ⟨.inr ?_, ?_⟩⟩
  · have stores : pinStores (scripted ⟨1, 0⟩) = [.echo 3, .trigger 8] := rfl
    intro stored earlier inside
    simp only [stores, executed_cons_iff, List.suffix_nil, reduceCtorEq, or_false] at inside
    obtain ⟨rfl, rfl⟩ | ⟨rfl, rfl⟩ := inside <;>
      simp [StoreSafe, lastTrigger, lastEcho, unnamedPins]
  · exact ⟨_, List.mem_cons_self .., trivial⟩
  · exact ⟨3, rfl, by decide, fun _ => rfl⟩

end Sensor

end KinuxKernel
