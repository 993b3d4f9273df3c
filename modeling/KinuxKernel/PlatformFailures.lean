import KinuxKernel.PlatformDriver
import KinuxKernel.TraceRun

/-!
# Probes of the sensors that fail

`P_driver_probe` undoes nothing when the kernel refuses a call, and a remove releases the
class only if both structures have lost their minor numbers.  The structure of a probe that
has failed keeps it.
-/

namespace KinuxKernel

namespace Sensor

open TraceRun

/-- Which calls of a probe succeed; `kmalloc` does. -/
structure ProbeAnswers where
  classCreate : Bool
  allocChrdevRegion : Bool
  cdevAdd : Bool

namespace PlatformDriver

variable {Address : Type*} [DecidableEq Address] (driver : PlatformDriver Address)

/-- The structure of a device is allocated, with its minor number. -/
def allocate (device : Device) (address : Address) (contents : HSCStruct) :
    PlatformDriver Address :=
  { driver with
    struct1 := Function.update driver.struct1 device (some address)
    memory := Function.update driver.memory address
      (some { contents with minorNum := device.minor }) }

/-- The end of `P_driver_probe`.  A device in a class that has been destroyed is undefined. -/
def addDevice (cdevAdd : Bool) : Option (PlatformDriver Address × Bool) :=
  if cdevAdd = false then some (driver, false)
  else if driver.sysClass = false then none
  else some (driver, true)

/-- `P_driver_probe` with the answers of the kernel, and whether it returns zero.  To unregister
the error pointer that `class_create` has returned is undefined. -/
def probeAnswered (device : Device) (address : Address) (contents : HSCStruct)
    (answers : ProbeAnswers) : Option (PlatformDriver Address × Bool) :=
  let driver := driver.allocate device address contents
  if driver.classFlag = false then
    if answers.classCreate = false then none
    else if answers.allocChrdevRegion = false then some ({ driver with sysClass := true }, false)
    else driver.classInit.addDevice answers.cdevAdd
  else driver.addDevice answers.cdevAdd

section Calls

variable {driver} {after : PlatformDriver Address} {device : Device} {address : Address}
  {contents : HSCStruct} {answers : ProbeAnswers} {succeeds : Bool}

omit [DecidableEq Address] in
theorem addDevice_spec {cdevAdd : Bool}
    (added : driver.addDevice cdevAdd = some (after, succeeds)) :
    after = driver ∧ (succeeds = true → driver.sysClass = true) := by
  unfold addDevice at added
  split_ifs at added with refused destroyed
  · cases added
    exact ⟨rfl, fun succeeded => (Bool.false_ne_true succeeded).elim⟩
  · cases added
    exact ⟨rfl, fun _ => eq_true_of_ne_false destroyed⟩

/-- If all calls succeed in a class that is not destroyed, this is the probe as before. -/
theorem probeAnswered_granted (live : driver.classFlag = true → driver.sysClass = true) :
    driver.probeAnswered device address contents ⟨true, true, true⟩ =
      some (driver.pDriverProbe device address contents, true) := by
  cases flag : driver.classFlag with
  | false => simp [probeAnswered, pDriverProbe, allocate, addDevice, classInit, flag]
  | true => simp [probeAnswered, pDriverProbe, allocate, addDevice, classInit, flag, live flag]

/-- With the class flag set a probe leaves the class alone. -/
theorem probeAnswered_of_classFlag (flag : driver.classFlag = true)
    (probed : driver.probeAnswered device address contents answers = some (after, succeeds)) :
    after = driver.allocate device address contents ∧
      (succeeds = true → driver.sysClass = true) := by
  have isSet : (driver.allocate device address contents).classFlag = true := flag
  unfold probeAnswered at probed
  simp only [isSet, reduceCtorEq, if_false] at probed
  exact addDevice_spec probed

/-- The first probe creates the class, and sets the flag if it gets the region. -/
theorem probeAnswered_of_not_classFlag (flag : driver.classFlag = false)
    (probed : driver.probeAnswered device address contents answers = some (after, succeeds)) :
    answers.classCreate = true ∧ after.sysClass = true ∧
      after.struct1 = (driver.allocate device address contents).struct1 ∧
      after.memory = (driver.allocate device address contents).memory ∧
      (after.classFlag = false ∧ succeeds = false ∨
        after.classFlag = true ∧ after.chrdevRegion = true) := by
  have unset : (driver.allocate device address contents).classFlag = false := flag
  unfold probeAnswered at probed
  rw [if_pos unset] at probed
  split_ifs at probed with refused noRegion
  · cases probed
    exact ⟨eq_true_of_ne_false refused, rfl, rfl, rfl, .inl ⟨flag, rfl⟩⟩
  · obtain ⟨rfl, -⟩ := addDevice_spec probed
    rw [classInit, if_pos unset]
    exact ⟨eq_true_of_ne_false refused, rfl, rfl, rfl, .inr ⟨rfl, rfl⟩⟩

/-- A remove looks at the minor number of the other structure, and releases everything if
this is not the one that the other device has. -/
theorem pDriverRemove_spec (removed : driver.pDriverRemove device = some after) :
    ∃ address structp another second, driver.struct1 device = some address ∧
      driver.memory address = some structp ∧ driver.struct1 device.other = some another ∧
      (driver.clearMinor address structp).memory another = some second ∧
      (if second.minorNum = device.other.minor then after = driver.clearMinor address structp
        else (driver.clearMinor address structp).release = some after) := by
  unfold pDriverRemove at removed
  obtain ⟨address, pointer, removed⟩ := Option.bind_eq_some_iff.mp removed
  obtain ⟨structp, live, removed⟩ := Option.bind_eq_some_iff.mp removed
  have cleared : (driver.clearMinor address structp).deref
      ((driver.clearMinor address structp).struct1 device) =
        some { structp with minorNum := -1 } := by
    simp [deref, clearMinor, pointer]
  rw [noneBound_eq cleared device.minor_ne.symm] at removed
  obtain ⟨last, read, finished⟩ := Option.bind_eq_some_iff.mp removed
  obtain ⟨second, dereferenced, rfl⟩ := Option.map_eq_some_iff.mp read
  obtain ⟨another, otherPointer, otherLive⟩ := Option.bind_eq_some_iff.mp dereferenced
  refine ⟨address, structp, another, second, pointer, live, otherPointer, otherLive, ?_⟩
  by_cases stays : second.minorNum = device.other.minor
  · rw [if_pos stays]
    simpa [stays] using finished.symm
  · rw [if_neg stays]
    simpa [stays] using finished

end Calls

end PlatformDriver

/-- The driver with the devices that are bound to it. -/
structure Bus (Address : Type*) where
  driver : PlatformDriver Address
  bound : Device → Bool

/-- The events of the platform bus, with the answers that a probe gets. -/
inductive BusEvent (Address : Type*) where
  | probe (device : Device) (address : Address) (contents : HSCStruct) (answers : ProbeAnswers)
  | remove (device : Device)

variable {Address : Type*}

/-- Whether the last event of a device is a remove. -/
def lastRemoved : List (BusEvent Address) → Device → Bool
  | [], _ => false
  | .probe probed _ _ _ :: trace, device => device ≠ probed && lastRemoved trace device
  | .remove removed :: trace, device => device = removed || lastRemoved trace device

@[simp]
theorem lastRemoved_remove_other {trace : List (BusEvent Address)} {device : Device} :
    lastRemoved (.remove device :: trace) device.other = lastRemoved trace device.other := by
  simp [lastRemoved]

namespace Bus

/-- The module has been loaded, and no device is bound. -/
def loaded : Bus Address :=
  ⟨.loaded, fun _ => false⟩

variable [DecidableEq Address]

/-- The bus probes devices that are not bound and removes those that are; one that returns
an error is not bound. -/
def step (bus : Bus Address) : BusEvent Address → Option (Bus Address)
  | .probe device address contents answers =>
      if bus.bound device = true then none
      else (bus.driver.probeAnswered device address contents answers).map
        fun probed => ⟨probed.1, Function.update bus.bound device probed.2⟩
  | .remove device =>
      if bus.bound device = false then none
      else (bus.driver.pDriverRemove device).map
        fun driver => ⟨driver, Function.update bus.bound device false⟩

/-- `kmalloc` returns memory that is not in use, and `class_create` refuses a name that
is in use. -/
def Granted (_ : List (BusEvent Address)) (bus : Bus Address) : BusEvent Address → Prop
  | .probe _ address _ answers => bus.driver.memory address = none ∧
      (bus.driver.classFlag = false → answers.classCreate = true → bus.driver.sysClass = false)
  | .remove _ => True

/-- The driver after it has been loaded, through probes and removes. -/
abbrev BusRun : List (BusEvent Address) → Bus Address → Prop :=
  Run step Granted loaded

/-- The structure of a device is null, or live with the minor number that its last event
has left, and it is not the structure of the other device. -/
def Keeps (trace : List (BusEvent Address)) (driver : PlatformDriver Address) (device : Device) :
    Prop :=
  ∀ address, driver.struct1 device = some address →
    driver.struct1 device.other ≠ some address ∧
      ∃ structp, driver.memory address = some structp ∧
        (structp.minorNum = device.minor ↔ lastRemoved trace device = false)

/-- What holds of the bus in every run. -/
structure Invariant (trace : List (BusEvent Address)) (bus : Bus Address) : Prop where
  /-- A device is bound only to a class that is registered, and not after a remove. -/
  bound : ∀ device, bus.bound device = true → bus.driver.sysClass = true ∧
    bus.driver.classFlag = true ∧ lastRemoved trace device = false
  /-- As long as there is a class, the structures are as the last events have left them. -/
  keeps : bus.driver.sysClass = true → ∀ device, Keeps trace bus.driver device
  /-- The flag says that the region has been registered with the class. -/
  region : bus.driver.classFlag = true → bus.driver.chrdevRegion = bus.driver.sysClass
  /-- Before the first class there is no structure. -/
  initially : bus.driver.classFlag = false → bus.driver.sysClass = false →
    ∀ device, bus.driver.struct1 device = none

section Steps

variable {trace : List (BusEvent Address)} {bus after : Bus Address}
  {driver : PlatformDriver Address} {device : Device} {address : Address} {contents : HSCStruct}
  {answers : ProbeAnswers}

/-- A probe leaves its structure with its minor number, and the other structure alone. -/
theorem keeps_allocate (keeps : ∀ device, Keeps trace driver device)
    (fresh : driver.memory address = none) (another : Device) :
    Keeps (.probe device address contents answers :: trace)
      (driver.allocate device address contents) another := by
  have used (device : Device) : driver.struct1 device ≠ some address := by
    intro pointer
    obtain ⟨-, structp, live, -⟩ := keeps device address pointer
    rw [fresh] at live
    cases live
  intro pointer located
  obtain rfl | rfl := device.eq_or_other another
  · obtain rfl : address = pointer := by
      simpa [PlatformDriver.allocate] using located
    refine ⟨?_, { contents with minorNum := another.minor }, ?_, ?_⟩
    · simpa [PlatformDriver.allocate] using used another.other
    · simp [PlatformDriver.allocate]
    · simp [lastRemoved]
  · have before : driver.struct1 device.other = some pointer := by
      simpa [PlatformDriver.allocate] using located
    obtain ⟨-, structp, live, minor⟩ := keeps device.other pointer before
    have distinct : pointer ≠ address := by
      rintro rfl
      exact used device.other before
    refine ⟨?_, structp, ?_, ?_⟩
    · simpa [PlatformDriver.allocate] using distinct.symm
    · simpa [PlatformDriver.allocate, distinct] using live
    · simpa [lastRemoved] using minor

/-- A remove clears one minor number. -/
theorem keeps_clearMinor (keeps : ∀ device, Keeps trace driver device) {structp : HSCStruct}
    (located : driver.struct1 device = some address) (another : Device) :
    Keeps (.remove device :: trace) (driver.clearMinor address structp) another := by
  intro pointer isLocated
  have before : driver.struct1 another = some pointer := isLocated
  obtain ⟨distinct, second, live, minor⟩ := keeps another pointer before
  obtain rfl | rfl := device.eq_or_other another
  · obtain rfl : address = pointer := Option.some.inj (located.symm.trans before)
    refine ⟨distinct, { structp with minorNum := -1 }, ?_, ?_⟩
    · simp [PlatformDriver.clearMinor]
    · simp [lastRemoved, another.minor_ne.symm]
  · have apart : pointer ≠ address := by
      rintro rfl
      rw [Device.other_other] at distinct
      exact distinct located
    refine ⟨distinct, second, ?_, ?_⟩
    · simpa [PlatformDriver.clearMinor, apart] using live
    · simpa [lastRemoved] using minor

omit [DecidableEq Address] in
/-- Before the first class there is nothing to keep. -/
theorem keeps_of_none (unused : ∀ device, driver.struct1 device = none) (device : Device) :
    Keeps trace driver device := by
  intro pointer located
  rw [unused] at located
  cases located

omit [DecidableEq Address] in
/-- Only the pointers and the memory matter. -/
theorem Keeps.congr {another : PlatformDriver Address} (keeps : Keeps trace driver device)
    (struct1 : another.struct1 = driver.struct1) (memory : another.memory = driver.memory) :
    Keeps trace another device := by
  unfold Keeps
  rw [struct1, memory]
  exact keeps

omit [DecidableEq Address] in
theorem Invariant.loaded : Invariant [] (loaded : Bus Address) where
  bound _ isBound := by cases isBound
  keeps registered := by cases registered
  region flag := by cases flag
  initially _ _ _ := rfl

/-- A probe that finds the flag set. -/
theorem Invariant.probe_of_classFlag (invariant : Invariant trace bus) {succeeds : Bool}
    (fresh : bus.driver.memory address = none) (flag : bus.driver.classFlag = true)
    (probed : bus.driver.probeAnswered device address contents answers = some (driver, succeeds)) :
    Invariant (.probe device address contents answers :: trace)
      ⟨driver, Function.update bus.bound device succeeds⟩ := by
  obtain ⟨rfl, registered⟩ := PlatformDriver.probeAnswered_of_classFlag flag probed
  constructor
  · intro another isBound
    by_cases same : another = device
    · subst same
      exact ⟨registered (by simpa using isBound), flag, by simp [lastRemoved]⟩
    · obtain ⟨class_, -, last⟩ := invariant.bound another (by simpa [same] using isBound)
      exact ⟨class_, flag, by simpa [lastRemoved, same] using last⟩
  · exact fun isRegistered => keeps_allocate (invariant.keeps isRegistered) fresh
  · exact fun _ => invariant.region flag
  · intro unset
    exact absurd (unset.symm.trans flag) Bool.false_ne_true

/-- A probe that finds the flag not set. -/
theorem Invariant.probe_of_not_classFlag (invariant : Invariant trace bus) {succeeds : Bool}
    (fresh : bus.driver.memory address = none) (flag : bus.driver.classFlag = false)
    (refused : answers.classCreate = true → bus.driver.sysClass = false)
    (probed : bus.driver.probeAnswered device address contents answers = some (driver, succeeds)) :
    Invariant (.probe device address contents answers :: trace)
      ⟨driver, Function.update bus.bound device succeeds⟩ := by
  obtain ⟨created, registered, struct1, memory, outcome⟩ :=
    PlatformDriver.probeAnswered_of_not_classFlag flag probed
  have unused := invariant.initially flag (refused created)
  constructor
  · intro another isBound
    by_cases same : another = device
    · subst same
      obtain ⟨-, rfl⟩ | ⟨isSet, -⟩ := outcome
      · simp at isBound
      · exact ⟨registered, isSet, by simp [lastRemoved]⟩
    · have before := invariant.bound another (by simpa [same] using isBound)
      exact absurd (flag.symm.trans before.2.1) Bool.false_ne_true
  · intro _ another
    exact (keeps_allocate (keeps_of_none unused) fresh another).congr struct1 memory
  · intro isSet
    obtain ⟨unset, -⟩ | ⟨-, region⟩ := outcome
    · exact absurd (unset.symm.trans isSet) Bool.false_ne_true
    · exact region.trans registered.symm
  · intro _ absent
    exact absurd (absent.symm.trans registered) Bool.false_ne_true

/-- After a remove at most the other device is bound. -/
theorem eq_other_of_bound {bound : Device → Bool} {another : Device}
    (stillBound : Function.update bound device false another = true) :
    another = device.other ∧ bound device.other = true := by
  obtain rfl | rfl := device.eq_or_other another
  · simp at stillBound
  · exact ⟨rfl, by simpa using stillBound⟩

/-- A remove that leaves the other minor number leaves the class. -/
theorem Invariant.remove_kept (invariant : Invariant trace bus) (isBound : bus.bound device = true)
    {structp : HSCStruct} (pointer : bus.driver.struct1 device = some address)
    (stays : lastRemoved trace device.other = false) :
    Invariant (.remove device :: trace)
      ⟨bus.driver.clearMinor address structp, Function.update bus.bound device false⟩ := by
  obtain ⟨registered, flag, -⟩ := invariant.bound device isBound
  constructor
  · intro another stillBound
    obtain ⟨rfl, -⟩ := eq_other_of_bound stillBound
    exact ⟨registered, flag, lastRemoved_remove_other.trans stays⟩
  · exact fun _ => keeps_clearMinor (invariant.keeps registered) pointer
  · exact fun _ => invariant.region flag
  · intro unset
    exact absurd (unset.symm.trans flag) Bool.false_ne_true

omit [DecidableEq Address] in
/-- After a remove that releases the class no device is bound. -/
theorem Invariant.remove_released (invariant : Invariant trace bus)
    (gone : lastRemoved trace device.other = true) (flag : driver.classFlag = true)
    (class_ : driver.sysClass = false) (region : driver.chrdevRegion = false) :
    Invariant (.remove device :: trace) ⟨driver, Function.update bus.bound device false⟩ := by
  constructor
  · intro another stillBound
    obtain ⟨rfl, before⟩ := eq_other_of_bound stillBound
    have last := (invariant.bound device.other before).2.2
    exact absurd (last.symm.trans gone) Bool.false_ne_true
  · intro registered
    exact absurd (class_.symm.trans registered) Bool.false_ne_true
  · exact fun _ => region.trans class_.symm
  · intro unset
    exact absurd (unset.symm.trans flag) Bool.false_ne_true

/-- A remove of a bound device releases the class exactly if the last event of the other
device is a remove. -/
theorem Invariant.remove (invariant : Invariant trace bus) (isBound : bus.bound device = true)
    (removed : bus.driver.pDriverRemove device = some driver) :
    Invariant (.remove device :: trace) ⟨driver, Function.update bus.bound device false⟩ ∧
      driver.classFlag = true ∧
      (driver.sysClass = false ↔ lastRemoved trace device.other = true) := by
  obtain ⟨registered, flag, -⟩ := invariant.bound device isBound
  have keeps := invariant.keeps registered
  obtain ⟨address, structp, another, second, pointer, -, otherPointer, otherLive, outcome⟩ :=
    PlatformDriver.pDriverRemove_spec removed
  have kept : Keeps (.remove device :: trace) (bus.driver.clearMinor address structp)
      device.other := keeps_clearMinor keeps pointer _
  obtain ⟨-, same, isSecond, minor⟩ := kept another otherPointer
  obtain rfl : same = second := Option.some.inj (isSecond.symm.trans otherLive)
  rw [lastRemoved_remove_other] at minor
  split_ifs at outcome with stays
  · subst outcome
    have class_ : (bus.driver.clearMinor address structp).sysClass = true := registered
    exact ⟨invariant.remove_kept isBound pointer (minor.mp stays), flag,
      by simp [class_, minor.mp stays]⟩
  · have distinct : address ≠ another := by
      rintro rfl
      exact (keeps device address pointer).1 otherPointer
    have cleared : (bus.driver.clearMinor address structp).memory address =
        some { structp with minorNum := -1 } := by
      simp [PlatformDriver.clearMinor]
    have released : (bus.driver.clearMinor address structp).release = _ :=
      PlatformDriver.release_eq pointer otherPointer cleared otherLive distinct
    obtain rfl := Option.some.inj (outcome.symm.trans released)
    have gone : lastRemoved trace device.other = true := by
      simpa using mt minor.mpr stays
    exact ⟨invariant.remove_released gone flag rfl rfl, flag, by simp [gone]⟩

/-- The invariant holds in every run. -/
theorem BusRun.invariant (run : BusRun trace bus) : Invariant trace bus := by
  refine Run.invariant (fun trace bus => Invariant trace bus) .loaded ?_ run
  intro trace before after event _ invariant granted stepTo
  cases event with
  | probe device address contents answers =>
      simp only [step] at stepTo
      split_ifs at stepTo with isBound
      obtain ⟨⟨driver, succeeds⟩, probed, rfl⟩ := Option.map_eq_some_iff.mp stepTo
      cases flag : before.driver.classFlag with
      | true => exact invariant.probe_of_classFlag granted.1 flag probed
      | false => exact invariant.probe_of_not_classFlag granted.1 flag (granted.2 flag) probed
  | remove device =>
      simp only [step] at stepTo
      split_ifs at stepTo with unbound
      obtain ⟨driver, removed, rfl⟩ := Option.map_eq_some_iff.mp stepTo
      exact (invariant.remove (eq_true_of_ne_false unbound) removed).1

/-- A remove releases the class and the region if and only if the last event of the other device
is a remove: a probe that has failed keeps them. -/
theorem class_released_iff (run : BusRun (.remove device :: trace) bus) :
    (bus.driver.sysClass = false ↔ lastRemoved trace device.other = true) ∧
      bus.driver.chrdevRegion = bus.driver.sysClass := by
  cases run with
  | @next _ before _ _ earlier _ stepTo =>
      simp only [step] at stepTo
      split_ifs at stepTo with unbound
      obtain ⟨driver, removed, rfl⟩ := Option.map_eq_some_iff.mp stepTo
      obtain ⟨invariant, flag, released⟩ :=
        (BusRun.invariant earlier).remove (eq_true_of_ne_false unbound) removed
      exact ⟨released, invariant.region flag⟩

/-- The device `HSC_1` is probed and removed; the probe of `HSC_2` between has failed. -/
def failedSecond : List (BusEvent Nat) :=
  [.remove .hsc1, .probe .hsc2 1 .zeroed ⟨true, true, false⟩,
    .probe .hsc1 0 .zeroed ⟨true, true, true⟩]

theorem class_released_iff_failed : ∃ bus, BusRun failedSecond bus ∧
    (∀ device, bus.bound device = false) ∧ bus.driver.sysClass = true := by
  have first : BusRun [.probe .hsc1 (0 : Nat) .zeroed ⟨true, true, true⟩] _ :=
    .next .start ⟨rfl, fun _ _ => rfl⟩ rfl
  have second : BusRun [.probe .hsc2 (1 : Nat) .zeroed ⟨true, true, false⟩, _] _ :=
    .next first ⟨rfl, fun unset => (Bool.false_ne_true unset.symm).elim⟩ rfl
  have third : BusRun failedSecond _ := .next second trivial rfl
  refine ⟨_, third, ?_, ?_⟩
  · intro device
    cases device <;> rfl
  · have released := (class_released_iff third).1
    exact eq_true_of_ne_false fun gone => Bool.false_ne_true (released.mp gone)

end Steps

end Bus

end Sensor

end KinuxKernel
