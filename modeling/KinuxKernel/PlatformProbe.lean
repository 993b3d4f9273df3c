import Mathlib.Data.Finset.Card
import KinuxKernel.PlatformDriver
import KinuxKernel.TraceRun

/-!
# Binding and unbinding the two sensors

Sequences of probe and remove events of the platform devices.  The class and the
region are created by the first probe and released by the first remove that
leaves no device bound; `class_flag` stays set.
-/

namespace KinuxKernel

namespace Sensor

open TraceRun

/-- The events of the platform bus; a probe gets fresh memory with some contents. -/
inductive BindEvent (Address : Type*) where
  | probe (device : Device) (address : Address) (contents : HSCStruct)
  | remove (device : Device)

variable {Address : Type*}

/-- Which devices are bound after a trace. -/
def bound : List (BindEvent Address) → Device → Bool
  | [], _ => false
  | .probe probed _ _ :: trace, device => device = probed || bound trace device
  | .remove removed :: trace, device => device ≠ removed && bound trace device

/-- All memory that probes have allocated. -/
def addresses : List (BindEvent Address) → List Address
  | [] => []
  | .probe _ address _ :: trace => address :: addresses trace
  | .remove _ :: trace => addresses trace

/-- The memory that the last probe of a device has allocated. -/
def lastAddress : List (BindEvent Address) → Device → Option Address
  | [], _ => none
  | .probe probed address _ :: trace, device =>
      if device = probed then some address else lastAddress trace device
  | .remove _ :: trace, device => lastAddress trace device

theorem lastAddress_mem {trace : List (BindEvent Address)} {device : Device} {address : Address}
    (last : lastAddress trace device = some address) : address ∈ addresses trace := by
  induction trace with
  | nil => cases last
  | cons event trace ih =>
      cases event with
      | probe probed fresh contents =>
          by_cases same : device = probed
          · simp_all [lastAddress, addresses]
          · rw [lastAddress, if_neg same] at last
            exact List.mem_cons_of_mem _ (ih last)
      | remove removed => exact ih last

theorem lastAddress_of_bound {trace : List (BindEvent Address)} {device : Device}
    (isBound : bound trace device = true) : ∃ address, lastAddress trace device = some address := by
  induction trace with
  | nil => cases isBound
  | cons event trace ih =>
      cases event with
      | probe probed fresh contents =>
          by_cases same : device = probed
          · exact ⟨fresh, if_pos same⟩
          · rw [lastAddress, if_neg same]
            apply ih
            simpa [bound, same] using isBound
      | remove removed =>
          apply ih
          simp only [bound, Bool.and_eq_true] at isBound
          exact isBound.2

variable [DecidableEq Address]

def drive (driver : PlatformDriver Address) : BindEvent Address → Option (PlatformDriver Address)
  | .probe device address contents => some (driver.pDriverProbe device address contents)
  | .remove device => driver.pDriverRemove device

/-- Each device alternates, starting with a probe, and `kmalloc` returns memory
that is not in use. -/
structure Legal (trace : List (BindEvent Address)) : Prop where
  probes : ∀ device address contents earlier, .probe device address contents :: earlier <:+ trace →
    bound earlier device = false
  removes : ∀ device earlier, .remove device :: earlier <:+ trace → bound earlier device = true
  fresh : ∀ device address contents earlier driver,
    .probe device address contents :: earlier <:+ trace →
    replay drive .loaded earlier = some driver → driver.memory address = none

/-- The class and the region are registered exactly while a device is bound, and no
structure is left when none is. -/
structure Settled (trace : List (BindEvent Address)) (driver : PlatformDriver Address) :
    Prop where
  sysClass : driver.sysClass = true ↔ ∃ device, bound trace device = true
  chrdevRegion : driver.chrdevRegion = true ↔ ∃ device, bound trace device = true
  freed : (∀ device, bound trace device = false) → ∀ address, driver.memory address = none

/-- The shared class is consistent along a trace: no remove reads or frees a
structure that is not live, and devices are created in a registered class. -/
structure Consistent (trace : List (BindEvent Address)) : Prop where
  removes : ∀ device earlier driver, .remove device :: earlier <:+ trace →
    replay drive .loaded earlier = some driver → (driver.pDriverRemove device).isSome = true
  created : ∀ device address contents earlier driver,
    .probe device address contents :: earlier <:+ trace →
    replay drive .loaded earlier = some driver →
    (driver.pDriverProbe device address contents).sysClass = true
  states : ∀ earlier driver, earlier <:+ trace → replay drive .loaded earlier = some driver →
    Settled earlier driver

/-- A remove that leaves a device bound is fine.  Any other one has to be the last
event, with two probes before it, one of each device. -/
def Orderly (trace : List (BindEvent Address)) : Prop :=
  ∀ device earlier, .remove device :: earlier <:+ trace →
    bound earlier device.other = true ∨
      (lastAddress earlier device.other).isSome = true ∧ (addresses earlier).length = 2 ∧
        .remove device :: earlier = trace

theorem Legal.of_suffix {trace earlier : List (BindEvent Address)} (legal : Legal trace)
    (suffix : earlier <:+ trace) : Legal earlier :=
  ⟨fun device address contents past inside =>
      legal.probes device address contents past (inside.trans suffix),
    fun device past inside => legal.removes device past (inside.trans suffix),
    fun device address contents past driver inside =>
      legal.fresh device address contents past driver (inside.trans suffix)⟩

theorem Legal.nil : Legal ([] : List (BindEvent Address)) :=
  ⟨fun _ _ _ _ inside => (List.cons_ne_nil _ _ (List.suffix_nil.mp inside)).elim,
    fun _ _ inside => (List.cons_ne_nil _ _ (List.suffix_nil.mp inside)).elim,
    fun _ _ _ _ _ inside => (List.cons_ne_nil _ _ (List.suffix_nil.mp inside)).elim⟩

/-- A device that is not bound may be probed with unused memory. -/
theorem Legal.probe {trace : List (BindEvent Address)} (legal : Legal trace) {device : Device}
    {address : Address} {contents : HSCStruct} (unbound : bound trace device = false)
    (unused : ∀ driver, replay drive .loaded trace = some driver → driver.memory address = none) :
    Legal (.probe device address contents :: trace) := by
  constructor
  · intro another _ _ earlier inside
    obtain ⟨same, rfl⟩ | within := executed_cons_iff.mp inside
    · cases same
      exact unbound
    · exact legal.probes another _ _ earlier within
  · intro another earlier inside
    obtain ⟨same, -⟩ | within := executed_cons_iff.mp inside
    · cases same
    · exact legal.removes another earlier within
  · intro another _ _ earlier driver inside reached
    obtain ⟨same, rfl⟩ | within := executed_cons_iff.mp inside
    · cases same
      exact unused driver reached
    · exact legal.fresh another _ _ earlier driver within reached

/-- A device that is bound may be removed. -/
theorem Legal.remove {trace : List (BindEvent Address)} (legal : Legal trace) {device : Device}
    (isBound : bound trace device = true) : Legal (.remove device :: trace) := by
  constructor
  · intro another _ _ earlier inside
    obtain ⟨same, -⟩ | within := executed_cons_iff.mp inside
    · cases same
    · exact legal.probes another _ _ earlier within
  · intro another earlier inside
    obtain ⟨same, rfl⟩ | within := executed_cons_iff.mp inside
    · cases same
      exact isBound
    · exact legal.removes another earlier within
  · intro another _ _ earlier driver inside reached
    obtain ⟨same, -⟩ | within := executed_cons_iff.mp inside
    · cases same
    · exact legal.fresh another _ _ earlier driver within reached

theorem Consistent.of_suffix {trace earlier : List (BindEvent Address)}
    (consistent : Consistent trace) (suffix : earlier <:+ trace) : Consistent earlier :=
  ⟨fun device past driver inside => consistent.removes device past driver (inside.trans suffix),
    fun device address contents past driver inside =>
      consistent.created device address contents past driver (inside.trans suffix),
    fun past driver inside => consistent.states past driver (inside.trans suffix)⟩

/-- Every remove leaves a device bound. -/
def Shared (trace : List (BindEvent Address)) : Prop :=
  ∀ device earlier, .remove device :: earlier <:+ trace → bound earlier device.other = true

omit [DecidableEq Address] in
theorem Shared.of_suffix {trace earlier : List (BindEvent Address)} (isShared : Shared trace)
    (suffix : earlier <:+ trace) : Shared earlier :=
  fun device past inside => isShared device past (inside.trans suffix)

omit [DecidableEq Address] in
/-- Only the last event of an orderly trace leaves no device bound. -/
theorem Orderly.shared {trace : List (BindEvent Address)} {event : BindEvent Address}
    (orderly : Orderly (event :: trace)) : Shared trace := by
  intro device earlier inside
  obtain stays | ⟨-, -, last⟩ :=
    orderly device earlier (inside.trans (List.suffix_cons event trace))
  · exact stays
  · have length := inside.length_le
    rw [last] at length
    simp at length

omit [DecidableEq Address] in
theorem Shared.orderly {trace : List (BindEvent Address)} (isShared : Shared trace) :
    Orderly trace :=
  fun device earlier inside => Or.inl (isShared device earlier inside)

omit [DecidableEq Address] in
theorem Orderly.of_suffix {trace earlier : List (BindEvent Address)} (orderly : Orderly trace)
    (suffix : earlier <:+ trace) : Orderly earlier := by
  cases trace with
  | nil =>
      obtain rfl := List.suffix_nil.mp suffix
      exact orderly
  | cons event past =>
      rcases List.suffix_cons_iff.mp suffix with rfl | inside
      · exact orderly
      · exact (orderly.shared.of_suffix inside).orderly

omit [DecidableEq Address] in
theorem Shared.some_bound {trace : List (BindEvent Address)} (isShared : Shared trace)
    (nonempty : trace ≠ []) : ∃ device, bound trace device = true := by
  cases trace with
  | nil => exact (nonempty rfl).elim
  | cons event earlier =>
      cases event with
      | probe device address contents => exact ⟨device, by simp [bound]⟩
      | remove device =>
          refine ⟨device.other, ?_⟩
          simp [bound, isShared device earlier (List.suffix_refl _)]

/-- What holds as long as a device has stayed bound: the pointers are those of
the last probes, their structures tell which device is bound, and nothing has
been released. -/
structure BindInvariant (trace : List (BindEvent Address)) (driver : PlatformDriver Address) :
    Prop where
  struct1 : ∀ device, driver.struct1 device = lastAddress trace device
  live : ∀ address, (driver.memory address).isSome = true ↔ address ∈ addresses trace
  nodup : (addresses trace).Nodup
  distinct : ∀ device address, lastAddress trace device = some address →
    lastAddress trace device.other ≠ some address
  minorNum : ∀ device address, lastAddress trace device = some address →
    ∃ structp, driver.memory address = some structp ∧
      structp.minorNum = if bound trace device then device.minor else -1
  classFlag : driver.classFlag = !trace.isEmpty
  sysClass : driver.sysClass = !trace.isEmpty
  chrdevRegion : driver.chrdevRegion = !trace.isEmpty

section Step

variable {trace : List (BindEvent Address)} {driver : PlatformDriver Address} {device : Device}

omit [DecidableEq Address] in
theorem BindInvariant.loaded : BindInvariant [] (.loaded : PlatformDriver Address) where
  struct1 _ := rfl
  live _ := by simp [PlatformDriver.loaded, addresses]
  nodup := List.nodup_nil
  distinct _ _ last := by cases last
  minorNum _ _ last := by cases last
  classFlag := rfl
  sysClass := rfl
  chrdevRegion := rfl

omit [DecidableEq Address] in
theorem BindInvariant.address_ne (invariant : BindInvariant trace driver)
    {address another : Address} (last : lastAddress trace device = some address)
    (otherLast : lastAddress trace device.other = some another) : another ≠ address := by
  rintro rfl
  exact invariant.distinct device another last otherLast

/-- A probe with fresh memory. -/
theorem BindInvariant.probe (invariant : BindInvariant trace driver) {address : Address}
    (contents : HSCStruct) (fresh : driver.memory address = none) :
    BindInvariant (.probe device address contents :: trace)
      (driver.pDriverProbe device address contents) := by
  have unused : address ∉ addresses trace := by
    rw [← invariant.live, fresh]
    simp
  have notLast : ∀ another, lastAddress trace another ≠ some address :=
    fun another last => unused (lastAddress_mem last)
  constructor
  case struct1 =>
    intro another
    by_cases same : another = device
    · simp [lastAddress, same]
    · simp [lastAddress, same, invariant.struct1]
  case live =>
    intro another
    by_cases same : another = address
    · simp [addresses, same]
    · simp [addresses, same, invariant.live]
  case nodup => exact List.nodup_cons.mpr ⟨unused, invariant.nodup⟩
  case distinct =>
    intro another last isLast same
    obtain rfl | rfl := device.eq_or_other another
    · obtain rfl : address = last := by simpa [lastAddress] using isLast
      exact notLast another.other (by simpa [lastAddress] using same)
    · obtain rfl : address = last := by simpa [lastAddress] using same
      exact notLast device.other (by simpa [lastAddress] using isLast)
  case minorNum =>
    intro another last isLast
    by_cases same : another = device
    · obtain rfl : address = last := by simpa [lastAddress, same] using isLast
      exact ⟨{ contents with minorNum := device.minor }, by simp, by simp [bound, same]⟩
    · have earlier : lastAddress trace another = some last := by
        simpa [lastAddress, same] using isLast
      obtain ⟨structp, inMemory, minor⟩ := invariant.minorNum another last earlier
      have notFresh : last ≠ address := by
        rintro rfl
        exact notLast another earlier
      exact ⟨structp, by simp [notFresh, inMemory], by simp [minor, bound, same]⟩
  case classFlag => simp
  case sysClass => simp [invariant.sysClass, invariant.classFlag]
  case chrdevRegion => simp [invariant.chrdevRegion, invariant.classFlag]

/-- The test for the last device after the minor number of one is cleared. -/
theorem BindInvariant.noneBound_clearMinor (invariant : BindInvariant trace driver)
    {address : Address} {structp : HSCStruct} (last : lastAddress trace device = some address) :
    (driver.clearMinor address structp).noneBound =
      (lastAddress trace device.other).map fun _ => !bound trace device.other := by
  have cleared : (driver.clearMinor address structp).deref
      ((driver.clearMinor address structp).struct1 device) =
        some { structp with minorNum := -1 } := by
    simp [PlatformDriver.clearMinor, PlatformDriver.deref, invariant.struct1, last]
  rw [PlatformDriver.noneBound_eq cleared device.minor_ne.symm]
  simp only [PlatformDriver.clearMinor, PlatformDriver.deref, invariant.struct1]
  cases otherLast : lastAddress trace device.other with
  | none => rfl
  | some another =>
      obtain ⟨second, inMemory, minor⟩ := invariant.minorNum device.other another otherLast
      rw [Option.bind_some, Function.update_of_ne (invariant.address_ne last otherLast), inMemory,
        Option.map_some, Option.map_some, minor]
      cases bound trace device.other with
      | true => simp
      | false => simp [device.other.minor_ne.symm]

/-- A remove before the other device was ever probed reads a null pointer. -/
theorem BindInvariant.remove_undefined (invariant : BindInvariant trace driver)
    (never : lastAddress trace device.other = none) : driver.pDriverRemove device = none := by
  unfold PlatformDriver.pDriverRemove
  rw [invariant.struct1]
  cases last : lastAddress trace device with
  | none => rfl
  | some address =>
      rw [Option.bind_some]
      cases driver.memory address with
      | none => rfl
      | some structp =>
          rw [Option.bind_some, invariant.noneBound_clearMinor last, never]
          rfl

/-- Clearing the minor number of a device unbinds it. -/
theorem BindInvariant.clearMinor (invariant : BindInvariant trace driver) {address : Address}
    {structp : HSCStruct} (last : lastAddress trace device = some address)
    (nonempty : trace ≠ []) :
    BindInvariant (.remove device :: trace) (driver.clearMinor address structp) := by
  have registered : trace.isEmpty = false := by simpa using nonempty
  constructor
  case struct1 => exact invariant.struct1
  case live =>
    intro another
    by_cases same : another = address
    · simp [PlatformDriver.clearMinor, addresses, same, lastAddress_mem last]
    · simpa [PlatformDriver.clearMinor, addresses, same] using invariant.live another
  case nodup => exact invariant.nodup
  case distinct => exact invariant.distinct
  case minorNum =>
    intro another pointer isLast
    obtain rfl | rfl := device.eq_or_other another
    · obtain rfl : address = pointer := Option.some.inj (last.symm.trans isLast)
      exact ⟨{ structp with minorNum := -1 }, by simp [PlatformDriver.clearMinor],
        by simp [bound]⟩
    · obtain ⟨second, inMemory, minor⟩ := invariant.minorNum device.other pointer isLast
      have distinct : pointer ≠ address := invariant.address_ne last isLast
      exact ⟨second, by simp [PlatformDriver.clearMinor, distinct, inMemory],
        by simp [minor, bound]⟩
  case classFlag => simp [PlatformDriver.clearMinor, invariant.classFlag, registered]
  case sysClass => simp [PlatformDriver.clearMinor, invariant.sysClass, registered]
  case chrdevRegion => simp [PlatformDriver.clearMinor, invariant.chrdevRegion, registered]

/-- A remove that leaves the other device bound. -/
theorem BindInvariant.remove_shared (invariant : BindInvariant trace driver)
    (isBound : bound trace device = true) (stays : bound trace device.other = true) :
    ∃ after, driver.pDriverRemove device = some after ∧
      BindInvariant (.remove device :: trace) after := by
  obtain ⟨address, last⟩ := lastAddress_of_bound isBound
  obtain ⟨another, otherLast⟩ := lastAddress_of_bound stays
  obtain ⟨structp, inMemory, -⟩ := invariant.minorNum device address last
  have nonempty : trace ≠ [] := by
    rintro rfl
    cases last
  refine ⟨driver.clearMinor address structp, ?_, invariant.clearMinor last nonempty⟩
  unfold PlatformDriver.pDriverRemove
  rw [invariant.struct1, last, Option.bind_some, inMemory, Option.bind_some,
    invariant.noneBound_clearMinor last, otherLast]
  simp [stays]

/-- A remove that leaves no device bound frees the structures of the last two
probes. -/
theorem BindInvariant.remove_last (invariant : BindInvariant trace driver)
    {address another : Address} (last : lastAddress trace device = some address)
    (otherLast : lastAddress trace device.other = some another)
    (unbound : bound trace device.other = false) :
    ∃ after, driver.pDriverRemove device = some after ∧ after.sysClass = false ∧
      after.chrdevRegion = false ∧ after.classFlag = driver.classFlag ∧
      ∀ pointer, (after.memory pointer).isSome = true ↔
        pointer ∈ addresses trace ∧ pointer ≠ address ∧ pointer ≠ another := by
  obtain ⟨structp, inMemory, -⟩ := invariant.minorNum device address last
  obtain ⟨second, otherMemory, -⟩ := invariant.minorNum device.other another otherLast
  have distinct : address ≠ another := (invariant.address_ne last otherLast).symm
  have cleared : (driver.clearMinor address structp).memory address =
      some { structp with minorNum := -1 } := by simp [PlatformDriver.clearMinor]
  have kept : (driver.clearMinor address structp).memory another = some second := by
    simp [PlatformDriver.clearMinor, distinct.symm, otherMemory]
  have released : (driver.clearMinor address structp).release = _ := PlatformDriver.release_eq
    ((invariant.struct1 device).trans last) ((invariant.struct1 device.other).trans otherLast)
    cleared kept distinct
  have removed : driver.pDriverRemove device = (driver.clearMinor address structp).release := by
    unfold PlatformDriver.pDriverRemove
    rw [invariant.struct1, last, Option.bind_some, inMemory, Option.bind_some,
      invariant.noneBound_clearMinor last, otherLast]
    simp [unbound]
  refine ⟨_, removed.trans released, rfl, rfl, rfl, fun pointer => ?_⟩
  by_cases isAnother : pointer = another
  · simp [isAnother]
  · by_cases isAddress : pointer = address
    · simp [isAddress, distinct]
    · simp [PlatformDriver.clearMinor, isAnother, isAddress, invariant.live]

end Step

section Traces

variable {trace : List (BindEvent Address)} {event : BindEvent Address}
variable {driver : PlatformDriver Address} {device : Device}

theorem Shared.reaches (legal : Legal trace) (isShared : Shared trace) :
    ∃ driver, replay drive .loaded trace = some driver ∧ BindInvariant trace driver := by
  induction trace with
  | nil => exact ⟨.loaded, rfl, .loaded⟩
  | cons event earlier ih =>
      have inside := List.suffix_cons event earlier
      obtain ⟨driver, reached, invariant⟩ :=
        ih (legal.of_suffix inside) (isShared.of_suffix inside)
      rw [replay, reached, Option.bind_some]
      cases event with
      | probe device address contents =>
          have fresh := legal.fresh device address contents earlier driver
            (List.suffix_refl _) reached
          exact ⟨_, rfl, invariant.probe contents fresh⟩
      | remove device =>
          exact invariant.remove_shared (legal.removes device earlier (List.suffix_refl _))
            (isShared device earlier (List.suffix_refl _))

omit [DecidableEq Address] in
/-- As long as every remove leaves a device bound, everything is registered. -/
theorem BindInvariant.settled (invariant : BindInvariant trace driver) (isShared : Shared trace) :
    Settled trace driver := by
  cases trace with
  | nil =>
      constructor
      · simp [invariant.sysClass, bound]
      · simp [invariant.chrdevRegion, bound]
      · intro _ address
        rw [← Option.not_isSome_iff_eq_none, invariant.live]
        exact List.not_mem_nil
  | cons event earlier =>
      have someBound := isShared.some_bound (List.cons_ne_nil event earlier)
      constructor
      · simpa [invariant.sysClass] using someBound
      · simpa [invariant.chrdevRegion] using someBound
      · intro noneBound
        obtain ⟨device, isBound⟩ := someBound
        simp [noneBound] at isBound

/-- The structures of the last two probes are all there are if and only if there
were two probes. -/
theorem BindInvariant.two_probes_iff (invariant : BindInvariant trace driver)
    {address another : Address} (last : lastAddress trace device = some address)
    (otherLast : lastAddress trace device.other = some another) :
    (addresses trace).length = 2 ↔
      ∀ pointer ∈ addresses trace, pointer = address ∨ pointer = another := by
  have distinct : address ≠ another := (invariant.address_ne last otherLast).symm
  have both : {address, another} ⊆ (addresses trace).toFinset := by
    simp [Finset.insert_subset_iff, lastAddress_mem last, lastAddress_mem otherLast]
  rw [← List.toFinset_card_of_nodup invariant.nodup, ← Finset.card_pair distinct]
  constructor
  · intro count pointer member
    have same := Finset.eq_of_subset_of_card_le both count.le
    have inPair : pointer ∈ ({address, another} : Finset Address) := by
      rw [same]
      exact List.mem_toFinset.mpr member
    simpa using inPair
  · intro only
    congr 1
    apply Finset.Subset.antisymm _ both
    intro pointer member
    simpa using only pointer (List.mem_toFinset.mp member)

/-- After a remove that leaves no device bound, nothing is registered. -/
theorem BindInvariant.settled_last (invariant : BindInvariant trace driver)
    {address another : Address} (last : lastAddress trace device = some address)
    (otherLast : lastAddress trace device.other = some another)
    (unbound : bound trace device.other = false) :
    ∃ after, driver.pDriverRemove device = some after ∧ after.sysClass = false ∧
      after.classFlag = driver.classFlag ∧
      (Settled (.remove device :: trace) after ↔ (addresses trace).length = 2) := by
  obtain ⟨after, removed, sysClass, region, classFlag, memory⟩ :=
    invariant.remove_last last otherLast unbound
  have noneBound : ∀ another, bound (.remove device :: trace) another = false := by
    intro another
    obtain rfl | rfl := device.eq_or_other another
    · simp [bound]
    · simp [bound, unbound]
  refine ⟨after, removed, sysClass, classFlag, ?_⟩
  rw [invariant.two_probes_iff last otherLast]
  constructor
  · intro settled pointer member
    by_contra neither
    have isLive := (memory pointer).mpr ⟨member, not_or.mp neither⟩
    simp [settled.freed noneBound pointer] at isLive
  · intro only
    constructor
    · simp [sysClass, noneBound]
    · simp [region, noneBound]
    · intro _ pointer
      rw [← Option.not_isSome_iff_eq_none, memory]
      rintro ⟨member, notAddress, notAnother⟩
      exact (only pointer member).elim notAddress notAnother

/-- The driver survives the first remove that leaves no device bound, but
`class_flag` stays set. -/
theorem Shared.reaches_last (legal : Legal (.remove device :: trace)) (isShared : Shared trace)
    (probed : (lastAddress trace device.other).isSome = true)
    (unbound : bound trace device.other = false) :
    ∃ after, replay drive .loaded (.remove device :: trace) = some after ∧
      after.sysClass = false ∧ after.classFlag = true ∧
      (Settled (.remove device :: trace) after ↔ (addresses trace).length = 2) := by
  obtain ⟨driver, reached, invariant⟩ :=
    isShared.reaches (legal.of_suffix (List.suffix_cons _ trace))
  obtain ⟨another, otherLast⟩ := Option.isSome_iff_exists.mp probed
  obtain ⟨address, last⟩ :=
    lastAddress_of_bound (legal.removes device trace (List.suffix_refl _))
  obtain ⟨after, removed, sysClass, classFlag, settled⟩ :=
    invariant.settled_last last otherLast unbound
  have nonempty : trace ≠ [] := by
    rintro rfl
    cases last
  refine ⟨after, ?_, sysClass, ?_, settled⟩
  · rw [replay, reached]
    exact removed
  · simp [classFlag, invariant.classFlag, nonempty]

theorem Orderly.reaches (legal : Legal trace) (orderly : Orderly trace) :
    ∃ driver, replay drive .loaded trace = some driver ∧ Settled trace driver := by
  by_cases isShared : Shared trace
  · obtain ⟨driver, reached, invariant⟩ := isShared.reaches legal
    exact ⟨driver, reached, invariant.settled isShared⟩
  · -- the last event is a remove that leaves no device bound
    simp only [Shared, not_forall, Bool.not_eq_true] at isShared
    obtain ⟨device, earlier, inside, unbound⟩ := isShared
    obtain stays | ⟨probed, two, rfl⟩ := orderly device earlier inside
    · rw [unbound] at stays
      cases stays
    · obtain ⟨after, reached, -, -, settled⟩ :=
        orderly.shared.reaches_last legal probed unbound
      exact ⟨after, reached, settled.mpr two⟩

/-- A remove that leaves no device bound cannot be followed by another event:
`class_flag` is still set. -/
theorem Consistent.shared (legal : Legal (event :: trace))
    (consistent : Consistent (event :: trace)) (orderly : Orderly trace) : Shared trace := by
  intro device earlier inside
  obtain stays | ⟨probed, two, rfl⟩ := orderly device earlier inside
  · exact stays
  · by_contra leaves
    have unbound : bound earlier device.other = false := by simpa using leaves
    have legalBefore := legal.of_suffix (List.suffix_cons event (.remove device :: earlier))
    obtain ⟨after, reachedAfter, sysClass, classFlag, -⟩ :=
      orderly.shared.reaches_last legalBefore probed unbound
    cases event with
    | probe probed fresh contents =>
        have created := consistent.created probed fresh contents _ after
          (List.suffix_refl _) reachedAfter
        simp [sysClass, classFlag] at created
    | remove again =>
        have isBound := legal.removes again _ (List.suffix_refl _)
        obtain rfl | rfl := device.eq_or_other again
        · simp [bound] at isBound
        · simp [bound, unbound] at isBound

theorem Consistent.orderly (legal : Legal trace) (consistent : Consistent trace) :
    Orderly trace := by
  induction trace with
  | nil =>
      intro device earlier inside
      cases List.suffix_nil.mp inside
  | cons event past ih =>
      have suffix := List.suffix_cons event past
      have isShared := consistent.shared legal
        (ih (legal.of_suffix suffix) (consistent.of_suffix suffix))
      intro device earlier inside
      obtain ⟨rfl, rfl⟩ | within := executed_cons_iff.mp inside
      · by_cases stays : bound earlier device.other = true
        · exact Or.inl stays
        · have unbound : bound earlier device.other = false := by simpa using stays
          obtain ⟨driver, reached, invariant⟩ := isShared.reaches (legal.of_suffix suffix)
          have defined := consistent.removes device earlier driver inside reached
          have probed : (lastAddress earlier device.other).isSome = true := by
            by_contra never
            have isNone := Option.not_isSome_iff_eq_none.mp never
            simp [invariant.remove_undefined isNone] at defined
          obtain ⟨after, reachedAfter, -, -, settled⟩ :=
            isShared.reaches_last legal probed unbound
          exact Or.inr
            ⟨probed, settled.mp (consistent.states _ after inside reachedAfter), rfl⟩
      · exact Or.inl (isShared device earlier within)

/-- The shared class is consistent in a sequence of probes and removes if and only
if every remove leaves the other device bound, except for one that is the last
event and comes after one probe of each device. -/
theorem shared_class_iff (legal : Legal trace) : Consistent trace ↔ Orderly trace := by
  constructor
  · exact fun consistent => consistent.orderly legal
  · intro orderly
    constructor
    · intro device earlier driver inside reached
      obtain ⟨after, reachedAfter, -⟩ :=
        (orderly.of_suffix inside).reaches (legal.of_suffix inside)
      rw [replay, reached] at reachedAfter
      exact Option.isSome_iff_exists.mpr ⟨after, reachedAfter⟩
    · intro device address contents earlier driver inside reached
      have suffix := (List.suffix_cons _ earlier).trans inside
      obtain ⟨before, reachedBefore, invariant⟩ :=
        (orderly.of_suffix inside).shared.reaches (legal.of_suffix suffix)
      obtain rfl := Option.some.inj (reachedBefore.symm.trans reached)
      simp [invariant.sysClass, invariant.classFlag]
    · intro earlier driver inside reached
      obtain ⟨before, reachedBefore, settled⟩ :=
        (orderly.of_suffix inside).reaches (legal.of_suffix inside)
      obtain rfl := Option.some.inj (reachedBefore.symm.trans reached)
      exact settled

end Traces

/-- The two sensors bound and unbound once. -/
def cycle : List (BindEvent Nat) :=
  [.remove .hsc2, .remove .hsc1, .probe .hsc2 1 .zeroed, .probe .hsc1 0 .zeroed]

theorem cycle_legal : Legal cycle := by
  apply Legal.remove _ rfl
  apply Legal.remove _ rfl
  apply Legal.probe _ rfl
  · intro driver reached
    obtain rfl := Option.some.inj reached
    rfl
  · apply Legal.probe Legal.nil rfl
    intro driver reached
    obtain rfl := Option.some.inj reached
    rfl

theorem shared_class_cycle : Consistent cycle := by
  refine (shared_class_iff cycle_legal).mpr fun device earlier inside => ?_
  simp only [cycle, executed_cons_iff, BindEvent.remove.injEq, reduceCtorEq, List.suffix_nil,
    false_and, or_false] at inside
  obtain ⟨rfl, rfl⟩ | ⟨rfl, rfl⟩ := inside
  · exact Or.inr ⟨rfl, rfl, rfl⟩
  · exact Or.inl rfl

/-- The first remove reads the structure of a device that was never probed; the
second cycle creates its device in a class that is not registered. -/
theorem class_not_consistent :
    Legal [.remove .hsc1, .probe .hsc1 (0 : Nat) .zeroed] ∧
      ¬ Consistent [.remove .hsc1, .probe .hsc1 (0 : Nat) .zeroed] ∧
      Legal (.probe .hsc1 0 .zeroed :: cycle) ∧
      ¬ Consistent (.probe .hsc1 0 .zeroed :: cycle) := by
  refine ⟨?_, fun consistent => ?_, cycle_legal.probe rfl ?_, fun consistent => ?_⟩
  · apply Legal.remove _ rfl
    apply Legal.probe Legal.nil rfl
    intro driver reached
    obtain rfl := Option.some.inj reached
    rfl
  · have defined := consistent.removes .hsc1 _ _ (List.suffix_refl _) rfl
    exact absurd defined (by decide)
  · intro driver reached
    obtain rfl := Option.some.inj reached
    rfl
  · have created := consistent.created .hsc1 0 .zeroed _ _ (List.suffix_refl _) rfl
    cases created

end Sensor

end KinuxKernel
