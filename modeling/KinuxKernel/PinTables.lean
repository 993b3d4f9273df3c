import Mathlib.Data.List.Perm.Basic
import KinuxKernel.Ultrasonic

/-!
# Configuring and deregistering with any pin table

`gpio_config` requests the entries of a row other than -1, and `gpio_deregister` of
`ultrasonic.c` frees those greater than zero.  As the entries are unsigned, these are
the same gpios exactly for rows without 0 and without -1.
-/

namespace KinuxKernel

namespace Sensor

open ResourceLedger

/-- The rows of a `pin_array`. -/
abbrev PinTable := List (Vector (BitVec 32) 4)

namespace PinTable

variable (table : PinTable)

/-- `pin_array[io_pin]`; undefined for an index outside the array. -/
def row (ioPin : Int) : Option (Vector (BitVec 32) 4) :=
  if 0 ≤ ioPin then table[ioPin.toNat]? else none

/-- `gpio_config` with this table. -/
def gpioConfig (grant : Grant) (ioPin : Int) (dir : Direction) (ledger : Ledger) :
    Option (Ledger × Int) :=
  (table.row ioPin).map fun row =>
    match requestAll grant ledger (rowGpios row) with
    | (ledger, true) => (routePin row dir ledger, 0)
    | (ledger, false) => (ledger, -EINVAL)

/-- `gpio_deregister` with this table. -/
def gpioDeregister (ioTrigger ioEcho : Int) (ledger : Ledger) : Option Ledger :=
  (table.row ioTrigger).bind fun trigger =>
    (table.row ioEcho).map fun echo =>
      freeAll (freeAll (setValue (mainGpio trigger) false ledger) (Ultrasonic.freedGpios trigger))
        (Ultrasonic.freedGpios echo)

theorem gpioConfig_pinArray : gpioConfig pinArray = Sensor.gpioConfig :=
  rfl

theorem gpioDeregister_pinArray : gpioDeregister pinArray = Ultrasonic.gpioDeregister :=
  rfl

def entries (ioPin : Int) : List (BitVec 32) :=
  ((table.row ioPin).map Vector.toList).getD []

/-- The gpios behind a pin. -/
def gpios (ioPin : Int) : List Resource :=
  ((table.row ioPin).map rowGpios).getD []

/-- `gpio_deregister` frees each gpio that has been requested exactly once and nothing else,
after which the gpios held are those held before. -/
def DeregisterUndoes (ioTrigger ioEcho : Int) (before configured : Ledger) : Prop :=
  ∃ after, table.gpioDeregister ioTrigger ioEcho configured = some after ∧
    Undoes before configured after

end PinTable

section Rows

variable {table : PinTable} {grant : Grant} {ioPin : Int} {dir : Direction}
  {ledger after : Ledger} {first second : Vector (BitVec 32) 4}

/-- Routing a pin requests nothing. -/
theorem count_routePin (row : Vector (BitVec 32) 4) (resource : Resource) :
    (routePin row dir ledger).count (.request resource) = ledger.count (.request resource) := by
  unfold routePin setDirection setValue
  split_ifs <;> simp

/-- `gpio_config` leaves behind what its requests have claimed, and tells its caller
whether all of them have been granted. -/
theorem PinTable.gpioConfig_eq_some {configured : Ledger × Int}
    (config : table.gpioConfig grant ioPin dir ledger = some configured) :
    (∀ resource, holds configured.1 resource =
      holds (requestAll grant ledger (table.gpios ioPin)).1 resource) ∧
      (∀ resource, configured.1.count (.request resource) =
        (requestAll grant ledger (table.gpios ioPin)).1.count (.request resource)) ∧
      (configured.2 = 0 ↔ GrantsAll grant ledger (table.gpios ioPin)) := by
  rw [← requestAll_eq_true]
  cases row : table.row ioPin with
  | none => simp [PinTable.gpioConfig, row] at config
  | some gpios =>
      have listed : table.gpios ioPin = rowGpios gpios := by simp [PinTable.gpios, row]
      rw [PinTable.gpioConfig, row, Option.map_some, Option.some.injEq] at config
      rw [listed, ← config]
      split
      · next all => simp [all, count_routePin]
      · next refused => simp [refused, EINVAL]

/-- A configuration that succeeds has claimed the gpios of its pin. -/
theorem PinTable.gpioConfig_claims
    (config : table.gpioConfig grant ioPin dir ledger = some (after, 0)) :
    GrantsAll grant ledger (table.gpios ioPin) ∧ Claims ledger after (table.gpios ioPin) := by
  obtain ⟨held, requested, all⟩ := PinTable.gpioConfig_eq_some config
  have granted := all.mp rfl
  have claims := granted.claims
  refine ⟨granted, ⟨fun resource => ?_, fun resource => ?_⟩⟩
  · exact (requested resource).trans (claims.requested resource)
  · rw [← claims.held, ← held]

/-- Two choices from a list are the same up to order only if they choose alike. -/
theorem filter_perm_filter_iff {α : Type*} {chosen others : α → Bool} {list : List α} :
    (list.filter chosen).Perm (list.filter others) ↔
      ∀ entry ∈ list, chosen entry = others entry := by
  constructor
  · intro same entry member
    have alike := same.mem_iff (a := entry)
    rw [Bool.eq_iff_iff]
    simpa [member] using alike
  · intro alike
    rw [List.filter_congr alike]

/-- Entries greater than zero are those other than -1 if and only if there is neither a 0 nor
a -1. -/
theorem freed_perm_requested_iff :
    (Ultrasonic.freedGpios first ++ Ultrasonic.freedGpios second).Perm
        (rowGpios first ++ rowGpios second) ↔
      ∀ entry ∈ first.toList ++ second.toList, entry ≠ 0 ∧ entry ≠ noGpio := by
  have injective : Function.Injective Resource.gpio := fun _ _ => Resource.gpio.inj
  rw [Ultrasonic.freedGpios, Ultrasonic.freedGpios, rowGpios, rowGpios, ← List.map_append,
    ← List.map_append, ← List.filter_append, ← List.filter_append,
    List.map_perm_map_iff injective, filter_perm_filter_iff]
  refine forall₂_congr fun entry _ => ?_
  have positive : 0 < entry ↔ entry ≠ 0 := BitVec.pos_iff_ne_zero entry
  have different : ¬ (entry = 0 ∧ entry = noGpio) := by
    rintro ⟨rfl, impossible⟩
    revert impossible
    decide
  rw [Bool.eq_iff_iff, decide_eq_true_iff, decide_eq_true_iff, positive]
  constructor
  · intro alike
    have notZero : entry ≠ 0 := fun zero =>
      alike.mpr (fun none => different ⟨zero, none⟩) zero
    exact ⟨notZero, alike.mp notZero⟩
  · rintro ⟨notZero, isGpio⟩
    exact ⟨fun _ => isGpio, fun _ => notZero⟩

end Rows

section Deregistering

variable {table : PinTable} {grant : Grant} {before middle configured : Ledger}
  {ioTrigger ioEcho : Int}

/-- Lowering the trigger frees nothing. -/
theorem frees_rows (row : Vector (BitVec 32) 4) (freed others : List Resource) :
    Frees configured (freeAll (freeAll (setValue (mainGpio row) false configured) freed) others)
      (freed ++ others) := by
  have lowered : Frees configured (setValue (mainGpio row) false configured) [] :=
    frees_effect _
  exact (lowered.trans (frees_freeAll freed)).trans (frees_freeAll others)

/-- What two successful configurations have claimed was free, each gpio of it once. -/
theorem PinTable.claims_both (exclusive : GrantsUnheld grant)
    (trigger : table.gpioConfig grant ioTrigger .output before = some (middle, 0))
    (echo : table.gpioConfig grant ioEcho .input middle = some (configured, 0)) :
    Claims before configured (table.gpios ioTrigger ++ table.gpios ioEcho) ∧
      (table.gpios ioTrigger ++ table.gpios ioEcho).Nodup ∧
      ∀ resource ∈ table.gpios ioTrigger ++ table.gpios ioEcho,
        holds before resource = false := by
  obtain ⟨granted, claims⟩ := PinTable.gpioConfig_claims trigger
  obtain ⟨grantedEcho, claimsEcho⟩ := PinTable.gpioConfig_claims echo
  obtain ⟨distinct, fresh⟩ := grantsAll_fresh exclusive granted
  obtain ⟨distinctEcho, freshEcho⟩ := grantsAll_fresh exclusive grantedEcho
  have unheld : ∀ resource ∈ table.gpios ioEcho,
      resource ∉ table.gpios ioTrigger ∧ holds before resource = false := by
    intro resource member
    have free := freshEcho resource member
    rw [Bool.eq_false_iff, ne_eq, claims.held, not_or, Bool.not_eq_true] at free
    exact free
  refine ⟨claims.trans claimsEcho, ?_, fun resource member => ?_⟩
  · refine List.nodup_append.mpr ⟨distinct, distinctEcho, ?_⟩
    rintro resource listed _ again rfl
    exact (unheld resource again).1 listed
  · rcases List.mem_append.mp member with listed | listed
    · exact fresh resource listed
    · exact (unheld resource listed).2

/-- After two successful configurations, the gpios of their rows have to be freed, in any
order. -/
theorem PinTable.undoes_rows_iff (exclusive : GrantsUnheld grant)
    (trigger : table.gpioConfig grant ioTrigger .output before = some (middle, 0))
    (echo : table.gpioConfig grant ioEcho .input middle = some (configured, 0)) :
    ∃ first second, table.row ioTrigger = some first ∧ table.row ioEcho = some second ∧
      ∀ freed others, Undoes before configured
          (freeAll (freeAll (setValue (mainGpio first) false configured) freed) others) ↔
        (freed ++ others).Perm (rowGpios first ++ rowGpios second) := by
  obtain ⟨claims, distinct, fresh⟩ := PinTable.claims_both exclusive trigger echo
  obtain ⟨first, foundTrigger, -⟩ := Option.map_eq_some_iff.mp trigger
  obtain ⟨second, foundEcho, -⟩ := Option.map_eq_some_iff.mp echo
  refine ⟨first, second, foundTrigger, foundEcho, fun freed others => ?_⟩
  have undoes := claims.undoes_iff (frees_rows first freed others) distinct fresh
  simpa only [PinTable.gpios, foundTrigger, foundEcho, Option.map_some, Option.getD_some]
    using undoes

/-- If both pins have been configured with all requests granted, `gpio_deregister` undoes
it if and only if neither row of the table has an entry 0 or -1. -/
theorem deregister_undoes_iff (exclusive : GrantsUnheld grant)
    (trigger : table.gpioConfig grant ioTrigger .output before = some (middle, 0))
    (echo : table.gpioConfig grant ioEcho .input middle = some (configured, 0)) :
    table.DeregisterUndoes ioTrigger ioEcho before configured ↔
      ∀ entry ∈ table.entries ioTrigger ++ table.entries ioEcho,
        entry ≠ 0 ∧ entry ≠ noGpio := by
  obtain ⟨first, second, foundTrigger, foundEcho, undoes⟩ :=
    PinTable.undoes_rows_iff exclusive trigger echo
  simp only [PinTable.DeregisterUndoes, PinTable.gpioDeregister, PinTable.entries, foundTrigger,
    foundEcho, Option.bind_some, Option.map_some, Option.getD_some, Option.some.injEq,
    exists_eq_left']
  rw [undoes, freed_perm_requested_iff]

/-- The functions of the platform driver, which test for -1 as `gpio_config` does, undo
every such configuration. -/
theorem platform_deregister_undoes (exclusive : GrantsUnheld grant)
    (trigger : gpioConfig grant ioTrigger .output before = some (middle, 0))
    (echo : gpioConfig grant ioEcho .input middle = some (configured, 0)) :
    ∃ lowered after, gpioDeregisterOut ioTrigger configured = some lowered ∧
      gpioDeregisterIn ioEcho lowered = some after ∧ Undoes before configured after := by
  rw [← PinTable.gpioConfig_pinArray] at trigger echo
  obtain ⟨first, second, foundTrigger, foundEcho, undoes⟩ :=
    PinTable.undoes_rows_iff exclusive trigger echo
  have triggerRow : pinRow ioTrigger = some first := foundTrigger
  have echoRow : pinRow ioEcho = some second := foundEcho
  have lowers : gpioDeregisterOut ioTrigger configured =
      some (freeAll (setValue (mainGpio first) false configured) (rowGpios first)) := by
    rw [gpioDeregisterOut, triggerRow, Option.map_some]
  exact ⟨_, _, lowers, by rw [gpioDeregisterIn, echoRow, Option.map_some],
    (undoes _ _).mpr (.refl _)⟩

end Deregistering

/-- On the board, only the rows of two pins have neither an entry 0 nor -1. -/
theorem complete_row_iff {ioPin : Int} (valid : ValidPin ioPin) :
    (∀ entry ∈ PinTable.entries pinArray ioPin, entry ≠ 0 ∧ entry ≠ noGpio) ↔
      ioPin = 3 ∨ ioPin = 11 := by
  obtain ⟨low, high⟩ := valid
  interval_cases ioPin <;> simp [PinTable.entries, PinTable.row, pinArray, noGpio]

/-- Two pins with four gpios each. -/
theorem deregister_undoes_complete :
    ∃ middle configured,
      PinTable.gpioConfig pinArray (grantFree fun _ => false) 3 .output [] = some (middle, 0) ∧
      PinTable.gpioConfig pinArray (grantFree fun _ => false) 11 .input middle =
        some (configured, 0) ∧
      PinTable.DeregisterUndoes pinArray 3 11 [] configured := by
  obtain ⟨middle, configured, trigger, echo⟩ : ∃ middle configured,
      PinTable.gpioConfig pinArray (grantFree fun _ => false) 3 .output [] = some (middle, 0) ∧
      PinTable.gpioConfig pinArray (grantFree fun _ => false) 11 .input middle =
        some (configured, 0) :=
    ⟨_, _, rfl, rfl⟩
  have complete : ∀ entry ∈ PinTable.entries pinArray 3 ++ PinTable.entries pinArray 11,
      entry ≠ 0 ∧ entry ≠ noGpio := by
    simp [PinTable.entries, PinTable.row, pinArray, noGpio]
  exact ⟨middle, configured, trigger, echo,
    (deregister_undoes_iff (grantsUnheld_grantFree _) trigger echo).mpr complete⟩

/-- The trigger has an entry -1, which is freed although it is no gpio, and the echo an
entry 0, which stays requested. -/
theorem deregister_misses_zero :
    ∃ middle configured after,
      PinTable.gpioConfig pinArray (grantFree fun _ => false) 2 .output [] = some (middle, 0) ∧
      PinTable.gpioConfig pinArray (grantFree fun _ => false) 5 .input middle =
        some (configured, 0) ∧
      PinTable.gpioDeregister pinArray 2 5 configured = some after ∧
      timesSince configured after (.free (.gpio noGpio)) = 2 ∧
      holds after (.gpio 0) = true ∧
      ¬ PinTable.DeregisterUndoes pinArray 2 5 [] configured := by
  refine ⟨_, _, _, rfl, rfl, rfl, by decide +kernel, by decide +kernel, ?_⟩
  rintro ⟨after, deregistered, undoes⟩
  obtain rfl := Option.some.inj deregistered
  have zero := undoes.back (.gpio 0)
  revert zero
  decide +kernel

end Sensor

end KinuxKernel
