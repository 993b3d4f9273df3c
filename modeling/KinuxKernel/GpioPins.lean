import Mathlib.Tactic.IntervalCases
import KinuxKernel.ResourceLedger

/-!
# The pin table

The table of `pinmux.h` with the gpios behind each pin of the board, and the
functions of the platform driver that claim and release the gpios of a pin.
Rows of different pins have no gpio in common.
-/

namespace KinuxKernel

namespace Sensor

open ResourceLedger

/-- What the drivers claim. -/
inductive Resource where
  | gpio (number : BitVec 32)
  | irq (number : Int)
deriving DecidableEq

/-- `OUT` and `IN`. -/
inductive Direction where
  | output
  | input
deriving DecidableEq

/-- What the drivers do with a gpio. -/
inductive PinEffect where
  | setValue (gpio : BitVec 32) (value : Bool)
  | direction (gpio : BitVec 32) (dir : Direction)
deriving DecidableEq

abbrev Ledger := List (Action Resource PinEffect)

/-- A requester that the kernel grants requests to. -/
abbrev Grant := Ledger → Resource → Bool

def EINVAL : Int := 22

/-- The entry for no gpio. -/
def noGpio : BitVec 32 := -1

/-- `pin_array`: gpio, level shifter and two multiplexers of each pin.  The array
has five rows more than its initialiser. -/
def pinArray : List (Vector (BitVec 32) 4) :=
  [#v[11, 32, noGpio, noGpio],
   #v[12, 28, 45, noGpio],
   #v[13, 34, 77, noGpio],
   #v[14, 16, 76, 64],
   #v[6, 36, noGpio, noGpio],
   #v[0, 18, 66, noGpio],
   #v[1, 20, 68, noGpio],
   #v[38, noGpio, noGpio, noGpio],
   #v[40, noGpio, noGpio, noGpio],
   #v[4, 22, 70, noGpio],
   #v[10, 26, 74, noGpio],
   #v[5, 24, 44, 72],
   #v[15, 42, noGpio, noGpio],
   #v[7, 30, 46, noGpio]] ++ List.replicate 5 (Vector.replicate 4 0)

/-- A row of the table; undefined for an index outside the array. -/
def pinRow (ioPin : Int) : Option (Vector (BitVec 32) 4) :=
  if 0 ≤ ioPin then pinArray[ioPin.toNat]? else none

/-- `pin_array[io_pin][0]`. -/
def mainGpio (row : Vector (BitVec 32) 4) : BitVec 32 :=
  row[0]

/-- The gpios in a row. -/
def rowGpios (row : Vector (BitVec 32) 4) : List Resource :=
  (row.toList.filter (· ≠ noGpio)).map .gpio

def setValue (gpio : BitVec 32) (value : Bool) (ledger : Ledger) : Ledger :=
  .effect (.setValue gpio value) :: ledger

def setDirection (gpio : BitVec 32) (dir : Direction) (ledger : Ledger) : Ledger :=
  .effect (.direction gpio dir) :: ledger

/-- The part of `gpio_config` after all requests: multiplexers, level shifter
and direction. -/
def routePin (row : Vector (BitVec 32) 4) (dir : Direction) (ledger : Ledger) : Ledger :=
  let ledger := if row[2] ≠ noGpio then setValue row[2] false ledger else ledger
  let ledger := if row[3] ≠ noGpio then setValue row[3] false ledger else ledger
  let ledger := if row[1] ≠ noGpio then setDirection row[1] dir ledger else ledger
  setDirection (mainGpio row) dir ledger

/-- `gpio_config`. -/
def gpioConfig (grant : Grant) (ioPin : Int) (dir : Direction) (ledger : Ledger) :
    Option (Ledger × Int) :=
  (pinRow ioPin).map fun row =>
    match requestAll grant ledger (rowGpios row) with
    | (ledger, true) => (routePin row dir ledger, 0)
    | (ledger, false) => (ledger, -EINVAL)

/-- `gpio_deregister_out`. -/
def gpioDeregisterOut (ioTrigger : Int) (ledger : Ledger) : Option Ledger :=
  (pinRow ioTrigger).map fun row => freeAll (setValue (mainGpio row) false ledger) (rowGpios row)

/-- `gpio_deregister_in`. -/
def gpioDeregisterIn (ioEcho : Int) (ledger : Ledger) : Option Ledger :=
  (pinRow ioEcho).map fun row => freeAll ledger (rowGpios row)

/-- A pin of the board: one of the rows that the initialiser gives. -/
def ValidPin (ioPin : Int) : Prop :=
  0 ≤ ioPin ∧ ioPin ≤ 13

instance (ioPin : Int) : Decidable (ValidPin ioPin) :=
  inferInstanceAs (Decidable (_ ∧ _))

/-- The gpios behind a pin. -/
def pinGpios (ioPin : Int) : List Resource :=
  ((pinRow ioPin).map rowGpios).getD []

section Table

variable {ioPin other : Int}

theorem pinRow_of_valid (valid : ValidPin ioPin) : ∃ row, pinRow ioPin = some row := by
  have inside : ioPin.toNat < pinArray.length := by
    have bound := valid.2
    simp only [pinArray, List.length_append, List.length_cons, List.length_nil,
      List.length_replicate]
    omega
  exact ⟨pinArray[ioPin.toNat], by rw [pinRow, if_pos valid.1, List.getElem?_eq_getElem inside]⟩

theorem pinGpios_nodup (valid : ValidPin ioPin) : (pinGpios ioPin).Nodup := by
  obtain ⟨low, high⟩ := valid
  interval_cases ioPin <;> decide

theorem pinGpios_ne_nil (valid : ValidPin ioPin) : pinGpios ioPin ≠ [] := by
  obtain ⟨low, high⟩ := valid
  interval_cases ioPin <;> decide

/-- The pin whose row has a gpio. -/
def gpioPin (resource : Resource) : Option Nat :=
  (List.range 14).find? fun ioPin => resource ∈ pinGpios ioPin

theorem gpioPin_of_mem (valid : ValidPin ioPin) {resource : Resource}
    (member : resource ∈ pinGpios ioPin) : gpioPin resource = some ioPin.toNat := by
  have table : ∀ pin ∈ List.range 14, ∀ resource ∈ pinGpios (pin : Nat),
      gpioPin resource = some pin := by decide
  obtain ⟨low, high⟩ := valid
  have inside : ioPin.toNat ∈ List.range 14 := List.mem_range.mpr (by omega)
  apply table _ inside
  rwa [Int.toNat_of_nonneg low]

/-- Different pins have different gpios. -/
theorem pin_eq_of_mem (valid : ValidPin ioPin) (otherValid : ValidPin other) {resource : Resource}
    (member : resource ∈ pinGpios ioPin) (otherMember : resource ∈ pinGpios other) :
    ioPin = other := by
  have same := (gpioPin_of_mem valid member).symm.trans (gpioPin_of_mem otherValid otherMember)
  have equal : ioPin.toNat = other.toNat := Option.some.inj same
  have low := valid.1
  have otherLow := otherValid.1
  omega

theorem irq_not_mem (number : Int) : Resource.irq number ∉ pinGpios ioPin := by
  cases row : pinRow ioPin <;> simp [pinGpios, row, rowGpios]

end Table

section Configuring

variable {ioPin : Int} {ledger : Ledger} {inUse : Resource → Bool} {dir : Direction}

@[simp]
theorem proper_setValue (gpio : BitVec 32) (value : Bool) :
    Proper (setValue gpio value ledger) ↔ Proper ledger :=
  Iff.rfl

@[simp]
theorem holds_routePin (row : Vector (BitVec 32) 4) (resource : Resource) :
    holds (routePin row dir ledger) resource = holds ledger resource := by
  unfold routePin setDirection setValue
  split_ifs <;> rfl

@[simp]
theorem proper_routePin (row : Vector (BitVec 32) 4) :
    Proper (routePin row dir ledger) ↔ Proper ledger := by
  unfold routePin setDirection setValue
  split_ifs <;> rfl

/-- Configuring a pin nobody holds claims its gpios. -/
theorem gpioConfig_free (dir : Direction) (valid : ValidPin ioPin)
    (unused : ∀ resource ∈ pinGpios ioPin, inUse resource = false)
    (free : ∀ resource ∈ pinGpios ioPin, holds ledger resource = false) (proper : Proper ledger) :
    ∃ after, gpioConfig (grantFree inUse) ioPin dir ledger = some (after, 0) ∧ Proper after ∧
      ∀ resource, holds after resource = true ↔
        resource ∈ pinGpios ioPin ∨ holds ledger resource = true := by
  obtain ⟨row, found⟩ := pinRow_of_valid valid
  have distinct := pinGpios_nodup valid
  have gpios : pinGpios ioPin = rowGpios row := by simp [pinGpios, found]
  rw [gpios] at unused free distinct ⊢
  obtain ⟨all, properAll, held⟩ := requestAll_free distinct unused free proper
  refine ⟨routePin row dir (requestAll (grantFree inUse) ledger (rowGpios row)).1, ?_, ?_, ?_⟩
  · rw [gpioConfig, found, Option.map_some]
    split
    · next result => rw [result]
    · next result => simp [result] at all
  · exact (proper_routePin row).mpr properAll
  · intro resource
    rw [holds_routePin, held]

/-- Configuring a pin that is held changes nothing. -/
theorem gpioConfig_held (valid : ValidPin ioPin)
    (held : ∀ resource ∈ pinGpios ioPin, holds ledger resource = true) :
    gpioConfig (grantFree inUse) ioPin dir ledger = some (ledger, -EINVAL) := by
  obtain ⟨row, found⟩ := pinRow_of_valid valid
  have gpios : pinGpios ioPin = rowGpios row := by simp [pinGpios, found]
  have nonempty := pinGpios_ne_nil valid
  rw [gpios] at held nonempty
  obtain ⟨head, rest, row_eq⟩ := List.exists_cons_of_ne_nil nonempty
  rw [gpioConfig, found, Option.map_some, row_eq,
    requestAll_held (held head (by simp [row_eq]))]

theorem gpioDeregisterIn_eq (valid : ValidPin ioPin) :
    gpioDeregisterIn ioPin ledger = some (freeAll ledger (pinGpios ioPin)) := by
  obtain ⟨row, found⟩ := pinRow_of_valid valid
  simp [gpioDeregisterIn, pinGpios, found]

end Configuring

end Sensor

end KinuxKernel
