import Mathlib.Logic.Function.Basic
import KinuxKernel.SensorDevice

/-!
# The platform driver

The global variables of `platform_driver.c` with the memory of the two sensors,
and the functions that bind and unbind a device.  The calls that release the
interrupt, the timer and the gpios of a device change nothing here.
-/

namespace KinuxKernel

namespace Sensor

/-- The platform devices `HSC_1` and `HSC_2`. -/
inductive Device where
  | hsc1
  | hsc2
deriving DecidableEq

namespace Device

def minor : Device → Int
  | .hsc1 => 5
  | .hsc2 => 6

def other : Device → Device
  | .hsc1 => .hsc2
  | .hsc2 => .hsc1

theorem eq_or_other (device another : Device) : another = device ∨ another = device.other := by
  cases device <;> cases another <;> simp [other]

@[simp]
theorem other_ne (device : Device) : device.other ≠ device := by
  cases device <;> simp [other]

@[simp]
theorem other_other (device : Device) : device.other.other = device := by
  cases device <;> rfl

@[simp]
theorem minor_ne (device : Device) : device.minor ≠ -1 := by
  cases device <;> decide

end Device

/-- `class_flag`, whether the class and the region of device numbers are registered,
`struct1` and the memory that `kmalloc` has given. -/
structure PlatformDriver (Address : Type*) where
  classFlag : Bool
  sysClass : Bool
  chrdevRegion : Bool
  struct1 : Device → Option Address
  memory : Address → Option HSCStruct

namespace PlatformDriver

variable {Address : Type*} (driver : PlatformDriver Address)

/-- The driver when its module is loaded. -/
def loaded : PlatformDriver Address :=
  ⟨false, false, false, fun _ => none, fun _ => none⟩

/-- How a structure is found from a minor number. -/
def structOf (minor : Int) : Option Address :=
  if minor = 5 then driver.struct1 .hsc1 else driver.struct1 .hsc2

/-- Read a structure; undefined for a pointer that is null or dangling. -/
def deref (pointer : Option Address) : Option HSCStruct :=
  pointer.bind driver.memory

/-- `class_create` and `alloc_chrdev_region`, only once. -/
def classInit : PlatformDriver Address :=
  if driver.classFlag = false then
    { driver with sysClass := true, chrdevRegion := true, classFlag := true }
  else driver

/-- `(struct1[0]->minor_num != 5) && (struct1[1]->minor_num != 6)`. -/
def noneBound : Option Bool :=
  (driver.deref (driver.struct1 .hsc1)).bind fun first =>
    if first.minorNum ≠ 5 then
      (driver.deref (driver.struct1 .hsc2)).map fun second => decide (second.minorNum ≠ 6)
    else some false

variable [DecidableEq Address]

/-- `P_driver_probe`, where `kmalloc` returns memory with some contents. -/
def pDriverProbe (device : Device) (address : Address) (contents : HSCStruct) :
    PlatformDriver Address :=
  { driver with
    struct1 := Function.update driver.struct1 device (some address)
    memory := Function.update driver.memory address
      (some { contents with minorNum := device.minor }) }.classInit

/-- Free a structure; undefined if it is not live. -/
def kfree : Option Address → Option (PlatformDriver Address)
  | none => some driver
  | some address =>
      (driver.memory address).map fun _ =>
        { driver with memory := Function.update driver.memory address none }

/-- `structp->minor_num = -1`. -/
def clearMinor (address : Address) (structp : HSCStruct) : PlatformDriver Address :=
  { driver with
    memory := Function.update driver.memory address (some { structp with minorNum := -1 }) }

/-- The end of `P_driver_remove` for the last device.  The calls `class_unregister` and
`class_destroy` of the same class, one after the other, are one release of it. -/
def release : Option (PlatformDriver Address) :=
  ({ driver with chrdevRegion := false, sysClass := false }.kfree (driver.struct1 .hsc1)).bind
    fun driver => driver.kfree (driver.struct1 .hsc2)

/-- `P_driver_remove`. -/
def pDriverRemove (device : Device) : Option (PlatformDriver Address) :=
  (driver.struct1 device).bind fun address =>
    (driver.memory address).bind fun structp =>
      (driver.clearMinor address structp).noneBound.bind fun last =>
        if last then (driver.clearMinor address structp).release
        else some (driver.clearMinor address structp)

section Probe

variable (device : Device) (address : Address) (contents : HSCStruct)

@[simp]
theorem pDriverProbe_struct1 : (driver.pDriverProbe device address contents).struct1 =
    Function.update driver.struct1 device (some address) := by
  unfold pDriverProbe classInit
  split <;> rfl

@[simp]
theorem pDriverProbe_memory : (driver.pDriverProbe device address contents).memory =
    Function.update driver.memory address
      (some { contents with minorNum := device.minor }) := by
  unfold pDriverProbe classInit
  split <;> rfl

@[simp]
theorem pDriverProbe_classFlag :
    (driver.pDriverProbe device address contents).classFlag = true := by
  unfold pDriverProbe classInit
  split
  · rfl
  · next set => simpa using set

/-- The class is created only if no earlier probe has. -/
@[simp]
theorem pDriverProbe_sysClass : (driver.pDriverProbe device address contents).sysClass =
    (driver.sysClass || !driver.classFlag) := by
  unfold pDriverProbe classInit
  split
  · next unset =>
      have flag : driver.classFlag = false := unset
      simp [flag]
  · next set =>
      have flag : driver.classFlag = true := by simpa using set
      simp [flag]

@[simp]
theorem pDriverProbe_chrdevRegion : (driver.pDriverProbe device address contents).chrdevRegion =
    (driver.chrdevRegion || !driver.classFlag) := by
  unfold pDriverProbe classInit
  split
  · next unset =>
      have flag : driver.classFlag = false := unset
      simp [flag]
  · next set =>
      have flag : driver.classFlag = true := by simpa using set
      simp [flag]

end Probe

omit [DecidableEq Address] in
/-- When the structure of one device has no minor number, the test reads the one
of the other device. -/
theorem noneBound_eq {driver : PlatformDriver Address} {device : Device} {structp : HSCStruct}
    (cleared : driver.deref (driver.struct1 device) = some structp)
    (minor : structp.minorNum ≠ device.minor) :
    driver.noneBound = (driver.deref (driver.struct1 device.other)).map
      fun second => decide (second.minorNum ≠ device.other.minor) := by
  cases device with
  | hsc1 =>
      have unbound : structp.minorNum ≠ 5 := minor
      simp only [noneBound, cleared, Option.bind_some, if_pos unbound]
      rfl
  | hsc2 =>
      have unbound : structp.minorNum ≠ 6 := minor
      simp only [noneBound, cleared, Option.map_some, Device.other, Device.minor]
      cases driver.deref (driver.struct1 .hsc1) with
      | none => rfl
      | some first =>
          by_cases bound : first.minorNum = 5
          · simp [bound]
          · simp [bound, unbound]

/-- The last remove frees two structures that are live and different. -/
theorem release_eq {driver : PlatformDriver Address} {device : Device}
    {address another : Address} {structp second : HSCStruct}
    (pointer : driver.struct1 device = some address)
    (otherPointer : driver.struct1 device.other = some another)
    (live : driver.memory address = some structp) (otherLive : driver.memory another = some second)
    (distinct : address ≠ another) :
    driver.release = some { driver with
      chrdevRegion := false
      sysClass := false
      memory := Function.update (Function.update driver.memory address none) another none } := by
  cases device with
  | hsc1 =>
      have untouched : Function.update driver.memory address none another = some second := by
        rw [Function.update_of_ne distinct.symm, otherLive]
      have otherIs : driver.struct1 .hsc2 = some another := otherPointer
      simp [release, kfree, pointer, otherIs, live, untouched]
  | hsc2 =>
      have untouched : Function.update driver.memory another none address = some structp := by
        rw [Function.update_of_ne distinct, live]
      have otherIs : driver.struct1 .hsc1 = some another := otherPointer
      simp [release, kfree, pointer, otherIs, otherLive, untouched,
        Function.update_comm distinct]

end PlatformDriver

end Sensor

end KinuxKernel
