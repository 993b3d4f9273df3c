import Mathlib.Data.Fin.Basic
import KinuxKernel.GpioPins

/-!
# The ultrasonic sensor

`HSC_struct` with the functions of the two sensor drivers that read and write
it: the settings, the timer callback and the echo interrupt.  Fields of type
`int` are integers, converted from unsigned values as in C; `unsigned long` has
32 bits.
-/

namespace KinuxKernel

namespace Sensor

/-- `struct timeval`, as `do_gettimeofday` fills it. -/
structure Timeval where
  sec : Int
  usec : Fin 1000000
deriving DecidableEq

/-- A `struct timeval` in memory, where a stray store can leave any word. -/
structure TimevalWords where
  sec : Int
  usec : BitVec 32
deriving DecidableEq

def Timeval.words (now : Timeval) : TimevalWords where
  sec := now.sec
  usec := BitVec.ofNat 32 now.usec

/-- The state of `hr_timer`: before `hrtimer_init`, off and on the queue. -/
inductive Timer where
  | uninitialised
  | idle
  | pending
deriving DecidableEq, Repr

/-- `struct HSC_struct`. -/
structure HSCStruct where
  triggerop : Bool
  flag1 : Bool
  flag2 : Bool
  enable : Bool
  sampleNum : Int
  irqnum : Int
  interval : Int
  samples : Int
  trigger : Int
  echo : Int
  minorNum : Int
  trig : BitVec 32
  tdiff : BitVec 32
  ini : Timeval
  endTime : TimevalWords
  distance : Vector (BitVec 32) 20
  timestamp : Vector (BitVec 32) 20
  hrTimer : Timer

/-- Memory whose every byte is zero. -/
def HSCStruct.zeroed : HSCStruct where
  triggerop := false
  flag1 := false
  flag2 := false
  enable := false
  sampleNum := 0
  irqnum := 0
  interval := 0
  samples := 0
  trigger := 0
  echo := 0
  minorNum := 0
  trig := 0
  tdiff := 0
  ini := ⟨0, 0⟩
  endTime := ⟨0, 0⟩
  distance := Vector.replicate 20 0
  timestamp := Vector.replicate 20 0
  hrTimer := .uninitialised

/-- What differs between the drivers: part 2 subtracts a constant from each
distance. `HZ` is the tick rate of the kernel. -/
structure Driver where
  offset : BitVec 32
  hz : BitVec 32

def part1 (hz : BitVec 32) : Driver := ⟨0, hz⟩

def part2 (hz : BitVec 32) : Driver := ⟨12, hz⟩

/-- `conf`, the argument of `SET_PARAMS`. -/
structure Conf where
  interval : BitVec 32
  samples : BitVec 32

namespace HSCStruct

variable (structp : HSCStruct)

/-- The branch of `sensor_ioctl` for `SET_PARAMS`. -/
def setParams (c : Conf) : HSCStruct :=
  { structp with samples := (c.samples + 2).toInt, interval := c.interval.toInt }

/-- `samples_store` for the number `tmp`. -/
def samplesStore (tmp : BitVec 32) : Except Int HSCStruct :=
  if tmp.toInt < 1 then .error (-EINVAL) else .ok { structp with samples := tmp.toInt }

/-- `timer_initialize`. -/
def timerInitialize : HSCStruct :=
  { structp with hrTimer := .idle }

/-- `timer_start`. -/
def timerStart : HSCStruct :=
  { structp with hrTimer := .pending }

/-- `my_hrtimer_callback`; a timer that is not restarted is off the queue. -/
def myHrtimerCallback : HSCStruct :=
  if structp.sampleNum < structp.samples then
    { structp with sampleNum := structp.sampleNum + 1, flag2 := true, hrTimer := .pending }
  else { structp with flag1 := false, hrTimer := .idle }

/-- `sample_num - 1` as an index of the sample arrays. -/
def sampleIndex : Option (Fin 20) :=
  if bounds : 1 ≤ structp.sampleNum ∧ structp.sampleNum ≤ 20 then
    some ⟨(structp.sampleNum - 1).toNat, by omega⟩
  else none

/-- `sensor_handler`; undefined when it writes outside the sample arrays. -/
def sensorHandler (driver : Driver) (now : Timeval) (jiffies : BitVec 32) : Option HSCStruct :=
  structp.sampleIndex.map fun index =>
    let tdiff := 170 * (BitVec.ofNat 32 now.usec - structp.trig)
    { structp with
      endTime := now.words
      timestamp := structp.timestamp.set index.val (jiffies * 1000 / driver.hz) index.isLt
      tdiff := tdiff
      distance := structp.distance.set index.val (tdiff / 10000 - driver.offset) index.isLt }

variable {structp}

theorem sampleIndex_isSome :
    structp.sampleIndex.isSome ↔ 1 ≤ structp.sampleNum ∧ structp.sampleNum ≤ 20 := by
  unfold sampleIndex
  split_ifs with bounds <;> simp [bounds]

/-- The handler writes the sample arrays, `end` and `tdiff`, and nothing else. -/
theorem handler_spec {driver : Driver} {now : Timeval} {jiffies : BitVec 32} {after : HSCStruct}
    (handled : structp.sensorHandler driver now jiffies = some after) :
    ∃ distance timestamp tdiff, after = { structp with
      endTime := now.words, timestamp := timestamp, tdiff := tdiff, distance := distance } := by
  obtain ⟨index, -, rfl⟩ := Option.map_eq_some_iff.mp handled
  exact ⟨_, _, _, rfl⟩

end HSCStruct

end Sensor

end KinuxKernel
