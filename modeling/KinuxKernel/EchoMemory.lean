import KinuxKernel.SensorDevice

/-!
# Echoes in memory

`sensor_handler` does not check `sample_num`, so its stores may miss the sample
arrays.  In `HSC_struct` the word `end.tv_usec` lies before `distance`, the array
`timestamp` behind `distance`, and `hr_timer` behind `timestamp`; the structure of the
other sensor lies some words away.
-/

namespace KinuxKernel

namespace Sensor

namespace HSCStruct

/-- Store a word at a place counted in words from `distance`; undefined outside the
sample arrays and `end.tv_usec`. -/
def storeWord (structp : HSCStruct) (place : Int) (value : BitVec 32) : Option HSCStruct :=
  if place = -1 then some { structp with endTime := { structp.endTime with usec := value } }
  else if inside : 0 ≤ place ∧ place < 20 then
    some { structp with distance := structp.distance.set place.toNat value (by omega) }
  else if inside : 20 ≤ place ∧ place < 40 then
    some { structp with timestamp := structp.timestamp.set (place - 20).toNat value (by omega) }
  else none

end HSCStruct

/-- The structure of the interrupt, and that of the other sensor with the number of
words from the one to the other. -/
structure EchoMemory where
  structp : HSCStruct
  other : Option (Int × HSCStruct)

namespace EchoMemory

/-- Store a word at a place counted from `distance` of the structure of the interrupt. -/
def storeWord (memory : EchoMemory) (place : Int) (value : BitVec 32) : Option EchoMemory :=
  ((memory.structp.storeWord place value).map fun structp =>
      { memory with structp := structp }).or
    (memory.other.bind fun other =>
      (other.2.storeWord (place - other.1) value).map fun structp =>
        { memory with other := some (other.1, structp) })

/-- `sensor_handler`, store by store; undefined when a store hits neither structure,
or another field of one. -/
def sensorHandler (memory : EchoMemory) (driver : Driver) (now : Timeval)
    (jiffies : BitVec 32) : Option EchoMemory :=
  let memory := { memory with structp := { memory.structp with endTime := now.words } }
  (memory.storeWord (20 + (memory.structp.sampleNum - 1)) (jiffies * 1000 / driver.hz)).bind
    fun memory =>
      let tdiff := 170 * (memory.structp.endTime.usec - memory.structp.trig)
      let memory := { memory with structp := { memory.structp with tdiff := tdiff } }
      memory.storeWord (memory.structp.sampleNum - 1) (tdiff / 10000 - driver.offset)

end EchoMemory

/-- `sensor_handler` as far as it stays inside its own structure. -/
def HSCStruct.sensorHandlerStores (structp : HSCStruct) (driver : Driver) (now : Timeval)
    (jiffies : BitVec 32) : Option HSCStruct :=
  ((EchoMemory.mk structp none).sensorHandler driver now jiffies).map EchoMemory.structp

/-- An echo that is stored inside its own structure: in the arrays, or before the first
sample in the words before them. -/
def HSCStruct.Within (structp : HSCStruct) : Prop :=
  0 ≤ structp.sampleNum ∧ structp.sampleNum ≤ 20

instance (structp : HSCStruct) : Decidable structp.Within :=
  inferInstanceAs (Decidable (_ ∧ _))

/-- Only `end`, `tdiff` and the sample arrays differ. -/
def OnlyEchoData (before after : HSCStruct) : Prop :=
  ∃ endTime tdiff distance timestamp, after = { before with
    endTime := endTime, tdiff := tdiff, distance := distance, timestamp := timestamp }

variable {structp after : HSCStruct} {driver : Driver} {now : Timeval} {jiffies value : BitVec 32}
  {place : Int} {other : Option (Int × HSCStruct)}

theorem OnlyEchoData.trans {first second third : HSCStruct} (start : OnlyEchoData first second)
    (rest : OnlyEchoData second third) : OnlyEchoData first third := by
  obtain ⟨_, _, _, _, rfl⟩ := start
  obtain ⟨_, _, _, _, rfl⟩ := rest
  exact ⟨_, _, _, _, rfl⟩

theorem storeWord_spec (stored : structp.storeWord place value = some after) :
    OnlyEchoData structp after := by
  unfold HSCStruct.storeWord at stored
  split_ifs at stored
  all_goals
    obtain rfl := Option.some.inj stored
    exact ⟨_, _, _, _, rfl⟩

theorem exists_storeWord (low : -1 ≤ place) (high : place < 40) :
    ∃ after, structp.storeWord place value = some after := by
  unfold HSCStruct.storeWord
  split_ifs
  · exact ⟨_, rfl⟩
  · exact ⟨_, rfl⟩
  · exact ⟨_, rfl⟩
  · omega

/-- A store that hits the own structure leaves the other one alone. -/
theorem EchoMemory.storeWord_own (stored : structp.storeWord place value = some after) :
    (EchoMemory.mk structp other).storeWord place value = some ⟨after, other⟩ := by
  simp [EchoMemory.storeWord, stored]

/-- Within the own structure the handler changes its data only. -/
theorem HSCStruct.Within.handler (within : structp.Within) (driver : Driver) (now : Timeval)
    (jiffies : BitVec 32) :
    ∃ after, structp.sensorHandlerStores driver now jiffies = some after ∧
      OnlyEchoData structp after ∧
      ∀ other, (EchoMemory.mk structp other).sensorHandler driver now jiffies =
        some ⟨after, other⟩ := by
  obtain ⟨low, high⟩ := within
  obtain ⟨stamped, stamp⟩ := @exists_storeWord { structp with endTime := now.words }
    (jiffies * 1000 / driver.hz) (20 + (structp.sampleNum - 1)) (by omega) (by omega)
  have first := storeWord_spec stamp
  have counter : stamped.sampleNum = structp.sampleNum := by
    obtain ⟨_, _, _, _, rfl⟩ := first
    rfl
  obtain ⟨after, stored⟩ := @exists_storeWord
    { stamped with tdiff := 170 * (stamped.endTime.usec - stamped.trig) }
    (170 * (stamped.endTime.usec - stamped.trig) / 10000 - driver.offset)
    (stamped.sampleNum - 1) (by omega) (by omega)
  have handled : ∀ other, (EchoMemory.mk structp other).sensorHandler driver now jiffies =
      some ⟨after, other⟩ := by
    intro other
    rw [EchoMemory.sensorHandler, EchoMemory.storeWord_own stamp, Option.bind_some]
    exact EchoMemory.storeWord_own stored
  have read : OnlyEchoData structp { structp with endTime := now.words } := ⟨_, _, _, _, rfl⟩
  have difference : OnlyEchoData stamped
      { stamped with tdiff := 170 * (stamped.endTime.usec - stamped.trig) } := ⟨_, _, _, _, rfl⟩
  refine ⟨after, ?_, ?_, handled⟩
  · rw [HSCStruct.sensorHandlerStores, handled none, Option.map_some]
  · exact ((read.trans first).trans difference).trans (storeWord_spec stored)

theorem storeWord_distance (index : Fin 20) (value : BitVec 32) :
    structp.storeWord index value =
      some { structp with distance := structp.distance.set index.val value index.isLt } := by
  have bound := index.isLt
  rw [HSCStruct.storeWord, if_neg (by omega), dif_pos (by omega)]
  simp

theorem storeWord_timestamp (index : Fin 20) (value : BitVec 32) :
    structp.storeWord (20 + index) value =
      some { structp with timestamp := structp.timestamp.set index.val value index.isLt } := by
  have bound := index.isLt
  rw [HSCStruct.storeWord, if_neg (by omega), dif_neg (by omega), dif_pos (by omega)]
  simp

theorem sampleNum_of_index {index : Fin 20} (found : structp.sampleIndex = some index) :
    structp.sampleNum - 1 = index := by
  unfold HSCStruct.sampleIndex at found
  split_ifs at found with bounds
  obtain rfl := Option.some.inj found
  simp only
  omega

/-- Inside the arrays the stores are those that the handler is meant to make. -/
theorem sensorHandlerStores_inside
    (handled : structp.sensorHandler driver now jiffies = some after) :
    structp.sensorHandlerStores driver now jiffies = some after := by
  obtain ⟨index, found, rfl⟩ := Option.map_eq_some_iff.mp handled
  have place := sampleNum_of_index found
  simp [HSCStruct.sensorHandlerStores, EchoMemory.sensorHandler, EchoMemory.storeWord, place,
    storeWord_timestamp, storeWord_distance, Timeval.words]

theorem storeWord_beyond (far : 40 ≤ place) : structp.storeWord place value = none := by
  rw [HSCStruct.storeWord, if_neg (by omega), dif_neg (by omega), dif_neg (by omega)]

/-- An index beyond the own structure can lead into the arrays of the other one. -/
theorem EchoMemory.sensorHandler_other {gap : Int} (second : HSCStruct) (far : 40 ≤ gap)
    (index : Fin 20) (strays : structp.sampleNum - 1 = gap + index) :
    (EchoMemory.mk structp (some (gap, second))).sensorHandler driver now jiffies =
      some ⟨{ structp with
          endTime := now.words, tdiff := 170 * (BitVec.ofNat 32 now.usec - structp.trig) },
        some (gap, { second with
          timestamp := second.timestamp.set index.val (jiffies * 1000 / driver.hz) index.isLt
          distance := second.distance.set index.val
            (170 * (BitVec.ofNat 32 now.usec - structp.trig) / 10000 - driver.offset)
            index.isLt })⟩ := by
  have bound := index.isLt
  have stampPlace : 20 + (gap + index) - gap = 20 + (index : Int) := by omega
  have place : gap + index - gap = (index : Int) := by omega
  have ownStamp := fun structp value => @storeWord_beyond structp value (20 + (gap + index))
    (by omega)
  have own := fun structp value => @storeWord_beyond structp value (gap + index) (by omega)
  simp [EchoMemory.sensorHandler, EchoMemory.storeWord, strays, ownStamp, own, stampPlace, place,
    storeWord_timestamp, storeWord_distance, Timeval.words]

end Sensor

end KinuxKernel
