import KinuxKernel.SensorReading

/-!
# Distances

`sensor_handler` computes a distance from the microseconds of two times, without
their seconds, and part 2 subtracts a constant from it, all in unsigned arithmetic.
-/

namespace KinuxKernel

namespace Sensor

open TraceRun

/-- What `sensor_handler` stores for an echo at `now`. -/
def Driver.distance (driver : Driver) (trig : BitVec 32) (now : Timeval) : BitVec 32 :=
  170 * (BitVec.ofNat 32 now.usec - trig) / 10000 - driver.offset

/-- The microseconds from one time to another. -/
def elapsed (trigger now : Timeval) : Int :=
  (now.sec - trigger.sec) * 1000000 + ((now.usec.val : Int) - trigger.usec.val)

/-- The time that `ini` has been set to. -/
def iniTime : List MeasurementEvent → Option Timeval
  | [] => none
  | .poll point now :: earlier => if point = .getIni then some now else iniTime earlier
  | .expire :: earlier | .echo _ _ :: earlier => iniTime earlier

/-- The time whose microseconds `trig` has been set to. -/
def triggerTime : List MeasurementEvent → Option Timeval
  | [] => none
  | .poll point _ :: earlier => if point = .setTrig then iniTime earlier else triggerTime earlier
  | .expire :: earlier | .echo _ _ :: earlier => triggerTime earlier

section Handler

variable {driver : Driver} {structp after : HSCStruct} {trigger now : Timeval}
  {jiffies : BitVec 32} {index : Fin 20}

theorem handler_distance (valid : structp.sampleIndex = some index)
    (handled : structp.sensorHandler driver now jiffies = some after) :
    after.distance =
      structp.distance.set index.val (driver.distance structp.trig now) index.isLt := by
  rw [HSCStruct.sensorHandler, valid] at handled
  obtain rfl := Option.some.inj handled
  rfl

theorem handler_timestamp (valid : structp.sampleIndex = some index)
    (handled : structp.sensorHandler driver now jiffies = some after) :
    after.timestamp =
      structp.timestamp.set index.val (jiffies * 1000 / driver.hz) index.isLt := by
  rw [HSCStruct.sensorHandler, valid] at handled
  obtain rfl := Option.some.inj handled
  rfl

/-- The difference of the microseconds as long as they do not start over. -/
theorem scaled_of_le (less : trigger.usec ≤ now.usec) :
    (170 * (BitVec.ofNat 32 now.usec - BitVec.ofNat 32 trigger.usec) / 10000).toNat =
      170 * (now.usec.val - trigger.usec.val) / 10000 := by
  have nowBound := now.usec.isLt
  have triggerBound := trigger.usec.isLt
  have difference : (BitVec.ofNat 32 now.usec - BitVec.ofNat 32 trigger.usec).toNat =
      now.usec.val - trigger.usec.val := by
    rw [BitVec.toNat_sub, BitVec.toNat_ofNat, BitVec.toNat_ofNat]
    have := Fin.le_def.mp less
    omega
  rw [BitVec.toNat_udiv, BitVec.toNat_mul, difference]
  simp only [BitVec.reduceToNat]
  omega

/-- Otherwise the difference wraps, and its product by 170 does not. -/
theorem scaled_of_lt (less : now.usec < trigger.usec) :
    (170 * (BitVec.ofNat 32 now.usec - BitVec.ofNat 32 trigger.usec) / 10000).toNat =
      (4294967296 - 170 * (trigger.usec.val - now.usec.val)) / 10000 := by
  have nowBound := now.usec.isLt
  have triggerBound := trigger.usec.isLt
  have difference : (BitVec.ofNat 32 now.usec - BitVec.ofNat 32 trigger.usec).toNat =
      4294967296 - (trigger.usec.val - now.usec.val) := by
    rw [BitVec.toNat_sub, BitVec.toNat_ofNat, BitVec.toNat_ofNat]
    have := Fin.lt_def.mp less
    omega
  rw [BitVec.toNat_udiv, BitVec.toNat_mul, difference]
  simp only [BitVec.reduceToNat]
  have := Fin.lt_def.mp less
  omega

theorem Driver.distance_toNat {trig : BitVec 32}
    (far : driver.offset.toNat ≤ (170 * (BitVec.ofNat 32 now.usec - trig) / 10000).toNat) :
    (driver.distance trig now).toNat =
      (170 * (BitVec.ofNat 32 now.usec - trig) / 10000).toNat - driver.offset.toNat :=
  BitVec.toNat_sub_of_le (BitVec.le_def.mpr far)

end Handler

section Times

variable {driver : Driver} {structp result : HSCStruct} {trace : List MeasurementEvent}
  {measurement before after : Measurement} {now trigger : Timeval} {jiffies : BitVec 32}

/-- What a statement of `write_common` does to the fields it shares with the interrupt,
and to `flag2`. -/
structure ExecutesTimes (now : Timeval) (structp : HSCStruct) (point : PollPoint)
    (result : HSCStruct) : Prop where
  ini : result.ini = if point = .getIni then now else structp.ini
  trig : result.trig =
    if point = .setTrig then BitVec.ofNat 32 structp.ini.usec else structp.trig
  flag2 : result.flag2 = if point = .setFlags then true
    else if point = .clearFlag2 then false else structp.flag2
  distance : result.distance = structp.distance
  timestamp : result.timestamp = structp.timestamp

theorem executesTimes_of_execute {point target : PollPoint}
    (executed : execute now structp point = some (result, target)) :
    ExecutesTimes now structp point result := by
  cases point with
  | done => simp [execute] at executed
  | raisePin | lowerPin =>
      obtain ⟨row, -, same⟩ := Option.map_eq_some_iff.mp executed
      obtain ⟨rfl, rfl⟩ := Prod.mk.inj same
      exact ⟨rfl, rfl, rfl, rfl, rfl⟩
  | _ =>
      obtain ⟨rfl, rfl⟩ := Prod.mk.inj (Option.some.inj executed)
      exact ⟨rfl, rfl, rfl, rfl, rfl⟩

theorem callback_samples (structp : HSCStruct) :
    structp.myHrtimerCallback.distance = structp.distance ∧
      structp.myHrtimerCallback.timestamp = structp.timestamp := by
  unfold HSCStruct.myHrtimerCallback
  split_ifs <;> exact ⟨rfl, rfl⟩

theorem callback_times (structp : HSCStruct) :
    structp.myHrtimerCallback.ini = structp.ini ∧
      structp.myHrtimerCallback.trig = structp.trig := by
  unfold HSCStruct.myHrtimerCallback
  split_ifs <;> exact ⟨rfl, rfl⟩

/-- `ini` and `trig` hold the times that the loop has last written to them. -/
theorem MeasurementRun.times (run : MeasurementRun driver structp trace measurement) :
    (∀ time, iniTime trace = some time → measurement.structp.ini = time) ∧
      ∀ time, triggerTime trace = some time →
        measurement.structp.trig = BitVec.ofNat 32 time.usec := by
  induction run with
  | start => simp [iniTime, triggerTime]
  | @next trace before after event earlier _ stepTo ih =>
      obtain ⟨current, point, stray⟩ := before
      obtain ⟨rfl, measures⟩ := measures_of_step stepTo
      obtain ⟨ini, trig⟩ := ih
      cases measures with
      | poll executed =>
          have effect := executesTimes_of_execute executed
          simp only [iniTime, triggerTime, effect.ini, effect.trig]
          constructor
          · intro time
            split_ifs
            · exact Option.some.inj
            · exact ini time
          · intro time
            split_ifs
            · intro read
              rw [← ini time read]
            · exact trig time
      | expire =>
          obtain ⟨sameIni, sameTrig⟩ := callback_times current
          simpa only [iniTime, triggerTime, sameIni, sameTrig] using ⟨ini, trig⟩
      | echo _ handled =>
          obtain ⟨distance, timestamp, tdiff, rfl⟩ := HSCStruct.handler_spec handled
          exact ⟨ini, trig⟩
      | stray => exact ⟨ini, trig⟩

/-- An echo inside the sample arrays is handled. -/
theorem echo_handled {index : Fin 20} (valid : before.structp.sampleIndex = some index)
    (stepTo : measure driver before (.echo now jiffies) = some after) :
    before.structp.sensorHandler driver now jiffies = some after.structp := by
  obtain ⟨current, point, stray⟩ := before
  obtain ⟨rfl, measures⟩ := measures_of_step stepTo
  cases measures with
  | echo _ handled => exact handled
  | stray missing => simp [valid] at missing

end Times

section Exact

variable {driver : Driver} {structp : HSCStruct} {trace : List MeasurementEvent}
  {before after : Measurement} {now trigger : Timeval} {jiffies : BitVec 32} {index : Fin 20}

theorem echo_distance (run : MeasurementRun driver structp trace before)
    (fired : triggerTime trace = some trigger) (valid : before.structp.sampleIndex = some index)
    (stepTo : measure driver before (.echo now jiffies) = some after) :
    after.structp.distance[index] = driver.distance (BitVec.ofNat 32 trigger.usec) now := by
  have stored := handler_distance valid (echo_handled valid stepTo)
  rw [run.times.2 trigger fired] at stored
  simp [stored]

/-- Between 1 and 60 milliseconds are less than a second, so the microseconds start
over unless the seconds are the same. -/
theorem usec_lt_of_sec (late : 0 ≤ elapsed trigger now) (near : elapsed trigger now < 60000)
    (other : trigger.sec ≠ now.sec) :
    now.usec < trigger.usec ∧ elapsed trigger now =
      1000000 - ((trigger.usec.val - now.usec.val : Nat) : Int) := by
  have nowBound := now.usec.isLt
  have triggerBound := trigger.usec.isLt
  rw [Fin.lt_def]
  unfold elapsed at *
  omega

theorem distance_of_sameSecond (late : 1000 ≤ elapsed trigger now) (same : trigger.sec = now.sec)
    (bias : driver.offset.toNat ≤ 12) :
    ((driver.distance (BitVec.ofNat 32 trigger.usec) now).toNat : Int) =
      170 * elapsed trigger now / 10000 - driver.offset.toNat := by
  have less : trigger.usec.val + 1000 ≤ now.usec.val := by
    unfold elapsed at late
    omega
  have scaled := scaled_of_le (Fin.le_def.mpr (by omega : trigger.usec.val ≤ now.usec.val))
  rw [Driver.distance_toNat (by omega), scaled]
  unfold elapsed
  omega

/-- After the second has changed, the distance is larger than any that can be
measured. -/
theorem distance_of_otherSecond (late : 1000 ≤ elapsed trigger now)
    (near : elapsed trigger now < 60000) (other : trigger.sec ≠ now.sec)
    (bias : driver.offset.toNat ≤ 12) :
    400000 ≤ (driver.distance (BitVec.ofNat 32 trigger.usec) now).toNat := by
  obtain ⟨less, span⟩ := usec_lt_of_sec (by omega) near other
  have scaled := scaled_of_lt less
  rw [Driver.distance_toNat (by omega), scaled]
  omega

/-- An echo that comes between 1 and 60 milliseconds after its trigger is stored
with the true distance if and only if the second has not changed in between. -/
theorem distance_exact_iff {hz : BitVec 32} {bias : Nat}
    (either : (driver = part1 hz ∧ bias = 0) ∨ (driver = part2 hz ∧ bias = 12))
    (run : MeasurementRun driver structp trace before) (fired : triggerTime trace = some trigger)
    (valid : before.structp.sampleIndex = some index)
    (stepTo : measure driver before (.echo now jiffies) = some after)
    (late : 1000 ≤ elapsed trigger now) (near : elapsed trigger now < 60000) :
    (after.structp.distance[index].toNat : Int) = 170 * elapsed trigger now / 10000 - bias ↔
      trigger.sec = now.sec := by
  have offset : driver.offset.toNat = bias := by
    rcases either with ⟨rfl, rfl⟩ | ⟨rfl, rfl⟩ <;> rfl
  have small : driver.offset.toNat ≤ 12 := by
    rw [offset]
    rcases either with ⟨-, rfl⟩ | ⟨-, rfl⟩ <;> decide
  rw [echo_distance run fired valid stepTo, ← offset]
  constructor
  · intro value
    by_contra other
    have large := distance_of_otherSecond late near other small
    omega
  · exact fun same => distance_of_sameSecond late same small

/-- The first echo of a run, after the first expiry. -/
theorem exists_firstEcho {row : Vector (BitVec 32) 4} (wired : pinRow structp.trigger = some row)
    (samples : 1 ≤ structp.samples) (trigger now : Timeval) (jiffies : BitVec 32) :
    ∃ before after, MeasurementRun driver structp (.expire :: firstPass trigger) before ∧
      before.structp.sampleIndex = some 0 ∧
      measure driver before (.echo now jiffies) = some after := by
  obtain ⟨current, run, -, pending, sampleNum, same, -⟩ :=
    @firstPass_run driver structp row wired trigger
  have callback : current.myHrtimerCallback =
      { current with sampleNum := 1, flag2 := true, hrTimer := .pending } := by
    rw [HSCStruct.myHrtimerCallback, if_pos (by omega), sampleNum]
    rfl
  have expired : MeasurementRun driver structp (.expire :: firstPass trigger)
      ⟨current.myHrtimerCallback, .testFlag1, false⟩ :=
    .next run trivial (if_pos ⟨rfl, pending⟩)
  rw [callback] at expired
  exact ⟨_, _, expired, rfl, rfl⟩

end Exact

/-- An echo after one and a half milliseconds, in the same second. -/
theorem distance_exact_same :
    ∃ before after, MeasurementRun (part2 1000) threeSamples
        (.expire :: firstPass ⟨1, 500⟩) before ∧
      measure (part2 1000) before (.echo ⟨1, 2000⟩ 7) = some after ∧
      (after.structp.distance[(0 : Fin 20)].toNat : Int) =
        170 * elapsed ⟨1, 500⟩ ⟨1, 2000⟩ / 10000 - 12 := by
  obtain ⟨before, after, run, valid, stepTo⟩ := @exists_firstEcho (part2 1000) threeSamples
    #v[13, 34, 77, noGpio] rfl (by decide) ⟨1, 500⟩ ⟨1, 2000⟩ 7
  exact ⟨before, after, run, stepTo, (distance_exact_iff (.inr ⟨rfl, rfl⟩) run rfl valid stepTo
    (by decide) (by decide)).mpr rfl⟩

/-- An echo after one and a half milliseconds, in the next second. -/
theorem distance_wrong_across_second :
    ∃ before after, MeasurementRun (part2 1000) threeSamples
        (.expire :: firstPass ⟨1, 999000⟩) before ∧
      triggerTime (.expire :: firstPass ⟨1, 999000⟩) = some ⟨1, 999000⟩ ∧
      before.structp.sampleIndex = some 0 ∧
      measure (part2 1000) before (.echo ⟨2, 500⟩ 7) = some after ∧
      elapsed ⟨1, 999000⟩ ⟨2, 500⟩ = 1500 ∧
      (after.structp.distance[(0 : Fin 20)].toNat : Int) ≠
        170 * elapsed ⟨1, 999000⟩ ⟨2, 500⟩ / 10000 - 12 := by
  obtain ⟨before, after, run, valid, stepTo⟩ := @exists_firstEcho (part2 1000) threeSamples
    #v[13, 34, 77, noGpio] rfl (by decide) ⟨1, 999000⟩ ⟨2, 500⟩ 7
  refine ⟨before, after, run, rfl, valid, stepTo, rfl, ?_⟩
  rw [echo_distance run rfl valid stepTo]
  decide

end Sensor

end KinuxKernel
