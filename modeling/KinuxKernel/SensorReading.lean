import KinuxKernel.MeasurementRun

/-!
# Reading a sensor

`read_common` averages all samples but the first and the last.  The command
`SET_PARAMS` stores two samples more than it is asked for, the attribute
`NUMBER_SAMPLES` does not, and both the timer callback and `read_common` go by what
is stored.
-/

namespace KinuxKernel

namespace Sensor

open TraceRun

/-- The loop of `read_common`; undefined outside the sample array. -/
def sumDistances (distance : Vector (BitVec 32) 20) : Nat → Nat → BitVec 32 → Option (BitVec 32)
  | 0, _, sum => some sum
  | remaining + 1, i, sum =>
      (distance[i]?).bind fun value => sumDistances distance remaining (i + 1) (sum + value)

/-- `read_common`, with `do_div` as the division of integers; undefined for the divisor
zero, and where `samples - 2` overflows. -/
def readCommon (structp : HSCStruct) : Option Int :=
  (sumDistances structp.distance (structp.samples - 2).toNat 1 0).bind fun sum =>
    if structp.samples - 2 = 0 ∨ structp.samples - 2 < -2 ^ 31 then none
    else some (sum.toInt.tdiv (structp.samples - 2))

theorem sumDistances_isSome_iff (distance : Vector (BitVec 32) 20) (remaining i : Nat)
    (sum : BitVec 32) :
    (sumDistances distance remaining i sum).isSome ↔ remaining = 0 ∨ i + remaining ≤ 20 := by
  induction remaining generalizing i sum with
  | zero => simp [sumDistances]
  | succ remaining ih =>
      by_cases inside : i < 20
      · rw [sumDistances, Vector.getElem?_eq_getElem inside, Option.bind_some, ih]
        omega
      · rw [sumDistances, Vector.getElem?_eq_none (by omega)]
        simp only [Option.bind_none, Option.isSome_none, Bool.false_eq_true, false_iff]
        omega

/-- `read_common` divides by zero for two stored samples, reads outside the array for more
than 21, and overflows for the two smallest numbers. -/
theorem readCommon_isSome_iff (structp : HSCStruct) :
    (readCommon structp).isSome ↔
      structp.samples ≠ 2 ∧ structp.samples ≤ 21 ∧ -2 ^ 31 + 2 ≤ structp.samples := by
  have summed := sumDistances_isSome_iff structp.distance (structp.samples - 2).toNat 1 0
  unfold readCommon
  cases sum : sumDistances structp.distance (structp.samples - 2).toNat 1 0 with
  | none =>
      simp only [sum, Option.isSome_none, Bool.false_eq_true, false_iff] at summed
      simp only [Option.bind_none, Option.isSome_none, Bool.false_eq_true, false_iff]
      omega
  | some value =>
      simp only [sum, Option.isSome_some, true_iff] at summed
      rw [Option.bind_some]
      split_ifs with divisor
      · simp only [Option.isSome_none, Bool.false_eq_true, false_iff]
        omega
      · simp only [Option.isSome_some, true_iff]
        omega

variable {driver : Driver} {structp current : HSCStruct} {trace : List MeasurementEvent}
  {measurement : Measurement}

/-- A run of `write_common` that returns. -/
structure CompletedRun (driver : Driver) (structp : HSCStruct) (trace : List MeasurementEvent)
    (measurement : Measurement) : Prop where
  run : MeasurementRun driver structp trace measurement
  done : measurement.point = .done
  inside : measurement.stray = false

/-- After either configuration with `n` samples, runs that leave the same distances
take the same number of samples, and `read_common` returns the same. -/
def SameMeaning (driver : Driver) (structp : HSCStruct) (interval n : BitVec 32) : Prop :=
  ∀ stored, structp.samplesStore n = .ok stored →
    ∀ trace measurement, CompletedRun driver (structp.setParams ⟨interval, n⟩) trace measurement →
    ∀ again other, CompletedRun driver stored again other →
      measurement.structp.distance = other.structp.distance →
      measurement.structp.sampleNum = other.structp.sampleNum ∧
        readCommon measurement.structp = readCommon other.structp

/-- The first pass through the loop, up to its next test of `flag1`. -/
def firstPass (now : Timeval) : List MeasurementEvent :=
  [.poll .clearFlag2 now, .poll .lowerPin now, .poll .clearTriggeropAgain now,
    .poll .setTrig now, .poll .getIni now] ++ firstTrigger now

theorem firstPass_run {row : Vector (BitVec 32) 4} (wired : pinRow structp.trigger = some row)
    (now : Timeval) :
    ∃ current, MeasurementRun driver structp (firstPass now) ⟨current, .testFlag1, false⟩ ∧
      current.flag1 = true ∧ current.hrTimer = .pending ∧ current.sampleNum = 0 ∧
      current.samples = structp.samples ∧ current.distance = structp.distance := by
  have replayed : replay (measure driver) (.start structp) (firstPass now) = some ⟨{ structp with
      flag1 := true, flag2 := false, triggerop := false, sampleNum := 0, hrTimer := .pending,
      ini := now, trig := BitVec.ofNat 32 now.usec }, .testFlag1, false⟩ := by
    simp [firstPass, firstTrigger, replay, measure, execute, Measurement.start,
      HSCStruct.timerInitialize, HSCStruct.timerStart, wired]
  refine ⟨_, run_of_replay_of_allowed (fun event earlier _ inside => ?_) replayed, rfl, rfl, rfl,
    rfl, rfl⟩
  cases event with
  | poll | expire => trivial
  | echo now jiffies =>
      have member := inside.subset (List.mem_cons_self ..)
      simp [firstPass, firstTrigger] at member

/-- The timer expires until all samples are taken, and once more. -/
theorem expire_run {remaining : Nat} {point : PollPoint}
    (run : MeasurementRun driver structp trace ⟨current, point, false⟩)
    (pending : current.hrTimer = .pending)
    (left : current.sampleNum + remaining = current.samples) :
    ∃ after events, MeasurementRun driver structp events ⟨after, point, false⟩ ∧
      after.flag1 = false ∧ after.sampleNum = current.samples ∧
      after.distance = current.distance := by
  induction remaining generalizing current trace with
  | zero =>
      have ended : ¬ current.sampleNum < current.samples := by omega
      have callback : current.myHrtimerCallback =
          { current with flag1 := false, hrTimer := .idle } := if_neg ended
      have expired : MeasurementRun driver structp (.expire :: trace)
          ⟨current.myHrtimerCallback, point, false⟩ :=
        .next run trivial (if_pos ⟨rfl, pending⟩)
      rw [callback] at expired
      have taken : current.sampleNum = current.samples := by simpa using left
      exact ⟨_, _, expired, rfl, taken, rfl⟩
  | succ remaining ih =>
      have more : current.sampleNum < current.samples := by omega
      have callback : current.myHrtimerCallback =
          { current with sampleNum := current.sampleNum + 1, flag2 := true, hrTimer := .pending } :=
        if_pos more
      have expired : MeasurementRun driver structp (.expire :: trace)
          ⟨current.myHrtimerCallback, point, false⟩ :=
        .next run trivial (if_pos ⟨rfl, pending⟩)
      rw [callback] at expired
      have leftAfter : current.sampleNum + 1 + remaining = current.samples := by omega
      obtain ⟨after, events, rest, flag, taken, distance⟩ := ih expired rfl leftAfter
      exact ⟨after, events, rest, flag, taken, distance⟩

/-- A sensor with a trigger pin can complete a run without an echo. -/
theorem exists_completedRun {row : Vector (BitVec 32) 4}
    (wired : pinRow structp.trigger = some row) (samples : 0 ≤ structp.samples) :
    ∃ trace measurement, CompletedRun driver structp trace measurement ∧
      measurement.structp.sampleNum = structp.samples ∧
      measurement.structp.distance = structp.distance := by
  obtain ⟨current, run, -, pending, sampleNum, same, distance⟩ :=
    @firstPass_run driver structp row wired structp.ini
  have left : current.sampleNum + structp.samples.toNat = current.samples := by
    rw [sampleNum, same, Int.toNat_of_nonneg samples]
    simp
  obtain ⟨after, events, expired, flag, taken, kept⟩ := expire_run run pending left
  have returned : measure driver ⟨after, .testFlag1, false⟩ (.poll .testFlag1 structp.ini) =
      some ⟨after, .done, false⟩ := by
    simp [measure, execute, flag]
  have final : MeasurementRun driver structp (.poll .testFlag1 structp.ini :: events)
      ⟨after, .done, false⟩ := .next expired trivial returned
  exact ⟨_, _, ⟨final, rfl, rfl⟩, taken.trans same, kept.trans distance⟩

section Configured

variable {interval n : BitVec 32}

theorem setParams_samples (fits : n.toNat + 2 ≤ 20) :
    (structp.setParams ⟨interval, n⟩).samples = n.toNat + 2 := by
  have sum : (n + 2).toNat = n.toNat + 2 := by
    rw [BitVec.toNat_add]
    apply Nat.mod_eq_of_lt
    have two : (2 : BitVec 32).toNat = 2 := rfl
    omega
  have small : 2 * (n + 2).toNat < 2 ^ 32 := by omega
  rw [HSCStruct.setParams, BitVec.toInt_eq_toNat_of_lt small, sum]
  rfl

theorem samplesStore_samples (positive : 1 ≤ n.toNat) (fits : n.toNat + 2 ≤ 20) :
    structp.samplesStore n = .ok { structp with samples := n.toNat } := by
  have small : 2 * n.toNat < 2 ^ 32 := by omega
  rw [HSCStruct.samplesStore, BitVec.toInt_eq_toNat_of_lt small, if_neg (by omega)]

/-- After the command the average is always defined, after the store not for two
samples. -/
theorem readCommon_configured (positive : 1 ≤ n.toNat) (fits : n.toNat + 2 ≤ 20)
    {stored : HSCStruct} (accepted : structp.samplesStore n = .ok stored) :
    (readCommon (structp.setParams ⟨interval, n⟩)).isSome ∧
      ((readCommon stored).isSome ↔ n.toNat ≠ 2) := by
  rw [samplesStore_samples positive fits] at accepted
  obtain rfl := Except.ok.inj accepted
  rw [readCommon_isSome_iff, readCommon_isSome_iff, setParams_samples fits]
  constructor
  · omega
  · simp only
    omega

theorem not_sameMeaning (positive : 1 ≤ n.toNat) (fits : n.toNat + 2 ≤ 20)
    {row : Vector (BitVec 32) 4} (wired : pinRow structp.trigger = some row) :
    ¬ SameMeaning driver structp interval n := by
  intro same
  obtain ⟨trace, measurement, completed, sampleNum, distance⟩ :=
    @exists_completedRun driver (structp.setParams ⟨interval, n⟩) row wired
      (by rw [setParams_samples fits]; omega)
  obtain ⟨again, other, completedAgain, otherNum, otherDistance⟩ :=
    @exists_completedRun driver { structp with samples := n.toNat } row wired
      (Int.natCast_nonneg _)
  have sameDistance : measurement.structp.distance = other.structp.distance :=
    distance.trans otherDistance.symm
  have agree := (same _ (samplesStore_samples positive fits) trace measurement completed again
    other completedAgain sameDistance).1
  rw [sampleNum, otherNum, setParams_samples fits] at agree
  simp only at agree
  omega

end Configured

/-- The interfaces never mean the same number of samples: if the timer is off, after
the command every completed run takes two more than after the store. -/
theorem interfaces_never_agree {interval n : BitVec 32} (positive : 1 ≤ n.toNat)
    (fits : n.toNat + 2 ≤ 20) {row : Vector (BitVec 32) 4}
    (wired : pinRow structp.trigger = some row) :
    ¬ SameMeaning driver structp interval n ∧
      (structp.hrTimer ≠ .pending → ∀ stored, structp.samplesStore n = .ok stored →
        ∀ trace measurement,
          CompletedRun driver (structp.setParams ⟨interval, n⟩) trace measurement →
        ∀ again other, CompletedRun driver stored again other →
          measurement.structp.sampleNum = other.structp.sampleNum + 2) := by
  refine ⟨not_sameMeaning positive fits wired, ?_⟩
  intro off stored accepted trace measurement completed again other completedAgain
  rw [samplesStore_samples positive fits] at accepted
  obtain rfl := Except.ok.inj accepted
  have offFirst : (structp.setParams ⟨interval, n⟩).hrTimer ≠ .pending := off
  have offSecond : ({ structp with samples := n.toNat } : HSCStruct).hrTimer ≠ .pending := off
  have first := MeasurementRun.sampleNum_of_done offFirst completed.run completed.done
  have second :=
    MeasurementRun.sampleNum_of_done offSecond completedAgain.run completedAgain.done
  rw [setParams_samples fits] at first
  simp only at second
  omega

/-- One sample: the command stores three, the store one. -/
theorem interfaces_differ_for_one :
    ¬ SameMeaning (part2 1000) .zeroed 60 1 :=
  not_sameMeaning (by decide) (by decide) rfl

theorem interfaces_never_agree_four :
    ¬ SameMeaning (part2 1000) .zeroed 60 4 :=
  (interfaces_never_agree (by decide) (by decide) rfl).1

end Sensor

end KinuxKernel
