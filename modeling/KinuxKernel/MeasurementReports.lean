import KinuxKernel.AttributeShows
import KinuxKernel.SampleAverages
import KinuxKernel.TriggerFiling

/-!
# What a measurement reports

A completed run whose loop keeps up with the timer leaves the distances of its
echoes in the sample arrays, in the order of its triggers.  What the two ways to
read a sensor make of them is a function of the times alone: `read_common`
averages all but the first and the last, `DISTANCE` shows the third.
-/

namespace KinuxKernel

namespace Sensor

open TraceRun

/-- The distance that belongs to some microseconds, in the units of the driver. -/
def Driver.centimetres (driver : Driver) (span : Int) : Nat :=
  (170 * span / 10000).toNat - driver.offset.toNat

/-- The times that the echoes of a run have taken, oldest first. -/
def spans : List MeasurementEvent → List Int
  | [] => []
  | .poll _ _ :: earlier | .expire :: earlier => spans earlier
  | .echo now _ :: earlier =>
      spans earlier ++ ((triggerTime earlier).map fun trigger => elapsed trigger now).toList

/-- Every echo comes 1 to 60 milliseconds after the time that was read for its trigger, in
the same second. -/
def Audible (trace : List MeasurementEvent) : Prop :=
  ∀ now jiffies earlier, .echo now jiffies :: earlier <:+ trace →
    ∃ trigger, triggerTime earlier = some trigger ∧ trigger.sec = now.sec ∧
      1000 ≤ elapsed trigger now ∧ elapsed trigger now < 60000

section Reports

variable {driver : Driver} {structp : HSCStruct} {trace earlier : List MeasurementEvent}
  {measurement : Measurement} {trigger now : Timeval}

/-- In this range nothing wraps. -/
theorem distance_centimetres (bias : driver.offset.toNat ≤ 12) (same : trigger.sec = now.sec)
    (late : 1000 ≤ elapsed trigger now) :
    (driver.distance (BitVec.ofNat 32 trigger.usec) now).toNat =
      driver.centimetres (elapsed trigger now) := by
  have exact_ := distance_of_sameSecond late same bias
  rw [Driver.centimetres]
  omega

theorem length_spans (audible : Audible trace) : (spans trace).length = echoes trace := by
  induction trace with
  | nil => rfl
  | cons event trace ih =>
      have older := ih fun now jiffies past inside =>
        audible now jiffies past (inside.trans (List.suffix_cons ..))
      cases event with
      | poll point now => rw [spans, echoes_poll, older]
      | expire => rw [spans, echoes_expire, older]
      | echo now jiffies =>
          obtain ⟨trigger, fired, -⟩ := audible now jiffies trace (List.suffix_refl _)
          simp [spans, fired, older]

/-- The spans are those of audible echoes. -/
theorem forall_spans (audible : Audible trace) :
    ∀ span ∈ spans trace, 1000 ≤ span ∧ span < 60000 := by
  induction trace with
  | nil => simp [spans]
  | cons event trace ih =>
      have older := ih fun now jiffies past inside =>
        audible now jiffies past (inside.trans (List.suffix_cons ..))
      cases event with
      | poll | expire => exact older
      | echo now jiffies =>
          obtain ⟨trigger, fired, -, late, near⟩ := audible now jiffies trace (List.suffix_refl _)
          intro span member
          rcases List.mem_append.mp member with before | last
          · exact older span before
          · obtain rfl : span = elapsed trigger now := by simpa [fired] using last
            exact ⟨late, near⟩

/-- The slots up to the echoes of an earlier time hold the distances of these echoes. -/
theorem FilesEchoes.stored (files : FilesEchoes driver structp trace measurement)
    (bias : driver.offset.toNat ≤ 12) (run : MeasurementRun driver structp trace measurement)
    (audible : Audible trace) (inside : earlier <:+ trace) :
    (measurement.structp.distance.toList.take (echoes earlier)).map BitVec.toNat =
      (spans earlier).map driver.centimetres := by
  induction earlier with
  | nil => rfl
  | cons event earlier ih =>
      have older := ih ((List.suffix_cons ..).trans inside)
      cases event with
      | poll point now => rw [echoes_poll, older, spans]
      | expire => rw [echoes_expire, older, spans]
      | echo now jiffies =>
          obtain ⟨trigger, fired, same, late, -⟩ := audible now jiffies earlier inside
          obtain ⟨before, after, past, -, -⟩ := run.of_executed inside
          obtain ⟨-, slot⟩ := files.filed now jiffies earlier before inside past.replay_eq
          rw [(MeasurementRun.times past).2 trigger fired] at slot
          have listed : measurement.structp.distance.toList[echoes earlier]? =
              some (driver.distance (BitVec.ofNat 32 trigger.usec) now) := by
            rw [Vector.getElem?_toList, slot]
          rw [echoes_echo, List.take_add_one, listed, List.map_append, older, spans,
            List.map_append, fired]
          simp [distance_centimetres bias same late]

/-- A completed run that keeps up with the timer leaves the distances of its echoes. -/
theorem FilesEchoes.recorded (files : FilesEchoes driver structp trace measurement)
    (bias : driver.offset.toNat ≤ 12) (off : structp.hrTimer ≠ .pending)
    (run : MeasurementRun driver structp trace measurement) (audible : Audible trace) :
    measurement.structp.recorded = (spans trace).map driver.centimetres := by
  have stored := files.stored bias run audible (List.suffix_refl _)
  have samples := (MeasurementRun.invariant off run).settings.samples
  have answered := files.answered
  have count : measurement.structp.samples.toNat = echoes trace := by omega
  rw [HSCStruct.recorded, count, stored]

/-- The distances of audible echoes are small. -/
theorem sum_centimetres_lt {kept : List Int} (few : kept.length ≤ 20)
    (near : ∀ span ∈ kept, 1000 ≤ span ∧ span < 60000) :
    (kept.map driver.centimetres).sum < 2 ^ 31 := by
  have each : ∀ distance ∈ kept.map driver.centimetres, distance ≤ 1020 := by
    intro distance member
    obtain ⟨span, inside, rfl⟩ := List.mem_map.mp member
    have bounds := near span inside
    rw [Driver.centimetres]
    omega
  have total := List.sum_le_card_nsmul _ 1020 each
  rw [List.length_map, smul_eq_mul] at total
  omega

/-- A run of `write_common` with 3 to 20 samples that keeps up with the timer, fires no
trigger before the first callback and hears every echo in time: what is read from
the sensor depends on the times of its echoes only.  `read_common` is the mean of
the distances between the first and the last, `DISTANCE` shows the third. -/
theorem measurement_reports (bias : driver.offset.toNat ≤ 12) (off : structp.hrTimer ≠ .pending)
    (three : 3 ≤ structp.samples) (twenty : structp.samples ≤ 20)
    (run : MeasurementRun driver structp trace measurement) (paced : Paced driver structp trace)
    (first : TimerFirst trace) (done : measurement.point = .done) (audible : Audible trace) :
    ((spans trace).length : Int) = structp.samples ∧
    measurement.structp.recorded = (spans trace).map driver.centimetres ∧
    readCommon measurement.structp =
      some ((((spans trace).tail.dropLast.map driver.centimetres).sum /
        (spans trace).tail.dropLast.length : Nat) : Int) ∧
    ∀ span, (spans trace)[2]? = some span →
      measurement.structp.distanceShow =
        sprintf "distance:".toList (driver.centimetres span : Nat) := by
  have files := (files_echoes_iff off (by omega) twenty run paced (.inl done)).mpr first
  have recorded := files.recorded bias off run audible
  have samples := (MeasurementRun.invariant off run).settings.samples
  have length : ((spans trace).length : Int) = structp.samples := by
    rw [length_spans audible, files.answered]
  have averaged : measurement.structp.averaged =
      (spans trace).tail.dropLast.map driver.centimetres := by
    rw [averaged_eq (by omega) (by omega), recorded, List.map_dropLast, List.map_tail]
  refine ⟨length, recorded, ?_, fun span third => ?_⟩
  · have fits : measurement.structp.averaged.sum < 2 ^ 31 := by
      rw [averaged]
      apply sum_centimetres_lt
      · simp
        omega
      · intro span member
        exact forall_spans audible span (List.mem_of_mem_tail (List.mem_of_mem_dropLast member))
    rw [readCommon_of_fits (by omega) (by omega) fits, averaged, List.length_map]
  · have slot : measurement.structp.recorded[2]? = some (driver.centimetres span) := by
      rw [recorded, List.getElem?_map, third]
      rfl
    have inside : 2 < measurement.structp.samples.toNat := by omega
    have value : (measurement.structp.distance.get ⟨2, third_sample⟩).toNat =
        driver.centimetres span := by
      change measurement.structp.distance[2].toNat = driver.centimetres span
      rw [HSCStruct.recorded, List.getElem?_map, List.getElem?_take_of_lt inside,
        Vector.getElem?_toList] at slot
      simpa using slot
    have small : 2 * driver.centimetres span < 2 ^ 32 := by
      have bounds := forall_spans audible span (List.mem_of_getElem? third)
      rw [Driver.centimetres]
      omega
    rw [HSCStruct.distanceShow, BitVec.toInt_eq_toNat_of_lt (by rwa [value]), value]

end Reports

/-- A pass through the loop whose echo is heard at `answer`. -/
def heardPass (now answer : Timeval) : List MeasurementEvent :=
  .echo answer 7 :: (answeredPass now).tail

/-- A time within a second. -/
def instant (usec : Nat) : Timeval :=
  ⟨1, usec % 1000000, Nat.mod_lt usec (by decide)⟩

/-- A run with three samples, whose echoes take 1.5, 2 and 3 milliseconds. -/
def threePasses : List MeasurementEvent :=
  [.poll .testFlag1 (instant 200000), .expire] ++ heardPass (instant 140000) (instant 143000) ++
    [.expire] ++ heardPass (instant 80000) (instant 82000) ++
    [.expire] ++ heardPass (instant 20000) (instant 21500) ++
    [.expire, .poll .startTimer (instant 0), .poll .initTimer (instant 0),
      .poll .clearSampleNum (instant 0), .poll .clearTriggerop (instant 0),
      .poll .setFlags (instant 0)]

theorem threePasses_callbacks {earlier : List MeasurementEvent}
    (inside : .expire :: earlier <:+ threePasses) :
    earlier = threePasses.drop 2 ∨ earlier = threePasses.drop 14 ∨
      earlier = threePasses.drop 26 ∨ earlier = threePasses.drop 38 := by
  simpa [threePasses, heardPass, answeredPass, executed_cons_iff] using inside

theorem threePasses_echoes {now : Timeval} {jiffies : BitVec 32}
    {earlier : List MeasurementEvent} (inside : .echo now jiffies :: earlier <:+ threePasses) :
    (now = instant 143000 ∧ earlier = threePasses.drop 3) ∨
      (now = instant 82000 ∧ earlier = threePasses.drop 15) ∨
      (now = instant 21500 ∧ earlier = threePasses.drop 27) := by
  have places : (now = instant 143000 ∧ jiffies = 7) ∧ earlier = threePasses.drop 3 ∨
      (now = instant 82000 ∧ jiffies = 7) ∧ earlier = threePasses.drop 15 ∨
      (now = instant 21500 ∧ jiffies = 7) ∧ earlier = threePasses.drop 27 := by
    simpa [threePasses, heardPass, answeredPass, executed_cons_iff] using inside
  tauto

/-- A sensor that takes three samples. -/
def threeStored : HSCStruct :=
  { HSCStruct.zeroed with samples := 3, trigger := 2 }

theorem threePasses_paced : Paced (part2 1000) threeStored threePasses := by
  constructor
  · intro earlier inside
    rcases threePasses_callbacks inside with rfl | rfl | rfl | rfl
    · exact .inr ⟨instant 140000, threePasses.drop 11, _, _,
        List.drop_suffix 8 (threePasses.drop 2), List.suffix_refl _, rfl, rfl, rfl⟩
    · exact .inr ⟨instant 80000, threePasses.drop 23, _, _,
        List.drop_suffix 8 (threePasses.drop 14), List.suffix_refl _, rfl, rfl, rfl⟩
    · exact .inr ⟨instant 20000, threePasses.drop 35, _, _,
        List.drop_suffix 8 (threePasses.drop 26), List.suffix_refl _, rfl, rfl, rfl⟩
    · exact .inl rfl
  · intro earlier inside
    rcases threePasses_callbacks inside with rfl | rfl | rfl | rfl <;> rfl
  · intro now jiffies earlier inside
    rcases threePasses_echoes inside with ⟨-, rfl⟩ | ⟨-, rfl⟩ | ⟨-, rfl⟩ <;> decide

/-- Three echoes: the distances are 13, 22 and 39, their middle is the average, and
`DISTANCE` shows the last. -/
theorem measurement_reports_three :
    ∃ measurement, MeasurementRun (part2 1000) threeStored threePasses measurement ∧
      readCommon measurement.structp = some 22 ∧
      measurement.structp.distanceShow = "distance:39\n".toList := by
  obtain ⟨measurement, replayed, done⟩ : ∃ measurement, replay (measure (part2 1000))
      (.start threeStored) threePasses = some measurement ∧ measurement.point = .done :=
    ⟨_, rfl, rfl⟩
  have run : MeasurementRun (part2 1000) threeStored threePasses measurement := by
    refine run_of_replay_of_allowed (fun event earlier _ inside => ?_) replayed
    cases event with
    | poll | expire => trivial
    | echo now jiffies =>
        rcases threePasses_echoes inside with ⟨-, rfl⟩ | ⟨-, rfl⟩ | ⟨-, rfl⟩
        · exact ⟨instant 140000, by decide⟩
        · exact ⟨instant 80000, by decide⟩
        · exact ⟨instant 20000, by decide⟩
  have first : TimerFirst threePasses := by
    intro now earlier inside
    have places : now = instant 140000 ∧ earlier = threePasses.drop 9 ∨
        now = instant 80000 ∧ earlier = threePasses.drop 21 ∨
        now = instant 20000 ∧ earlier = threePasses.drop 33 := by
      simpa [threePasses, heardPass, answeredPass, executed_cons_iff] using inside
    rcases places with ⟨-, rfl⟩ | ⟨-, rfl⟩ | ⟨-, rfl⟩ <;> decide
  have audible : Audible threePasses := by
    intro now jiffies earlier inside
    rcases threePasses_echoes inside with ⟨rfl, rfl⟩ | ⟨rfl, rfl⟩ | ⟨rfl, rfl⟩
    · exact ⟨instant 140000, rfl, rfl, by decide, by decide⟩
    · exact ⟨instant 80000, rfl, rfl, by decide, by decide⟩
    · exact ⟨instant 20000, rfl, rfl, by decide, by decide⟩
  obtain ⟨-, -, average, shown⟩ := measurement_reports (by decide) (by decide) (by decide)
    (by decide) run threePasses_paced first done audible
  exact ⟨measurement, run, average, shown 3000 rfl⟩

end Sensor

end KinuxKernel
