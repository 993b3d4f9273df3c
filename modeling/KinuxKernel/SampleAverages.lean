import KinuxKernel.EchoDistances
import KinuxKernel.TrimmedMean

/-!
# Averages of samples

`read_common` leaves out the first and the last distance of a run, and adds up the
others in an `int`.  Its average is compared with the mean without outliers that it is
documented to return, and with the distances it is an average of.
-/

namespace KinuxKernel

namespace Sensor

open TrimmedMean

/-- `sensor_read` of `ultrasonic.c` has the statements of `read_common`. -/
def Ultrasonic.sensorRead (structp : HSCStruct) : Option Int :=
  readCommon structp

namespace HSCStruct

/-- The distances of a run, `distance[0]` up to `distance[samples - 1]`. -/
def recorded (structp : HSCStruct) : List Nat :=
  (structp.distance.toList.take structp.samples.toNat).map BitVec.toNat

/-- The distances that `read_common` adds up, `distance[1]` up to
`distance[samples - 2]`. -/
def averaged (structp : HSCStruct) : List Nat :=
  ((structp.distance.toList.drop 1).take (structp.samples - 2).toNat).map BitVec.toNat

/-- The first and the last distance together. -/
def skipped (structp : HSCStruct) : Nat :=
  structp.recorded.head?.getD 0 + structp.recorded.getLast?.getD 0

/-- What the division of the mean without outliers drops. -/
def remainder (structp : HSCStruct) : Nat :=
  (trimmed structp.recorded).sum % (trimmed structp.recorded).length

end HSCStruct

section Sums

variable {structp : HSCStruct}

/-- The sum wraps like the sum of all the numbers. -/
theorem sumDistances_eq (distance : Vector (BitVec 32) 20) {remaining i : Nat} (total : Nat)
    (inside : i + remaining ≤ 20) :
    sumDistances distance remaining i (BitVec.ofNat 32 total) = some (BitVec.ofNat 32
      (total + (((distance.toList.drop i).take remaining).map BitVec.toNat).sum)) := by
  induction remaining generalizing i total with
  | zero => simp [sumDistances]
  | succ remaining ih =>
      have small : i < distance.toList.length := by
        rw [Vector.length_toList]
        omega
      have here : distance[i]? = some distance.toList[i] := by
        rw [← Vector.getElem?_toList, List.getElem?_eq_getElem small]
      have added : BitVec.ofNat 32 total + distance.toList[i] =
          BitVec.ofNat 32 (total + distance.toList[i].toNat) := by
        rw [BitVec.ofNat_add, BitVec.ofNat_toNat, BitVec.setWidth_eq]
      rw [sumDistances, here, Option.bind_some, added, ih _ (by omega),
        List.drop_eq_getElem_cons small, List.take_succ_cons, List.map_cons, List.sum_cons,
        Nat.add_assoc]

@[simp]
theorem length_recorded (twenty : structp.samples ≤ 20) :
    structp.recorded.length = structp.samples.toNat := by
  simp [HSCStruct.recorded]
  omega

@[simp]
theorem length_averaged (twenty : structp.samples ≤ 20) :
    structp.averaged.length = (structp.samples - 2).toNat := by
  simp [HSCStruct.averaged]
  omega

/-- `read_common` leaves out the first and the last distance. -/
theorem averaged_eq (two : 2 ≤ structp.samples) (twenty : structp.samples ≤ 20) :
    structp.averaged = structp.recorded.tail.dropLast := by
  have whole : structp.distance.toList.length = 20 := Vector.length_toList
  rw [HSCStruct.averaged, HSCStruct.recorded, ← List.map_tail, ← List.map_dropLast,
    ← List.drop_one, List.drop_take, List.dropLast_eq_take, List.take_take]
  congr 2
  rw [List.length_take, List.length_drop, whole]
  omega

theorem skipped_add_averaged (two : 2 ≤ structp.samples) (twenty : structp.samples ≤ 20) :
    structp.skipped + structp.averaged.sum = structp.recorded.sum := by
  have enough : 2 ≤ structp.recorded.length := by
    rw [length_recorded twenty]
    omega
  have split := sum_tail_dropLast enough
  rw [← averaged_eq two twenty] at split
  rw [HSCStruct.skipped]
  omega

theorem readCommon_eq (three : 3 ≤ structp.samples) (twenty : structp.samples ≤ 20) :
    readCommon structp =
      some ((BitVec.ofNat 32 structp.averaged.sum).toInt.tdiv (structp.samples - 2)) := by
  have summed := sumDistances_eq structp.distance 0
    (by omega : 1 + (structp.samples - 2).toNat ≤ 20)
  rw [Nat.zero_add] at summed
  have zero : (0 : BitVec 32) = BitVec.ofNat 32 0 := rfl
  rw [readCommon, zero, summed, Option.bind_some, if_neg (by omega)]
  rfl

/-- As long as the sum fits in an `int`, `read_common` returns the mean of what it
adds up. -/
theorem readCommon_of_fits (three : 3 ≤ structp.samples) (twenty : structp.samples ≤ 20)
    (fits : structp.averaged.sum < 2 ^ 31) :
    readCommon structp =
      some ((structp.averaged.sum / structp.averaged.length : Nat) : Int) := by
  have value : (BitVec.ofNat 32 structp.averaged.sum).toNat = structp.averaged.sum := by
    rw [BitVec.toNat_ofNat]
    omega
  have divisor : structp.samples - 2 = (structp.averaged.length : Int) := by
    rw [length_averaged twenty]
    omega
  rw [readCommon_eq three twenty, BitVec.toInt_eq_toNat_of_lt (by omega), value, divisor]
  rfl

end Sums

section Outliers

variable {structp : HSCStruct} {smallest largest : Nat}

theorem length_trimmed_recorded (twenty : structp.samples ≤ 20) :
    (trimmed structp.recorded).length = structp.averaged.length := by
  rw [length_trimmed, length_recorded twenty, length_averaged twenty]
  omega

/-- What is left out instead of a smallest and a largest distance is added up instead of
it. -/
theorem averaged_sum_eq (two : 2 ≤ structp.samples) (twenty : structp.samples ≤ 20)
    (least : IsLeast {distance | distance ∈ structp.recorded} smallest)
    (greatest : IsGreatest {distance | distance ∈ structp.recorded} largest) :
    structp.skipped + structp.averaged.sum =
      smallest + ((trimmed structp.recorded).sum + largest) := by
  have enough : 2 ≤ structp.recorded.length := by
    rw [length_recorded twenty]
    omega
  rw [skipped_add_averaged two twenty, sum_trimmed enough least greatest]

/-- Distances recorded in ascending order are averaged as documented for every order
of them. -/
theorem readCommon_ascending {given : List Nat} (three : 3 ≤ structp.samples)
    (twenty : structp.samples ≤ 20) (fits : structp.averaged.sum < 2 ^ 31)
    (ascending : structp.recorded.Pairwise (· ≤ ·)) (same : given.Perm structp.recorded) :
    readCommon structp = some (trimmedMean given : Int) := by
  have kept : trimmed structp.recorded = structp.averaged := by
    rw [trimmed, ascending.insertionSort_eq, averaged_eq (by omega) twenty]
  rw [readCommon_of_fits three twenty fits, trimmedMean_congr same, trimmedMean, kept]

/-- With 3 to 20 samples whose sum fits in an `int`, either driver returns the mean
without outliers if and only if the first and the last distance differ from a smallest
and a largest one by no more than the division drops. -/
theorem reads_trimmed_mean_iff {read : HSCStruct → Option Int}
    (either : read = readCommon ∨ read = Ultrasonic.sensorRead) (three : 3 ≤ structp.samples)
    (twenty : structp.samples ≤ 20) (fits : structp.recorded.sum < 2 ^ 31)
    (least : IsLeast {distance | distance ∈ structp.recorded} smallest)
    (greatest : IsGreatest {distance | distance ∈ structp.recorded} largest) :
    read structp = some (trimmedMean structp.recorded : Int) ↔
      -(structp.remainder : Int) ≤ (smallest : Int) + largest - structp.skipped ∧
        (smallest : Int) + largest - structp.skipped <
          structp.samples - 2 - structp.remainder := by
  have same : read structp = readCommon structp := by
    rcases either with rfl | rfl <;> rfl
  have total := skipped_add_averaged (by omega : 2 ≤ structp.samples) twenty
  have exchanged := averaged_sum_eq (by omega) twenty least greatest
  have count : (structp.averaged.length : Int) = structp.samples - 2 := by
    rw [length_averaged twenty]
    omega
  have positive : 0 < structp.averaged.length := by omega
  rw [same, readCommon_of_fits three twenty (by omega), Option.some.injEq, Int.natCast_inj,
    trimmedMean, length_trimmed_recorded twenty, div_eq_div_iff_difference positive,
    HSCStruct.remainder, length_trimmed_recorded twenty]
  omega

/-- A sensor that has recorded three distances. -/
def threeDistances (first second third : BitVec 32) : HSCStruct :=
  { HSCStruct.zeroed with
    samples := 3
    distance := ((HSCStruct.zeroed.distance.set 0 first).set 1 second).set 2 third }

theorem reads_trimmed_mean_ascending :
    readCommon (threeDistances 20 30 400) =
      some (trimmedMean (threeDistances 20 30 400).recorded) := by
  have recorded : (threeDistances 20 30 400).recorded = [20, 30, 400] := rfl
  have least : IsLeast {distance | distance ∈ (threeDistances 20 30 400).recorded} 20 := by
    rw [recorded]
    simp [IsLeast, lowerBounds]
  have greatest : IsGreatest {distance | distance ∈ (threeDistances 20 30 400).recorded} 400 := by
    rw [recorded]
    simp [IsGreatest, upperBounds]
  exact (reads_trimmed_mean_iff (.inl rfl) (by decide) (by decide) (by decide) least
    greatest).mpr (by decide)

/-- The same distances in another order. -/
theorem reads_outlier :
    (threeDistances 20 400 30).recorded.Perm (threeDistances 20 30 400).recorded ∧
      readCommon (threeDistances 20 30 400) = some 30 ∧
      readCommon (threeDistances 20 400 30) = some 400 ∧
      trimmedMean (threeDistances 20 400 30).recorded = 30 := by
  decide +kernel

end Outliers

section Nearness

variable {hz : BitVec 32} {structp : HSCStruct} {trigger echo : Nat → Timeval}

/-- The recorded distances are those that the handler of part 2 stores for these
triggers and echoes, each echo in the second of its trigger. -/
structure MeasuredWithinSecond (hz : BitVec 32) (structp : HSCStruct)
    (trigger echo : Nat → Timeval) : Prop where
  second : ∀ k : Nat, k < structp.samples → (trigger k).sec = (echo k).sec
  later : ∀ k : Nat, k < structp.samples → (trigger k).usec ≤ (echo k).usec
  stored : ∀ k : Nat, k < structp.samples → structp.distance[k]? =
    some ((part2 hz).distance (BitVec.ofNat 32 (trigger k).usec) (echo k))

/-- A later echo is never stored with a smaller distance, and the average lies between
the smallest and the largest of its distances. -/
structure LaterMeansFarther (structp : HSCStruct) (trigger echo : Nat → Timeval) : Prop where
  monotone : ∀ i j : Nat, i < structp.samples → j < structp.samples →
    elapsed (trigger i) (echo i) ≤ elapsed (trigger j) (echo j) →
    ∀ near far, structp.distance[i]? = some near → structp.distance[j]? = some far → near ≤ far
  between : ∃ average, readCommon structp = some average ∧
    (∃ low ∈ structp.averaged, (low : Int) ≤ average) ∧
    ∃ high ∈ structp.averaged, average ≤ (high : Int)

/-- Less than 12 centimetres away, the constant is subtracted from less than itself. -/
theorem distance_within_second {trigger echo : Timeval} (second : trigger.sec = echo.sec)
    (later : trigger.usec ≤ echo.usec) :
    (706 ≤ elapsed trigger echo → (((part2 hz).distance (BitVec.ofNat 32 trigger.usec) echo).toNat :
        Int) = 170 * elapsed trigger echo / 10000 - 12) ∧
      (elapsed trigger echo < 706 →
        4294967284 ≤ ((part2 hz).distance (BitVec.ofNat 32 trigger.usec) echo).toNat) := by
  have bound := echo.usec.isLt
  have scaled := scaled_of_le later
  have order := Fin.le_def.mp later
  have offset : (part2 hz).offset.toNat = 12 := rfl
  have span : elapsed trigger echo = (echo.usec.val - trigger.usec.val : Nat) := by
    unfold elapsed
    omega
  constructor
  · intro far
    rw [Driver.distance_toNat (by omega), scaled, offset, span]
    omega
  · intro near
    have small : 170 * (echo.usec.val - trigger.usec.val) / 10000 ≤ 11 := by omega
    rw [Driver.distance, BitVec.toNat_sub, scaled, offset, Nat.mod_eq_of_lt (by omega)]
    omega

theorem mem_averaged {value : Nat} (member : value ∈ structp.averaged) :
    ∃ k : Nat, k < structp.samples ∧
      ∃ distance, structp.distance[k]? = some distance ∧ distance.toNat = value := by
  obtain ⟨distance, inside, rfl⟩ := List.mem_map.mp member
  obtain ⟨k, found⟩ := List.mem_iff_getElem?.mp inside
  have small : k < (structp.samples - 2).toNat := by
    by_contra large
    rw [List.getElem?_eq_none (by simp; omega)] at found
    cases found
  refine ⟨k + 1, by omega, distance, ?_, rfl⟩
  rw [List.getElem?_take_of_lt small, List.getElem?_drop, Vector.getElem?_toList,
    Nat.add_comm] at found
  exact found

theorem MeasuredWithinSecond.stored_far (measured : MeasuredWithinSecond hz structp trigger echo)
    {k : Nat} (inside : k < structp.samples) (far : 706 ≤ elapsed (trigger k) (echo k))
    {distance : BitVec 32} (found : structp.distance[k]? = some distance) :
    (distance.toNat : Int) = 170 * elapsed (trigger k) (echo k) / 10000 - 12 ∧
      distance.toNat ≤ 20000 := by
  obtain rfl := Option.some.inj ((measured.stored k inside).symm.trans found)
  have second := measured.second k inside
  have value := (@distance_within_second hz _ _ second (measured.later k inside)).1 far
  have bound := (echo k).usec.isLt
  have span : elapsed (trigger k) (echo k) < 1000000 := by
    rw [elapsed, second]
    omega
  exact ⟨value, by omega⟩

theorem MeasuredWithinSecond.stored_near (measured : MeasuredWithinSecond hz structp trigger echo)
    {k : Nat} (inside : k < structp.samples) (near : elapsed (trigger k) (echo k) < 706)
    {distance : BitVec 32} (found : structp.distance[k]? = some distance) :
    4294967284 ≤ distance.toNat := by
  obtain rfl := Option.some.inj ((measured.stored k inside).symm.trans found)
  exact (distance_within_second (measured.second k inside) (measured.later k inside)).2 near

theorem MeasuredWithinSecond.average_of_far
    (measured : MeasuredWithinSecond hz structp trigger echo) (three : 3 ≤ structp.samples)
    (twenty : structp.samples ≤ 20)
    (far : ∀ k : Nat, k < structp.samples → 706 ≤ elapsed (trigger k) (echo k)) :
    LaterMeansFarther structp trigger echo := by
  constructor
  · intro i j insideI insideJ order first second foundFirst foundSecond
    have firstValue := (measured.stored_far insideI (far i insideI) foundFirst).1
    have secondValue := (measured.stored_far insideJ (far j insideJ) foundSecond).1
    rw [BitVec.le_def]
    omega
  · have bounded : ∀ distance ∈ structp.averaged, distance ≤ 20000 := by
      intro distance member
      obtain ⟨k, inside, stored, found, rfl⟩ := mem_averaged member
      exact (measured.stored_far inside (far k inside) found).2
    have count := length_averaged twenty
    have total := List.sum_le_card_nsmul structp.averaged 20000 bounded
    rw [count, smul_eq_mul] at total
    have nonempty : structp.averaged ≠ [] := by
      apply List.ne_nil_of_length_pos
      omega
    refine ⟨_, readCommon_of_fits three twenty (by omega), ?_, ?_⟩
    · obtain ⟨low, member, below⟩ := exists_le_mean nonempty
      exact ⟨low, member, Int.ofNat_le.mpr below⟩
    · obtain ⟨high, member, above⟩ := exists_mean_le nonempty
      exact ⟨high, member, Int.ofNat_le.mpr above⟩

/-- A sum of numbers that are a little less than the size of an `int` is negative. -/
theorem toInt_sum_neg {values : List Nat} (few : values.length ≤ 18) (nonempty : values ≠ [])
    (large : ∀ value ∈ values, 4294967284 ≤ value) (small : ∀ value ∈ values, value ≤ 4294967295) :
    (BitVec.ofNat 32 values.sum).toInt < 0 := by
  have positive : 0 < values.length := List.length_pos_iff.mpr nonempty
  have below := List.card_nsmul_le_sum values 4294967284 large
  have above := List.sum_le_card_nsmul values 4294967295 small
  rw [smul_eq_mul] at below above
  have wrapped : values.sum = 4294967296 * (values.length - 1) +
      (4294967296 - (4294967296 * values.length - values.sum)) := by
    omega
  rw [BitVec.toInt_neg_iff, BitVec.toNat_ofNat, wrapped, Nat.mul_add_mod,
    Nat.mod_eq_of_lt (by omega)]
  omega

/-- When all objects are too near, the average is not positive. -/
theorem MeasuredWithinSecond.average_of_near
    (measured : MeasuredWithinSecond hz structp trigger echo) (three : 3 ≤ structp.samples)
    (twenty : structp.samples ≤ 20)
    (near : ∀ k : Nat, k < structp.samples → elapsed (trigger k) (echo k) < 706) :
    ¬ LaterMeansFarther structp trigger echo := by
  intro holds
  have large : ∀ distance ∈ structp.averaged, 4294967284 ≤ distance := by
    intro distance member
    obtain ⟨k, inside, stored, found, rfl⟩ := mem_averaged member
    exact measured.stored_near inside (near k inside) found
  have small : ∀ distance ∈ structp.averaged, distance ≤ 4294967295 := by
    intro distance member
    obtain ⟨k, inside, stored, found, rfl⟩ := mem_averaged member
    exact Nat.le_of_lt_succ stored.isLt
  have count := length_averaged twenty
  have nonempty : structp.averaged ≠ [] := by
    apply List.ne_nil_of_length_pos
    omega
  have negative := toInt_sum_neg (by omega) nonempty large small
  have down : (BitVec.ofNat 32 structp.averaged.sum).toInt.tdiv (structp.samples - 2) ≤ 0 := by
    have up := Int.tdiv_nonneg (a := -(BitVec.ofNat 32 structp.averaged.sum).toInt)
      (b := structp.samples - 2) (by omega) (by omega)
    rw [Int.neg_tdiv] at up
    omega
  obtain ⟨average, read, ⟨low, member, lower⟩, -⟩ := holds.between
  obtain rfl := Option.some.inj ((readCommon_eq three twenty).symm.trans read)
  have huge := large low member
  omega

/-- Measurements within a second, of 3 to 20 samples, keep their order and their average
if and only if no echo comes earlier than after 706 microseconds. -/
theorem later_means_farther_iff (measured : MeasuredWithinSecond hz structp trigger echo)
    (three : 3 ≤ structp.samples) (twenty : structp.samples ≤ 20) :
    LaterMeansFarther structp trigger echo ↔
      ∀ k : Nat, k < structp.samples → 706 ≤ elapsed (trigger k) (echo k) := by
  constructor
  · intro holds k insideK
    by_contra nearK
    by_cases allNear : ∀ j : Nat, j < structp.samples → elapsed (trigger j) (echo j) < 706
    · exact measured.average_of_near three twenty allNear holds
    · push Not at allNear
      obtain ⟨j, insideJ, farJ⟩ := allNear
      have order := holds.monotone k j insideK insideJ (by omega) _ _ (measured.stored k insideK)
        (measured.stored j insideJ)
      have large := measured.stored_near insideK (by omega) (measured.stored k insideK)
      have small := (measured.stored_far insideJ farJ (measured.stored j insideJ)).2
      rw [BitVec.le_def] at order
      omega
  · exact measured.average_of_far three twenty

/-- Echoes after one, three and two milliseconds. -/
theorem later_means_farther_beyond :
    LaterMeansFarther (threeDistances 5 39 22) (fun _ => ⟨1, 0⟩)
      (fun k => ⟨1, if k = 0 then 1000 else if k = 1 then 3000 else 2000⟩) := by
  have measured : MeasuredWithinSecond 1000 (threeDistances 5 39 22) (fun _ => ⟨1, 0⟩)
      (fun k => ⟨1, if k = 0 then 1000 else if k = 1 then 3000 else 2000⟩) := by
    refine ⟨fun _ _ => rfl, fun _ _ => Fin.zero_le _, fun k inside => ?_⟩
    have few : k < 3 := Int.ofNat_lt.mp inside
    interval_cases k <;> rfl
  refine (later_means_farther_iff measured (by decide) (by decide)).mpr fun k inside => ?_
  have few : k < 3 := Int.ofNat_lt.mp inside
  interval_cases k <;> decide

/-- The first echo comes after half a millisecond. -/
theorem near_object_stored_far :
    MeasuredWithinSecond 1000 (threeDistances 4294967292 5 5) (fun _ => ⟨1, 0⟩)
        (fun k => ⟨1, if k = 0 then 500 else 1000⟩) ∧
      ¬ LaterMeansFarther (threeDistances 4294967292 5 5) (fun _ => ⟨1, 0⟩)
        (fun k => ⟨1, if k = 0 then 500 else 1000⟩) := by
  constructor
  · refine ⟨fun _ _ => rfl, fun _ _ => Fin.zero_le _, fun k inside => ?_⟩
    have few : k < 3 := Int.ofNat_lt.mp inside
    interval_cases k <;> rfl
  · intro holds
    have order := holds.monotone 0 1 (by decide) (by decide) (by decide) 4294967292 5 rfl rfl
    revert order
    decide

end Nearness

section Configured

variable {structp : HSCStruct}

/-- The divisor of the average is positive, and its loop, from index 1 on, does not read
outside the array.  A number of samples for which `samples - 2` overflows makes the
difference negative here, so that it counts as undefined. -/
structure AveragingDefined (structp : HSCStruct) : Prop where
  divisor : 0 < structp.samples - 2
  inside : (sumDistances structp.distance (structp.samples - 2).toNat 1 0).isSome

theorem averagingDefined_iff :
    AveragingDefined structp ↔ 3 ≤ structp.samples ∧ structp.samples ≤ 21 := by
  have reads := sumDistances_isSome_iff structp.distance (structp.samples - 2).toNat 1 0
  constructor
  · intro defined
    have divisor := defined.divisor
    have inside := reads.mp defined.inside
    omega
  · intro bounds
    exact ⟨by omega, reads.mpr (by omega)⟩

/-- A number of samples is accepted by the command `SET_PARAMS` or by the attribute
`NUMBER_SAMPLES`; the average is defined exactly after 1 to 19 for the command, and
after 3 to 21 for the attribute. -/
theorem averaging_defined_configured (structp : HSCStruct) :
    (∀ c : Conf, AveragingDefined (structp.setParams c) ↔
      1 ≤ c.samples.toNat ∧ c.samples.toNat ≤ 19) ∧
    ∀ tmp stored, structp.samplesStore tmp = .ok stored →
      (AveragingDefined stored ↔ 3 ≤ tmp.toInt ∧ tmp.toInt ≤ 21) := by
  constructor
  · intro c
    have bound := c.samples.isLt
    have sum : (c.samples + 2).toNat = (c.samples.toNat + 2) % 2 ^ 32 := BitVec.toNat_add ..
    have stored : (structp.setParams c).samples =
        if 2 * (c.samples + 2).toNat < 2 ^ 32 then ((c.samples + 2).toNat : Int)
        else (c.samples + 2).toNat - (2 ^ 32 : Nat) := BitVec.toInt_eq_toNat_cond _
    rw [averagingDefined_iff, stored, sum]
    split_ifs <;> omega
  · intro tmp stored accepted
    rw [HSCStruct.samplesStore] at accepted
    split_ifs at accepted with small
    obtain rfl := Except.ok.inj accepted
    exact averagingDefined_iff

/-- Zero samples by the command, and two by the attribute, make the divisor zero. -/
theorem divisor_zero :
    ¬ AveragingDefined (HSCStruct.zeroed.setParams ⟨60, 0⟩) ∧
      ∃ stored, HSCStruct.zeroed.samplesStore 2 = .ok stored ∧ ¬ AveragingDefined stored := by
  constructor
  · rw [averagingDefined_iff]
    decide
  · refine ⟨_, rfl, ?_⟩
    rw [averagingDefined_iff]
    decide

end Configured

end Sensor

end KinuxKernel
