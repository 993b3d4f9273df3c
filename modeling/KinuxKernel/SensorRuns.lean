import Mathlib.Data.Fintype.Defs
import KinuxKernel.SensorAttributes

/-!
# Measurement runs of several callers

`sensor_write` and stores of 1 to `ENABLE` both call `write_common`, which does not
look whether the sensor is busy.  As long as a call begins only when no other
one is executed, each run is a measurement run of its own.
-/

namespace KinuxKernel

namespace Sensor

open TraceRun

/-- Calls of `write_common` by threads, their statements, and the timer. -/
inductive RunEvent (Thread : Type*) where
  | write (thread : Thread)
  | enable (thread : Thread)
  | poll (thread : Thread) (point : PollPoint) (now : Timeval)
  | expire

/-- A sensor, and the next statements of the threads that are in `write_common`. -/
structure Runs (Thread : Type*) where
  structp : HSCStruct
  point : Thread → Option PollPoint

variable {Thread : Type*} [DecidableEq Thread]

def stepRuns (runs : Runs Thread) : RunEvent Thread → Option (Runs Thread)
  | .write thread =>
      if runs.point thread = none then
        some { runs with point := Function.update runs.point thread (some .setFlags) }
      else none
  | .enable thread =>
      if runs.point thread = none then
        some ⟨{ runs.structp with enable := true },
          Function.update runs.point thread (some .setFlags)⟩
      else none
  | .poll thread point now =>
      if runs.point thread = some point then
        (execute now runs.structp point).map fun result =>
          ⟨result.1, Function.update runs.point thread
            (if result.2 = .done then none else some result.2)⟩
      else none
  | .expire =>
      if runs.structp.hrTimer = .pending then
        some { runs with structp := runs.structp.myHrtimerCallback }
      else none

/-- No thread is in `write_common`. -/
def Runs.start (structp : HSCStruct) : Runs Thread :=
  ⟨structp, fun _ => none⟩

/-- A thread that has executed a statement of `write_common`. -/
def Runs.Running (runs : Runs Thread) (thread : Thread) : Prop :=
  ∃ point, runs.point thread = some point ∧ point ≠ .setFlags

/-- The first statement of a call is executed when no other call has begun and not
ended. -/
def BeginsAlone (_ : List (RunEvent Thread)) (runs : Runs Thread) : RunEvent Thread → Prop
  | .poll _ .setFlags _ => ∀ other, ¬ runs.Running other
  | .poll _ _ _ | .write _ | .enable _ | .expire => True

instance (runs : Runs Thread) (thread : Thread) : Decidable (runs.Running thread) :=
  inferInstanceAs (Decidable (∃ point ∈ runs.point thread, point ≠ .setFlags))

instance [Fintype Thread] (trace : List (RunEvent Thread)) (runs : Runs Thread)
    (event : RunEvent Thread) : Decidable (BeginsAlone trace runs event) :=
  match event with
  | .poll _ point _ =>
      if first : point = .setFlags then
        decidable_of_iff (∀ other, ¬ runs.Running other) (by rw [first]; rfl)
      else isTrue (by cases point <;> trivial)
  | .write _ | .enable _ | .expire => inferInstanceAs (Decidable True)

/-- The events of the last call of a thread since its first statement. -/
def ownEvents (thread : Thread) : List (RunEvent Thread) → List MeasurementEvent
  | [] => []
  | .write _ :: trace | .enable _ :: trace => ownEvents thread trace
  | .poll other point now :: trace =>
      if other = thread then
        if point = .setFlags then [.poll point now]
        else .poll point now :: ownEvents thread trace
      else ownEvents thread trace
  | .expire :: trace => .expire :: ownEvents thread trace

/-- The timer is not initialised while it is pending, `sample_num` is not set back
while another call is executed, and each call counts its own expiries up to
the number of samples. -/
structure OneRun (structp : HSCStruct) (trace : List (RunEvent Thread)) : Prop where
  initTimer : ∀ thread now earlier runs, .poll thread .initTimer now :: earlier <:+ trace →
    replay stepRuns (.start structp) earlier = some runs → runs.structp.hrTimer ≠ .pending
  clearSampleNum : ∀ thread now earlier runs,
    .poll thread .clearSampleNum now :: earlier <:+ trace →
    replay stepRuns (.start structp) earlier = some runs →
    ∀ other, other ≠ thread → ¬ runs.Running other
  counts : ∀ thread point earlier runs, earlier <:+ trace →
    replay stepRuns (.start structp) earlier = some runs → runs.point thread = some point →
    point.counting = true →
    runs.structp.sampleNum = min (expiries (ownEvents thread earlier) : Int)
      (max structp.samples 0)
  completes : ∀ thread point now earlier runs after,
    .poll thread point now :: earlier <:+ trace →
    replay stepRuns (.start structp) earlier = some runs →
    stepRuns runs (.poll thread point now) = some after → after.point thread = none →
    after.structp.sampleNum = max structp.samples 0 ∧
      (expiries (ownEvents thread earlier) : Int) = max structp.samples 0 + 1

/-- What holds when all calls begin alone: at most one is running, and it is a
measurement run. -/
structure SerialInvariant (structp : HSCStruct) (trace : List (RunEvent Thread))
    (runs : Runs Thread) : Prop where
  samples : runs.structp.samples = structp.samples
  quiet : (∀ thread, ¬ runs.Running thread) → runs.structp.hrTimer ≠ .pending
  alone : ∀ thread other, runs.Running thread → runs.Running other → other = thread
  running : ∀ thread point, runs.point thread = some point → point ≠ .setFlags →
    ∃ first : HSCStruct, first.samples = structp.samples ∧
      RunInvariant first (ownEvents thread trace) ⟨runs.structp, point, false⟩ ∧
      ExpiryInvariant first (ownEvents thread trace) ⟨runs.structp, point, false⟩

section Runs

variable {structp : HSCStruct} {trace : List (RunEvent Thread)} {runs after : Runs Thread}
  {thread other : Thread} {event : RunEvent Thread}

theorem SerialInvariant.start (off : structp.hrTimer ≠ .pending) :
    SerialInvariant structp [] (.start structp : Runs Thread) where
  samples := rfl
  quiet _ := off
  alone _ _ := by
    rintro ⟨point, same, -⟩
    cases same
  running _ _ same := by cases same

/-- Whether a run counts does not depend on `enable`. -/
theorem RunInvariant.withEnable {first current : HSCStruct} {events : List MeasurementEvent}
    {point : PollPoint} (holds : RunInvariant first events ⟨current, point, false⟩)
    (enable : Bool) :
    RunInvariant { first with enable := enable } events
      ⟨{ current with enable := enable }, point, false⟩ where
  settings :=
    { holds.settings with enable := rfl }
  quiet := holds.quiet
  counted := holds.counted
  triggered := holds.triggered
  flagged := holds.flagged
  running := holds.running
  ended := holds.ended

/-- A thread that enters `write_common` is not running yet. -/
theorem SerialInvariant.enter (invariant : SerialInvariant structp trace runs)
    (outside : runs.point thread = none) (enable : Bool) {event : RunEvent Thread}
    (unseen : ∀ other, ownEvents other (event :: trace) = ownEvents other trace) :
    SerialInvariant structp (event :: trace)
      ⟨{ runs.structp with enable := enable },
        Function.update runs.point thread (some .setFlags)⟩ := by
  have same : ∀ other point, Function.update runs.point thread (some .setFlags) other = some point →
      point ≠ .setFlags → runs.point other = some point := by
    intro other point updated moved
    by_cases isThread : other = thread
    · subst isThread
      simp only [Function.update_self, Option.some.injEq] at updated
      exact (moved updated.symm).elim
    · rwa [Function.update_of_ne isThread] at updated
  have running : ∀ other, Runs.Running ⟨{ runs.structp with enable := enable },
      Function.update runs.point thread (some .setFlags)⟩ other ↔ runs.Running other := by
    intro other
    constructor
    · rintro ⟨point, updated, moved⟩
      exact ⟨point, same other point updated moved, moved⟩
    · rintro ⟨point, before, moved⟩
      have different : other ≠ thread := by
        rintro rfl
        simp [outside] at before
      exact ⟨point, (Function.update_of_ne different _ _).trans before, moved⟩
  constructor
  · exact invariant.samples
  · intro nobody
    exact invariant.quiet fun other isRunning => nobody other ((running other).mpr isRunning)
  · intro first second isRunning again
    exact invariant.alone first second ((running first).mp isRunning) ((running second).mp again)
  · intro other point updated moved
    obtain ⟨first, samples, holds, expiry⟩ :=
      invariant.running other point (same other point updated moved) moved
    rw [unseen]
    exact ⟨{ first with enable := enable }, samples, holds.withEnable enable, expiry⟩

/-- The events of a running call, and of one that begins alone, are those of a
measurement run. -/
theorem SerialInvariant.measurement (invariant : SerialInvariant structp trace runs)
    {point target : PollPoint} {now : Timeval} {result : HSCStruct}
    (begins : point = .setFlags → ∀ other, ¬ runs.Running other)
    (here : runs.point thread = some point)
    (executed : execute now runs.structp point = some (result, target)) :
    ∃ first : HSCStruct, first.samples = structp.samples ∧
      RunInvariant first (ownEvents thread (.poll thread point now :: trace))
        ⟨result, target, false⟩ ∧
      ExpiryInvariant first (ownEvents thread (.poll thread point now :: trace))
        ⟨result, target, false⟩ := by
  by_cases beginning : point = .setFlags
  · subst beginning
    have started : RunInvariant runs.structp [] ⟨runs.structp, .setFlags, false⟩ :=
      .start (invariant.quiet (begins rfl))
    have unstarted : ExpiryInvariant runs.structp [] ⟨runs.structp, .setFlags, false⟩ :=
      fun impossible => by cases impossible
    rw [ownEvents, if_pos rfl, if_pos rfl]
    exact ⟨runs.structp, invariant.samples, started.poll executed,
      unstarted.poll started executed⟩
  · obtain ⟨first, samples, holds, expiry⟩ := invariant.running thread point here beginning
    rw [ownEvents, if_pos rfl, if_neg beginning]
    exact ⟨first, samples, holds.poll executed, expiry.poll holds executed⟩

/-- A statement of the only thread that is running, or of one that begins alone. -/
theorem SerialInvariant.poll (invariant : SerialInvariant structp trace runs)
    {point target : PollPoint} {now : Timeval} {result : HSCStruct}
    (begins : point = .setFlags → ∀ other, ¬ runs.Running other)
    (here : runs.point thread = some point)
    (executed : execute now runs.structp point = some (result, target)) :
    SerialInvariant structp (.poll thread point now :: trace)
      ⟨result, Function.update runs.point thread
        (if target = .done then none else some target)⟩ := by
  have effect := executes_of_execute executed
  have others : ∀ other, other ≠ thread → ¬ runs.Running other := by
    intro other different
    by_cases beginning : point = .setFlags
    · exact begins beginning other
    · intro isRunning
      exact different (invariant.alone thread other ⟨point, here, beginning⟩ isRunning)
  obtain ⟨first, samples, holds, expiry⟩ := invariant.measurement begins here executed
  -- after the step the same thread is running, or none
  have updated : ∀ other next, Function.update runs.point thread
      (if target = .done then none else some target) other = some next → next ≠ .setFlags →
      other = thread ∧ target ≠ .done ∧ next = target := by
    intro other next isNext moved
    by_cases same : other = thread
    · subst same
      rw [Function.update_self] at isNext
      obtain ⟨running, isTarget⟩ := Option.ite_none_left_eq_some.mp isNext
      exact ⟨rfl, running, (Option.some.inj isTarget).symm⟩
    · rw [Function.update_of_ne same] at isNext
      exact (others other same ⟨next, isNext, moved⟩).elim
  constructor
  · exact effect.settings.samples.trans invariant.samples
  · intro nobody
    have ended : target = .done := by
      by_contra running
      refine nobody thread ⟨target, ?_, effect.advances⟩
      exact (Function.update_self ..).trans (if_neg running)
    subst ended
    have flag : result.flag1 = false := holds.ended rfl
    have off : result.hrTimer ≠ .pending := by
      rcases holds.running rfl with ⟨raised, -⟩ | ⟨-, idle⟩
      · exact absurd (flag.symm.trans raised) Bool.false_ne_true
      · exact fun pending => Timer.noConfusion (idle.symm.trans pending)
    exact off
  · rintro one another ⟨next, isNext, moved⟩ ⟨nextAgain, isNextAgain, movedAgain⟩
    rw [(updated one next isNext moved).1, (updated another nextAgain isNextAgain movedAgain).1]
  · intro other next isNext moved
    obtain ⟨rfl, -, rfl⟩ := updated other next isNext moved
    exact ⟨first, samples, holds, expiry⟩

/-- The timer expires only while a thread is running. -/
theorem SerialInvariant.expire (invariant : SerialInvariant structp trace runs)
    (pending : runs.structp.hrTimer = .pending) :
    SerialInvariant structp (.expire :: trace)
      { runs with structp := runs.structp.myHrtimerCallback } := by
  constructor
  · exact (SameSettings.callback runs.structp).samples.trans invariant.samples
  · intro nobody
    exact (invariant.quiet nobody pending).elim
  · exact invariant.alone
  · intro other point here moved
    obtain ⟨first, samples, holds, expiry⟩ := invariant.running other point here moved
    exact ⟨first, samples, holds.expire pending, expiry.expire holds pending⟩

theorem SerialInvariant.step (invariant : SerialInvariant structp trace runs)
    (begins : BeginsAlone trace runs event) (stepTo : stepRuns runs event = some after) :
    SerialInvariant structp (event :: trace) after := by
  cases event with
  | write thread =>
      obtain ⟨outside, same⟩ := Option.ite_none_right_eq_some.mp stepTo
      obtain rfl := Option.some.inj same
      exact invariant.enter outside runs.structp.enable fun _ => rfl
  | enable thread =>
      obtain ⟨outside, same⟩ := Option.ite_none_right_eq_some.mp stepTo
      obtain rfl := Option.some.inj same
      exact invariant.enter outside true fun _ => rfl
  | poll thread point now =>
      obtain ⟨here, stepTo⟩ := Option.ite_none_right_eq_some.mp stepTo
      obtain ⟨⟨result, target⟩, executed, rfl⟩ := Option.map_eq_some_iff.mp stepTo
      refine invariant.poll (fun beginning => ?_) here executed
      subst beginning
      exact begins
  | expire =>
      obtain ⟨pending, same⟩ := Option.ite_none_right_eq_some.mp stepTo
      obtain rfl := Option.some.inj same
      exact invariant.expire pending

theorem SerialInvariant.of_run (off : structp.hrTimer ≠ .pending)
    (run : Run stepRuns BeginsAlone (.start structp) trace runs) :
    SerialInvariant structp trace runs := by
  induction run with
  | start => exact .start off
  | next _ begins stepTo ih => exact ih.step begins stepTo

/-- A call that returns has taken all its samples. -/
theorem SerialInvariant.completes (invariant : SerialInvariant structp trace runs)
    {point : PollPoint} {now : Timeval}
    (stepTo : stepRuns runs (.poll thread point now) = some after)
    (returned : after.point thread = none) :
    after.structp.sampleNum = max structp.samples 0 ∧
      (expiries (ownEvents thread trace) : Int) = max structp.samples 0 + 1 := by
  obtain ⟨here, stepTo⟩ := Option.ite_none_right_eq_some.mp stepTo
  obtain ⟨⟨result, target⟩, executed, rfl⟩ := Option.map_eq_some_iff.mp stepTo
  have ended : target = .done := by
    by_contra running
    simp [running] at returned
  subst ended
  have notFirst : point ≠ .setFlags := by
    rintro rfl
    simp [execute] at executed
  obtain ⟨first, samples, holds, expiry⟩ :=
    invariant.measurement (fun beginning => (notFirst beginning).elim) here executed
  have flag : result.flag1 = false := holds.ended rfl
  have counted := holds.counted rfl
  have all := (expiry rfl).2.mp flag
  rw [ownEvents, if_pos rfl, if_neg notFirst, expiries_poll] at counted all
  rw [samples] at counted all
  simp only at counted
  refine ⟨?_, all⟩
  rw [counted, all]
  omega

/-- As long as no call of `sensor_write` or store to `ENABLE` begins its run while
another one is executed, in a sensor whose timer was off, there is one run at a
time, and each run counts its own samples up to the configured number. -/
theorem one_run_at_a_time (off : structp.hrTimer ≠ .pending)
    (run : Run stepRuns BeginsAlone (.start structp) trace runs) : OneRun structp trace := by
  constructor
  case initTimer =>
    intro thread now earlier before inside reached
    obtain ⟨earlierRun, -, after, stepTo⟩ := run.step_of_reached inside reached
    obtain ⟨here, -⟩ := Option.ite_none_right_eq_some.mp stepTo
    obtain ⟨first, -, holds, -⟩ :=
      (SerialInvariant.of_run off earlierRun).running thread .initTimer here (by simp)
    exact (holds.quiet rfl).1
  case clearSampleNum =>
    intro thread now earlier before inside reached other different isRunning
    obtain ⟨earlierRun, -, after, stepTo⟩ := run.step_of_reached inside reached
    obtain ⟨here, -⟩ := Option.ite_none_right_eq_some.mp stepTo
    exact different ((SerialInvariant.of_run off earlierRun).alone thread other
      ⟨.clearSampleNum, here, by simp⟩ isRunning)
  case counts =>
    intro thread point earlier before inside reached here counting
    have earlierRun := run.of_reached inside reached
    have moved : point ≠ .setFlags := by
      rintro rfl
      cases counting
    obtain ⟨first, samples, holds, -⟩ :=
      (SerialInvariant.of_run off earlierRun).running thread point here moved
    have counted := holds.counted counting
    rwa [samples] at counted
  case completes =>
    intro thread point now earlier before after inside reached stepTo returned
    obtain ⟨earlierRun, -⟩ := run.step_of_reached inside reached
    exact (SerialInvariant.of_run off earlierRun).completes stepTo returned

end Runs

/-- The statements of `write_common` before its loop. -/
def preparation {Thread : Type*} (thread : Thread) : List (RunEvent Thread) :=
  [.startTimer, .initTimer, .clearSampleNum, .clearTriggerop, .setFlags].map fun point =>
    .poll thread point HSCStruct.zeroed.ini

/-- A store of 1 to `ENABLE` while a write is in its loop initialises the pending timer. -/
theorem second_run_begins :
    (replay stepRuns (.start .zeroed)
      (preparation true ++ .enable true :: (preparation false ++ [.write false]))).isSome ∧
      ¬ OneRun .zeroed
        (preparation true ++ .enable true :: (preparation false ++ [.write false])) := by
  refine ⟨rfl, fun one => ?_⟩
  have off := one.initTimer true _ _ _ (List.suffix_cons _ _) rfl
  exact off rfl

/-- A call of `write_common` with five samples, from its first statement to its return. -/
def wholeCall {Thread : Type*} (thread : Thread) (now : Timeval) : List (RunEvent Thread) :=
  .poll thread .testFlag1 now :: List.replicate 6 .expire ++
    ([.clearFlag2, .lowerPin, .clearTriggeropAgain, .setTrig, .getIni, .raisePin, .setTriggerop,
      .testFlag2, .msleep, .testFlag1].map fun point => .poll thread point now) ++
    preparation thread

/-- A write, and after its return a store of 1 to `ENABLE` by another thread. -/
def oneAfterTheOther (now : Timeval) : List (RunEvent Bool) :=
  wholeCall true now ++ .enable true :: (wholeCall false now ++ [.write false])

theorem one_run_after_the_other :
    ∃ runs, Run stepRuns BeginsAlone (.start threeSamples) (oneAfterTheOther ⟨1, 0⟩) runs ∧
      (∀ thread, runs.point thread = none) ∧ OneRun threeSamples (oneAfterTheOther ⟨1, 0⟩) := by
  have checked : (checkedReplay stepRuns BeginsAlone (.start threeSamples)
      (oneAfterTheOther ⟨1, 0⟩)).map (fun runs => decide (∀ thread, runs.point thread = none)) =
      some true := by decide +kernel
  obtain ⟨runs, reached, returned⟩ := Option.map_eq_some_iff.mp checked
  have run := run_of_checkedReplay reached
  exact ⟨runs, run, of_decide_eq_true returned, one_run_at_a_time (by decide) run⟩

end Sensor

end KinuxKernel
