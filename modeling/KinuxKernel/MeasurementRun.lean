import KinuxKernel.SensorDevice
import KinuxKernel.TraceRun

/-!
# A measurement run

`write_common` statement by statement, interleaved with the timer callback and
the echo interrupt.  The number of samples is the number of expiries of the
timer, up to the configured number; so the interrupt writes inside the sample
arrays exactly when the timer has expired at least once and at most twenty
times with samples left to take.
-/

namespace KinuxKernel

namespace Sensor

open TraceRun

/-- The statement of `write_common` that is executed next. -/
inductive PollPoint where
  | setFlags
  | clearTriggerop
  | clearSampleNum
  | initTimer
  | startTimer
  | testFlag1
  | msleep
  | testFlag2
  | setTriggerop
  | raisePin
  | getIni
  | setTrig
  | clearTriggeropAgain
  | lowerPin
  | clearFlag2
  | done
deriving DecidableEq, Repr

namespace PollPoint

/-- After `sample_num = 0`. -/
def counting : PollPoint → Bool
  | .setFlags | .clearTriggerop | .clearSampleNum => false
  | _ => true

/-- After `timer_start`. -/
def started : PollPoint → Bool
  | .setFlags | .clearTriggerop | .clearSampleNum | .initTimer | .startTimer => false
  | _ => true

end PollPoint

/-- Execute a statement at the time `now`.  The pin of the trigger has to be in
the table. -/
def execute (now : Timeval) (structp : HSCStruct) : PollPoint → Option (HSCStruct × PollPoint)
  | .setFlags => some ({ structp with flag1 := true, flag2 := true }, .clearTriggerop)
  | .clearTriggerop => some ({ structp with triggerop := false }, .clearSampleNum)
  | .clearSampleNum => some ({ structp with sampleNum := 0 }, .initTimer)
  | .initTimer => some (structp.timerInitialize, .startTimer)
  | .startTimer => some (structp.timerStart, .testFlag1)
  | .testFlag1 => some (structp, if structp.flag1 then .msleep else .done)
  | .msleep => some (structp, .testFlag2)
  | .testFlag2 => some (structp, if structp.flag2 then .setTriggerop else .testFlag1)
  | .setTriggerop => some ({ structp with triggerop := true }, .raisePin)
  | .raisePin => (pinRow structp.trigger).map fun _ => (structp, .getIni)
  | .getIni => some ({ structp with ini := now }, .setTrig)
  | .setTrig =>
      some ({ structp with trig := BitVec.ofNat 32 structp.ini.usec }, .clearTriggeropAgain)
  | .clearTriggeropAgain => some ({ structp with triggerop := false }, .lowerPin)
  | .lowerPin => (pinRow structp.trigger).map fun _ => (structp, .clearFlag2)
  | .clearFlag2 => some ({ structp with flag2 := false }, .testFlag1)
  | .done => none

/-- A run of `write_common`; `stray` is set when the handler has written outside
the sample arrays, where nothing can be said any more. -/
structure Measurement where
  structp : HSCStruct
  point : PollPoint
  stray : Bool

inductive MeasurementEvent where
  | poll (point : PollPoint) (now : Timeval)
  | expire
  | echo (now : Timeval) (jiffies : BitVec 32)
deriving DecidableEq

def measure (driver : Driver) (measurement : Measurement) :
    MeasurementEvent → Option Measurement
  | .poll point now =>
      if measurement.stray = false ∧ measurement.point = point then
        (execute now measurement.structp point).map fun result =>
          { measurement with structp := result.1, point := result.2 }
      else none
  | .expire =>
      if measurement.stray = false ∧ measurement.structp.hrTimer = .pending then
        some { measurement with structp := measurement.structp.myHrtimerCallback }
      else none
  | .echo now jiffies =>
      if measurement.stray = false then
        match measurement.structp.sensorHandler driver now jiffies with
        | some after => some { measurement with structp := after }
        | none => some { measurement with stray := true }
      else none

/-- An echo comes after the first trigger of the run. -/
def afterTrigger (earlier : List MeasurementEvent) (_ : Measurement) :
    MeasurementEvent → Prop
  | .poll _ _ | .expire => True
  | .echo _ _ => ∃ now, .poll .raisePin now ∈ earlier

/-- `write_common` is called. -/
def Measurement.start (structp : HSCStruct) : Measurement :=
  ⟨structp, .setFlags, false⟩

abbrev MeasurementRun (driver : Driver) (structp : HSCStruct) :
    List MeasurementEvent → Measurement → Prop :=
  Run (measure driver) afterTrigger (.start structp)

def MeasurementEvent.isExpire : MeasurementEvent → Bool
  | .expire => true
  | .poll _ _ | .echo _ _ => false

/-- The number of timer callbacks. -/
def expiries (trace : List MeasurementEvent) : Nat :=
  trace.countP MeasurementEvent.isExpire

section Expiries

variable (trace : List MeasurementEvent)

@[simp]
theorem expiries_nil : expiries [] = 0 :=
  rfl

@[simp]
theorem expiries_poll (point : PollPoint) (now : Timeval) :
    expiries (.poll point now :: trace) = expiries trace :=
  List.countP_cons_of_neg (by simp [MeasurementEvent.isExpire])

@[simp]
theorem expiries_expire : expiries (.expire :: trace) = expiries trace + 1 :=
  List.countP_cons_of_pos rfl

@[simp]
theorem expiries_echo (now : Timeval) (jiffies : BitVec 32) :
    expiries (.echo now jiffies :: trace) = expiries trace :=
  List.countP_cons_of_neg (by simp [MeasurementEvent.isExpire])

end Expiries

/-- What an event of a run can do. -/
inductive Measures (driver : Driver) (structp : HSCStruct) (point : PollPoint) :
    MeasurementEvent → Measurement → Prop
  | poll {now : Timeval} {after : HSCStruct} {target : PollPoint} :
      execute now structp point = some (after, target) →
      Measures driver structp point (.poll point now) ⟨after, target, false⟩
  | expire : structp.hrTimer = .pending →
      Measures driver structp point .expire ⟨structp.myHrtimerCallback, point, false⟩
  | echo {now : Timeval} {jiffies : BitVec 32} {after : HSCStruct} :
      structp.sampleIndex.isSome → structp.sensorHandler driver now jiffies = some after →
      Measures driver structp point (.echo now jiffies) ⟨after, point, false⟩
  | stray {now : Timeval} {jiffies : BitVec 32} : structp.sampleIndex = none →
      Measures driver structp point (.echo now jiffies) ⟨structp, point, true⟩

variable {driver : Driver} {structp : HSCStruct} {trace : List MeasurementEvent}
  {measurement before after : Measurement} {event : MeasurementEvent}

theorem measures_of_step (stepTo : measure driver before event = some after) :
    before.stray = false ∧ Measures driver before.structp before.point event after := by
  obtain ⟨structp, point, stray⟩ := before
  cases event with
  | poll at_ now =>
      obtain ⟨⟨rfl, rfl⟩, mapped⟩ := Option.ite_none_right_eq_some.mp stepTo
      obtain ⟨⟨result, target⟩, executed, rfl⟩ := Option.map_eq_some_iff.mp mapped
      exact ⟨rfl, .poll executed⟩
  | expire =>
      obtain ⟨⟨rfl, pending⟩, same⟩ := Option.ite_none_right_eq_some.mp stepTo
      obtain rfl := Option.some.inj same
      exact ⟨rfl, .expire pending⟩
  | echo now jiffies =>
      obtain ⟨rfl, handled⟩ := Option.ite_none_right_eq_some.mp stepTo
      refine ⟨rfl, ?_⟩
      cases index : structp.sampleIndex with
      | none =>
          have missed : structp.sensorHandler driver now jiffies = none := by
            simp [HSCStruct.sensorHandler, index]
          simp only [missed, Option.some.injEq] at handled
          obtain rfl := handled
          exact .stray index
      | some place =>
          obtain ⟨result, written⟩ : ∃ result,
              structp.sensorHandler driver now jiffies = some result :=
            ⟨_, by rw [HSCStruct.sensorHandler, index]; rfl⟩
          simp only [written, Option.some.injEq] at handled
          obtain rfl := handled
          exact .echo (by simp [index]) written

/-- The fields that only configuration writes. -/
structure SameSettings (before after : HSCStruct) : Prop where
  samples : after.samples = before.samples
  interval : after.interval = before.interval
  trigger : after.trigger = before.trigger
  echo : after.echo = before.echo
  irqnum : after.irqnum = before.irqnum
  minorNum : after.minorNum = before.minorNum
  enable : after.enable = before.enable

theorem SameSettings.refl (structp : HSCStruct) : SameSettings structp structp :=
  ⟨rfl, rfl, rfl, rfl, rfl, rfl, rfl⟩

theorem SameSettings.trans {first second third : HSCStruct} (start : SameSettings first second)
    (rest : SameSettings second third) : SameSettings first third :=
  ⟨rest.samples.trans start.samples, rest.interval.trans start.interval,
    rest.trigger.trans start.trigger, rest.echo.trans start.echo,
    rest.irqnum.trans start.irqnum, rest.minorNum.trans start.minorNum,
    rest.enable.trans start.enable⟩

/-- What a statement of `write_common` does to the fields it shares with the
timer callback. -/
structure Executes (structp : HSCStruct) (point : PollPoint) (after : HSCStruct)
    (target : PollPoint) : Prop where
  settings : SameSettings structp after
  sampleNum : after.sampleNum = if point = .clearSampleNum then 0 else structp.sampleNum
  flag1 : after.flag1 = if point = .setFlags then true else structp.flag1
  hrTimer : after.hrTimer = if point = .initTimer then .idle
    else if point = .startTimer then .pending else structp.hrTimer
  counting : target.counting = (point.counting || point = .clearSampleNum)
  started : target.started = (point.started || point = .startTimer)
  advances : target ≠ .setFlags
  leaves : target = .done → structp.flag1 = false

theorem executes_of_execute {now : Timeval} {point target : PollPoint} {result : HSCStruct}
    (executed : execute now structp point = some (result, target)) :
    Executes structp point result target := by
  cases point with
  | done => simp [execute] at executed
  | raisePin | lowerPin =>
      obtain ⟨row, -, same⟩ := Option.map_eq_some_iff.mp executed
      obtain ⟨rfl, rfl⟩ := Prod.mk.inj same
      exact ⟨.refl _, rfl, rfl, rfl, rfl, rfl, by simp, by simp⟩
  | testFlag1 =>
      obtain ⟨rfl, rfl⟩ := Prod.mk.inj (Option.some.inj executed)
      cases flag : structp.flag1 <;>
        exact ⟨.refl _, rfl, rfl, rfl, rfl, rfl, by simp, by simp [flag]⟩
  | testFlag2 =>
      obtain ⟨rfl, rfl⟩ := Prod.mk.inj (Option.some.inj executed)
      cases structp.flag2 <;> exact ⟨.refl _, rfl, rfl, rfl, rfl, rfl, by simp, by simp⟩
  | _ =>
      obtain ⟨rfl, rfl⟩ := Prod.mk.inj (Option.some.inj executed)
      exact ⟨⟨rfl, rfl, rfl, rfl, rfl, rfl, rfl⟩, rfl, rfl, rfl, rfl, rfl, by simp, by simp⟩

theorem SameSettings.callback (structp : HSCStruct) :
    SameSettings structp structp.myHrtimerCallback := by
  unfold HSCStruct.myHrtimerCallback
  split_ifs <;> exact ⟨rfl, rfl, rfl, rfl, rfl, rfl, rfl⟩

/-- What holds throughout a run on a sensor whose timer was not pending. -/
structure RunInvariant (structp : HSCStruct) (trace : List MeasurementEvent)
    (measurement : Measurement) : Prop where
  settings : SameSettings structp measurement.structp
  quiet : measurement.point.started = false →
    measurement.structp.hrTimer ≠ .pending ∧ expiries trace = 0
  counted : measurement.point.counting = true →
    measurement.structp.sampleNum = min (expiries trace : Int) (max structp.samples 0)
  triggered : (∃ now, .poll .raisePin now ∈ trace) → measurement.point.started = true
  flagged : measurement.point ≠ .setFlags → measurement.point.started = false →
    measurement.structp.flag1 = true
  running : measurement.point.started = true →
    (measurement.structp.flag1 = true ∧ measurement.structp.hrTimer = .pending) ∨
      (measurement.structp.flag1 = false ∧ measurement.structp.hrTimer = .idle)
  ended : measurement.point = .done → measurement.structp.flag1 = false

theorem counting_of_started {point : PollPoint} (started : point.started = true) :
    point.counting = true := by
  cases point <;> simp_all [PollPoint.started, PollPoint.counting]

theorem RunInvariant.start (idle : structp.hrTimer ≠ .pending) :
    RunInvariant structp [] (.start structp) where
  settings := .refl _
  quiet := fun _ => ⟨idle, rfl⟩
  counted := by simp [Measurement.start, PollPoint.counting]
  triggered := by simp
  flagged := fun moved => (moved rfl).elim
  running := by simp [Measurement.start, PollPoint.started]
  ended := by simp [Measurement.start]

theorem RunInvariant.poll {current after : HSCStruct} {point target : PollPoint} {now : Timeval}
    (holds : RunInvariant structp trace ⟨current, point, false⟩)
    (executed : execute now current point = some (after, target)) :
    RunInvariant structp (.poll point now :: trace) ⟨after, target, false⟩ := by
  have effect := executes_of_execute executed
  constructor
  · exact holds.settings.trans effect.settings
  · intro notStarted
    have target_started := effect.started
    rw [notStarted] at target_started
    simp only [Bool.false_eq, Bool.or_eq_false_iff, decide_eq_false_iff_not] at target_started
    obtain ⟨quiet, none⟩ := holds.quiet target_started.1
    refine ⟨?_, by simpa using none⟩
    rw [effect.hrTimer, if_neg target_started.2]
    split_ifs
    · simp
    · exact quiet
  · intro counting
    rw [effect.sampleNum, expiries_poll]
    rw [effect.counting] at counting
    split_ifs with clearing
    · have early : point.started = false := by simp [clearing, PollPoint.started]
      rw [(holds.quiet early).2]
      simp
    · exact holds.counted (by simpa [clearing] using counting)
  · rintro ⟨time, member⟩
    have target_started := effect.started
    rcases List.mem_cons.mp member with same | earlier
    · obtain ⟨rfl, -⟩ := MeasurementEvent.poll.inj same
      simpa [PollPoint.started] using target_started
    · simpa [holds.triggered ⟨time, earlier⟩] using target_started
  · intro _ notStarted
    have target_started := effect.started
    rw [notStarted] at target_started
    simp only [Bool.false_eq, Bool.or_eq_false_iff] at target_started
    rw [effect.flag1]
    split_ifs with first
    · rfl
    · exact holds.flagged first target_started.1
  · intro started
    rw [effect.started] at started
    rw [effect.flag1, effect.hrTimer]
    by_cases starting : point = .startTimer
    · subst starting
      exact .inl ⟨holds.flagged (by simp) rfl, by simp⟩
    · have started : point.started = true := by simpa [starting] using started
      have notFirst : point ≠ .setFlags := by
        rintro rfl
        simp [PollPoint.started] at started
      have notInit : point ≠ .initTimer := by
        rintro rfl
        simp [PollPoint.started] at started
      rw [if_neg notFirst, if_neg notInit, if_neg starting]
      exact holds.running started
  · intro done
    rw [effect.flag1]
    split_ifs with first
    · subst first
      subst done
      simp [execute] at executed
    · exact effect.leaves done

theorem RunInvariant.expire {current : HSCStruct} {point : PollPoint}
    (holds : RunInvariant structp trace ⟨current, point, false⟩)
    (pending : current.hrTimer = .pending) :
    RunInvariant structp (.expire :: trace) ⟨current.myHrtimerCallback, point, false⟩ := by
  have started : point.started = true := by
    cases early : point.started with
    | true => rfl
    | false => exact ((holds.quiet early).1 pending).elim
  have counted := holds.counted (counting_of_started started)
  have samples := holds.settings.samples
  simp only at counted samples
  constructor
  · exact holds.settings.trans (.callback current)
  · intro notStarted
    simp [started] at notStarted
  · intro _
    rw [expiries_expire]
    simp only [HSCStruct.myHrtimerCallback]
    split_ifs with more
    · simp only
      omega
    · simp only
      omega
  · exact fun _ => started
  · intro _ notStarted
    simp [started] at notStarted
  · intro _
    simp only [HSCStruct.myHrtimerCallback]
    split_ifs
    · have flagged : current.flag1 = true := by
        rcases holds.running started with ⟨flagged, -⟩ | ⟨-, off⟩
        · exact flagged
        · simp [pending] at off
      exact .inl ⟨flagged, rfl⟩
    · exact .inr ⟨rfl, rfl⟩
  · intro done
    have off := holds.ended done
    simp only [HSCStruct.myHrtimerCallback]
    split_ifs
    · exact off
    · rfl

/-- An echo leaves alone what the loop and the timer go by, also when it strays. -/
theorem RunInvariant.echo {current after : HSCStruct} {point : PollPoint} {now : Timeval}
    {jiffies : BitVec 32} {stray : Bool}
    (holds : RunInvariant structp trace ⟨current, point, false⟩)
    (settings : SameSettings current after) (sampleNum : after.sampleNum = current.sampleNum)
    (flag1 : after.flag1 = current.flag1) (hrTimer : after.hrTimer = current.hrTimer) :
    RunInvariant structp (.echo now jiffies :: trace) ⟨after, point, stray⟩ := by
  constructor
  · exact holds.settings.trans settings
  · simpa [hrTimer] using holds.quiet
  · simpa [sampleNum] using holds.counted
  · simpa using holds.triggered
  · simpa [flag1] using holds.flagged
  · simpa [flag1, hrTimer] using holds.running
  · simpa [flag1] using holds.ended

theorem MeasurementRun.invariant (idle : structp.hrTimer ≠ .pending)
    (run : MeasurementRun driver structp trace measurement) :
    RunInvariant structp trace measurement := by
  induction run with
  | start => exact .start idle
  | @next trace before after event _ _ stepTo ih =>
      obtain ⟨current, point, stray⟩ := before
      obtain ⟨rfl, measures⟩ := measures_of_step stepTo
      cases measures with
      | poll executed => exact ih.poll executed
      | expire pending => exact ih.expire pending
      | echo _ handled =>
          obtain ⟨distance, timestamp, tdiff, rfl⟩ := HSCStruct.handler_spec handled
          exact ih.echo ⟨rfl, rfl, rfl, rfl, rfl, rfl, rfl⟩ rfl rfl rfl
      | stray => exact ih.echo (.refl _) rfl rfl rfl

/-- Once the timer is started, the loop goes on until the timer has expired once more
than there are samples. -/
def ExpiryInvariant (structp : HSCStruct) (trace : List MeasurementEvent)
    (measurement : Measurement) : Prop :=
  measurement.point.started = true →
    (expiries trace : Int) ≤ max structp.samples 0 + 1 ∧
      (measurement.structp.flag1 = false ↔ (expiries trace : Int) = max structp.samples 0 + 1)

theorem ExpiryInvariant.poll {current after : HSCStruct} {point target : PollPoint}
    {now : Timeval} (holds : ExpiryInvariant structp trace ⟨current, point, false⟩)
    (invariant : RunInvariant structp trace ⟨current, point, false⟩)
    (executed : execute now current point = some (after, target)) :
    ExpiryInvariant structp (.poll point now :: trace) ⟨after, target, false⟩ := by
  have effect := executes_of_execute executed
  intro started
  rw [effect.started] at started
  rw [expiries_poll]
  by_cases starting : point = .startTimer
  · subst starting
    obtain ⟨-, none⟩ := invariant.quiet rfl
    have flagged : after.flag1 = true := by
      rw [effect.flag1]
      exact invariant.flagged (by simp) rfl
    rw [none, flagged]
    simp only [Bool.true_eq_false, false_iff]
    omega
  · have startedBefore : point.started = true := by simpa [starting] using started
    have notFirst : point ≠ .setFlags := by
      rintro rfl
      simp [PollPoint.started] at startedBefore
    have sameFlag : after.flag1 = current.flag1 := by rw [effect.flag1, if_neg notFirst]
    rw [sameFlag]
    exact holds startedBefore

theorem ExpiryInvariant.expire {current : HSCStruct} {point : PollPoint}
    (holds : ExpiryInvariant structp trace ⟨current, point, false⟩)
    (invariant : RunInvariant structp trace ⟨current, point, false⟩)
    (pending : current.hrTimer = .pending) :
    ExpiryInvariant structp (.expire :: trace) ⟨current.myHrtimerCallback, point, false⟩ := by
  intro started
  have flagged : current.flag1 = true := by
    rcases invariant.running started with ⟨flagged, -⟩ | ⟨-, off⟩
    · exact flagged
    · simp [pending] at off
  obtain ⟨bound, flag⟩ := holds started
  have counted := invariant.counted (counting_of_started started)
  have samples := invariant.settings.samples
  simp only [flagged, Bool.true_eq_false, false_iff] at bound flag counted samples
  rw [expiries_expire]
  simp only [HSCStruct.myHrtimerCallback]
  split_ifs with more
  · simp only [flagged, Bool.true_eq_false, false_iff]
    omega
  · simp only [true_iff]
    omega

theorem MeasurementRun.expiryInvariant (idle : structp.hrTimer ≠ .pending)
    (run : MeasurementRun driver structp trace measurement) :
    ExpiryInvariant structp trace measurement := by
  induction run with
  | start => exact fun impossible => by cases impossible
  | @next trace before after event earlier _ stepTo ih =>
      have invariant := MeasurementRun.invariant idle earlier
      obtain ⟨current, point, stray⟩ := before
      obtain ⟨rfl, measures⟩ := measures_of_step stepTo
      cases measures with
      | poll executed => exact ih.poll invariant executed
      | expire pending => exact ih.expire invariant pending
      | echo _ handled =>
          obtain ⟨distance, timestamp, tdiff, rfl⟩ := HSCStruct.handler_spec handled
          intro started
          rw [expiries_echo]
          exact ih started
      | stray =>
          intro started
          rw [expiries_echo]
          exact ih started

/-- A run that returns has taken the configured number of samples. -/
theorem MeasurementRun.sampleNum_of_done (idle : structp.hrTimer ≠ .pending)
    (run : MeasurementRun driver structp trace measurement) (done : measurement.point = .done) :
    measurement.structp.sampleNum = max structp.samples 0 := by
  have invariant := MeasurementRun.invariant idle run
  have counted := invariant.counted (by rw [done]; rfl)
  have expired := (MeasurementRun.expiryInvariant idle run (by rw [done]; rfl)).2.mp
    (invariant.ended done)
  rw [counted, expired]
  omega

/-- Whenever `sensor_handler` runs, `sample_num - 1` is an index of the sample
arrays. -/
def IndicesValid (driver : Driver) (structp : HSCStruct) (trace : List MeasurementEvent) : Prop :=
  ∀ now jiffies earlier before, .echo now jiffies :: earlier <:+ trace →
    replay (measure driver) (.start structp) earlier = some before →
    before.structp.sampleIndex.isSome

/-- An echo after `earlier` comes when a sample has been started, and no more than
the arrays hold. -/
def Timely (samples : Int) (earlier : List MeasurementEvent) : Prop :=
  1 ≤ samples ∧ 1 ≤ expiries earlier ∧ (samples ≤ 20 ∨ expiries earlier ≤ 20)

instance (samples : Int) (earlier : List MeasurementEvent) : Decidable (Timely samples earlier) :=
  inferInstanceAs (Decidable (_ ∧ _))

def EchoesTimely (samples : Int) (trace : List MeasurementEvent) : Prop :=
  ∀ now jiffies earlier, .echo now jiffies :: earlier <:+ trace → Timely samples earlier

theorem MeasurementRun.index_iff (idle : structp.hrTimer ≠ .pending)
    (run : MeasurementRun driver structp trace measurement)
    (triggered : ∃ now, .poll .raisePin now ∈ trace) :
    measurement.structp.sampleIndex.isSome ↔ Timely structp.samples trace := by
  have holds := MeasurementRun.invariant idle run
  have counted := holds.counted (counting_of_started (holds.triggered triggered))
  rw [HSCStruct.sampleIndex_isSome, counted, Timely]
  omega

/-- In a run of either driver, with any number of samples, the echo interrupt
stays inside the sample arrays if and only if every echo is timely. -/
theorem indices_valid_iff (idle : structp.hrTimer ≠ .pending)
    (run : MeasurementRun driver structp trace measurement) :
    IndicesValid driver structp trace ↔ EchoesTimely structp.samples trace := by
  constructor
  · intro valid now jiffies earlier executed
    obtain ⟨before, after, earlierRun, triggered, -⟩ := run.of_executed executed
    have index := valid now jiffies earlier before executed earlierRun.replay_eq
    exact (MeasurementRun.index_iff idle earlierRun triggered).mp index
  · intro timely now jiffies earlier before executed reached
    obtain ⟨earlierRun, triggered, -⟩ := run.step_of_reached executed reached
    exact (MeasurementRun.index_iff idle earlierRun triggered).mpr
      (timely now jiffies earlier executed)

/-- From the call of `write_common` to its first trigger. -/
def firstTrigger (now : Timeval) : List MeasurementEvent :=
  [.poll .raisePin now, .poll .setTriggerop now, .poll .testFlag2 now, .poll .msleep now,
    .poll .testFlag1 now, .poll .startTimer now, .poll .initTimer now, .poll .clearSampleNum now,
    .poll .clearTriggerop now, .poll .setFlags now]

/-- Whatever the sensor is configured to, an echo of the first trigger may come
before the first expiry and is stored outside the arrays. -/
theorem early_echo (driver : Driver) (structp : HSCStruct) (idle : structp.hrTimer ≠ .pending)
    {row : Vector (BitVec 32) 4} (wired : pinRow structp.trigger = some row) (now : Timeval)
    (jiffies : BitVec 32) :
    ∃ measurement,
      MeasurementRun driver structp (.echo now jiffies :: firstTrigger now) measurement ∧
        ¬ IndicesValid driver structp (.echo now jiffies :: firstTrigger now) := by
  have replayed : ∃ measurement, replay (measure driver) (.start structp)
      (.echo now jiffies :: firstTrigger now) = some measurement := by
    simp [firstTrigger, replay, measure, execute, Measurement.start, HSCStruct.timerInitialize,
      HSCStruct.timerStart, HSCStruct.sensorHandler, HSCStruct.sampleIndex, wired]
  obtain ⟨measurement, replayed⟩ := replayed
  have run : MeasurementRun driver structp (.echo now jiffies :: firstTrigger now)
      measurement := by
    refine run_of_replay_of_allowed (fun event earlier _ inside => ?_) replayed
    cases event with
    | poll | expire => trivial
    | echo =>
        obtain ⟨-, rfl⟩ : _ ∧ earlier = firstTrigger now := by
          simpa [firstTrigger, executed_cons_iff] using inside
        exact ⟨now, by simp [firstTrigger]⟩
  refine ⟨measurement, run, fun valid => ?_⟩
  obtain ⟨before, after, earlierRun, triggered, -⟩ := run.of_executed (List.suffix_refl _)
  have index := valid now jiffies _ before (List.suffix_refl _) earlierRun.replay_eq
  have timely := (MeasurementRun.index_iff idle earlierRun triggered).mp index
  simp [Timely, firstTrigger] at timely

/-- A sensor with a trigger pin after `SET_PARAMS` with three samples. -/
def threeSamples : HSCStruct :=
  { HSCStruct.zeroed.setParams ⟨60, 3⟩ with trigger := 2 }

theorem early_echo_strays :
    ∃ measurement, MeasurementRun (part2 1000) threeSamples
        (.echo ⟨1, 0⟩ 7 :: firstTrigger ⟨1, 0⟩) measurement ∧
      ¬ IndicesValid (part2 1000) threeSamples (.echo ⟨1, 0⟩ 7 :: firstTrigger ⟨1, 0⟩) :=
  early_echo (part2 1000) threeSamples (by decide)
    (rfl : pinRow 2 = some #v[13, 34, 77, noGpio]) ⟨1, 0⟩ 7

theorem indices_valid_after_expiry :
    IndicesValid (part2 1000) threeSamples (.echo ⟨1, 5⟩ 7 :: .expire :: firstTrigger ⟨1, 0⟩) := by
  have replayed : (replay (measure (part2 1000)) (.start threeSamples)
      (.echo ⟨1, 5⟩ 7 :: .expire :: firstTrigger ⟨1, 0⟩)).isSome := by decide +kernel
  have only : ∀ {now jiffies earlier}, .echo now jiffies :: earlier <:+
      (.echo ⟨1, 5⟩ 7 :: .expire :: firstTrigger ⟨1, 0⟩ : List MeasurementEvent) →
      earlier = .expire :: firstTrigger ⟨1, 0⟩ := by
    intro now jiffies earlier inside
    have parts : (now = ⟨1, 5⟩ ∧ jiffies = 7) ∧ earlier = .expire :: firstTrigger ⟨1, 0⟩ := by
      simpa [firstTrigger, executed_cons_iff] using inside
    exact parts.2
  obtain ⟨measurement, replayed⟩ := Option.isSome_iff_exists.mp replayed
  have run : MeasurementRun (part2 1000) threeSamples
      (.echo ⟨1, 5⟩ 7 :: .expire :: firstTrigger ⟨1, 0⟩) measurement := by
    refine run_of_replay_of_allowed (fun event earlier _ inside => ?_) replayed
    cases event with
    | poll | expire => trivial
    | echo => exact ⟨⟨1, 0⟩, by simp [only inside, firstTrigger]⟩
  refine (indices_valid_iff (by decide) run).mpr fun now jiffies earlier inside => ?_
  rw [only inside]
  decide

end Sensor

end KinuxKernel
