import KinuxKernel.EchoMemory
import KinuxKernel.SensorReading

/-!
# The timer of a measurement run

`my_hrtimer_callback` restarts the timer as long as there are samples to take, and
then stops the loop of `write_common`.  Loop, timer and interrupt take their steps
in any order; what the callback returns depends on the number of callbacks only,
unless an echo of a sample after the twentieth is stored over the timer itself.
-/

namespace KinuxKernel

namespace Sensor

open TraceRun

/-- A step of the driver, or what may follow once a store has left the words of
`end.tv_usec` and the arrays: `hr_timer` is behind them, and C says nothing about what
becomes of a timer whose fields are overwritten. -/
inductive MemoryEvent where
  | code (event : MeasurementEvent)
  | undefined (structp : HSCStruct) (point : PollPoint)

/-- A step of a run in which the echoes are stored wherever their index leads; `stray` is
set when this is undefined. -/
def measureMemory (driver : Driver) (measurement : Measurement) :
    MemoryEvent → Option Measurement
  | .code (.echo now jiffies) =>
      if measurement.stray = false then
        match measurement.structp.sensorHandlerStores driver now jiffies with
        | some after => some { measurement with structp := after }
        | none => some { measurement with stray := true }
      else none
  | .code event => measure driver measurement event
  | .undefined structp point =>
      if measurement.stray = true then some ⟨structp, point, true⟩ else none

def MemoryEvent.code? : MemoryEvent → Option MeasurementEvent
  | .code event => some event
  | .undefined _ _ => none

/-- The steps of the driver in a run. -/
def codes (trace : List MemoryEvent) : List MeasurementEvent :=
  trace.filterMap MemoryEvent.code?

/-- An echo comes after the first trigger of the run. -/
def echoAfterTrigger (earlier : List MemoryEvent) (measurement : Measurement) :
    MemoryEvent → Prop
  | .code event => afterTrigger (codes earlier) measurement event
  | .undefined _ _ => True

/-- An echo comes at any time, and finds a sample number that the arrays are for, or
zero. -/
def echoWithin (_ : List MemoryEvent) (measurement : Measurement) : MemoryEvent → Prop
  | .code (.echo _ _) => measurement.structp.Within
  | .code _ | .undefined _ _ => True

instance (earlier : List MemoryEvent) (measurement : Measurement) (event : MemoryEvent) :
    Decidable (echoWithin earlier measurement event) :=
  match event with
  | .code (.echo _ _) => inferInstanceAs (Decidable measurement.structp.Within)
  | .code (.poll _ _) | .code .expire | .undefined _ _ => inferInstanceAs (Decidable True)

/-- A run of `write_common` with its echoes in memory. -/
abbrev MemoryRun (driver : Driver) (structp : HSCStruct) :
    List MemoryEvent → Measurement → Prop :=
  Run (measureMemory driver) echoAfterTrigger (.start structp)

/-- A run whose echoes are stored inside the structure. -/
abbrev WithinRun (driver : Driver) (structp : HSCStruct) :
    List MemoryEvent → Measurement → Prop :=
  Run (measureMemory driver) echoWithin (.start structp)

/-- `my_hrtimer_callback` returns `HRTIMER_RESTART`. -/
def HSCStruct.restarts (structp : HSCStruct) : Bool :=
  structp.myHrtimerCallback.hrTimer = .pending

/-- The number of callbacks of a run that have returned `HRTIMER_RESTART`. -/
def restarts (driver : Driver) (structp : HSCStruct) : List MemoryEvent → Nat
  | [] => 0
  | .code .expire :: earlier =>
      restarts driver structp earlier +
        ((replay (measureMemory driver) (.start structp) earlier).elim false
          fun before => before.structp.restarts).toNat
  | .code (.poll _ _) :: earlier | .code (.echo _ _) :: earlier | .undefined _ _ :: earlier =>
      restarts driver structp earlier

/-- The counter counts restarts and stays between 0 and the number of samples, the
timer is restarted for each sample and then stopped, and only then the loop
is left. -/
structure TimerStops (driver : Driver) (structp : HSCStruct) (trace : List MemoryEvent) :
    Prop where
  counted : ∀ earlier before, earlier <:+ trace →
    replay (measureMemory driver) (.start structp) earlier = some before →
    before.point.counting = true →
    before.structp.sampleNum = restarts driver structp earlier ∧
      0 ≤ before.structp.sampleNum ∧ before.structp.sampleNum ≤ structp.samples
  restarted : ∀ earlier before after, .code .expire :: earlier <:+ trace →
    replay (measureMemory driver) (.start structp) earlier = some before →
    measureMemory driver before (.code .expire) = some after →
    (expiries (codes earlier) : Int) < structp.samples →
    before.structp.restarts = true ∧ after.structp.flag2 = true ∧
      after.structp.flag1 = before.structp.flag1
  stopped : ∀ earlier before after, .code .expire :: earlier <:+ trace →
    replay (measureMemory driver) (.start structp) earlier = some before →
    measureMemory driver before (.code .expire) = some after →
    structp.samples ≤ (expiries (codes earlier) : Int) →
    expiries (codes earlier) = structp.samples ∧ before.structp.restarts = false ∧
      after.structp.flag1 = false ∧ after.structp.flag2 = before.structp.flag2
  flag1 : ∀ earlier before, earlier <:+ trace →
    replay (measureMemory driver) (.start structp) earlier = some before →
    before.point ≠ .setFlags → before.structp.flag1 = false →
    (expiries (codes earlier) : Int) = structp.samples + 1
  leaves : ∀ earlier before, earlier <:+ trace →
    replay (measureMemory driver) (.start structp) earlier = some before → before.point = .done →
    (expiries (codes earlier) : Int) = structp.samples + 1

section Callback

variable {structp : HSCStruct}

theorem HSCStruct.callback_more (more : structp.sampleNum < structp.samples) :
    structp.myHrtimerCallback =
      { structp with sampleNum := structp.sampleNum + 1, flag2 := true, hrTimer := .pending } :=
  if_pos more

theorem HSCStruct.callback_last (last : structp.samples ≤ structp.sampleNum) :
    structp.myHrtimerCallback = { structp with flag1 := false, hrTimer := .idle } :=
  if_neg (not_lt_of_ge last)

@[simp]
theorem HSCStruct.restarts_eq :
    structp.restarts = decide (structp.sampleNum < structp.samples) := by
  by_cases more : structp.sampleNum < structp.samples
  · simp [restarts, callback_more more, more]
  · simp [restarts, callback_last (not_lt.mp more), more]

end Callback

section Invariants

variable {driver : Driver} {structp : HSCStruct} {events : List MeasurementEvent}
  {measurement before after : Measurement}

/-- When the timer expires, it has been started, and the counter has taken all
restarts. -/
theorem RunInvariant.counter_at_expiry (holds : RunInvariant structp events before)
    (stepTo : measure driver before .expire = some after) :
    before.point.started = true ∧
      before.structp.sampleNum = min (expiries events : Int) (max structp.samples 0) ∧
      before.structp.samples = structp.samples ∧
      after = { before with structp := before.structp.myHrtimerCallback } := by
  obtain ⟨⟨-, pending⟩, same⟩ := Option.ite_none_right_eq_some.mp stepTo
  have started : before.point.started = true := by
    cases early : before.point.started with
    | true => rfl
    | false => exact ((holds.quiet early).1 pending).elim
  obtain rfl := Option.some.inj same
  exact ⟨started, holds.counted (counting_of_started started), holds.settings.samples, rfl⟩

/-- Once the loop has set it, `flag1` is only cleared by the callback that stops the
timer. -/
theorem RunInvariant.expiries_of_flag1 (holds : RunInvariant structp events measurement)
    (expiry : ExpiryInvariant structp events measurement) (samples : 0 ≤ structp.samples)
    (moved : measurement.point ≠ .setFlags) (cleared : measurement.structp.flag1 = false) :
    (expiries events : Int) = structp.samples + 1 := by
  have started : measurement.point.started = true := by
    by_contra early
    have flagged := holds.flagged moved (by simpa using early)
    simp [cleared] at flagged
  have expired := (expiry started).2.mp cleared
  rwa [max_eq_left samples] at expired

theorem RunInvariant.expiries_of_done (holds : RunInvariant structp events measurement)
    (expiry : ExpiryInvariant structp events measurement) (samples : 0 ≤ structp.samples)
    (done : measurement.point = .done) : (expiries events : Int) = structp.samples + 1 := by
  apply holds.expiries_of_flag1 expiry samples
  · simp [done]
  · exact holds.ended done

theorem MeasurementRun.expiries_of_done (off : structp.hrTimer ≠ .pending)
    (samples : 0 ≤ structp.samples) (run : MeasurementRun driver structp events measurement)
    (done : measurement.point = .done) : (expiries events : Int) = structp.samples + 1 :=
  (MeasurementRun.invariant off run).expiries_of_done (MeasurementRun.expiryInvariant off run)
    samples done

end Invariants

section Runs

variable {driver : Driver} {structp : HSCStruct} {trace : List MemoryEvent}
  {measurement before after : Measurement}

@[simp]
theorem codes_code (event : MeasurementEvent) (trace : List MemoryEvent) :
    codes (.code event :: trace) = event :: codes trace :=
  rfl

@[simp]
theorem codes_map_code (events : List MeasurementEvent) :
    codes (events.map .code) = events := by
  rw [codes, List.filterMap_map]
  exact List.filterMap_some

/-- What holds throughout a run whose echoes are stored inside the structure. -/
structure WithinInvariant (structp : HSCStruct) (trace : List MemoryEvent)
    (measurement : Measurement) : Prop where
  sound : measurement.stray = false
  run : RunInvariant structp (codes trace) measurement
  expiry : ExpiryInvariant structp (codes trace) measurement

theorem WithinInvariant.echo {now : Timeval} {jiffies : BitVec 32}
    (holds : WithinInvariant structp trace before) (within : before.structp.Within)
    (stepTo : measureMemory driver before (.code (.echo now jiffies)) = some after) :
    WithinInvariant structp (.code (.echo now jiffies) :: trace) after := by
  obtain ⟨current, point, stray⟩ := before
  obtain rfl : stray = false := holds.sound
  obtain ⟨stored, handled, ⟨_, _, _, _, rfl⟩, -⟩ :=
    HSCStruct.Within.handler within driver now jiffies
  simp only [measureMemory, handled, if_true, Option.some.injEq] at stepTo
  obtain rfl := stepTo
  refine ⟨rfl, holds.run.echo ⟨rfl, rfl, rfl, rfl, rfl, rfl, rfl⟩ rfl rfl rfl, fun started => ?_⟩
  rw [codes_code, expiries_echo]
  exact holds.expiry started

theorem WithinRun.invariant (off : structp.hrTimer ≠ .pending)
    (run : WithinRun driver structp trace measurement) :
    WithinInvariant structp trace measurement := by
  induction run with
  | start => exact ⟨rfl, .start off, fun impossible => by cases impossible⟩
  | @next trace before after event _ within stepTo ih =>
      obtain ⟨current, point, stray⟩ := before
      obtain rfl : stray = false := ih.sound
      cases event with
      | undefined => simp [measureMemory] at stepTo
      | code event =>
          cases event with
          | echo now jiffies => exact ih.echo within stepTo
          | poll at_ now =>
              have polled : measure driver ⟨current, point, false⟩ (.poll at_ now) = some after :=
                stepTo
              cases (measures_of_step polled).2 with
              | poll executed =>
                  exact ⟨rfl, ih.run.poll executed, ih.expiry.poll ih.run executed⟩
          | expire =>
              have expired : measure driver ⟨current, point, false⟩ .expire = some after := stepTo
              cases (measures_of_step expired).2 with
              | expire pending =>
                  exact ⟨rfl, ih.run.expire pending, ih.expiry.expire ih.run pending⟩

theorem WithinRun.counter_at_expiry (off : structp.hrTimer ≠ .pending)
    (run : WithinRun driver structp trace before)
    (stepTo : measureMemory driver before (.code .expire) = some after) :
    before.point.started = true ∧
      before.structp.sampleNum = min (expiries (codes trace) : Int) (max structp.samples 0) ∧
      before.structp.samples = structp.samples ∧
      after = { before with structp := before.structp.myHrtimerCallback } := by
  have expired : measure driver before .expire = some after := stepTo
  exact (WithinRun.invariant off run).run.counter_at_expiry expired

/-- The timer is restarted once for each sample. -/
theorem WithinRun.restarts_eq (off : structp.hrTimer ≠ .pending)
    (run : WithinRun driver structp trace measurement) :
    (restarts driver structp trace : Int) =
      min (expiries (codes trace) : Int) (max structp.samples 0) := by
  induction run with
  | start => simp [restarts, codes]
  | @next trace before after event earlier _ stepTo ih =>
      cases event with
      | undefined => simp [measureMemory, (WithinRun.invariant off earlier).sound] at stepTo
      | code event =>
          cases event with
          | poll point now => simpa [restarts] using ih
          | echo now jiffies => simpa [restarts] using ih
          | expire =>
              obtain ⟨-, counter, samples, -⟩ := WithinRun.counter_at_expiry off earlier stepTo
              rw [restarts, Run.replay_eq earlier, codes_code, expiries_expire]
              simp only [Option.elim_some, HSCStruct.restarts_eq, counter, samples]
              by_cases more :
                  min (expiries (codes trace) : Int) (max structp.samples 0) < structp.samples
              · simp only [more, decide_true, Bool.toNat_true]
                omega
              · simp only [more, decide_false, Bool.toNat_false]
                omega

/-- In a run whose echoes stay inside the structure, the timer stops exactly when it
should. -/
theorem WithinRun.timerStops (off : structp.hrTimer ≠ .pending) (samples : 0 ≤ structp.samples)
    (run : WithinRun driver structp trace measurement) : TimerStops driver structp trace := by
  constructor
  case counted =>
    intro earlier before inside reached counting
    have earlierRun := run.of_reached inside reached
    have counter := (WithinRun.invariant off earlierRun).run.counted counting
    have restarted := WithinRun.restarts_eq off earlierRun
    rw [max_eq_left samples] at counter restarted
    omega
  case restarted =>
    intro earlier before after inside reached stepTo left
    have earlierRun := run.of_reached ((List.suffix_cons _ _).trans inside) reached
    obtain ⟨-, counter, same, afterCallback⟩ :=
      WithinRun.counter_at_expiry off earlierRun stepTo
    have more : before.structp.sampleNum < before.structp.samples := by
      rw [counter, same, max_eq_left samples]
      omega
    rw [afterCallback, HSCStruct.callback_more more]
    exact ⟨by simpa using more, rfl, rfl⟩
  case stopped =>
    intro earlier before after inside reached stepTo none
    have earlierRun := run.of_reached ((List.suffix_cons _ _).trans inside) reached
    obtain ⟨started, counter, same, afterCallback⟩ :=
      WithinRun.counter_at_expiry off earlierRun stepTo
    have last : before.structp.samples ≤ before.structp.sampleNum := by
      rw [counter, same, max_eq_left samples]
      omega
    have afterRun : WithinRun driver structp (.code .expire :: earlier) after :=
      .next earlierRun trivial stepTo
    have bound := ((WithinRun.invariant off afterRun).expiry (by simpa [afterCallback])).1
    rw [codes_code, expiries_expire] at bound
    rw [afterCallback, HSCStruct.callback_last last]
    exact ⟨by omega, by simpa using last, rfl, rfl⟩
  case flag1 =>
    intro earlier before inside reached
    have holds := WithinRun.invariant off (run.of_reached inside reached)
    exact holds.run.expiries_of_flag1 holds.expiry samples
  case leaves =>
    intro earlier before inside reached
    have holds := WithinRun.invariant off (run.of_reached inside reached)
    exact holds.run.expiries_of_done holds.expiry samples

/-- With a number of samples that the arrays are for, every echo after the first trigger
is stored inside the structure. -/
theorem MemoryRun.within (off : structp.hrTimer ≠ .pending) (few : structp.samples ≤ 20)
    (run : MemoryRun driver structp trace measurement) :
    WithinRun driver structp trace measurement := by
  induction run with
  | start => exact .start
  | @next trace before after event _ allowed stepTo ih =>
      refine .next ih ?_ stepTo
      cases event with
      | undefined => trivial
      | code event =>
          cases event with
          | poll | expire => trivial
          | echo now jiffies =>
              have holds := (WithinRun.invariant off ih).run
              have counted := holds.counted (counting_of_started (holds.triggered allowed))
              constructor <;> omega

/-- A run that stays inside the sample arrays is a run with its echoes in memory. -/
theorem MemoryRun.of_measurementRun {events : List MeasurementEvent}
    (run : MeasurementRun driver structp events measurement) (inside : measurement.stray = false) :
    MemoryRun driver structp (events.map .code) measurement := by
  induction run with
  | start => exact .start
  | @next events before after event _ allowed stepTo ih =>
      obtain ⟨sound, measures⟩ := measures_of_step stepTo
      have here : echoAfterTrigger (events.map .code) before (.code event) := by
        rw [echoAfterTrigger, codes_map_code]
        exact allowed
      refine .next (ih sound) here ?_
      cases event with
      | poll | expire => exact stepTo
      | echo now jiffies =>
          cases measures with
          | stray => simp at inside
          | echo _ handled => simp [measureMemory, sound, sensorHandlerStores_inside handled]

theorem sensorHandlerStores_beyond (beyond : 20 < structp.sampleNum) (now : Timeval)
    (jiffies : BitVec 32) : structp.sensorHandlerStores driver now jiffies = none := by
  have stamp := fun value : BitVec 32 => @storeWord_beyond { structp with endTime := now.words }
    value (20 + (structp.sampleNum - 1)) (by omega)
  simp [HSCStruct.sensorHandlerStores, EchoMemory.sensorHandler, EchoMemory.storeWord, stamp]

/-- As long as samples are left to take, the timer can expire at any statement of the
loop. -/
theorem MeasurementRun.expires {events : List MeasurementEvent} {current : HSCStruct}
    {point : PollPoint} {callbacks : Nat}
    (run : MeasurementRun driver structp events ⟨current, point, false⟩)
    (pending : current.hrTimer = .pending)
    (left : current.sampleNum + callbacks ≤ current.samples) :
    ∃ last, MeasurementRun driver structp (List.replicate callbacks .expire ++ events)
        ⟨last, point, false⟩ ∧ last.sampleNum = current.sampleNum + callbacks := by
  induction callbacks generalizing current events with
  | zero => exact ⟨current, run, by simp⟩
  | succ callbacks ih =>
      push_cast at left
      have expired : MeasurementRun driver structp (.expire :: events)
          ⟨current.myHrtimerCallback, point, false⟩ :=
        .next run trivial (if_pos ⟨rfl, pending⟩)
      rw [HSCStruct.callback_more (by omega)] at expired
      obtain ⟨last, rest, counter⟩ := ih expired rfl (by simp only; omega)
      refine ⟨last, ?_, by rw [counter]; push_cast; omega⟩
      rw [List.replicate_succ', List.append_assoc]
      exact rest

/-- With more samples, the echo of the twenty-first is stored over the timer. -/
theorem overwritten_timer (wired : ∃ row, pinRow structp.trigger = some row)
    (many : 20 < structp.samples) :
    ∃ trace measurement, MemoryRun driver structp trace measurement ∧
      ¬ TimerStops driver structp trace := by
  obtain ⟨row, wired⟩ := wired
  obtain ⟨current, run, -, pending, sampleNum, samples, -⟩ :=
    @firstPass_run driver structp row wired structp.ini
  obtain ⟨last, expired, counter⟩ :=
    @MeasurementRun.expires driver structp _ current .testFlag1 21 run pending (by omega)
  have inMemory := MemoryRun.of_measurementRun expired rfl
  have triggered : echoAfterTrigger
      ((List.replicate 21 MeasurementEvent.expire ++ firstPass structp.ini).map .code)
      ⟨last, .testFlag1, false⟩
      (.code (.echo structp.ini 0)) := by
    rw [echoAfterTrigger, codes_map_code]
    exact ⟨structp.ini, List.mem_append_right _ (by simp [firstPass, firstTrigger])⟩
  have missed := @sensorHandlerStores_beyond driver last (by omega) structp.ini 0
  have strays : measureMemory driver ⟨last, .testFlag1, false⟩ (.code (.echo structp.ini 0)) =
      some ⟨last, .testFlag1, true⟩ := by
    rw [measureMemory, if_pos rfl, missed]
  have after : measureMemory driver ⟨last, .testFlag1, true⟩ (.undefined last .done) =
      some ⟨last, .done, true⟩ := rfl
  have strayed : MemoryRun driver structp _ ⟨last, .testFlag1, true⟩ :=
    .next inMemory triggered strays
  have whole : MemoryRun driver structp (.undefined last .done :: _) ⟨last, .done, true⟩ :=
    .next strayed trivial after
  refine ⟨_, _, whole, fun stops => ?_⟩
  have left := stops.leaves _ _ (List.suffix_refl _) whole.replay_eq rfl
  have taken : expiries (firstPass structp.ini) = 0 := by simp [firstPass, firstTrigger]
  have all : expiries (List.replicate 21 MeasurementEvent.expire ++ firstPass structp.ini) =
      21 := by
    rw [expiries, List.countP_append, List.countP_replicate, ← expiries, taken]
    rfl
  have untouched : codes (.undefined last .done :: .code (.echo structp.ini 0) ::
      (List.replicate 21 MeasurementEvent.expire ++ firstPass structp.ini).map .code) =
      .echo structp.ini 0 :: (List.replicate 21 .expire ++ firstPass structp.ini) :=
    congrArg (List.cons _) (codes_map_code _)
  rw [untouched, expiries_echo, all] at left
  omega

/-- In every run whose echoes are stored inside the structure the timer stops exactly when
it should, for every number of samples; and with a pin that has a gpio it does so in all
runs if and only if this number is at most twenty. -/
theorem timer_stops (off : structp.hrTimer ≠ .pending) (samples : 0 ≤ structp.samples) :
    (∀ trace measurement, WithinRun driver structp trace measurement →
        TimerStops driver structp trace) ∧
      ((∃ row, pinRow structp.trigger = some row) →
        ((∀ trace measurement, MemoryRun driver structp trace measurement →
          TimerStops driver structp trace) ↔ structp.samples ≤ 20)) := by
  refine ⟨fun trace measurement run => run.timerStops off samples, fun wired =>
    ⟨fun all => ?_, fun few trace measurement run => (run.within off few).timerStops off samples⟩⟩
  by_contra many
  obtain ⟨trace, measurement, run, fails⟩ :=
    @overwritten_timer driver structp wired (not_le.mp many)
  exact fails (all trace measurement run)

end Runs

/-- A sensor with a trigger pin after `SET_PARAMS` with nineteen samples. -/
def twentyOneSamples : HSCStruct :=
  { HSCStruct.zeroed.setParams ⟨60, 19⟩ with trigger := 2 }

theorem timer_overwritten_after_twenty :
    ∃ trace measurement, MemoryRun (part2 1000) twentyOneSamples trace measurement ∧
      ¬ TimerStops (part2 1000) twentyOneSamples trace :=
  overwritten_timer ⟨#v[13, 34, 77, noGpio], rfl⟩ (by decide)

/-- Five samples, with an echo before the first expiry and one after it. -/
def fiveSamples (now : Timeval) : List MeasurementEvent :=
  .poll .testFlag1 now :: List.replicate 5 .expire ++
    [.echo now 8, .expire, .poll .clearFlag2 now, .poll .lowerPin now,
      .poll .clearTriggeropAgain now, .poll .setTrig now, .poll .getIni now, .echo now 7] ++
    firstTrigger now

theorem timer_stops_five :
    ∃ measurement, WithinRun (part2 1000) threeSamples ((fiveSamples ⟨1, 5⟩).map .code)
        measurement ∧
      measurement.point = .done ∧
        TimerStops (part2 1000) threeSamples ((fiveSamples ⟨1, 5⟩).map .code) := by
  have checked : ((checkedReplay (measureMemory (part2 1000)) echoWithin (.start threeSamples)
      ((fiveSamples ⟨1, 5⟩).map .code)).map Measurement.point) = some .done := by decide +kernel
  obtain ⟨measurement, reached, done⟩ := Option.map_eq_some_iff.mp checked
  have run := run_of_checkedReplay reached
  exact ⟨measurement, run, done,
    (timer_stops (by decide) (by decide)).1 _ _ run⟩

end Sensor

end KinuxKernel
