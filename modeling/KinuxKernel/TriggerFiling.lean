import KinuxKernel.TimerExpiries
import KinuxKernel.EchoDistances

/-!
# Triggers and their echoes

The interrupt stores an echo in the slot that the timer callback has counted up to.
A run whose loop keeps up with the timer fires one trigger for each callback, so
each echo is stored in the slot of its trigger, unless the loop has already fired
one before the first callback.
-/

namespace KinuxKernel

namespace Sensor

open TraceRun

def MeasurementEvent.isRaise : MeasurementEvent → Bool
  | .poll point _ => point = .raisePin
  | .expire | .echo _ _ => false

def MeasurementEvent.isEcho : MeasurementEvent → Bool
  | .echo _ _ => true
  | .poll _ _ | .expire => false

/-- The number of triggers. -/
def raises (trace : List MeasurementEvent) : Nat :=
  trace.countP MeasurementEvent.isRaise

/-- The number of echoes. -/
def echoes (trace : List MeasurementEvent) : Nat :=
  trace.countP MeasurementEvent.isEcho

/-- Since the last callback, the loop has tested `flag2` and finished the iteration. -/
def Iterated (driver : Driver) (structp : HSCStruct) (trace : List MeasurementEvent) : Prop :=
  ∃ now earlier later finished, .poll .testFlag2 now :: earlier <:+ later ∧ later <:+ trace ∧
    expiries earlier = expiries trace ∧
    replay (measure driver) (.start structp) later = some finished ∧
    finished.point = .testFlag1

/-- The loop iterates at least once between two callbacks, and each trigger is answered
by one echo before the next callback. -/
structure Paced (driver : Driver) (structp : HSCStruct) (trace : List MeasurementEvent) :
    Prop where
  iterates : ∀ earlier, .expire :: earlier <:+ trace →
    expiries earlier = 0 ∨ Iterated driver structp earlier
  answered : ∀ earlier, .expire :: earlier <:+ trace → echoes earlier = raises earlier
  answers : ∀ now jiffies earlier, .echo now jiffies :: earlier <:+ trace →
    echoes earlier < raises earlier

/-- The run has fired one trigger for each sample, the echo of each of them is stored
in its slot, and the other slots are as before. -/
structure FilesEchoes (driver : Driver) (structp : HSCStruct) (trace : List MeasurementEvent)
    (measurement : Measurement) : Prop where
  inside : measurement.stray = false
  fired : raises trace = structp.samples
  answered : echoes trace = structp.samples
  filed : ∀ now jiffies earlier before, .echo now jiffies :: earlier <:+ trace →
    replay (measure driver) (.start structp) earlier = some before →
    raises earlier = echoes earlier + 1 ∧
      measurement.structp.distance[echoes earlier]? =
        some (driver.distance before.structp.trig now)
  others : ∀ i : Nat, structp.samples ≤ i →
    measurement.structp.distance[i]? = structp.distance[i]? ∧
      measurement.structp.timestamp[i]? = structp.timestamp[i]?

/-- No trigger is fired before the first callback. -/
def TimerFirst (trace : List MeasurementEvent) : Prop :=
  ∀ now earlier, .poll .raisePin now :: earlier <:+ trace → 1 ≤ expiries earlier

section Counts

variable (trace : List MeasurementEvent) (point : PollPoint) (now : Timeval)
  (jiffies : BitVec 32)

@[simp]
theorem raises_poll :
    raises (.poll point now :: trace) = raises trace + if point = .raisePin then 1 else 0 := by
  simp [raises, List.countP_cons, MeasurementEvent.isRaise]

@[simp]
theorem raises_expire : raises (.expire :: trace) = raises trace :=
  List.countP_cons_of_neg (by simp [MeasurementEvent.isRaise])

@[simp]
theorem raises_echo : raises (.echo now jiffies :: trace) = raises trace :=
  List.countP_cons_of_neg (by simp [MeasurementEvent.isRaise])

@[simp]
theorem echoes_poll : echoes (.poll point now :: trace) = echoes trace :=
  List.countP_cons_of_neg (by simp [MeasurementEvent.isEcho])

@[simp]
theorem echoes_expire : echoes (.expire :: trace) = echoes trace :=
  List.countP_cons_of_neg (by simp [MeasurementEvent.isEcho])

@[simp]
theorem echoes_echo : echoes (.echo now jiffies :: trace) = echoes trace + 1 :=
  List.countP_cons_of_pos rfl

end Counts

namespace PollPoint

/-- From the beginning up to the trigger. -/
def beforeRaise : PollPoint → Bool
  | .getIni | .setTrig | .clearTriggeropAgain | .lowerPin | .clearFlag2 | .done => false
  | _ => true

/-- From the trigger to `flag2 = 0`. -/
def afterRaise : PollPoint → Bool
  | .getIni | .setTrig | .clearTriggeropAgain | .lowerPin | .clearFlag2 => true
  | _ => false

/-- The tests of the loop, and its end. -/
def watching : PollPoint → Bool
  | .testFlag1 | .msleep | .testFlag2 | .done => true
  | _ => false

end PollPoint

section Iterations

variable {driver : Driver} {structp : HSCStruct} {trace : List MeasurementEvent}
  {event : MeasurementEvent} {before after : Measurement}

theorem not_iterated_expire : ¬ Iterated driver structp (.expire :: trace) := by
  rintro ⟨now, earlier, later, finished, tested, inside, same, -⟩
  have older : .poll .testFlag2 now :: earlier <:+ trace := by
    rcases executed_cons_iff.mp (tested.trans inside) with ⟨impossible, -⟩ | older
    · cases impossible
    · exact older
  have fewer : expiries earlier ≤ expiries trace :=
    (older.sublist.countP_le).trans' (by simp [expiries, List.countP_cons])
  rw [expiries_expire] at same
  omega

/-- An event that does not bring the loop back to its head finishes no iteration. -/
theorem not_iterated_cons (unfinished : ¬ Iterated driver structp trace)
    (same : expiries (event :: trace) = expiries trace)
    (reached : replay (measure driver) (.start structp) (event :: trace) = some after)
    (elsewhere : after.point ≠ .testFlag1) : ¬ Iterated driver structp (event :: trace) := by
  rintro ⟨now, earlier, later, finished, tested, inside, since, replayed, head⟩
  rcases List.suffix_cons_iff.mp inside with rfl | older
  · obtain rfl := Option.some.inj (reached.symm.trans replayed)
    exact elsewhere head
  · exact unfinished
      ⟨now, earlier, later, finished, tested, older, since.trans same, replayed, head⟩

end Iterations

/-- How far the loop has got with the trigger of the last callback: it waits for the
trigger, it has fired it and not yet cleared `flag2`, or it waits for the next
callback. -/
inductive Phase (driver : Driver) (structp : HSCStruct) (trace : List MeasurementEvent)
    (current : HSCStruct) (point : PollPoint) : Prop
  | waiting (counts : raises trace = expiries trace - 1 ∧ echoes trace = raises trace ∧
        (expiries trace : Int) ≤ structp.samples)
      (early : point.beforeRaise = true) (set : point ≠ .setFlags → current.flag2 = true)
      (fresh : 1 ≤ expiries trace → ¬ Iterated driver structp trace) :
      Phase driver structp trace current point
  | serving (counts : 1 ≤ expiries trace ∧ raises trace = expiries trace ∧
        (expiries trace : Int) ≤ structp.samples ∧ echoes trace ≤ raises trace ∧
        raises trace ≤ echoes trace + 1)
      (fired : point.afterRaise = true) (fresh : ¬ Iterated driver structp trace) :
      Phase driver structp trace current point
  | served (counts : 1 ≤ expiries trace ∧
        (raises trace : Int) = min (expiries trace : Int) structp.samples ∧
        (expiries trace : Int) ≤ structp.samples + 1 ∧ echoes trace ≤ raises trace ∧
        raises trace ≤ echoes trace + 1 ∧
        ((expiries trace : Int) = structp.samples + 1 → echoes trace = raises trace))
      (tests : point.watching = true) (cleared : current.flag2 = false) :
      Phase driver structp trace current point

section Statements

variable {structp result : HSCStruct} {point target : PollPoint} {now : Timeval}

theorem execute_beforeRaise (executed : execute now structp point = some (result, target))
    (early : point.beforeRaise = true) (notRaise : point ≠ .raisePin)
    (flag1 : point = .testFlag1 → structp.flag1 = true)
    (flag2 : point = .testFlag2 → structp.flag2 = true) :
    target.beforeRaise = true ∧ (point.started = true → target ≠ .testFlag1) := by
  cases point with
  | raisePin => exact (notRaise rfl).elim
  | getIni | setTrig | clearTriggeropAgain | lowerPin | clearFlag2 | done =>
      simp [PollPoint.beforeRaise] at early
  | testFlag1 =>
      obtain ⟨rfl, rfl⟩ := Prod.mk.inj (Option.some.inj executed)
      simp [flag1 rfl, PollPoint.beforeRaise]
  | testFlag2 =>
      obtain ⟨rfl, rfl⟩ := Prod.mk.inj (Option.some.inj executed)
      simp [flag2 rfl, PollPoint.beforeRaise]
  | _ =>
      obtain ⟨rfl, rfl⟩ := Prod.mk.inj (Option.some.inj executed)
      simp [PollPoint.beforeRaise, PollPoint.started]

theorem execute_raisePin (executed : execute now structp .raisePin = some (result, target)) :
    target = .getIni := by
  obtain ⟨row, -, same⟩ := Option.map_eq_some_iff.mp executed
  exact (Prod.mk.inj same).2.symm

theorem execute_afterRaise (executed : execute now structp point = some (result, target))
    (fired : point.afterRaise = true) :
    target.afterRaise = true ∨ (point = .clearFlag2 ∧ target = .testFlag1) := by
  cases point with
  | lowerPin =>
      obtain ⟨row, -, same⟩ := Option.map_eq_some_iff.mp executed
      obtain ⟨rfl, rfl⟩ := Prod.mk.inj same
      exact .inl rfl
  | getIni | setTrig | clearTriggeropAgain =>
      obtain ⟨rfl, rfl⟩ := Prod.mk.inj (Option.some.inj executed)
      exact .inl rfl
  | clearFlag2 =>
      obtain ⟨rfl, rfl⟩ := Prod.mk.inj (Option.some.inj executed)
      exact .inr ⟨rfl, rfl⟩
  | _ => simp [PollPoint.afterRaise] at fired

theorem execute_watching (executed : execute now structp point = some (result, target))
    (tests : point.watching = true) (cleared : structp.flag2 = false) :
    target.watching = true := by
  cases point with
  | testFlag1 =>
      obtain ⟨rfl, rfl⟩ := Prod.mk.inj (Option.some.inj executed)
      split_ifs <;> rfl
  | msleep =>
      obtain ⟨rfl, rfl⟩ := Prod.mk.inj (Option.some.inj executed)
      rfl
  | testFlag2 =>
      obtain ⟨rfl, rfl⟩ := Prod.mk.inj (Option.some.inj executed)
      simp [cleared, PollPoint.watching]
  | done => simp [execute] at executed
  | _ => simp [PollPoint.watching] at tests

end Statements

section Phases

variable {driver : Driver} {structp current after : HSCStruct} {trace : List MeasurementEvent}
  {point target : PollPoint} {now : Timeval} {jiffies : BitVec 32}

theorem flag1_of_expiries (off : structp.hrTimer ≠ .pending) (samples : 0 ≤ structp.samples)
    (run : MeasurementRun driver structp trace ⟨current, point, false⟩)
    (moved : point ≠ .setFlags) (more : (expiries trace : Int) ≤ structp.samples) :
    current.flag1 = true := by
  by_contra cleared
  have expired := (MeasurementRun.invariant off run).expiries_of_flag1
    (MeasurementRun.expiryInvariant off run) samples moved (by simpa using cleared)
  omega

theorem started_of_expiries {measurement : Measurement} (off : structp.hrTimer ≠ .pending)
    (run : MeasurementRun driver structp trace measurement) (begun : 1 ≤ expiries trace) :
    measurement.point.started = true := by
  by_contra notStarted
  have quiet := (MeasurementRun.invariant off run).quiet (by simpa using notStarted)
  omega

theorem Phase.poll (off : structp.hrTimer ≠ .pending) (samples : 0 ≤ structp.samples)
    (run : MeasurementRun driver structp trace ⟨current, point, false⟩)
    (phase : Phase driver structp trace current point)
    (executed : execute now current point = some (after, target))
    (afterRun : MeasurementRun driver structp (.poll point now :: trace) ⟨after, target, false⟩)
    (first : point = .raisePin → 1 ≤ expiries trace) :
    Phase driver structp (.poll point now :: trace) after target := by
  have flag2 := (executesTimes_of_execute executed).flag2
  have same := expiries_poll trace point now
  have sameEchoes := echoes_poll trace point now
  have raised := raises_poll trace point now
  cases phase with
  | waiting counts early set fresh =>
      by_cases raising : point = .raisePin
      · subst raising
        have begun := first rfl
        obtain rfl := execute_raisePin executed
        rw [if_pos rfl] at raised
        apply Phase.serving
        · omega
        · rfl
        · exact not_iterated_cons (fresh begun) same afterRun.replay_eq (by simp)
      · rw [if_neg raising] at raised
        obtain ⟨stillEarly, notHead⟩ := execute_beforeRaise executed early raising
          (fun head => flag1_of_expiries off samples run (by simp [head]) counts.2.2)
          (fun tested => set (by simp [tested]))
        apply Phase.waiting
        · omega
        · exact stillEarly
        · intro _
          rw [flag2]
          split_ifs with setting clearing
          · rfl
          · simp [clearing, PollPoint.beforeRaise] at early
          · exact set setting
        · intro begun
          rw [same] at begun
          exact not_iterated_cons (fresh begun) same afterRun.replay_eq
            (notHead (started_of_expiries off run begun))
  | serving counts fired fresh =>
      rw [if_neg (by rintro rfl; simp [PollPoint.afterRaise] at fired)] at raised
      rcases execute_afterRaise executed fired with still | ⟨rfl, rfl⟩
      · apply Phase.serving
        · omega
        · exact still
        · exact not_iterated_cons fresh same afterRun.replay_eq
            (by rintro rfl; simp [PollPoint.afterRaise] at still)
      · apply Phase.served
        · omega
        · rfl
        · simpa using flag2
  | served counts tests cleared =>
      rw [if_neg (by rintro rfl; simp [PollPoint.watching] at tests)] at raised
      apply Phase.served
      · omega
      · exact execute_watching executed tests cleared
      · rw [flag2]
        split_ifs with setting
        · simp [setting, PollPoint.watching] at tests
        · rfl
        · exact cleared

theorem Phase.expire {measurement next : Measurement} (off : structp.hrTimer ≠ .pending)
    (samples : 1 ≤ structp.samples) (run : MeasurementRun driver structp trace measurement)
    (phase : Phase driver structp trace measurement.structp measurement.point)
    (stepTo : measure driver measurement .expire = some next)
    (iterates : expiries trace = 0 ∨ Iterated driver structp trace)
    (all : echoes trace = raises trace) :
    Phase driver structp (.expire :: trace) next.structp next.point := by
  obtain ⟨started, counter, same, rfl⟩ :=
    (MeasurementRun.invariant off run).counter_at_expiry stepTo
  have nextRun : MeasurementRun driver structp (.expire :: trace)
      { measurement with structp := measurement.structp.myHrtimerCallback } :=
    .next run trivial stepTo
  have bound := (MeasurementRun.expiryInvariant off nextRun started).1
  have expired := expiries_expire trace
  have sameRaises := raises_expire trace
  have sameEchoes := echoes_expire trace
  rw [max_eq_left (by omega)] at counter
  cases phase with
  | waiting counts early set fresh =>
      have none : expiries trace = 0 := by
        by_contra begun
        exact fresh (by omega) (iterates.resolve_left begun)
      have more : measurement.structp.sampleNum < measurement.structp.samples := by omega
      apply Phase.waiting
      · omega
      · exact early
      · intro _
        rw [HSCStruct.callback_more more]
      · exact fun _ => not_iterated_expire
  | serving counts fired fresh => exact (fresh (iterates.resolve_left (by omega))).elim
  | served counts tests cleared =>
      by_cases left : (expiries trace : Int) < structp.samples
      · have more : measurement.structp.sampleNum < measurement.structp.samples := by omega
        apply Phase.waiting
        · omega
        · have notDone : measurement.point ≠ .done := by
            intro done
            have ended := MeasurementRun.expiries_of_done off (by omega) run done
            omega
          revert tests notDone
          cases measurement.point <;> simp [PollPoint.watching, PollPoint.beforeRaise]
        · intro _
          rw [HSCStruct.callback_more more]
        · exact fun _ => not_iterated_expire
      · have last : measurement.structp.samples ≤ measurement.structp.sampleNum := by omega
        apply Phase.served
        · omega
        · exact tests
        · rw [HSCStruct.callback_last last]
          exact cleared

/-- An echo that is due finds the counter at the number of its trigger. -/
theorem Phase.index (off : structp.hrTimer ≠ .pending) (twenty : structp.samples ≤ 20)
    {measurement : Measurement} (run : MeasurementRun driver structp trace measurement)
    (phase : Phase driver structp trace measurement.structp measurement.point)
    (pending : echoes trace < raises trace) :
    raises trace = echoes trace + 1 ∧ ∃ small : echoes trace < 20,
      measurement.structp.sampleIndex = some ⟨echoes trace, small⟩ := by
  obtain ⟨begun, fired, more, due⟩ : 1 ≤ expiries trace ∧ raises trace = expiries trace ∧
      (expiries trace : Int) ≤ structp.samples ∧ raises trace = echoes trace + 1 := by
    cases phase <;> omega
  have counter := (MeasurementRun.invariant off run).counted
    (counting_of_started (started_of_expiries off run begun))
  have number : measurement.structp.sampleNum = echoes trace + 1 := by omega
  have inside : 1 ≤ measurement.structp.sampleNum ∧ measurement.structp.sampleNum ≤ 20 := by omega
  refine ⟨due, by omega, ?_⟩
  rw [HSCStruct.sampleIndex, dif_pos inside]
  simp [number]

theorem Phase.echo (phase : Phase driver structp trace current point)
    (pending : echoes trace < raises trace) (sameFlag : after.flag2 = current.flag2)
    (afterRun : MeasurementRun driver structp (.echo now jiffies :: trace) ⟨after, point, false⟩) :
    Phase driver structp (.echo now jiffies :: trace) after point := by
  have same := expiries_echo trace now jiffies
  have sameRaises := raises_echo trace now jiffies
  have answering := echoes_echo trace now jiffies
  cases phase with
  | waiting counts => omega
  | serving counts fired fresh =>
      apply Phase.serving
      · omega
      · exact fired
      · exact not_iterated_cons fresh same afterRun.replay_eq
          (by rintro rfl; simp [PollPoint.afterRaise] at fired)
  | served counts tests cleared =>
      apply Phase.served
      · omega
      · exact tests
      · exact sameFlag.trans cleared

end Phases

section Runs

variable {driver : Driver} {structp current after : HSCStruct} {trace : List MeasurementEvent}
  {measurement : Measurement} {event : MeasurementEvent}

theorem Paced.of_cons (paced : Paced driver structp (event :: trace)) :
    Paced driver structp trace where
  iterates earlier inside := paced.iterates earlier (inside.trans (List.suffix_cons ..))
  answered earlier inside := paced.answered earlier (inside.trans (List.suffix_cons ..))
  answers now jiffies earlier inside :=
    paced.answers now jiffies earlier (inside.trans (List.suffix_cons ..))

theorem TimerFirst.of_cons (first : TimerFirst (event :: trace)) : TimerFirst trace :=
  fun now earlier inside => first now earlier (inside.trans (List.suffix_cons ..))

/-- A paced run whose triggers come after a callback keeps to the phases and stays
inside the sample arrays. -/
theorem MeasurementRun.phase (off : structp.hrTimer ≠ .pending) (one : 1 ≤ structp.samples)
    (twenty : structp.samples ≤ 20) (run : MeasurementRun driver structp trace measurement)
    (paced : Paced driver structp trace) (first : TimerFirst trace) :
    measurement.stray = false ∧
      Phase driver structp trace measurement.structp measurement.point := by
  induction run with
  | start =>
      refine ⟨rfl, .waiting ⟨rfl, rfl, ?_⟩ rfl (fun moved => (moved rfl).elim) (by simp)⟩
      rw [expiries_nil]
      omega
  | @next trace before after event earlier legal stepTo ih =>
      obtain ⟨inside, phase⟩ := ih paced.of_cons first.of_cons
      have nextRun := Run.next earlier legal stepTo
      obtain ⟨current, point, stray⟩ := before
      obtain ⟨rfl, measures⟩ := measures_of_step stepTo
      cases measures with
      | @poll now _ _ executed =>
          refine ⟨rfl, phase.poll off (by omega) earlier executed nextRun ?_⟩
          rintro rfl
          exact first now trace (List.suffix_refl _)
      | expire pending =>
          exact ⟨rfl, phase.expire off one earlier stepTo
            (paced.iterates trace (List.suffix_refl _))
            (paced.answered trace (List.suffix_refl _))⟩
      | @echo now jiffies _ _ handled =>
          have pending := paced.answers now jiffies trace (List.suffix_refl _)
          obtain ⟨distance, timestamp, tdiff, rfl⟩ := HSCStruct.handler_spec handled
          exact ⟨rfl, phase.echo pending rfl nextRun⟩
      | @stray now jiffies missing =>
          have pending := paced.answers now jiffies trace (List.suffix_refl _)
          obtain ⟨-, small, index⟩ := phase.index off twenty earlier pending
          simp [missing] at index

/-- The echoes so far are in the slots of their triggers, and nothing else has been
stored. -/
structure EchoesFiled (driver : Driver) (structp : HSCStruct) (trace : List MeasurementEvent)
    (current : HSCStruct) : Prop where
  filed : ∀ now jiffies earlier before, .echo now jiffies :: earlier <:+ trace →
    replay (measure driver) (.start structp) earlier = some before →
    raises earlier = echoes earlier + 1 ∧
      current.distance[echoes earlier]? = some (driver.distance before.structp.trig now)
  others : ∀ i : Nat, echoes trace ≤ i →
    current.distance[i]? = structp.distance[i]? ∧
      current.timestamp[i]? = structp.timestamp[i]?

theorem EchoesFiled.of_same (filed : EchoesFiled driver structp trace current)
    (noEcho : event.isEcho = false) (distance : after.distance = current.distance)
    (timestamp : after.timestamp = current.timestamp) :
    EchoesFiled driver structp (event :: trace) after := by
  constructor
  · intro now jiffies earlier before inside reached
    rw [distance]
    rcases executed_cons_iff.mp inside with ⟨rfl, -⟩ | older
    · simp [MeasurementEvent.isEcho] at noEcho
    · exact filed.filed now jiffies earlier before older reached
  · intro i larger
    have sameEchoes : echoes (event :: trace) = echoes trace :=
      List.countP_cons_of_neg (by simp [noEcho])
    rw [distance, timestamp]
    exact filed.others i (by omega)

theorem EchoesFiled.echo {now : Timeval} {jiffies : BitVec 32} {point : PollPoint}
    {small : echoes trace < 20} (filed : EchoesFiled driver structp trace current)
    (reached : replay (measure driver) (.start structp) trace = some ⟨current, point, false⟩)
    (due : raises trace = echoes trace + 1)
    (index : current.sampleIndex = some ⟨echoes trace, small⟩)
    (handled : current.sensorHandler driver now jiffies = some after) :
    EchoesFiled driver structp (.echo now jiffies :: trace) after := by
  have distance := handler_distance index handled
  have timestamp := handler_timestamp index handled
  constructor
  · intro time ticks earlier before inside replayed
    rcases executed_cons_iff.mp inside with ⟨same, rfl⟩ | older
    · obtain ⟨rfl, -⟩ := MeasurementEvent.echo.inj same
      obtain rfl := Option.some.inj (reached.symm.trans replayed)
      exact ⟨due, by simp [distance, small]⟩
    · have fewer : echoes earlier < echoes trace := by
        have counted := older.sublist.countP_le (p := MeasurementEvent.isEcho)
        have answering := echoes_echo earlier time ticks
        unfold echoes at *
        omega
      obtain ⟨order, stored⟩ := filed.filed time ticks earlier before older replayed
      refine ⟨order, ?_⟩
      rw [distance, Vector.getElem?_set_ne _ (by simp; omega)]
      exact stored
  · intro i larger
    rw [echoes_echo] at larger
    rw [distance, timestamp, Vector.getElem?_set_ne _ (by simp; omega),
      Vector.getElem?_set_ne _ (by simp; omega)]
    exact filed.others i (by omega)

theorem MeasurementRun.echoesFiled (off : structp.hrTimer ≠ .pending) (one : 1 ≤ structp.samples)
    (twenty : structp.samples ≤ 20) (run : MeasurementRun driver structp trace measurement)
    (paced : Paced driver structp trace) (first : TimerFirst trace) :
    EchoesFiled driver structp trace measurement.structp := by
  induction run with
  | start =>
      constructor
      · intro now jiffies earlier before inside
        simp at inside
      · exact fun i _ => ⟨rfl, rfl⟩
  | @next trace before after event earlier _ stepTo ih =>
      have filed := ih paced.of_cons first.of_cons
      obtain ⟨-, phase⟩ := MeasurementRun.phase off one twenty earlier paced.of_cons first.of_cons
      obtain ⟨current, point, stray⟩ := before
      obtain ⟨rfl, measures⟩ := measures_of_step stepTo
      cases measures with
      | poll executed =>
          have effect := executesTimes_of_execute executed
          exact filed.of_same rfl effect.distance effect.timestamp
      | expire =>
          obtain ⟨distance, timestamp⟩ := callback_samples current
          exact filed.of_same rfl distance timestamp
      | @echo now jiffies _ _ handled =>
          have pending := paced.answers now jiffies trace (List.suffix_refl _)
          obtain ⟨due, small, index⟩ := phase.index off twenty earlier pending
          exact filed.echo earlier.replay_eq due index handled
      | @stray now jiffies missing =>
          have pending := paced.answers now jiffies trace (List.suffix_refl _)
          obtain ⟨-, small, index⟩ := phase.index off twenty earlier pending
          simp [missing] at index

/-- As long as no echo strays, the echoes are timely. -/
theorem MeasurementRun.timely_of_inside (off : structp.hrTimer ≠ .pending)
    (run : MeasurementRun driver structp trace measurement) (inside : measurement.stray = false) :
    EchoesTimely structp.samples trace := by
  induction run with
  | start =>
      intro now jiffies earlier executed
      simp at executed
  | @next trace before after event earlier legal stepTo ih =>
      have older := ih (measures_of_step stepTo).1
      intro now jiffies past executed
      rcases executed_cons_iff.mp executed with ⟨rfl, rfl⟩ | executed
      · obtain ⟨current, point, stray⟩ := before
        apply (MeasurementRun.index_iff off earlier legal).mp
        cases (measures_of_step stepTo).2 with
        | echo index handled => exact index
        | stray missing => simp at inside
      · exact older now jiffies past executed

theorem echoes_of_timely (timely : EchoesTimely structp.samples trace)
    (none : expiries trace = 0) : echoes trace = 0 := by
  rw [echoes, List.countP_eq_zero]
  intro event member isEcho
  cases event with
  | poll | expire => simp [MeasurementEvent.isEcho] at isEcho
  | echo now jiffies =>
      obtain ⟨later, earlier, rfl⟩ := List.append_of_mem member
      have begun := (timely now jiffies earlier (List.suffix_append ..)).2.1
      have fewer : expiries earlier ≤ expiries (later ++ .echo now jiffies :: earlier) :=
        ((List.suffix_cons _ _).trans (List.suffix_append ..)).sublist.countP_le
      omega

/-- In a paced run without stray echoes, all triggers before the first callback would be
answered before it. -/
theorem MeasurementRun.timerFirst (off : structp.hrTimer ≠ .pending)
    (run : MeasurementRun driver structp trace measurement) (paced : Paced driver structp trace)
    (inside : measurement.stray = false) (begun : 1 ≤ expiries trace) : TimerFirst trace := by
  induction run with
  | start => simp at begun
  | @next trace before after event earlier _ stepTo ih =>
      have insideBefore := (measures_of_step stepTo).1
      intro now past executed
      rcases executed_cons_iff.mp executed with ⟨rfl, rfl⟩ | older
      · simpa using begun
      · by_cases none : expiries trace = 0
        · have expired : event = .expire := by
            cases event with
            | expire => rfl
            | poll | echo => simp [none] at begun
          subst expired
          have timely := MeasurementRun.timely_of_inside off earlier insideBefore
          have unanswered := echoes_of_timely timely none
          have answered := paced.answered trace (List.suffix_refl _)
          have raised : raises (.poll .raisePin now :: past) ≤ raises trace :=
            older.sublist.countP_le
          rw [raises_poll, if_pos rfl] at raised
          omega
        · exact ih paced.of_cons insideBefore (by omega) now past older

/-- With 1 to 20 samples, a run whose loop and echoes keep up with the timer files each
echo in the slot of its trigger if and only if it fires no trigger before the first
callback. -/
theorem files_echoes_iff (off : structp.hrTimer ≠ .pending) (one : 1 ≤ structp.samples)
    (twenty : structp.samples ≤ 20) (run : MeasurementRun driver structp trace measurement)
    (paced : Paced driver structp trace)
    (ended : measurement.point = .done ∨ measurement.stray = true) :
    FilesEchoes driver structp trace measurement ↔ TimerFirst trace := by
  constructor
  · intro files
    have done := ended.resolve_right (by simp [files.inside])
    have expired := MeasurementRun.expiries_of_done off (by omega) run done
    exact MeasurementRun.timerFirst off run paced files.inside (by omega)
  · intro first
    obtain ⟨inside, phase⟩ := MeasurementRun.phase off one twenty run paced first
    have done := ended.resolve_right (by simp [inside])
    have expired := MeasurementRun.expiries_of_done off (by omega) run done
    have filed := MeasurementRun.echoesFiled off one twenty run paced first
    obtain ⟨fired, answered⟩ : (raises trace : Int) = structp.samples ∧
        (echoes trace : Int) = structp.samples := by
      cases phase <;> omega
    exact ⟨inside, fired, answered, filed.filed, fun i larger => filed.others i (by omega)⟩

end Runs

/-- A sensor that takes one sample. -/
def oneSample : HSCStruct :=
  { HSCStruct.zeroed with samples := 1, trigger := 2 }

/-- The statements from the test of `flag1` to the trigger and back, with its echo. -/
def answeredPass (now : Timeval) : List MeasurementEvent :=
  [.echo now 7, .poll .clearFlag2 now, .poll .lowerPin now, .poll .clearTriggeropAgain now,
    .poll .setTrig now, .poll .getIni now, .poll .raisePin now, .poll .setTriggerop now,
    .poll .testFlag2 now, .poll .msleep now, .poll .testFlag1 now]

/-- The loop only gets to its first test after the first callback. -/
def latePass (now : Timeval) : List MeasurementEvent :=
  answeredPass now ++ [.expire, .poll .startTimer now, .poll .initTimer now,
    .poll .clearSampleNum now, .poll .clearTriggerop now, .poll .setFlags now]

theorem latePass_iterated : Iterated (part2 1000) oneSample (latePass ⟨1, 0⟩) :=
  ⟨⟨1, 0⟩, (latePass ⟨1, 0⟩).drop 9, latePass ⟨1, 0⟩, _, List.drop_suffix 8 (latePass ⟨1, 0⟩),
    List.suffix_refl _, rfl, rfl, rfl⟩

/-- A run with one sample and one trigger. -/
theorem files_echoes_one :
    ∃ trace measurement, MeasurementRun (part2 1000) oneSample trace measurement ∧
      measurement.point = .done ∧ FilesEchoes (part2 1000) oneSample trace measurement := by
  obtain ⟨measurement, replayed, done⟩ : ∃ measurement, replay (measure (part2 1000))
      (.start oneSample) (.poll .testFlag1 ⟨1, 0⟩ :: .expire :: latePass ⟨1, 0⟩) =
        some measurement ∧ measurement.point = .done :=
    ⟨_, rfl, rfl⟩
  have run : MeasurementRun (part2 1000) oneSample
      (.poll .testFlag1 ⟨1, 0⟩ :: .expire :: latePass ⟨1, 0⟩) measurement := by
    refine run_of_replay_of_allowed (fun event earlier _ inside => ?_) replayed
    cases event with
    | poll | expire => trivial
    | echo now jiffies =>
        refine ⟨⟨1, 0⟩, ?_⟩
        simp only [latePass, answeredPass, List.cons_append, List.nil_append, executed_cons_iff,
          reduceCtorEq, false_and, false_or, List.suffix_nil, or_false] at inside
        simp [inside.2]
  have callback : ∀ earlier, .expire :: earlier <:+
      (.poll .testFlag1 ⟨1, 0⟩ :: .expire :: latePass ⟨1, 0⟩ : List MeasurementEvent) →
      earlier = latePass ⟨1, 0⟩ ∨ earlier = (latePass ⟨1, 0⟩).drop 12 := by
    intro earlier inside
    simpa [latePass, answeredPass, executed_cons_iff] using inside
  have paced : Paced (part2 1000) oneSample
      (.poll .testFlag1 ⟨1, 0⟩ :: .expire :: latePass ⟨1, 0⟩) := by
    constructor
    · intro earlier inside
      rcases callback earlier inside with rfl | rfl
      · exact .inr latePass_iterated
      · exact .inl rfl
    · intro earlier inside
      rcases callback earlier inside with rfl | rfl <;> rfl
    · intro now jiffies earlier inside
      have only : (now = ⟨1, 0⟩ ∧ jiffies = 7) ∧ earlier = (latePass ⟨1, 0⟩).tail := by
        simpa [latePass, answeredPass, executed_cons_iff] using inside
      rw [only.2]
      decide
  have first : TimerFirst (.poll .testFlag1 ⟨1, 0⟩ :: .expire :: latePass ⟨1, 0⟩) := by
    intro now earlier inside
    have only : now = ⟨1, 0⟩ ∧ earlier = (latePass ⟨1, 0⟩).drop 7 := by
      simpa [latePass, answeredPass, executed_cons_iff] using inside
    rw [only.2]
    decide
  exact ⟨_, measurement, run, done,
    (files_echoes_iff (by decide) (by decide) (by decide) run paced (.inl done)).mpr first⟩

/-- The loop is faster than the timer, and the first echo comes before the first
callback. -/
theorem first_trigger_not_filed :
    ∃ measurement,
      MeasurementRun (part2 1000) oneSample (.echo ⟨1, 5⟩ 7 :: firstTrigger ⟨1, 0⟩) measurement ∧
      Paced (part2 1000) oneSample (.echo ⟨1, 5⟩ 7 :: firstTrigger ⟨1, 0⟩) ∧
      measurement.stray = true ∧
      ¬ FilesEchoes (part2 1000) oneSample (.echo ⟨1, 5⟩ 7 :: firstTrigger ⟨1, 0⟩)
        measurement := by
  obtain ⟨measurement, replayed, astray⟩ : ∃ measurement, replay (measure (part2 1000))
      (.start oneSample) (.echo ⟨1, 5⟩ 7 :: firstTrigger ⟨1, 0⟩) = some measurement ∧
      measurement.stray = true :=
    ⟨_, rfl, rfl⟩
  have only : ∀ {now jiffies earlier}, .echo now jiffies :: earlier <:+
      (.echo ⟨1, 5⟩ 7 :: firstTrigger ⟨1, 0⟩ : List MeasurementEvent) →
      earlier = firstTrigger ⟨1, 0⟩ := by
    intro now jiffies earlier inside
    have parts : (now = ⟨1, 5⟩ ∧ jiffies = 7) ∧ earlier = firstTrigger ⟨1, 0⟩ := by
      simpa [firstTrigger, executed_cons_iff] using inside
    exact parts.2
  have noCallback : ∀ earlier, ¬ .expire :: earlier <:+
      (.echo ⟨1, 5⟩ 7 :: firstTrigger ⟨1, 0⟩ : List MeasurementEvent) := by
    simp [firstTrigger, executed_cons_iff]
  refine ⟨measurement, run_of_replay_of_allowed (fun event earlier _ inside => ?_) replayed, ?_,
    astray, fun files => by simp [files.inside] at astray⟩
  · cases event with
    | poll | expire => trivial
    | echo => exact ⟨⟨1, 0⟩, by simp [only inside, firstTrigger]⟩
  · constructor
    · exact fun earlier inside => (noCallback earlier inside).elim
    · exact fun earlier inside => (noCallback earlier inside).elim
    · intro now jiffies earlier inside
      rw [only inside]
      decide

end Sensor

end KinuxKernel
