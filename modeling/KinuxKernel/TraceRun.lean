import Mathlib.Data.List.Infix

/-!
# Runs of a partial step function with their histories

A system is a partial step function on states and events.  A run keeps the
executed events, newest first, so that a statement about the past of a state
is a function of the run's trace.  The condition under which a step is taken
may look at the whole history before it.
-/

namespace KinuxKernel

namespace TraceRun

variable {State Event : Type*}

/-- The runs from `start` all of whose steps are allowed, with their traces
newest event first. -/
inductive Run (step : State → Event → Option State)
    (allowed : List Event → State → Event → Prop) (start : State) :
    List Event → State → Prop
  | start : Run step allowed start [] start
  | next {trace : List Event} {before after : State} {event : Event} :
      Run step allowed start trace before → allowed trace before event →
      step before event = some after →
      Run step allowed start (event :: trace) after

/-- Execute a whole trace, oldest event first. -/
def replay (step : State → Event → Option State) (start : State) :
    List Event → Option State
  | [] => some start
  | event :: trace => (replay step start trace).bind fun state => step state event

/-- Run conditions that only look at the executed event. -/
def each (legal : Event → Prop) : List Event → State → Event → Prop :=
  fun _ _ event => legal event

/-- An event executed in a trace is its newest event or executed before it. -/
theorem executed_cons_iff {event other : Event} {trace earlier : List Event} :
    other :: earlier <:+ event :: trace ↔
      other = event ∧ earlier = trace ∨ other :: earlier <:+ trace := by
  rw [List.suffix_cons_iff, List.cons.injEq]

theorem exists_executed_cons_iff {event other : Event} {trace : List Event}
    {before : List Event → Prop} :
    (∃ earlier, other :: earlier <:+ event :: trace ∧ before earlier) ↔
      (event = other ∧ before trace) ∨ ∃ earlier, other :: earlier <:+ trace ∧ before earlier := by
  simp only [executed_cons_iff]
  constructor
  · rintro ⟨earlier, ⟨rfl, rfl⟩ | inside, holds⟩
    · exact .inl ⟨rfl, holds⟩
    · exact .inr ⟨earlier, inside, holds⟩
  · rintro (⟨rfl, holds⟩ | ⟨earlier, inside, holds⟩)
    · exact ⟨trace, .inl ⟨rfl, rfl⟩, holds⟩
    · exact ⟨earlier, .inr inside, holds⟩

theorem forall_executed_cons_iff {event : Event} {trace : List Event}
    {good : Event → List Event → Prop} :
    (∀ other earlier, other :: earlier <:+ event :: trace → good other earlier) ↔
      good event trace ∧ ∀ other earlier, other :: earlier <:+ trace → good other earlier := by
  simp only [executed_cons_iff]
  constructor
  · exact fun all =>
      ⟨all event trace (.inl ⟨rfl, rfl⟩), fun other earlier inside =>
        all other earlier (.inr inside)⟩
  · rintro ⟨here, before⟩ other earlier (⟨rfl, rfl⟩ | inside)
    · exact here
    · exact before other earlier inside

variable {step : State → Event → Option State}
variable {allowed allowed' : List Event → State → Event → Prop} {start : State}

namespace Run

theorem mono (weaker : ∀ trace state event, allowed trace state event →
    allowed' trace state event) {trace : List Event} {state : State}
    (run : Run step allowed start trace state) :
    Run step allowed' start trace state := by
  induction run with
  | start => exact .start
  | next _ legal stepTo ih => exact .next ih (weaker _ _ _ legal) stepTo

/-- A condition that every allowed step of the system meets may be added to
the condition of its runs. -/
theorem strengthen (meets : ∀ {trace before after event},
      Run step allowed start trace before → allowed trace before event →
      step before event = some after → allowed' trace before event)
    {trace : List Event} {state : State} (run : Run step allowed start trace state) :
    Run step allowed' start trace state := by
  induction run with
  | start => exact .start
  | next earlier legal stepTo ih => exact .next ih (meets earlier legal stepTo) stepTo

theorem replay_eq {trace : List Event} {state : State}
    (run : Run step allowed start trace state) :
    replay step start trace = some state := by
  induction run with
  | start => rfl
  | next _ _ stepTo ih => simp [replay, ih, stepTo]

/-- An invariant of every step is an invariant of every run.  The step case
may use that its source state is itself reached by an allowed run. -/
theorem invariant (holds : List Event → State → Prop) (initially : holds [] start)
    (preserved : ∀ {trace before after event},
      Run step allowed start trace before → holds trace before →
      allowed trace before event → step before event = some after →
      holds (event :: trace) after)
    {trace : List Event} {state : State}
    (run : Run step allowed start trace state) : holds trace state := by
  induction run with
  | start => exact initially
  | next earlier legal stepTo ih => exact preserved earlier ih legal stepTo

theorem of_suffix {trace earlier : List Event} {state : State}
    (run : Run step allowed start trace state) (suffix : earlier <:+ trace) :
    ∃ past, Run step allowed start earlier past := by
  induction run with
  | start =>
      obtain rfl := List.suffix_nil.mp suffix
      exact ⟨start, .start⟩
  | @next trace before after event previous legal stepTo ih =>
      rcases List.suffix_cons_iff.mp suffix with rfl | inside
      · exact ⟨after, .next previous legal stepTo⟩
      · exact ih inside

/-- Every executed event was an allowed step of the state it was executed
in. -/
theorem of_executed {trace earlier : List Event} {state : State} {event : Event}
    (run : Run step allowed start trace state) (executed : event :: earlier <:+ trace) :
    ∃ before after, Run step allowed start earlier before ∧
      allowed earlier before event ∧ step before event = some after := by
  obtain ⟨past, pastRun⟩ := run.of_suffix executed
  cases pastRun with
  | next previous legal stepTo => exact ⟨_, _, previous, legal, stepTo⟩

/-- Runs compose when the step condition does not read the history. -/
theorem append {legal : Event → Prop} {first second : List Event}
    {middle last : State} (run : Run step (each legal) start first middle)
    (continued : Run step (each legal) middle second last) :
    Run step (each legal) start (second ++ first) last := by
  induction continued with
  | start => exact run
  | next _ allowedStep stepTo ih => exact .next ih allowedStep stepTo

/-- The state that a part of the trace leads to is reached by a run. -/
theorem of_reached {trace earlier : List Event} {state before : State}
    (run : Run step allowed start trace state) (suffix : earlier <:+ trace)
    (reached : replay step start earlier = some before) :
    Run step allowed start earlier before := by
  obtain ⟨source, earlierRun⟩ := run.of_suffix suffix
  obtain rfl := Option.some.inj (earlierRun.replay_eq.symm.trans reached)
  exact earlierRun

theorem step_of_reached {trace earlier : List Event} {state before : State} {event : Event}
    (run : Run step allowed start trace state) (executed : event :: earlier <:+ trace)
    (reached : replay step start earlier = some before) :
    Run step allowed start earlier before ∧ allowed earlier before event ∧
      ∃ after, step before event = some after := by
  obtain ⟨source, after, earlierRun, legal, stepTo⟩ := run.of_executed executed
  obtain rfl := Option.some.inj (earlierRun.replay_eq.symm.trans reached)
  exact ⟨earlierRun, legal, after, stepTo⟩

end Run

/-- A trace that can be executed is a run if each event is allowed in the state that
the events before it lead to. -/
theorem run_of_replay_of_reached {trace : List Event} {state : State}
    (legal : ∀ event earlier state, event :: earlier <:+ trace →
      replay step start earlier = some state → allowed earlier state event)
    (replayed : replay step start trace = some state) : Run step allowed start trace state := by
  induction trace generalizing state with
  | nil =>
      obtain rfl := Option.some.inj replayed
      exact .start
  | cons event trace ih =>
      obtain ⟨before, earlier, stepTo⟩ := Option.bind_eq_some_iff.mp replayed
      have continues : ∀ other past state, other :: past <:+ trace →
          replay step start past = some state → allowed past state other :=
        fun other past state inside => legal other past state
          (inside.trans (List.suffix_cons event trace))
      exact .next (ih continues earlier) (legal event trace before (List.suffix_refl _) earlier)
        stepTo

/-- A trace that can be executed is a run if each event is allowed after the
events before it. -/
theorem run_of_replay_of_allowed {trace : List Event} {state : State}
    (legal : ∀ event earlier state, event :: earlier <:+ trace → allowed earlier state event)
    (replayed : replay step start trace = some state) : Run step allowed start trace state :=
  run_of_replay_of_reached (fun event earlier state inside _ => legal event earlier state inside)
    replayed

/-- Execute a whole trace as long as its steps are allowed. -/
def checkedReplay (step : State → Event → Option State)
    (allowed : List Event → State → Event → Prop)
    [∀ trace state event, Decidable (allowed trace state event)] (start : State) :
    List Event → Option State
  | [] => some start
  | event :: trace => (checkedReplay step allowed start trace).bind fun state =>
      if allowed trace state event then step state event else none

theorem run_of_checkedReplay [∀ trace state event, Decidable (allowed trace state event)]
    {trace : List Event} {state : State}
    (checked : checkedReplay step allowed start trace = some state) :
    Run step allowed start trace state := by
  induction trace generalizing state with
  | nil =>
      obtain rfl := Option.some.inj checked
      exact .start
  | cons event trace ih =>
      obtain ⟨before, earlier, stepTo⟩ := Option.bind_eq_some_iff.mp checked
      obtain ⟨legal, stepTo⟩ := Option.ite_none_right_eq_some.mp stepTo
      exact .next (ih earlier) legal stepTo

theorem run_of_replay {legal : Event → Prop} {trace : List Event} {state : State}
    (legalTrace : ∀ event ∈ trace, legal event)
    (replayed : replay step start trace = some state) :
    Run step (each legal) start trace state := by
  refine run_of_replay_of_allowed (fun event earlier _ inside => ?_) replayed
  exact legalTrace event (inside.subset (List.mem_cons_self ..))

theorem exists_run_of_replay {legal : Event → Prop} {trace : List Event}
    (legalTrace : ∀ event ∈ trace, legal event)
    (defined : (replay step start trace).isSome = true) :
    ∃ state, Run step (each legal) start trace state := by
  obtain ⟨state, replayed⟩ := Option.isSome_iff_exists.mp defined
  exact ⟨state, run_of_replay legalTrace replayed⟩

end TraceRun

end KinuxKernel
