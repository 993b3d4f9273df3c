import KinuxKernel.BarrierStatements
import KinuxKernel.ThreadPoints
import KinuxKernel.TraceRun

/-!
# One barrier and its threads

All interleavings of the `barrier_wait` calls on one barrier: any thread may
execute its next statement, the timer may expire between any two statements
while it is armed, a waiting thread may enter the wait queue, and a signal may
end an interruptible operation.  `Executes` says once what each statement can
do; the later files argue by cases on it.
-/

namespace KinuxKernel

namespace BarrierSys

open TraceRun ThreadPoints

/-- A barrier and the statement each thread executes next. -/
structure System (Thread : Type*) where
  barrier : Barrier Thread
  point : Thread → WaitPoint

inductive Event (Thread : Type*) where
  | exec (thread : Thread) (point : WaitPoint)
  | block (thread : Thread)
  | signal (thread : Thread) (point : WaitPoint)
  | expire
deriving DecidableEq

/-- Events of a run in which no signal is delivered. -/
def Event.Quiet {Thread : Type*} : Event Thread → Prop
  | .signal _ _ => False
  | _ => True

/-- The state after `barrier_init`, before any thread calls `barrier_wait`. -/
def created {Thread : Type*} (memory : Barrier Thread) (barrierId count : BitVec 32)
    (timeout tgid : Int) : System Thread :=
  ⟨memory.initialise barrierId count timeout tgid, fun _ => .idle⟩

variable {Thread : Type*} [DecidableEq Thread]

/-- One event of the system; undefined where the event cannot happen. -/
def step (system : System Thread) : Event Thread → Option (System Thread)
  | .exec thread point =>
      if system.point thread = point then
        (execute thread system.barrier point).map fun result =>
          ⟨result.1, Function.update system.point thread result.2⟩
      else none
  | .block thread =>
      (block thread system.barrier (system.point thread)).map fun barrier =>
        ⟨barrier, system.point⟩
  | .signal thread point =>
      if system.point thread = point then
        (interrupt thread system.barrier point).map fun result =>
          ⟨result.1, Function.update system.point thread result.2⟩
      else none
  | .expire =>
      if system.barrier.hrTimer.isSome then
        some ⟨system.barrier.myCallback, system.point⟩
      else none

/-- Runs without signals. -/
abbrev QuietRun (start : System Thread) : List (Event Thread) → System Thread → Prop :=
  Run step (each Event.Quiet) start

theorem QuietRun.extend {start before after : System Thread} {trace : List (Event Thread)}
    (run : QuietRun start trace before) (event : Event Thread) (quiet : event.Quiet)
    (stepTo : step before event = some after) : QuietRun start (event :: trace) after :=
  Run.next run quiet stepTo

/-- What a statement can do: its effect and its successor, with the condition
under which it is executed. -/
inductive Executes (thread : Thread) (barrier : Barrier Thread) :
    WaitPoint → Barrier Thread → WaitPoint → Prop
  | idle : Executes thread barrier .idle barrier .gate
  | gate : barrier.condFlag = 0 →
      Executes thread barrier .gate (barrier.finishWait thread) .lockArrive
  | lockArrive : barrier.barrierLock = none →
      Executes thread barrier .lockArrive
        { barrier with barrierLock := some thread } .testFirst
  | arm : barrier.left = barrier.initCount → 0 < barrier.timeout →
      Executes thread barrier .testFirst barrier .startTimer
  | join : (barrier.left = barrier.initCount → ¬ 0 < barrier.timeout) →
      Executes thread barrier .testFirst barrier .decrementLeft
  | startTimer : Executes thread barrier .startTimer
      { barrier with hrTimer := some barrier.ktime } .decrementLeft
  | decrementLeft : Executes thread barrier .decrementLeft
      { barrier with left := barrier.left - 1 } .testLeft
  | early : barrier.left ≠ 0 → Executes thread barrier .testLeft barrier .unlockSleep
  | last : barrier.left = 0 → Executes thread barrier .testLeft barrier .cancelTimer
  | unlockSleep : Executes thread barrier .unlockSleep
      { barrier with barrierLock := none } .sleep
  | sleep : barrier.condFlag = 1 →
      Executes thread barrier .sleep (barrier.finishWait thread) .lockLeave
  | lockLeave : barrier.barrierLock = none →
      Executes thread barrier .lockLeave
        { barrier with barrierLock := some thread } .incrementLeft
  | incrementLeft : Executes thread barrier .incrementLeft
      { barrier with left := barrier.left + 1 } .testAllLeft
  | allLeft : barrier.left = barrier.initCount →
      Executes thread barrier .testAllLeft barrier .clearTimeoutFlag
  | someLeft : barrier.left ≠ barrier.initCount →
      Executes thread barrier .testAllLeft barrier .testTimeoutFlag
  | clearTimeoutFlag : Executes thread barrier .clearTimeoutFlag
      { barrier with timeoutFlag := false } .clearCondFlag
  | clearCondFlag : Executes thread barrier .clearCondFlag
      { barrier with condFlag := 0 } .incrementSyncNum
  | incrementSyncNum : Executes thread barrier .incrementSyncNum
      { barrier with syncNum := barrier.syncNum + 1 } .wakeGate
  | wakeGate : Executes thread barrier .wakeGate barrier.wakeUpAll .testTimeoutFlag
  | testTimeoutFlag : Executes thread barrier .testTimeoutFlag barrier
      (.unlock (if barrier.timeoutFlag then -ETIME else 0))
  | cancelTimer : 0 < barrier.timeout →
      Executes thread barrier .cancelTimer { barrier with hrTimer := none } .setCondFlag
  | noTimer : ¬ 0 < barrier.timeout →
      Executes thread barrier .cancelTimer barrier .setCondFlag
  | setCondFlag : Executes thread barrier .setCondFlag
      { barrier with condFlag := 1 } .wakeSleepers
  | wakeSleepers : Executes thread barrier .wakeSleepers barrier.wakeUpAll .incrementLeftLast
  | incrementLeftLast : Executes thread barrier .incrementLeftLast
      { barrier with left := barrier.left + 1 } (.unlock 0)
  | unlock (code : Int) : Executes thread barrier (.unlock code)
      { barrier with barrierLock := none } (.ret code)
  | ret (code : Int) : Executes thread barrier (.ret code) barrier .idle

theorem executes_of_execute {thread : Thread} {barrier after : Barrier Thread}
    {point target : WaitPoint}
    (executed : execute thread barrier point = some (after, target)) :
    Executes thread barrier point after target := by
  cases point <;> simp only [execute, Option.some.injEq, Prod.mk.injEq,
    Option.ite_none_right_eq_some] at executed
  case gate | lockArrive | sleep | lockLeave =>
    obtain ⟨condition, rfl, rfl⟩ := executed
    constructor
    exact condition
  case testFirst =>
    obtain ⟨rfl, rfl⟩ := executed
    split
    · exact .arm (by simp_all) (by simp_all)
    · exact .join (by simp_all)
  case testLeft =>
    obtain ⟨rfl, rfl⟩ := executed
    split
    · exact .early (by assumption)
    · exact .last (by simp_all)
  case testAllLeft =>
    obtain ⟨rfl, rfl⟩ := executed
    split
    · exact .allLeft (by assumption)
    · exact .someLeft (by assumption)
  case cancelTimer =>
    obtain ⟨rfl, rfl⟩ := executed
    split
    · exact .cancelTimer (by assumption)
    · exact .noTimer (by assumption)
  all_goals
    obtain ⟨rfl, rfl⟩ := executed
    constructor

/-- What a thread's entry into the wait queue requires and changes. -/
theorem block_eq_some_iff {thread : Thread} {barrier after : Barrier Thread}
    {point : WaitPoint} :
    block thread barrier point = some after ↔
      ((point = .gate ∧ barrier.condFlag ≠ 0) ∨ (point = .sleep ∧ barrier.condFlag ≠ 1)) ∧
        after = barrier.prepareToWait thread := by
  cases point <;> simp [block, eq_comm]

theorem step_eq_some_iff {system after : System Thread} {event : Event Thread} :
    step system event = some after ↔
      match event with
      | .exec thread point => system.point thread = point ∧
          ∃ result, execute thread system.barrier point = some result ∧
            after = ⟨result.1, Function.update system.point thread result.2⟩
      | .block thread => ∃ barrier,
          block thread system.barrier (system.point thread) = some barrier ∧
            after = ⟨barrier, system.point⟩
      | .signal thread point => system.point thread = point ∧
          ∃ result, interrupt thread system.barrier point = some result ∧
            after = ⟨result.1, Function.update system.point thread result.2⟩
      | .expire => system.barrier.hrTimer.isSome ∧
          after = ⟨system.barrier.myCallback, system.point⟩ := by
  cases event <;> simp only [step, Option.ite_none_right_eq_some, Option.map_eq_some_iff,
    Option.some.injEq, eq_comm (a := after)]

/-- Every step of a run without signals is a statement, an entry into the wait
queue or an expiry of the timer. -/
theorem quiet_cases {system after : System Thread} {event : Event Thread}
    (quiet : event.Quiet) (stepTo : step system event = some after) :
    (∃ thread point barrier target, event = .exec thread point ∧
      system.point thread = point ∧ Executes thread system.barrier point barrier target ∧
      after = ⟨barrier, Function.update system.point thread target⟩) ∨
    (∃ thread, event = .block thread ∧
      after = ⟨system.barrier.prepareToWait thread, system.point⟩) ∨
    (event = .expire ∧ system.barrier.hrTimer.isSome ∧
      after = ⟨system.barrier.myCallback, system.point⟩) := by
  have effect := step_eq_some_iff.mp stepTo
  cases event with
  | exec thread point =>
      obtain ⟨atPoint, ⟨barrier, target⟩, executed, rfl⟩ := effect
      exact .inl ⟨thread, point, barrier, target, rfl, atPoint,
        executes_of_execute executed, rfl⟩
  | block thread =>
      obtain ⟨barrier, blocked, rfl⟩ := effect
      obtain ⟨-, rfl⟩ := block_eq_some_iff.mp blocked
      exact .inr (.inl ⟨thread, rfl, rfl⟩)
  | signal thread point => exact quiet.elim
  | expire => exact .inr (.inr ⟨rfl, effect⟩)

theorem step_exec {system : System Thread} {thread : Thread} {point target : WaitPoint}
    {barrier : Barrier Thread} (atPoint : system.point thread = point)
    (executed : execute thread system.barrier point = some (barrier, target)) :
    step system (.exec thread point) =
      some ⟨barrier, Function.update system.point thread target⟩ := by
  simp [step, atPoint, executed]

/-- What `barrier_init` alone assigns: nothing that happens to a barrier changes
its process, its id, its count or its timeout. -/
structure SameSetup (barrier after : Barrier Thread) : Prop where
  tgid : after.tgid = barrier.tgid
  barrierId : after.barrierId = barrier.barrierId
  initCount : after.initCount = barrier.initCount
  timeout : after.timeout = barrier.timeout

theorem sameSetup_of_step {system after : System Thread} {event : Event Thread}
    (stepTo : step system event = some after) :
    SameSetup system.barrier after.barrier := by
  have effect := step_eq_some_iff.mp stepTo
  cases event with
  | exec thread point =>
      obtain ⟨-, ⟨barrier, target⟩, executed, rfl⟩ := effect
      cases executes_of_execute executed <;> exact ⟨rfl, rfl, rfl, rfl⟩
  | block thread =>
      obtain ⟨barrier, blocked, rfl⟩ := effect
      obtain ⟨-, rfl⟩ := block_eq_some_iff.mp blocked
      exact ⟨rfl, rfl, rfl, rfl⟩
  | signal thread point =>
      obtain ⟨-, ⟨barrier, target⟩, interrupted, rfl⟩ := effect
      cases point <;> simp only [interrupt, reduceCtorEq, Option.some.injEq,
        Prod.mk.injEq] at interrupted <;> obtain ⟨rfl, -⟩ := interrupted <;>
        exact ⟨rfl, rfl, rfl, rfl⟩
  | expire =>
      obtain ⟨-, rfl⟩ := effect
      exact ⟨rfl, rfl, rfl, rfl⟩

section Created

variable {memory : Barrier Thread} {barrierId count : BitVec 32} {timeout tgid : Int}
  {trace : List (Event Thread)} {system : System Thread}

/-- In every run without signals the barrier keeps its count and timeout. -/
theorem QuietRun.constant
    (run : QuietRun (BarrierSys.created memory barrierId count timeout tgid) trace system) :
    system.barrier.initCount = count ∧ system.barrier.timeout = timeout := by
  induction run with
  | start => exact ⟨rfl, rfl⟩
  | next _ _ stepTo same =>
      have setup := sameSetup_of_step stepTo
      exact ⟨setup.initCount.trans same.1, setup.timeout.trans same.2⟩

end Created

end BarrierSys

end KinuxKernel
