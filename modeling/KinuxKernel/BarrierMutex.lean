import KinuxKernel.BarrierSystem

/-!
# Mutual exclusion on the counters of a barrier

Both critical sections of `barrier_wait` take `barrier_lock` with
`mutex_lock_interruptible` and ignore its result.  As long as no signal
interrupts a lock operation, the owner of the lock is the one thread in a
critical section; the first interrupted lock operation puts a thread into a
critical section that it does not own.
-/

namespace KinuxKernel

namespace BarrierSys

open TraceRun ThreadPoints

namespace WaitPoint

/-- Statements that read or write `left`, `sync_num` or `timeout_flag`. -/
def touchesCounters : WaitPoint → Bool
  | .testFirst | .decrementLeft | .testLeft | .incrementLeft | .testAllLeft
  | .clearTimeoutFlag | .incrementSyncNum | .testTimeoutFlag | .incrementLeftLast => true
  | _ => false

/-- The calls of `mutex_unlock`. -/
def unlocks : WaitPoint → Bool
  | .unlockSleep | .unlock _ => true
  | _ => false

/-- The calls of `mutex_lock_interruptible`. -/
def locks : WaitPoint → Bool
  | .lockArrive | .lockLeave => true
  | _ => false

end WaitPoint

/-- A `mutex_lock_interruptible` that returns `-EINTR`. -/
def Event.FailedLock {Thread : Type*} : Event Thread → Prop
  | .signal _ point => point.locks = true
  | _ => False

variable {Thread : Type*} [DecidableEq Thread]

/-- Runs in which signals may end any interruptible operation. -/
abbrev SignalRun (start : System Thread) : List (Event Thread) → System Thread → Prop :=
  Run step (each fun _ => True) start

/-- The other statements neither read nor write the counters. -/
theorem execute_counters (thread : Thread) (barrier : Barrier Thread) {point : WaitPoint}
    (elsewhere : point.touchesCounters = false) (left syncNum : BitVec 32)
    (timeoutFlag : Bool) :
    execute thread
        { barrier with left := left, syncNum := syncNum, timeoutFlag := timeoutFlag } point =
      (execute thread barrier point).map fun result =>
        ({ result.1 with left := left, syncNum := syncNum, timeoutFlag := timeoutFlag },
          result.2) := by
  cases point <;> simp only [WaitPoint.touchesCounters, reduceCtorEq] at elsewhere
  case gate | lockArrive | sleep | lockLeave | cancelTimer =>
    simp only [execute]
    split <;> rfl
  all_goals rfl

/-- At most one thread is in a critical section, and the counters and the
unlock operations are its owner's. -/
structure Exclusive (system : System Thread) : Prop where
  alone : ∀ first second, (system.point first).holdsLock = true →
    (system.point second).holdsLock = true → first = second
  access : ∀ thread, (system.point thread).touchesCounters = true →
    system.barrier.barrierLock = some thread
  unlock : ∀ thread, (system.point thread).unlocks = true →
    system.barrier.barrierLock = some thread

/-- The critical sections exclude each other in every state of a run. -/
def AlwaysExclusive (start : System Thread) (trace : List (Event Thread)) : Prop :=
  ∀ earlier before, earlier <:+ trace → replay step start earlier = some before →
    Exclusive before

/-- The lock's owner is the thread in a critical section. -/
abbrev Locked (system : System Thread) : Prop :=
  OwnedAt WaitPoint.holdsLock system.point system.barrier.barrierLock

variable {system after : System Thread} {event : Event Thread} {thread : Thread}
  {point target : WaitPoint} {barrier : Barrier Thread}

omit [DecidableEq Thread] in
theorem Locked.exclusive (locked : Locked system) : Exclusive system where
  alone _ _ := locked.unique
  access thread touches := (locked thread).mp (by
    revert touches
    cases system.point thread <;> simp [WaitPoint.touchesCounters, WaitPoint.holdsLock])
  unlock thread unlocks := (locked thread).mp (by
    revert unlocks
    cases system.point thread <;> simp [WaitPoint.unlocks, WaitPoint.holdsLock])

theorem Locked.exec (locked : Locked system) (atPoint : system.point thread = point)
    (executes : Executes thread system.barrier point barrier target) :
    Locked ⟨barrier, Function.update system.point thread target⟩ := by
  have kept (same : target.holdsLock = point.holdsLock) :
      OwnedAt WaitPoint.holdsLock (Function.update system.point thread target)
        system.barrier.barrierLock :=
    locked.move (by rw [same, atPoint])
  have owns (holds : point.holdsLock = true) : system.barrier.barrierLock = some thread :=
    (locked thread).mp (by rwa [atPoint])
  cases executes with
  | lockArrive free | lockLeave free =>
      have unowned := locked
      rw [Locked, free] at unowned
      exact unowned.acquire rfl
  | unlockSleep | unlock =>
      have owned := locked
      rw [Locked, owns rfl] at owned
      exact owned.release rfl
  | _ => exact kept rfl

/-- What a signal can do to each of the four interruptible operations. -/
theorem interrupt_cases {result : Barrier Thread × WaitPoint}
    (interrupted : interrupt thread barrier point = some result) :
    ((point = .gate ∧ result.2 = .lockArrive ∨ point = .sleep ∧ result.2 = .lockLeave) ∧
      result.1 = barrier.finishWait thread) ∨
    ((point = .lockArrive ∧ result.2 = .testFirst ∨
      point = .lockLeave ∧ result.2 = .incrementLeft) ∧ result.1 = barrier) := by
  cases point <;> simp only [interrupt, reduceCtorEq, Option.some.injEq] at interrupted <;>
    simp [← interrupted]

/-- Every event but a failed lock operation keeps the owner of the lock the one
thread in a critical section. -/
theorem Locked.step (locked : Locked system) (acquired : ¬ event.FailedLock)
    (stepTo : BarrierSys.step system event = some after) : Locked after := by
  have effect := step_eq_some_iff.mp stepTo
  cases event with
  | exec thread point =>
      obtain ⟨atPoint, ⟨barrier, target⟩, executed, rfl⟩ := effect
      exact locked.exec atPoint (executes_of_execute executed)
  | block thread =>
      obtain ⟨barrier, blocked, rfl⟩ := effect
      obtain ⟨-, rfl⟩ := block_eq_some_iff.mp blocked
      exact locked
  | signal thread point =>
      obtain ⟨atPoint, ⟨barrier, target⟩, interrupted, rfl⟩ := effect
      rcases interrupt_cases interrupted with ⟨woken, rfl⟩ | ⟨failed, -⟩
      · refine locked.move ?_
        rcases woken with ⟨rfl, rfl⟩ | ⟨rfl, rfl⟩ <;> rw [atPoint] <;> rfl
      · refine (acquired ?_).elim
        rcases failed with ⟨rfl, -⟩ | ⟨rfl, -⟩ <;> rfl
  | expire =>
      obtain ⟨-, rfl⟩ := effect
      exact locked

/-- A thread whose lock operation failed is about to touch counters that it does
not own. -/
theorem Locked.breaks (locked : Locked system) (failed : event.FailedLock)
    (stepTo : BarrierSys.step system event = some after) : ¬ Exclusive after := by
  have effect := step_eq_some_iff.mp stepTo
  cases event with
  | exec | block | expire => exact failed.elim
  | signal thread point =>
      obtain ⟨atPoint, ⟨barrier, target⟩, interrupted, rfl⟩ := effect
      change point.locks = true at failed
      rcases interrupt_cases interrupted with ⟨⟨rfl, -⟩ | ⟨rfl, -⟩, -⟩ | ⟨entered, rfl⟩
      · simp [WaitPoint.locks] at failed
      · simp [WaitPoint.locks] at failed
      · intro exclusive
        have owns : system.barrier.barrierLock = some thread := exclusive.access thread (by
          rcases entered with ⟨-, rfl⟩ | ⟨-, rfl⟩ <;> simp [WaitPoint.touchesCounters])
        have outside := (locked thread).mpr owns
        rcases entered with ⟨rfl, -⟩ | ⟨rfl, -⟩ <;> simp [atPoint, WaitPoint.holdsLock] at outside

section Created

variable {memory : Barrier Thread} {barrierId count : BitVec 32} {timeout tgid : Int}
  {trace : List (Event Thread)}

omit [DecidableEq Thread] in
theorem Locked.created : Locked (created memory barrierId count timeout tgid) := by
  intro thread
  simp [BarrierSys.created, Barrier.initialise, WaitPoint.holdsLock]

theorem SignalRun.locked
    (run : SignalRun (BarrierSys.created memory barrierId count timeout tgid) trace system)
    (acquired : ∀ event ∈ trace, ¬ event.FailedLock) : Locked system := by
  induction run with
  | start => exact .created
  | next _ _ stepTo ih =>
      rw [List.forall_mem_cons] at acquired
      exact (ih acquired.2).step acquired.1 stepTo

/-- The critical sections exclude each other throughout a run of any number of
threads exactly when no `mutex_lock_interruptible` of the run is interrupted. -/
theorem mutual_exclusion_iff
    (run : SignalRun (BarrierSys.created memory barrierId count timeout tgid) trace system) :
    AlwaysExclusive (BarrierSys.created memory barrierId count timeout tgid) trace ↔
      ∀ event ∈ trace, ¬ event.FailedLock := by
  constructor
  · intro exclusive
    induction run with
    | start => simp
    | @next trace before after event earlier legal stepTo ih =>
        have acquired := ih fun past state suffix =>
          exclusive past state (suffix.trans (List.suffix_cons event trace))
        refine List.forall_mem_cons.mpr ⟨fun failed => ?_, acquired⟩
        refine (SignalRun.locked earlier acquired).breaks failed stepTo ?_
        exact exclusive _ after (List.suffix_refl _) (earlier.next legal stepTo).replay_eq
  · intro acquired earlier before suffix replayed
    have past : SignalRun (BarrierSys.created memory barrierId count timeout tgid) earlier
        before := run_of_replay (by simp) replayed
    exact (past.locked fun event member => acquired event (suffix.subset member)).exclusive

end Created

/-- The owner is in its first critical section when a signal interrupts the lock
operation of another thread. -/
def interruptedLock {Thread : Type*} (owner other : Thread) : List (Event Thread) :=
  [.signal other .lockArrive, .exec other .gate, .exec other .idle, .exec owner .lockArrive,
    .exec owner .gate, .exec owner .idle]

theorem both_in_critical_section :
    ∃ system, SignalRun (created .zeroed 1 2 0 0 : System (Fin 2)) (interruptedLock 0 1) system ∧
      ¬ AlwaysExclusive (created .zeroed 1 2 0 0 : System (Fin 2)) (interruptedLock 0 1) := by
  have run : SignalRun (created .zeroed 1 2 0 0 : System (Fin 2)) (interruptedLock 0 1) _ :=
    run_of_replay (by simp) rfl
  refine ⟨_, run, fun exclusive => ?_⟩
  have same := (exclusive _ _ (List.suffix_refl _) run.replay_eq).alone 0 1 rfl rfl
  simp at same

theorem mutual_exclusion_uninterrupted :
    AlwaysExclusive (created .zeroed 1 2 0 0 : System (Fin 2)) (interruptedLock 0 1).tail := by
  obtain ⟨system, run⟩ : ∃ system, SignalRun (created .zeroed 1 2 0 0 : System (Fin 2))
      (interruptedLock 0 1).tail system := exists_run_of_replay (by simp) (by decide +kernel)
  exact (mutual_exclusion_iff run).mpr (by simp [interruptedLock, Event.FailedLock])

end BarrierSys

end KinuxKernel
