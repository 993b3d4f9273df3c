import KinuxKernel.BarrierExpiry
import KinuxKernel.BarrierMembers
import KinuxKernel.BarrierProgress
import KinuxKernel.BarrierRounds
import Mathlib.Algebra.BigOperators.Ring.Finset
import Mathlib.Algebra.Order.BigOperators.Group.Finset

/-!
# The threads of the user program

`Threadfn` of `user.c`: every thread of a group calls `barrier_wait` in a loop
of `sync_num` cycles.  The loops of all threads of a barrier are a second level
over the steps of the barrier.  Under every schedule they execute a bounded
number of statements; when nothing is left to do, they have completed all their
cycles or, with too few threads and no timeout, none.
-/

namespace KinuxKernel

namespace BarrierSys

open TraceRun ThreadPoints

/-- The threads that `ChildProcess` creates for a barrier: the barrier with the
statement each thread executes next, the loop counters, and how often each
thread has printed that the synchronisation failed. -/
structure Workload (Thread : Type*) where
  system : System Thread
  i : Thread → Nat
  failed : Thread → Nat

namespace Workload

section Steps

variable {Thread : Type*}

/-- All threads are about to enter the loop. -/
def started (system : System Thread) : Workload Thread :=
  ⟨system, fun _ => 0, fun _ => 0⟩

variable [DecidableEq Thread]

/-- One event of the loops.  A thread calls `barrier_wait` as long as
`i < sync_num`; when the call returns it tests the result and increments `i`. -/
def step (syncNum : Int) (workload : Workload Thread) (event : Event Thread) :
    Option (Workload Thread) :=
  (BarrierSys.step workload.system event).bind fun system =>
    match event with
    | .exec thread .idle =>
        if (workload.i thread : Int) < syncNum then some { workload with system } else none
    | .exec thread (.ret code) =>
        some
          { system
            i := Function.update workload.i thread (workload.i thread + 1)
            failed :=
              if code < 0 then
                Function.update workload.failed thread (workload.failed thread + 1)
              else workload.failed }
    | _ => some { workload with system }

/-- Runs of the loops without signals. -/
abbrev QuietRun (syncNum : Int) (start : Workload Thread) :
    List (Event Thread) → Workload Thread → Prop :=
  Run (step syncNum) (each Event.Quiet) start

/-- No thread can execute a statement, and the timer cannot expire. -/
def Over (syncNum : Int) (workload : Workload Thread) : Prop :=
  (∀ thread point, step syncNum workload (.exec thread point) = none) ∧
    step syncNum workload .expire = none

/-- A return with a negative result. -/
def returnsError : WaitPoint → Bool
  | .ret code => code < 0
  | _ => false

variable {syncNum : Int} {workload after : Workload Thread} {event : Event Thread}

/-- What one event does: a step of the barrier, which the loop condition may
hold back, and the bookkeeping of the loop. -/
theorem step_spec (stepTo : step syncNum workload event = some after) :
    BarrierSys.step workload.system event = some after.system ∧
    (∀ thread, event = .exec thread .idle → (workload.i thread : Int) < syncNum) ∧
    (∀ thread, after.i thread =
      workload.i thread + (event.executesBy thread WaitPoint.returns).toNat) ∧
    ∀ thread, after.failed thread =
      workload.failed thread + (event.executesBy thread returnsError).toNat := by
  obtain ⟨system, moved, counted⟩ := Option.bind_eq_some_iff.mp stepTo
  split at counted
  · next mover =>
      obtain ⟨guard, same⟩ := Option.ite_none_right_eq_some.mp counted
      obtain rfl := Option.some.inj same
      refine ⟨moved, ?_, ?_, ?_⟩
      · intro thread same
        obtain ⟨rfl, -⟩ := Event.exec.inj same
        exact guard
      · intro thread
        simp [Event.executesBy, WaitPoint.returns]
      · intro thread
        simp [Event.executesBy, returnsError]
  · next mover code =>
      obtain rfl := Option.some.inj counted
      refine ⟨moved, by simp, fun thread => ?_, fun thread => ?_⟩
      · by_cases own : mover = thread
        · simp [own, Event.executesBy, WaitPoint.returns]
        · simp [own, Ne.symm own, Event.executesBy]
      · by_cases own : mover = thread
        · by_cases negative : code < 0 <;>
            simp [own, negative, Event.executesBy, returnsError]
        · by_cases negative : code < 0 <;>
            simp [own, Ne.symm own, negative, Event.executesBy]
  · next others notCall notReturn =>
      obtain rfl := Option.some.inj counted
      refine ⟨moved, fun thread same => absurd same (notCall thread), ?_, ?_⟩
      all_goals
        intro thread
        cases event with
        | exec mover point =>
            have silent : WaitPoint.returns point = false ∧ returnsError point = false := by
              cases point <;> simp_all [WaitPoint.returns, returnsError]
            simp [Event.executesBy, silent]
        | block | signal | expire => simp [Event.executesBy]

/-- Only the loop condition holds a step of the barrier back. -/
theorem step_isSome (thread : Thread) (point : WaitPoint)
    (moves : (BarrierSys.step workload.system (.exec thread point)).isSome)
    (goesOn : point = .idle → (workload.i thread : Int) < syncNum) :
    (step syncNum workload (.exec thread point)).isSome := by
  obtain ⟨system, moved⟩ := Option.isSome_iff_exists.mp moves
  unfold step
  rw [moved]
  cases point with
  | idle => simp [goesOn rfl]
  | _ => simp

theorem Over.halted (still : Over syncNum workload) : Halted workload.system := by
  intro thread busy enabled
  have possible : (step syncNum workload (.exec thread (workload.system.point thread))).isSome :=
    step_isSome thread _ enabled fun idle => absurd idle busy
  simp [still.1] at possible

/-- An idle thread has left the loop. -/
theorem Over.left_loop (still : Over syncNum workload) {thread : Thread}
    (idle : workload.system.point thread = .idle) : syncNum ≤ workload.i thread := by
  by_contra goesOn
  have enabled : (BarrierSys.step workload.system (.exec thread .idle)).isSome := by
    simp [BarrierSys.step, idle, execute]
  have possible : (step syncNum workload (.exec thread .idle)).isSome :=
    step_isSome thread .idle enabled fun _ => not_le.mp goesOn
  simp [still.1] at possible

theorem Over.timer_off (still : Over syncNum workload) :
    workload.system.barrier.hrTimer = none := by
  have notPossible := still.2
  simpa [step, BarrierSys.step] using notPossible

/-- A workload is over when all calls wait, all other threads have left the loop
and no timer is pending. -/
theorem over_of_halted (halted : Halted workload.system)
    (left : ∀ thread, workload.system.point thread = .idle → syncNum ≤ workload.i thread)
    (timer : workload.system.barrier.hrTimer = none) : Over syncNum workload := by
  refine ⟨fun thread point => ?_, by simp [step, BarrierSys.step, timer]⟩
  rw [Option.eq_none_iff_forall_not_mem]
  intro after stepTo
  obtain ⟨moved, guard, -, -⟩ := step_spec stepTo
  obtain ⟨atPoint, -⟩ := step_eq_some_iff.mp moved
  by_cases idle : point = .idle
  · have finished := left thread (atPoint.trans idle)
    have goesOn := guard thread (by rw [idle])
    omega
  · apply halted thread (by rwa [atPoint])
    rw [Enabled, atPoint, moved]
    rfl

end Steps

section Runs

variable {Thread : Type*} [DecidableEq Thread] {syncNum : Int} {workload : Workload Thread}
  {trace : List (Event Thread)}

/-- The barrier does not see the loops. -/
theorem QuietRun.project {start : System Thread}
    (run : QuietRun syncNum (started start) trace workload) :
    BarrierSys.QuietRun start trace workload.system := by
  induction run with
  | start => exact .start
  | next _ quiet stepTo earlier => exact .next earlier quiet (step_spec stepTo).1

/-- The loop counter is the number of completed calls. -/
theorem QuietRun.counts {start : System Thread}
    (run : QuietRun syncNum (started start) trace workload) (thread : Thread) :
    workload.i thread = completed thread trace ∧
      workload.failed thread = executedBy thread returnsError trace := by
  induction run with
  | start => exact ⟨rfl, rfl⟩
  | next _ _ stepTo counts =>
      obtain ⟨-, -, advanced, printed⟩ := step_spec stepTo
      simp only [completed, executedBy, List.countP_cons] at counts ⊢
      rw [advanced, printed, counts.1, counts.2]
      constructor <;> split <;> simp_all

/-- A schedule that can be executed and leaves nothing to do. -/
theorem exists_over_run {start : Workload Thread} (quiet : ∀ event ∈ trace, event.Quiet)
    (ends : ∃ workload ∈ replay (step syncNum) start trace, Halted workload.system ∧
      (∀ thread, workload.system.point thread = .idle → syncNum ≤ workload.i thread) ∧
      workload.system.barrier.hrTimer = none) :
    ∃ workload, QuietRun syncNum start trace workload ∧ Over syncNum workload := by
  obtain ⟨workload, replayed, halted, left, timer⟩ := ends
  exact ⟨workload, run_of_replay quiet replayed, over_of_halted halted left timer⟩

variable {memory : Barrier Thread} {barrierId count : BitVec 32} {timeout tgid : Int}

/-- No thread begins more than `sync_num` calls. -/
theorem QuietRun.calls_le
    (run : QuietRun syncNum (started (created memory barrierId count timeout tgid)) trace
      workload) (thread : Thread) : calls thread trace ≤ syncNum.toNat := by
  induction run with
  | start => simp [calls, executedBy]
  | @next trace before after event earlier quiet stepTo bounded =>
      obtain ⟨moved, guard, -, -⟩ := step_spec stepTo
      by_cases entering : event = .exec thread .idle
      · have below := guard thread entering
        have counter := (QuietRun.counts earlier thread).1
        have balance := (QuietRun.project earlier).balance call_delimited thread
        subst entering
        have atPoint := (step_eq_some_iff.mp moved).1
        simp only [atPoint, WaitPoint.inCall, ne_eq, not_true_eq_false, decide_false,
          Bool.toNat_false, Nat.add_zero] at balance
        simp only [calls, completed] at bounded counter balance ⊢
        simp
        omega
      · have same : calls thread (event :: trace) = calls thread trace := by
          cases event with
          | exec mover point =>
              rcases not_and_or.mp (fun both : mover = thread ∧ point = .idle =>
                entering (by rw [both.1, both.2])) with away | away <;> simp [calls, away]
          | block | expire => simp [calls]
          | signal => exact quiet.elim
        omega

variable [Fintype Thread]

/-- The loops execute a bounded number of statements, and the timer expires a
bounded number of times, under every schedule. -/
theorem QuietRun.bounded
    (run : QuietRun syncNum (started (created memory barrierId count timeout tgid)) trace
      workload) :
    executed (fun _ => true) trace ≤ longestCall * (Fintype.card Thread * syncNum.toNat) ∧
      expiries trace ≤ Fintype.card Thread * syncNum.toNat := by
  have inner := run.project
  have allCalls : ∑ thread, calls thread trace ≤ Fintype.card Thread * syncNum.toNat := by
    have each := Finset.sum_le_card_nsmul Finset.univ (fun thread => calls thread trace)
      syncNum.toNat fun thread _ => run.calls_le thread
    simpa using each
  constructor
  · rw [executed_eq_sum]
    calc ∑ thread, executedBy thread (fun _ => true) trace
        ≤ ∑ thread, longestCall * calls thread trace :=
          Finset.sum_le_sum fun thread _ => inner.statements_le thread
      _ = longestCall * ∑ thread, calls thread trace := (Finset.mul_sum ..).symm
      _ ≤ longestCall * (Fintype.card Thread * syncNum.toNat) := Nat.mul_le_mul_left _ allCalls
  · have started := inner.expiries_le
    rw [executed_eq_sum] at started
    have starts : ∑ thread, executedBy thread (· = .startTimer) trace ≤
        ∑ thread, calls thread trace :=
      Finset.sum_le_sum fun thread _ => inner.starts_le thread
    omega

/-- The barrier as `barrier_init` leaves it, with an empty queue. -/
structure Resting (barrier : Barrier Thread) : Prop where
  left : barrier.left = barrier.initCount
  condFlag : barrier.condFlag = 0
  barrierLock : barrier.barrierLock = none
  hrTimer : barrier.hrTimer = none
  myQueue : barrier.myQueue = []

/-- A barrier that no call uses is at rest. -/
theorem resting_of_idle {system : System Thread} (several : 2 ≤ count.toNat)
    (run : BarrierSys.QuietRun (created memory barrierId count timeout tgid) trace system)
    (idle : ∀ thread, system.point thread = .idle) : Resting system.barrier := by
  obtain ⟨accounting, -, -, notOne⟩ := run.counted several
  have halted : Halted system := fun thread busy => absurd (idle thread) busy
  have unlocked := halted.unlocked accounting
  have rest := accounting.free unlocked
  have empty : inside system = 0 :=
    countAt_eq_zero_iff.mpr fun thread => by rw [idle thread]; rfl
  refine ⟨(accounting.balanced.left_eq_initCount_iff rest.room).mpr empty,
    halted.flag_down accounting notOne, unlocked, ?_, ?_⟩
  · by_contra armed
    have occupied := (rest.armed (Option.isSome_iff_ne_none.mpr armed)).2
    omega
  · rw [List.eq_nil_iff_forall_not_mem]
    intro thread member
    simpa [idle thread] using run.queued.waiting thread member

omit [Fintype Thread] in
/-- A thread that has left its loop has completed its cycles. -/
theorem QuietRun.all_cycles
    (run : QuietRun syncNum (started (created memory barrierId count timeout tgid)) trace
      workload) {thread : Thread} (idle : workload.system.point thread = .idle)
    (finished : syncNum ≤ workload.i thread) : workload.i thread = syncNum.toNat := by
  have counter := (run.counts thread).1
  have balance := run.project.balance call_delimited thread
  have bounded := run.calls_le thread
  rw [idle] at balance
  simp only [WaitPoint.inCall, ne_eq, not_true_eq_false, decide_false, Bool.toNat_false,
    Nat.add_zero] at balance
  simp only [calls, completed] at counter bounded balance
  omega

/-- Without a timeout no call of a barrier whose flag was clear fails. -/
theorem QuietRun.failed_eq_zero (several : 2 ≤ count.toNat) (untimed : timeout ≤ 0)
    (lowered : memory.timeoutFlag = false)
    (run : QuietRun syncNum (started (created memory barrierId count timeout tgid)) trace
      workload) (thread : Thread) : workload.failed thread = 0 := by
  induction run with
  | start => rfl
  | @next trace before after event earlier quiet stepTo none =>
      obtain ⟨moved, -, -, printed⟩ := step_spec stepTo
      have succeeds : event.executesBy thread returnsError = false := by
        cases event with
        | exec mover point =>
            cases point with
            | ret code =>
                have zero := (QuietRun.project earlier).code_eq_zero several untimed lowered
                have atPoint := (step_eq_some_iff.mp moved).1
                simp [Event.executesBy, returnsError, zero.2 mover code (.inr atPoint)]
            | _ => simp [Event.executesBy, returnsError]
        | block | signal | expire => rfl
      rw [printed, none, succeeds]
      rfl

/-- With exactly `count` threads and no timeout, nobody is asleep for good. -/
theorem Over.all_idle (several : 2 ≤ count.toNat) (untimed : timeout ≤ 0)
    (exactly : Fintype.card Thread = count.toNat) (still : Over syncNum workload)
    (run : QuietRun syncNum (started (created memory barrierId count timeout tgid)) trace
      workload) (thread : Thread) : workload.system.point thread = .idle := by
  by_contra busy
  obtain ⟨accounting, sameCount, -, notOne⟩ := run.project.counted several
  have halted := still.halted
  have down := halted.flag_down accounting notOne
  have arrived (other : Thread) :=
    run.project.arrivals_eq several untimed exactly other
  simp only [if_pos down] at arrived
  have asleep := halted.asleep accounting notOne busy
  -- a sleeper is one round ahead of a thread that has left its loop
  have everybody (other : Thread) : workload.system.point other ≠ .idle := by
    intro idle
    have cycles := run.all_cycles idle (still.left_loop idle)
    have counter := (run.counts other).1
    have entries := run.calls_le thread
    have ownCalls := run.project.balance call_delimited thread
    have ownArrivals := run.project.balance arrival_delimited thread
    have otherArrivals := run.project.balance arrival_delimited other
    have own := arrived thread
    have others := arrived other
    rw [asleep] at ownCalls ownArrivals own
    rw [idle] at otherArrivals others
    simp only [WaitPoint.inCall, WaitPoint.arrived, WaitPoint.inside, Bool.toNat_true,
      Bool.toNat_false, Nat.add_zero, ne_eq, reduceCtorEq, not_false_eq_true, decide_true]
      at ownCalls ownArrivals otherArrivals own others
    simp only [calls, completed, arrivals] at *
    omega
  have full : inside workload.system = Fintype.card Thread := by
    have all : ∀ other, (workload.system.point other).inside = true := fun other => by
      rw [halted.asleep accounting notOne (everybody other)]
      rfl
    simp [inside, countAt, all]
  have room := (accounting.free (halted.unlocked accounting)).room.le_count (by
    intro zero
    rw [← sameCount, zero] at several
    exact absurd several (by decide))
  rw [sameCount] at room
  omega

/-- With a timeout nobody is asleep for good. -/
theorem Over.all_idle_of_timed (several : 2 ≤ count.toNat) (timed : 0 < timeout)
    (still : Over syncNum workload)
    (run : QuietRun syncNum (started (created memory barrierId count timeout tgid)) trace
      workload) (thread : Thread) : workload.system.point thread = .idle := by
  by_contra busy
  have armed := run.project.armed_of_halted several timed still.halted busy
  simp [still.timer_off] at armed

/-- The cycles of `count` threads on a barrier without timeout: under every
schedule they take a bounded number of statements, and when nothing is left to
do every thread has synchronised `sync_num` times without a failure, `sync_num`
rounds are counted, and the barrier is at rest with nobody in its queue. -/
theorem workload_completes (several : 2 ≤ count.toNat) (untimed : timeout ≤ 0)
    (exactly : Fintype.card Thread = count.toNat) (lowered : memory.timeoutFlag = false)
    (run : QuietRun syncNum (started (created memory barrierId count timeout tgid)) trace
      workload) :
    executed (fun _ => true) trace ≤ longestCall * (count.toNat * syncNum.toNat) ∧
    (Over syncNum workload →
      (∀ thread, workload.system.point thread = .idle ∧ workload.i thread = syncNum.toNat ∧
        workload.failed thread = 0) ∧
      Resting workload.system.barrier ∧
      workload.system.barrier.syncNum = BitVec.ofNat 32 syncNum.toNat) := by
  refine ⟨exactly ▸ run.bounded.1, fun still => ?_⟩
  have idle := still.all_idle several untimed exactly run
  have rest := resting_of_idle several run.project idle
  have cycles (thread : Thread) := run.all_cycles (idle thread) (still.left_loop (idle thread))
  refine ⟨fun thread => ⟨idle thread, cycles thread,
    run.failed_eq_zero several untimed lowered thread⟩, rest, ?_⟩
  have someThread : 0 < Fintype.card Thread := by omega
  obtain ⟨thread⟩ := Fintype.card_pos_iff.mp someThread
  have finished := cycles thread
  have counter := (run.counts thread).1
  have balance := run.project.balance arrival_delimited thread
  have arrived := run.project.arrivals_eq several untimed exactly thread
  rw [idle thread] at balance arrived
  simp only [if_pos rest.condFlag, WaitPoint.arrived, WaitPoint.inside, Bool.toNat_false,
    Nat.add_zero] at balance arrived
  have rounds : resets trace = syncNum.toNat := by
    simp only [completed, arrivals] at *
    omega
  rw [← rounds]
  exact run.project.syncNum_eq fun other => by simp [idle other]

omit [Fintype Thread] [DecidableEq Thread] in
/-- Two threads complete one cycle on a barrier for two. -/
theorem workload_completes_once :
    ∃ workload : Workload (Fin 2),
      QuietRun 1 (started (created .zeroed 1 2 0 0)) (.exec 0 (.ret 0) :: oneRound) workload ∧
        (∀ thread, workload.i thread = 1 ∧ workload.failed thread = 0) ∧
        Resting workload.system.barrier := by
  obtain ⟨workload, run, still⟩ : ∃ workload : Workload (Fin 2),
      QuietRun 1 (started (created .zeroed 1 2 0 0)) (.exec 0 (.ret 0) :: oneRound) workload ∧
        Over 1 workload :=
    exists_over_run (by simp [oneRound, script, Event.Quiet]) (by decide +kernel)
  obtain ⟨cycles, rest, -⟩ := (workload_completes (by decide) le_rfl (by decide) rfl run).2 still
  exact ⟨workload, run, fun thread => (cycles thread).2, rest⟩

/-- With a timeout the cycles end whoever takes part: under every schedule they
take a bounded number of statements and expiries, and when nothing is left to do
every thread has completed its cycles and the barrier is at rest. -/
theorem timed_workload_completes (several : 2 ≤ count.toNat) (timed : 0 < timeout)
    (run : QuietRun syncNum (started (created memory barrierId count timeout tgid)) trace
      workload) :
    executed (fun _ => true) trace + expiries trace ≤
      (longestCall + 1) * (Fintype.card Thread * syncNum.toNat) ∧
    (Over syncNum workload →
      (∀ thread, workload.system.point thread = .idle ∧ workload.i thread = syncNum.toNat) ∧
      Resting workload.system.barrier) := by
  refine ⟨?_, fun still => ?_⟩
  · have bounded := run.bounded
    rw [Nat.add_mul]
    omega
  · have idle := still.all_idle_of_timed several timed run
    have left (thread : Thread) := still.left_loop (idle thread)
    exact ⟨fun thread => ⟨idle thread, run.all_cycles (idle thread) (left thread)⟩,
      resting_of_idle several run.project idle⟩

omit [Fintype Thread] [DecidableEq Thread] in
/-- One thread alone completes its cycle on a barrier for two by its timeout. -/
theorem timed_workload_completes_alone :
    ∃ workload : Workload (Fin 1),
      QuietRun 1 (started (created .zeroed 1 2 1 0)) (.exec 0 (.ret 0) :: loneCaller 0)
        workload ∧ workload.i 0 = 1 ∧ Resting workload.system.barrier := by
  obtain ⟨workload, run, still⟩ : ∃ workload : Workload (Fin 1),
      QuietRun 1 (started (created .zeroed 1 2 1 0)) (.exec 0 (.ret 0) :: loneCaller 0)
        workload ∧ Over 1 workload :=
    exists_over_run (by simp [loneCaller, script, Event.Quiet]) (by decide +kernel)
  obtain ⟨cycles, rest⟩ := (timed_workload_completes (by decide) (by decide) run).2 still
  exact ⟨workload, run, (cycles 0).2, rest⟩

/-- Fewer than `count` threads on a barrier without timeout never get through:
no call ever returns, and when nothing is left to do all of them are asleep in
their first call. -/
theorem short_workload_hangs (several : 2 ≤ count.toNat) (untimed : timeout ≤ 0)
    (few : Fintype.card Thread < count.toNat)
    (run : QuietRun syncNum (started (created memory barrierId count timeout tgid)) trace
      workload) :
    (∀ thread, workload.i thread = 0) ∧
    (Over syncNum workload → 0 < syncNum → ∀ thread, workload.system.point thread = .sleep) := by
  have inner := run.project
  obtain ⟨accounting, -, -, notOne⟩ := inner.counted several
  have alarms := QuietRun.alarms several inner
  have limit := inner.constant.2
  have noExpiry (round : Nat) : ¬ Expired round trace := fun expired => by
    have timed := alarms.timed round expired
    omega
  have down : workload.system.barrier.condFlag = 0 := by
    refine accounting.flag.resolve_right fun raised => ?_
    rcases alarms.raised raised with expired | crowded
    · exact noExpiry _ expired
    · omega
  have noReset : resets trace = 0 := by
    by_contra finished
    rcases inner.finished_rounds several (Nat.pos_of_ne_zero finished) with full | early
    · rw [arrivalsIn_eq_card_members fun thread => (inner.joinsOnce thread).once 0] at full
      have atMost := Finset.card_le_univ (members 0 trace)
      omega
    · obtain ⟨earlier, expired, round, -⟩ := early
      exact noExpiry 0 ⟨earlier, expired, round⟩
  have nobodyLeft : executed WaitPoint.leaves trace = 0 := by
    have left := (ClearRun.rounds several untimed
      (QuietRun.clear several untimed few.le inner)).1 down
    simpa [noReset] using left
  have none (thread : Thread) : workload.i thread = 0 := by
    have counter := (run.counts thread).1
    have arrived := inner.balance inside_delimited thread
    have returned := inner.balance arrival_delimited thread
    have ownLeft : executedBy thread WaitPoint.leaves trace = 0 := by
      rw [executed_eq_sum, Finset.sum_eq_zero_iff] at nobodyLeft
      exact nobodyLeft thread (Finset.mem_univ thread)
    have within : (workload.system.point thread).inside.toNat ≤
        (workload.system.point thread).arrived.toNat := by
      cases workload.system.point thread <;> simp [WaitPoint.inside, WaitPoint.arrived]
    simp only [completed] at counter
    omega
  refine ⟨none, fun still positive thread => ?_⟩
  apply still.halted.asleep accounting notOne
  intro idle
  have cycles := run.all_cycles idle (still.left_loop idle)
  rw [none thread] at cycles
  omega

omit [Fintype Thread] [DecidableEq Thread] in
/-- One thread alone sleeps for good on a barrier for two without timeout. -/
theorem short_workload_hangs_alone :
    ∃ trace, ∃ workload : Workload (Fin 1),
      QuietRun 1 (started (created .zeroed 1 2 0 0)) trace workload ∧
        workload.i 0 = 0 ∧ workload.system.point 0 = .sleep := by
  obtain ⟨workload, run, still⟩ : ∃ workload : Workload (Fin 1),
      QuietRun 1 (started (created .zeroed 1 2 0 0)) (script 0 [.unlockSleep, .testLeft,
        .decrementLeft, .testFirst, .lockArrive, .gate, .idle]) workload ∧ Over 1 workload :=
    exists_over_run (by simp [script, Event.Quiet]) (by decide +kernel)
  obtain ⟨none, asleep⟩ := short_workload_hangs (by decide) le_rfl (by decide) run
  exact ⟨_, workload, run, none 0, asleep still (by decide) 0⟩

end Runs

end Workload

end BarrierSys

end KinuxKernel
