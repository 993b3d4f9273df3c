import KinuxKernel.BarrierAccounting
import KinuxKernel.BarrierSchedules

/-!
# Counting, progress and reuse of a barrier

Consequences of the accounting invariant for any number of threads, any timeout
and every interleaving without signals: what the fields say while the lock is
free, that `count` callers never block each other for good, and for which
counts a barrier that nobody uses is back in its starting state.
-/

namespace KinuxKernel

namespace BarrierSys

open TraceRun ThreadPoints

section Facts

variable {Thread : Type*} {barrier : Barrier Thread} {number : Nat} {point : WaitPoint}

theorem AtRest.timer_off (rest : AtRest barrier number) (raised : barrier.condFlag = 1) :
    barrier.hrTimer = none := by
  by_contra armed
  have low := (rest.armed (Option.isSome_iff_ne_none.mpr armed)).1
  omega

theorem ArmedLow.timer_off (low : ArmedLow barrier) (several : barrier.initCount ≠ 1)
    (raised : barrier.condFlag = 1) : barrier.hrTimer = none := by
  by_contra armed
  rcases low (Option.isSome_iff_ne_none.mpr armed) with down | one
  · omega
  · exact several one

theorem OwnerFacts.timer_off (facts : OwnerFacts point barrier number)
    (holds : point.holdsLock = true) (several : barrier.initCount ≠ 1)
    (raised : barrier.condFlag = 1) : barrier.hrTimer = none := by
  cases point <;> simp only [OwnerFacts] at facts
  case testFirst | testTimeoutFlag | unlock => exact facts.timer_off raised
  case startTimer => exact facts.1.timer_off raised
  case decrementLeft | testLeft | unlockSleep | cancelTimer =>
    exact facts.2.timer_off several raised
  case setCondFlag => exact facts.2
  case wakeSleepers | incrementLeftLast | incrementLeft | testAllLeft |
      clearTimeoutFlag | clearCondFlag | incrementSyncNum | wakeGate => exact facts.2.2
  all_goals simp [WaitPoint.holdsLock] at holds

theorem capacity_eq (nonzero : barrier.initCount ≠ 0) :
    capacity barrier = barrier.initCount.toNat :=
  if_neg nonzero

theorem Room.le_count (room : Room barrier number) (nonzero : barrier.initCount ≠ 0) :
    number < barrier.initCount.toNat := by
  rwa [Room, capacity_eq nonzero] at room

theorem OwnerFacts.inside_le (facts : OwnerFacts point barrier number)
    (holds : point.holdsLock = true) (nonzero : barrier.initCount ≠ 0) :
    number ≤ barrier.initCount.toNat := by
  cases point <;> simp only [OwnerFacts] at facts
  case testFirst | testTimeoutFlag | unlock => exact (facts.room.le_count nonzero).le
  case startTimer => exact (facts.1.room.le_count nonzero).le
  case testLeft =>
    have bound := facts.1.le_count nonzero
    omega
  case decrementLeft | unlockSleep | incrementLeft => exact (facts.1.le_count nonzero).le
  case testAllLeft =>
    have bound := facts.1.le_count nonzero
    omega
  case cancelTimer | setCondFlag | wakeSleepers | incrementLeftLast =>
    exact (facts.1.trans (capacity_eq nonzero)).le
  case clearTimeoutFlag | clearCondFlag | incrementSyncNum | wakeGate => omega
  all_goals simp [WaitPoint.holdsLock] at holds

end Facts

variable {Thread : Type*} [Fintype Thread]

namespace Accounting

variable {system : System Thread}

/-- The owner of the lock is the thread that stands in a critical section. -/
theorem owner_at (accounting : Accounting system) {thread : Thread} {point : WaitPoint}
    (atPoint : system.point thread = point) (holds : point.holdsLock = true) :
    OwnerFacts point system.barrier (inside system) :=
  atPoint ▸ accounting.owner thread ((accounting.mutex thread).mp (atPoint ▸ holds))

/-- What follows from the barrier at rest and from every critical section
always holds. -/
theorem always (accounting : Accounting system) {conclusion : Prop}
    (resting : AtRest system.barrier (inside system) → conclusion)
    (held : ∀ point, point.holdsLock = true →
      OwnerFacts point system.barrier (inside system) → conclusion) : conclusion := by
  cases locked : system.barrier.barrierLock with
  | none => exact resting (accounting.free locked)
  | some owner =>
      exact held _ ((accounting.mutex owner).mpr locked) (accounting.owner owner locked)

theorem timer_off (accounting : Accounting system) (several : system.barrier.initCount ≠ 1)
    (raised : system.barrier.condFlag = 1) : system.barrier.hrTimer = none :=
  accounting.always (fun rest => rest.timer_off raised)
    fun _ holds facts => facts.timer_off holds several raised

theorem inside_le (accounting : Accounting system) (nonzero : system.barrier.initCount ≠ 0) :
    inside system ≤ system.barrier.initCount.toNat :=
  accounting.always (fun rest => (rest.room.le_count nonzero).le)
    fun _ holds facts => facts.inside_le holds nonzero

/-- `left` and the calls inside add up to the count at every statement. -/
theorem left_add_inside (accounting : Accounting system)
    (nonzero : system.barrier.initCount ≠ 0) :
    system.barrier.left.toNat + inside system = system.barrier.initCount.toNat := by
  have balanced := accounting.balanced
  have bound := accounting.inside_le nonzero
  have leftBound := system.barrier.left.isLt
  have countBound := system.barrier.initCount.isLt
  unfold Balanced at balanced
  omega

end Accounting

variable [DecidableEq Thread] {memory : Barrier Thread} {barrierId count : BitVec 32}
  {timeout tgid : Int} {trace : List (Event Thread)} {system : System Thread}

theorem QuietRun.counted (several : 2 ≤ count.toNat)
    (run : QuietRun (created memory barrierId count timeout tgid) trace system) :
    Accounting system ∧ system.barrier.initCount = count ∧
      system.barrier.initCount ≠ 0 ∧ system.barrier.initCount ≠ 1 := by
  have constant := (QuietRun.constant run).1
  have nonzero : count ≠ 0 := by
    rintro rfl
    simp at several
  refine ⟨QuietRun.accounting run, constant, ?_, ?_⟩
  · rw [constant]
    exact nonzero
  · rw [constant]
    rintro rfl
    simp at several

/-- While the lock is free, `left` and the calls inside add up to the count,
the raised flag and the pending timer witness a call inside; the timer is never
started twice nor pending while a round drains; and `cond_flag` falls exactly
when the last call inside leaves. -/
theorem barrier_accounting (several : 2 ≤ count.toNat)
    (run : QuietRun (created memory barrierId count timeout tgid) trace system) :
    (system.barrier.barrierLock = none →
      system.barrier.left.toNat + inside system = count.toNat ∧
      1 ≤ system.barrier.left.toNat ∧ system.barrier.left.toNat ≤ count.toNat ∧
      (system.barrier.condFlag = 1 → 1 ≤ inside system) ∧
      (inside system = 0 → system.barrier.condFlag = 0) ∧
      (system.barrier.hrTimer.isSome →
        system.barrier.condFlag = 0 ∧ 1 ≤ inside system)) ∧
    (∀ thread, system.point thread = .startTimer → system.barrier.hrTimer = none) ∧
    (system.barrier.condFlag = 1 → system.barrier.hrTimer = none) ∧
    (∀ event after, event.Quiet → step system event = some after →
      system.barrier.condFlag = 1 → after.barrier.condFlag = 0 →
        inside system = 0 ∧ ∃ thread, event = .exec thread .clearCondFlag) ∧
    (∀ thread, system.point thread = .testAllLeft →
      (system.barrier.left = system.barrier.initCount ↔ inside system = 0)) := by
  obtain ⟨accounting, constant, nonzero, notOne⟩ := QuietRun.counted several run
  have total := accounting.left_add_inside nonzero
  rw [constant] at total
  refine ⟨?_, ?_, accounting.timer_off notOne, ?_, ?_⟩
  · intro unlocked
    have rest := accounting.free unlocked
    have room := rest.room.le_count nonzero
    rw [constant] at room
    have occupied (raised : system.barrier.condFlag = 1) : 1 ≤ inside system :=
      (rest.raised raised).resolve_right notOne
    refine ⟨total, by omega, by omega, occupied, fun empty => ?_, rest.armed⟩
    rcases accounting.flag with low | raised
    · exact low
    · have positive := occupied raised
      omega
  · intro thread atStart
    obtain ⟨rest, empty, -⟩ := accounting.owner_at atStart rfl
    by_contra armed
    have occupied := (rest.armed (Option.isSome_iff_ne_none.mpr armed)).2
    omega
  · intro event after quiet stepTo raised lowered
    rcases quiet_cases quiet stepTo with
      ⟨thread, point, barrier, target, rfl, atPoint, executes, rfl⟩ | ⟨thread, -, rfl⟩ |
      ⟨-, -, rfl⟩
    · cases executes
      case clearCondFlag => exact ⟨(accounting.owner_at atPoint rfl).1, thread, rfl⟩
      case setCondFlag => simp at lowered
      all_goals
        change system.barrier.condFlag = 0 at lowered
        omega
    · change system.barrier.condFlag = 0 at lowered
      omega
    · simp [Barrier.myCallback, Barrier.wakeUpAll] at lowered
  · intro thread atTest
    have room := (accounting.owner_at atTest rfl).1
    exact accounting.balanced.left_eq_initCount_iff (room.le (by omega))

theorem barrier_accounting_asleep :
    ∃ trace, ∃ system : System (Fin 2),
      QuietRun (created .zeroed 1 2 0 0) trace system ∧ system.point 0 = .sleep ∧
        system.barrier.left.toNat + inside system = 2 := by
  obtain ⟨trace, system, gathered⟩ :=
    exists_gathered (.zeroed : Barrier (Fin 2)) 1 2 0 0 [0] (by simp) (by decide)
  have accounts := barrier_accounting (by decide) gathered.run
  exact ⟨trace, system, gathered.run, gathered.asleep 0 (by simp),
    (accounts.1 gathered.unlocked).1⟩

/-- A thread can execute the statement it stands at. -/
def Enabled (system : System Thread) (thread : Thread) : Prop :=
  (step system (.exec thread (system.point thread))).isSome

instance (system : System Thread) (thread : Thread) : Decidable (Enabled system thread) :=
  inferInstanceAs (Decidable ((step system (.exec thread (system.point thread))).isSome = true))

omit [Fintype Thread] in
/-- Only the two waits and the two lock operations can hold a thread up. -/
theorem enabled_iff {thread : Thread} : Enabled system thread ↔
    match system.point thread with
    | .gate => system.barrier.condFlag = 0
    | .sleep => system.barrier.condFlag = 1
    | .lockArrive | .lockLeave => system.barrier.barrierLock = none
    | _ => True := by
  cases atPoint : system.point thread <;> simp [Enabled, step, atPoint, execute]

/-- As soon as `count` threads are inside `barrier_wait`, one of them can move,
whatever happened before and however many others there are. -/
theorem no_deadlock (several : 2 ≤ count.toNat)
    (run : QuietRun (created memory barrierId count timeout tgid) trace system)
    (enough : count.toNat ≤ countAt WaitPoint.inCall system.point) :
    ∃ thread, system.point thread ≠ .idle ∧ Enabled system thread := by
  obtain ⟨accounting, constant, nonzero, notOne⟩ := QuietRun.counted several run
  cases locked : system.barrier.barrierLock with
  | some owner =>
      have holds := (accounting.mutex owner).mpr locked
      refine ⟨owner, fun idle => by simp [idle, WaitPoint.holdsLock] at holds, ?_⟩
      rw [enabled_iff]
      cases atPoint : system.point owner <;> simp_all [WaitPoint.holdsLock]
  | none =>
      have rest := accounting.free locked
      have room := rest.room.le_count nonzero
      rw [constant] at room
      by_contra stuck
      push Not at stuck
      -- nobody is at the lock, so every caller waits for the flag
      have waiting (thread : Thread) (busy : system.point thread ≠ .idle) :
          (system.point thread = .gate ∧ system.barrier.condFlag ≠ 0) ∨
            (system.point thread = .sleep ∧ system.barrier.condFlag ≠ 1) := by
        have blocked := stuck thread busy
        rw [enabled_iff] at blocked
        cases atPoint : system.point thread <;> simp_all
      rcases accounting.flag with low | raised
      · -- all callers are asleep inside, more than there is room for
        have asleep : countAt WaitPoint.inCall system.point ≤ inside system := by
          apply Finset.card_le_card
          intro thread member
          simp only [Finset.mem_filter, Finset.mem_univ, true_and] at member ⊢
          rcases waiting thread (by simpa [WaitPoint.inCall] using member) with gate | sleep
          · exact (gate.2 low).elim
          · simp [sleep.1, WaitPoint.inside]
        omega
      · -- a raised flag has somebody inside, who would be at the gate
        have occupied := (rest.raised raised).resolve_right notOne
        have nobody : inside system = 0 := by
          refine countAt_eq_zero_iff.mpr fun thread => ?_
          by_cases busy : system.point thread = .idle
          · simp [busy, WaitPoint.inside]
          · rcases waiting thread busy with gate | sleep
            · simp [gate.1, WaitPoint.inside]
            · exact (sleep.2 raised).elim
        omega

/-- One thread sleeps in the queue while the other one comes to the gate. -/
theorem no_deadlock_asleep :
    ∃ trace, ∃ system : System (Fin 2), QuietRun (created .zeroed 1 2 0 0) trace system ∧
      system.point 0 = .sleep ∧ 0 ∈ system.barrier.myQueue ∧
      ∃ thread, system.point thread ≠ .idle ∧ Enabled system thread := by
  obtain ⟨system, replayed, asleep, queued, both⟩ : ∃ system ∈ replay step
      (created .zeroed 1 2 0 0 : System (Fin 2))
      (.exec 1 .idle :: .block 0 :: script 0 [.unlockSleep, .testLeft, .decrementLeft, .testFirst,
        .lockArrive, .gate, .idle]),
      system.point 0 = .sleep ∧ 0 ∈ system.barrier.myQueue ∧
        2 ≤ countAt WaitPoint.inCall system.point := by decide +kernel
  have run : QuietRun (created .zeroed 1 2 0 0 : System (Fin 2)) _ system :=
    run_of_replay (by simp [script, Event.Quiet]) replayed
  exact ⟨_, system, run, asleep, queued, no_deadlock (by decide) run both⟩

/-- `left` stays between its bounds, and a barrier that no call uses is back in
its starting state, with its gate open. -/
def Reusable (start : System Thread) : Prop :=
  ∀ trace system, QuietRun start trace system →
    (∀ thread, system.point thread = .decrementLeft → system.barrier.left ≠ 0) ∧
    system.barrier.left.toNat ≤ system.barrier.initCount.toNat ∧
    ((∀ thread, system.point thread = .idle) →
      system.barrier.left = system.barrier.initCount ∧ system.barrier.condFlag = 0 ∧
      system.barrier.hrTimer = none ∧
      ∀ thread, (execute thread system.barrier .gate).isSome)

theorem reusable_of_several (several : 2 ≤ count.toNat) :
    Reusable (created memory barrierId count timeout tgid) := by
  intro trace system run
  obtain ⟨accounting, constant, nonzero, notOne⟩ := QuietRun.counted several run
  have total := accounting.left_add_inside nonzero
  refine ⟨fun thread atDecrement zero => ?_, by omega, fun allIdle => ?_⟩
  · have room := (accounting.owner_at atDecrement rfl).1.le_count nonzero
    rw [zero] at total
    simp only [BitVec.ofNat_eq_ofNat, BitVec.toNat_ofNat, Nat.zero_mod] at total
    omega
  · have nobody : inside system = 0 :=
      countAt_eq_zero_iff.mpr fun thread => by simp [allIdle thread, WaitPoint.inside]
    have unlocked : system.barrier.barrierLock = none := by
      by_contra locked
      obtain ⟨owner, owns⟩ := Option.ne_none_iff_exists'.mp locked
      have holds := (accounting.mutex owner).mpr owns
      simp [allIdle owner, WaitPoint.holdsLock] at holds
    have rest := accounting.free unlocked
    have low : system.barrier.condFlag = 0 := by
      rcases accounting.flag with low | raised
      · exact low
      · have occupied := (rest.raised raised).resolve_right notOne
        omega
    refine ⟨(accounting.balanced.left_eq_initCount_iff rest.room).mpr nobody, low, ?_, ?_⟩
    · by_contra armed
      have occupied := (rest.armed (Option.isSome_iff_ne_none.mpr armed)).2
      omega
    · intro thread
      simp [execute, low]

omit [Fintype Thread] in
/-- With a count of zero the first caller decrements zero. -/
theorem not_reusable_zero (thread : Thread) :
    ¬ Reusable (created memory barrierId 0 timeout tgid) := by
  intro reusable
  obtain ⟨steps, visited, alone, -⟩ := runAlone_enter thread
    (memory.initialise barrierId 0 timeout tgid) rfl rfl
  have run := quietRun_alone (created memory barrierId 0 timeout tgid) rfl alone
  exact (reusable _ _ run).1 thread (Function.update_self ..) rfl

omit [Fintype Thread] in
/-- With a count of one nobody lowers the flag that the only caller raises. -/
theorem not_reusable_one (thread : Thread) :
    ¬ Reusable (created memory barrierId 1 timeout tgid) := by
  intro reusable
  obtain ⟨steps, visited, alone, -⟩ := runAlone_enter thread
    (memory.initialise barrierId 1 timeout tgid) rfl rfl
  have arrival := quietRun_alone (created memory barrierId 1 timeout tgid) rfl alone
  obtain ⟨rest, more, barrier, departing, raised, -⟩ := runAlone_last thread
    ((memory.initialise barrierId 1 timeout tgid).entered thread) rfl
  have departure := QuietRun.alone arrival (Function.update_self ..) departing
  have low := ((reusable _ _ departure).2.2 ?_).2.1
  · change barrier.condFlag = 0 at low
    omega
  · intro other
    by_cases moved : other = thread
    · subst other
      simp
    · simp [moved, created]

theorem not_reusable_count_one : ¬ Reusable (created .zeroed 1 1 0 0 : System (Fin 1)) :=
  not_reusable_one 0

omit [Fintype Thread] in
theorem reusable_of_isEmpty [IsEmpty Thread] :
    Reusable (created memory barrierId count timeout tgid) := by
  intro trace system run
  have untouched : system = created memory barrierId count timeout tgid := by
    refine Run.invariant (fun _ system => system = created memory barrierId count timeout tgid)
      rfl ?_ run
    rintro trace before after event - rfl quiet stepTo
    rcases quiet_cases quiet stepTo with ⟨thread, -⟩ | ⟨thread, -⟩ | ⟨-, armed, -⟩
    · exact isEmptyElim thread
    · exact isEmptyElim thread
    · simp [created, Barrier.initialise] at armed
  subst untouched
  exact ⟨isEmptyElim, le_rfl, fun _ => ⟨rfl, rfl, rfl, isEmptyElim⟩⟩

/-- A barrier can be reused, by any number of threads and in every run without
signals, exactly when it was created with a count of at least two. -/
theorem reusable_iff :
    Reusable (created memory barrierId count timeout tgid) ↔
      2 ≤ count.toNat ∨ IsEmpty Thread := by
  constructor
  · intro reusable
    by_contra fails
    rw [not_or, not_isEmpty_iff] at fails
    obtain ⟨few, ⟨thread⟩⟩ := fails
    have cases : count = 0 ∨ count = 1 := by
      have small : count.toNat = 0 ∨ count.toNat = 1 := by omega
      rcases small with zero | one
      · exact .inl (BitVec.eq_of_toNat_eq (by simpa using zero))
      · exact .inr (BitVec.eq_of_toNat_eq (by simpa using one))
    rcases cases with rfl | rfl
    · exact not_reusable_zero thread reusable
    · exact not_reusable_one thread reusable
  · rintro (several | empty)
    · exact reusable_of_several several
    · exact reusable_of_isEmpty

end BarrierSys

end KinuxKernel
