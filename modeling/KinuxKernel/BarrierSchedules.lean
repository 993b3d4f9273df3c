import KinuxKernel.BarrierTrace

/-!
# Schedules of a barrier

Building blocks for exhibiting runs: one thread executes statements while
nobody else moves, and any number of threads below the count gather asleep in
the first round.
-/

namespace KinuxKernel

namespace BarrierSys

open TraceRun

variable {Thread : Type*} [DecidableEq Thread]

/-- One thread executes `steps` statements while nobody else moves.  The result
lists the executed statements, newest first. -/
def runAlone (thread : Thread) :
    Nat → Barrier Thread → WaitPoint → Option (List WaitPoint × Barrier Thread × WaitPoint)
  | 0, barrier, point => some ([], barrier, point)
  | steps + 1, barrier, point =>
      (runAlone thread steps barrier point).bind fun result =>
        (execute thread result.2.1 result.2.2).map fun next =>
          (result.2.2 :: result.1, next.1, next.2)

/-- The events of a thread that executes the given statements, newest first. -/
def script (thread : Thread) (points : List WaitPoint) : List (Event Thread) :=
  points.map (.exec thread)

/-- Two threads go through one round, until the woken one is about to return. -/
def oneRound : List (Event (Fin 2)) :=
  script 0 [.unlock 0, .testTimeoutFlag, .wakeGate, .incrementSyncNum, .clearCondFlag,
    .clearTimeoutFlag, .testAllLeft, .incrementLeft, .lockLeave, .sleep] ++
  script 1 [.ret 0, .unlock 0, .incrementLeftLast, .wakeSleepers, .setCondFlag, .cancelTimer,
    .testLeft, .decrementLeft, .testFirst, .lockArrive, .gate, .idle] ++
  script 0 [.unlockSleep, .testLeft, .decrementLeft, .testFirst, .lockArrive, .gate, .idle]

/-- Three threads go through one round, and all of them return. -/
def threeRound (first second last : Thread) : List (Event Thread) :=
  script second [.ret 0, .unlock 0, .testTimeoutFlag, .wakeGate, .incrementSyncNum, .clearCondFlag,
    .clearTimeoutFlag, .testAllLeft, .incrementLeft, .lockLeave, .sleep] ++
  script first [.ret 0, .unlock 0, .testTimeoutFlag, .testAllLeft, .incrementLeft, .lockLeave,
    .sleep] ++
  script last [.ret 0, .unlock 0, .incrementLeftLast, .wakeSleepers, .setCondFlag, .cancelTimer,
    .testLeft, .decrementLeft, .testFirst, .lockArrive, .gate, .idle] ++
  script second [.unlockSleep, .testLeft, .decrementLeft, .testFirst, .lockArrive, .gate, .idle] ++
  script first [.unlockSleep, .testLeft, .decrementLeft, .testFirst, .lockArrive, .gate, .idle]

theorem quietRun_alone {thread : Thread} {steps : Nat} (system : System Thread)
    {visited : List WaitPoint} {barrier : Barrier Thread} {point target : WaitPoint}
    (atPoint : system.point thread = point)
    (alone : runAlone thread steps system.barrier point = some (visited, barrier, target)) :
    QuietRun system (script thread visited)
      ⟨barrier, Function.update system.point thread target⟩ := by
  induction steps generalizing visited barrier target with
  | zero =>
      simp only [runAlone, Option.some.injEq, Prod.mk.injEq] at alone
      obtain ⟨rfl, rfl, rfl⟩ := alone
      rw [← atPoint, Function.update_eq_self]
      exact Run.start
  | succ steps ih =>
      simp only [runAlone, Option.bind_eq_some_iff, Option.map_eq_some_iff] at alone
      obtain ⟨⟨earlier, before, next⟩, previous, ⟨later, following⟩, executed, same⟩ := alone
      simp only [Prod.mk.injEq] at same
      obtain ⟨rfl, rfl, rfl⟩ := same
      refine Run.next (ih previous) trivial ?_
      rw [step_exec (by simp) executed, Function.update_idem]

/-- A run goes on with one thread alone. -/
theorem QuietRun.alone {start system : System Thread} {trace : List (Event Thread)}
    (run : QuietRun start trace system) {thread : Thread} {steps : Nat}
    {visited : List WaitPoint} {barrier : Barrier Thread} {point target : WaitPoint}
    (atPoint : system.point thread = point)
    (alone : runAlone thread steps system.barrier point = some (visited, barrier, target)) :
    QuietRun start (script thread visited ++ trace)
      ⟨barrier, Function.update system.point thread target⟩ :=
  Run.append run (quietRun_alone system atPoint alone)

omit [DecidableEq Thread] in
/-- A thread that never lowers the flag stays in the current round. -/
theorem resets_alone (thread : Thread) {visited : List WaitPoint}
    (noReset : .clearCondFlag ∉ visited) (trace : List (Event Thread)) :
    resets (script thread visited ++ trace) = resets trace := by
  induction visited with
  | nil => rfl
  | cons point visited ih =>
      simp only [List.mem_cons, not_or] at noReset
      have previous := ih noReset.2
      simp only [script, List.map_cons, List.cons_append, resets_exec] at previous ⊢
      simp [previous, Ne.symm noReset.1]

/-- The barrier that a caller finds at its `left--` when the gate is open and
the lock free. -/
def Barrier.entered (barrier : Barrier Thread) (thread : Thread) : Barrier Thread :=
  { barrier.finishWait thread with
    barrierLock := some thread
    hrTimer := if barrier.left = barrier.initCount ∧ 0 < barrier.timeout then
        some barrier.ktime
      else barrier.hrTimer }

/-- A caller reaches its `left--` without waiting for anybody. -/
theorem runAlone_enter (thread : Thread) (barrier : Barrier Thread)
    (opened : barrier.condFlag = 0) (unlocked : barrier.barrierLock = none) :
    ∃ steps visited, runAlone thread steps barrier .idle =
      some (visited, barrier.entered thread, .decrementLeft) ∧ .clearCondFlag ∉ visited := by
  by_cases arms : barrier.left = barrier.initCount ∧ 0 < barrier.timeout
  · refine ⟨5, [.startTimer, .testFirst, .lockArrive, .gate, .idle], ?_, by decide⟩
    simp [runAlone, execute, Barrier.entered, Barrier.finishWait, opened, unlocked, arms]
  · refine ⟨4, [.testFirst, .lockArrive, .gate, .idle], ?_, by decide⟩
    have joins : ¬ (barrier.left = barrier.initCount ∧ 0 < barrier.timeout) := arms
    simp only [runAlone, execute, Option.bind_some, Option.map_some, opened, if_true,
      Barrier.finishWait, unlocked, if_neg joins, Barrier.entered]

/-- A caller that is not the last one goes to sleep. -/
theorem runAlone_sleep (thread : Thread) (barrier : Barrier Thread)
    (early : barrier.left ≠ 1) :
    runAlone thread 3 barrier .decrementLeft =
      some ([.unlockSleep, .testLeft, .decrementLeft],
        { barrier with left := barrier.left - 1, barrierLock := none }, .sleep) := by
  have nonzero : barrier.left - 1 ≠ 0 := fun zero => early (by grind)
  simp only [runAlone, execute, Option.bind_some, Option.map_some, if_pos nonzero]

/-- A last caller leaves without waiting for anybody, with the flag raised. -/
theorem runAlone_last (thread : Thread) (barrier : Barrier Thread)
    (last : barrier.left = 1) :
    ∃ steps visited after, runAlone thread steps barrier .decrementLeft =
      some (visited, after, .idle) ∧ after.condFlag = 1 ∧ after.barrierLock = none := by
  refine ⟨8, [.ret 0, .unlock 0, .incrementLeftLast, .wakeSleepers, .setCondFlag,
    .cancelTimer, .testLeft, .decrementLeft],
    { barrier with
      left := 1, hrTimer := if 0 < barrier.timeout then none else barrier.hrTimer
      condFlag := 1, myQueue := [], barrierLock := none }, ?_, rfl, rfl⟩
  by_cases timed : 0 < barrier.timeout <;>
    simp [runAlone, execute, Barrier.wakeUpAll, last, timed]

/-- A caller whose decrement gives zero goes to wake the others. -/
theorem runAlone_fill (thread : Thread) (barrier : Barrier Thread) (last : barrier.left = 1) :
    runAlone thread 2 barrier .decrementLeft =
      some ([.testLeft, .decrementLeft], { barrier with left := 0 }, .cancelTimer) := by
  simp [runAlone, execute, last]

/-- It does so without waiting for anybody, and returns zero. -/
theorem runAlone_release (thread : Thread) (barrier : Barrier Thread) :
    ∃ after, runAlone thread 6 barrier .cancelTimer =
      some ([.ret 0, .unlock 0, .incrementLeftLast, .wakeSleepers, .setCondFlag, .cancelTimer],
        after, .idle) ∧
      after.condFlag = 1 ∧ after.barrierLock = none ∧ after.left = barrier.left + 1 ∧
      after.initCount = barrier.initCount ∧ after.timeoutFlag = barrier.timeoutFlag := by
  refine ⟨{ barrier with
      left := barrier.left + 1
      hrTimer := if 0 < barrier.timeout then none else barrier.hrTimer
      condFlag := 1, myQueue := [], barrierLock := none }, ?_, rfl, rfl, rfl, rfl, rfl⟩
  by_cases timed : 0 < barrier.timeout <;>
    simp [runAlone, execute, Barrier.wakeUpAll, timed]

/-- A woken call that is not the last one returns what `timeout_flag` says. -/
theorem runAlone_leave (thread : Thread) (barrier : Barrier Thread)
    (raised : barrier.condFlag = 1) (unlocked : barrier.barrierLock = none)
    (notLast : barrier.left + 1 ≠ barrier.initCount) (timedOut : barrier.timeoutFlag = true) :
    ∃ after, runAlone thread 7 barrier .sleep =
      some ([.ret (-ETIME), .unlock (-ETIME), .testTimeoutFlag, .testAllLeft, .incrementLeft,
        .lockLeave, .sleep], after, .idle) := by
  refine ⟨{ barrier.finishWait thread with left := barrier.left + 1, barrierLock := none }, ?_⟩
  have leaves : ¬ (barrier.left + 1 = barrier.initCount) := notLast
  simp only [runAlone, execute, Option.bind_some, Option.map_some, raised, if_true,
    Barrier.finishWait, unlocked, if_neg leaves, timedOut]

/-- A caller that has passed the gate goes on to its `left--`, whatever the flag
says by then. -/
theorem runAlone_lock (thread : Thread) (barrier : Barrier Thread)
    (unlocked : barrier.barrierLock = none) (untimed : ¬ 0 < barrier.timeout) :
    runAlone thread 2 barrier .lockArrive =
      some ([.testFirst, .lockArrive], { barrier with barrierLock := some thread },
        .decrementLeft) := by
  simp [runAlone, execute, unlocked, untimed]

section Gathering

/-- In the first round exactly `sleepers` have arrived; they are asleep, and
everybody else has not called. -/
structure Gathered (start : System Thread) (sleepers : List Thread)
    (trace : List (Event Thread)) (system : System Thread) : Prop where
  run : QuietRun start trace system
  asleep : ∀ thread, thread ∈ sleepers → system.point thread = .sleep
  away : ∀ thread, thread ∉ sleepers → system.point thread = .idle
  unlocked : system.barrier.barrierLock = none
  opened : system.barrier.condFlag = 0
  left : system.barrier.left.toNat + sleepers.length = system.barrier.initCount.toNat
  armed : 0 < system.barrier.timeout → sleepers ≠ [] → system.barrier.hrTimer.isSome
  flag : system.barrier.timeoutFlag = start.barrier.timeoutFlag
  round : resets trace = 0

variable {start : System Thread} {sleepers : List Thread} {trace : List (Event Thread)}
  {system : System Thread}

theorem Gathered.cons (gathered : Gathered start sleepers trace system) {thread : Thread}
    (fresh : thread ∉ sleepers)
    (early : sleepers.length + 1 < system.barrier.initCount.toNat) :
    ∃ trace' system', Gathered start (thread :: sleepers) trace' system' := by
  obtain ⟨steps, visited, entering, noReset⟩ :=
    runAlone_enter thread system.barrier gathered.opened gathered.unlocked
  have entered := gathered.run.alone (gathered.away thread fresh) entering
  have several : (system.barrier.entered thread).left ≠ 1 := by
    intro one
    have total := gathered.left
    have leftOne : system.barrier.left.toNat = 1 := by
      change system.barrier.left = 1 at one
      simp [one]
    omega
  have asleep := QuietRun.alone entered (Function.update_self ..)
    (runAlone_sleep thread _ several)
  refine ⟨_, _, asleep, ?_, ?_, rfl, gathered.opened, ?_,
    ?_, gathered.flag, ?_⟩
  · intro other member
    by_cases moved : other = thread
    · simp [moved]
    · simpa [moved] using gathered.asleep other (by simpa [moved] using member)
  · intro other absent
    simp only [List.mem_cons, not_or] at absent
    simpa [absent.1] using gathered.away other absent.2
  · have total := gathered.left
    have bound := system.barrier.left.isLt
    change (system.barrier.left - 1).toNat + (sleepers.length + 1) =
      system.barrier.initCount.toNat
    rw [BitVec.toNat_sub]
    simp
    omega
  · intro timed _
    change (if system.barrier.left = system.barrier.initCount ∧ 0 < system.barrier.timeout then
      some system.barrier.ktime else system.barrier.hrTimer).isSome
    split
    · rfl
    · next notFirst =>
        refine gathered.armed timed fun empty => notFirst ⟨?_, timed⟩
        have total := gathered.left
        simp only [empty, List.length_nil, Nat.add_zero] at total
        exact BitVec.eq_of_toNat_eq total
  · rw [resets_alone thread (by decide), resets_alone thread noReset, gathered.round]

end Gathering

theorem exists_distinct (Thread : Type*) [Fintype Thread] {number : Nat}
    (enough : number ≤ Fintype.card Thread) :
    ∃ threads : List Thread, threads.Nodup ∧ threads.length = number := by
  refine ⟨Finset.univ.toList.take number, ?_, ?_⟩
  · exact (Finset.nodup_toList _).sublist (List.take_sublist _ _)
  · simpa using enough

section Created

variable (memory : Barrier Thread) (barrierId count : BitVec 32) (timeout tgid : Int)

/-- Any threads, fewer than the count, can be asleep in the first round. -/
theorem exists_gathered (sleepers : List Thread) (distinct : sleepers.Nodup)
    (fewer : sleepers.length < count.toNat) :
    ∃ trace system,
      Gathered (created memory barrierId count timeout tgid) sleepers trace system := by
  induction sleepers with
  | nil =>
      exact ⟨[], _, Run.start, by simp, fun _ _ => rfl, rfl, rfl, rfl, by simp, rfl, rfl⟩
  | cons thread sleepers ih =>
      have fresh := List.nodup_cons.mp distinct
      simp only [List.length_cons] at fewer
      obtain ⟨trace, system, gathered⟩ := ih fresh.2 (by omega)
      refine gathered.cons fresh.1 ?_
      rw [(QuietRun.constant gathered.run).1]
      exact fewer

end Created

end BarrierSys

end KinuxKernel
