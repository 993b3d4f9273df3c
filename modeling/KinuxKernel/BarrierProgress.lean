import KinuxKernel.BarrierReuse
import KinuxKernel.BarrierTrace

/-!
# Progress of a barrier

When the threads in `barrier_wait` cannot go on, the lock is free and all of
them wait for the flag.  With a timeout this never lasts: as long as somebody is
inside and the flag is down, the timer is pending.  A call executes a bounded
number of statements, and the timer expires at most once for each time it was
started.
-/

namespace KinuxKernel

namespace BarrierSys

open TraceRun ThreadPoints

section Halting

variable {Thread : Type*} [DecidableEq Thread]

/-- No thread in a call can execute its statement. -/
def Halted (system : System Thread) : Prop :=
  ∀ thread, system.point thread ≠ .idle → ¬ Enabled system thread

/-- A thread in a call waits for the flag, at the gate or asleep. -/
structure Waits (system : System Thread) (thread : Thread) : Prop where
  place : system.point thread = .gate ∨ system.point thread = .sleep
  gate : system.point thread = .gate → system.barrier.condFlag ≠ 0
  sleep : system.point thread = .sleep → system.barrier.condFlag ≠ 1

variable [Fintype Thread] {system : System Thread}

instance : Decidable (Halted system) :=
  inferInstanceAs (Decidable (∀ thread, system.point thread ≠ .idle → ¬ Enabled system thread))

/-- The owner of the lock can always go on. -/
theorem Halted.unlocked (halted : Halted system) (accounting : Accounting system) :
    system.barrier.barrierLock = none := by
  by_contra locked
  obtain ⟨owner, owned⟩ := Option.ne_none_iff_exists'.mp locked
  have holds := (accounting.mutex owner).mpr owned
  have busy : system.point owner ≠ .idle := by
    intro idle
    simp [idle, WaitPoint.holdsLock] at holds
  apply halted owner busy
  rw [enabled_iff]
  cases point : system.point owner <;> simp_all [WaitPoint.holdsLock]

theorem Halted.waits (halted : Halted system) (accounting : Accounting system)
    {thread : Thread} (busy : system.point thread ≠ .idle) : Waits system thread := by
  have unlocked := halted.unlocked accounting
  have stuck := halted thread busy
  rw [enabled_iff] at stuck
  constructor <;> cases point : system.point thread <;> simp_all

/-- Threads that cannot go on although the flag is up would be at the gate, but
then somebody is still asleep. -/
theorem Halted.flag_down (halted : Halted system) (accounting : Accounting system)
    (several : system.barrier.initCount ≠ 1) : system.barrier.condFlag = 0 := by
  rcases accounting.flag with down | raised
  · exact down
  · have rest := accounting.free (halted.unlocked accounting)
    have occupied : 1 ≤ inside system :=
      (rest.raised raised).resolve_right several
    obtain ⟨thread, within⟩ : ∃ thread, (system.point thread).inside = true := by
      by_contra nobody
      push Not at nobody
      have empty : inside system = 0 :=
        countAt_eq_zero_iff.mpr fun thread => by simpa using nobody thread
      omega
    have busy : system.point thread ≠ .idle := by
      intro idle
      simp [idle, WaitPoint.inside] at within
    have waits := halted.waits accounting busy
    rcases waits.place with atGate | asleep
    · simp [atGate, WaitPoint.inside] at within
    · exact absurd raised (waits.sleep asleep)

/-- All threads in a call are asleep, after their `left--`. -/
theorem Halted.asleep (halted : Halted system) (accounting : Accounting system)
    (several : system.barrier.initCount ≠ 1) {thread : Thread}
    (busy : system.point thread ≠ .idle) : system.point thread = .sleep := by
  have waits := halted.waits accounting busy
  have down := halted.flag_down accounting several
  exact waits.place.resolve_left fun atGate => waits.gate atGate down

end Halting

section Timer

variable {Thread : Type*} [Fintype Thread]

/-- While the flag is down and a call is inside, or about to be, the timer is
pending or the last arriver has just cancelled it. -/
def Watched (system : System Thread) : Prop :=
  system.barrier.condFlag = 0 →
    (1 ≤ inside system ∨ ∃ thread, system.point thread = .decrementLeft) →
      system.barrier.hrTimer.isSome ∨ ∃ thread, system.point thread = .setCondFlag

variable {system : System Thread} {thread : Thread} {point target : WaitPoint}
  {barrier : Barrier Thread}

theorem Watched.created (memory : Barrier Thread) (barrierId count : BitVec 32)
    (timeout tgid : Int) : Watched (created memory barrierId count timeout tgid) := by
  intro _ occupied
  have empty : inside (BarrierSys.created memory barrierId count timeout tgid) = 0 :=
    countAt_eq_zero_iff.mpr fun _ => rfl
  rcases occupied with occupied | ⟨_, atPoint⟩
  · omega
  · exact absurd atPoint (by simp [BarrierSys.created])

/-- The expiry raises the flag. -/
theorem Watched.expire (system : System Thread) :
    Watched ⟨system.barrier.myCallback, system.point⟩ := by
  intro down
  simp at down

variable [DecidableEq Thread]

/-- A statement that leaves the flag and the timer alone, by a thread that is
watched already. -/
theorem Watched.move (watched : Watched system) (atPoint : system.point thread = point)
    (flag : barrier.condFlag = system.barrier.condFlag)
    (timer : barrier.hrTimer = system.barrier.hrTimer) (away : point ≠ .setCondFlag)
    (occupied : target.inside = true ∨ target = .decrementLeft →
      1 ≤ inside system ∨ ∃ thread, system.point thread = .decrementLeft) :
    Watched ⟨barrier, Function.update system.point thread target⟩ := by
  intro down within
  have before : 1 ≤ inside system ∨ ∃ thread, system.point thread = .decrementLeft := by
    by_cases here : target.inside = true ∨ target = .decrementLeft
    · exact occupied here
    · obtain ⟨outside, elsewhere⟩ := not_or.mp here
      rcases within with within | ⟨other, otherPoint⟩
      · left
        have moved := countAt_update WaitPoint.inside system.point thread target
        have none : target.inside.toNat = 0 := by simpa using outside
        simp only [inside] at within ⊢
        omega
      · right
        by_cases same : other = thread
        · subst other
          simp [elsewhere] at otherPoint
        · exact ⟨other, by simpa [same] using otherPoint⟩
  rcases watched (flag ▸ down) before with armed | ⟨setter, setting⟩
  · exact .inl (by simpa [timer] using armed)
  · right
    have different : setter ≠ thread := by
      rintro rfl
      exact away (atPoint.symm.trans setting)
    exact ⟨setter, by simpa [different] using setting⟩

/-- Every statement of a barrier with a timeout keeps the timer pending. -/
theorem Watched.exec (watched : Watched system) (accounting : Accounting system)
    (timed : 0 < system.barrier.timeout) (atPoint : system.point thread = point)
    (executes : Executes thread system.barrier point barrier target) :
    Watched ⟨barrier, Function.update system.point thread target⟩ := by
  have within (inPoint : point.inside = true) : 1 ≤ inside system :=
    Accounting.inside_pos thread (by rw [atPoint]; exact inPoint)
  cases executes with
  | join notFirst =>
      -- with a timeout only a caller that is not the first one comes here directly
      refine watched.move atPoint rfl rfl (by simp) fun _ => .inl ?_
      have facts := accounting.owner_at atPoint rfl
      have later : system.barrier.left ≠ system.barrier.initCount := fun first =>
        notFirst first timed
      have occupied : inside system ≠ 0 := fun empty =>
        later ((accounting.balanced.left_eq_initCount_iff facts.room).mpr empty)
      omega
  | startTimer => exact fun _ _ => .inl rfl
  | decrementLeft => exact watched.move atPoint rfl rfl (by simp) fun _ => .inr ⟨thread, atPoint⟩
  | clearCondFlag =>
      intro _ occupied
      have facts := accounting.owner_at atPoint rfl
      have owns := (accounting.mutex thread).mp (by rw [atPoint]; rfl)
      have moved := countAt_update WaitPoint.inside system.point thread .incrementSyncNum
      simp only [atPoint, WaitPoint.inside, Bool.toNat_false, Nat.add_zero] at moved
      rcases occupied with occupied | ⟨other, otherPoint⟩
      · have empty := facts.1
        simp only [inside] at occupied empty
        omega
      · by_cases same : other = thread
        · subst other
          simp at otherPoint
        · have otherOwns := (accounting.mutex other).mp (by
            simp only [ne_eq, same, not_false_eq_true, Function.update_of_ne] at otherPoint
            rw [otherPoint]
            rfl)
          rw [owns] at otherOwns
          exact absurd (Option.some.inj otherOwns).symm same
  | cancelTimer positive => exact fun _ _ => .inr ⟨thread, by simp⟩
  | noTimer unlimited => exact absurd timed unlimited
  | setCondFlag => exact fun down => by simp at down
  | idle | gate | lockArrive | arm | early | last | unlockSleep | sleep | lockLeave
  | incrementLeft | allLeft | someLeft | clearTimeoutFlag | incrementSyncNum | wakeGate
  | testTimeoutFlag | wakeSleepers | incrementLeftLast | unlock | ret =>
      refine watched.move atPoint rfl rfl (by simp) fun occupied => ?_
      first
      | exact .inl (within rfl)
      | simp [WaitPoint.inside] at occupied

variable {memory : Barrier Thread} {barrierId count : BitVec 32} {timeout tgid : Int}
  {trace : List (Event Thread)}

theorem QuietRun.watched (timed : 0 < timeout)
    (run : QuietRun (BarrierSys.created memory barrierId count timeout tgid) trace system) :
    Watched system := by
  induction run with
  | start => exact Watched.created memory barrierId count timeout tgid
  | next earlier quiet stepTo watched =>
      have limit := (QuietRun.constant earlier).2
      rcases quiet_cases quiet stepTo with
        ⟨thread, point, barrier, target, -, atPoint, executes, rfl⟩ | ⟨thread, -, rfl⟩ |
        ⟨-, -, rfl⟩
      · exact watched.exec (QuietRun.accounting earlier) (by rwa [limit]) atPoint executes
      · exact watched
      · exact Watched.expire _

/-- Threads that cannot go on wait for a pending timer. -/
theorem QuietRun.armed_of_halted (several : 2 ≤ count.toNat) (timed : 0 < timeout)
    (run : QuietRun (BarrierSys.created memory barrierId count timeout tgid) trace system)
    (halted : Halted system) {thread : Thread} (busy : system.point thread ≠ .idle) :
    system.barrier.hrTimer.isSome := by
  obtain ⟨accounting, -, -, notOne⟩ := run.counted several
  have asleep := halted.asleep accounting notOne busy
  have occupied : 1 ≤ inside system := Accounting.inside_pos thread (by rw [asleep]; rfl)
  rcases run.watched timed (halted.flag_down accounting notOne) (.inl occupied) with
    armed | ⟨setter, setting⟩
  · exact armed
  · have elsewhere : system.point setter = .sleep :=
      halted.asleep accounting notOne (by rw [setting]; exact nofun)
    rw [elsewhere] at setting
    exact absurd setting nofun

/-- With a timeout nobody waits for good, however few threads call
`barrier_wait`: somebody can go on, or the timer is pending. -/
theorem timed_barrier_never_hangs (several : 2 ≤ count.toNat) (timed : 0 < timeout)
    (run : QuietRun (BarrierSys.created memory barrierId count timeout tgid) trace system)
    (thread : Thread) (busy : system.point thread ≠ .idle) :
    (∃ other, system.point other ≠ .idle ∧ Enabled system other) ∨
      (step system .expire).isSome := by
  by_cases moves : ∃ other, system.point other ≠ .idle ∧ Enabled system other
  · exact .inl moves
  · have halted : Halted system := fun other inCall enabled => moves ⟨other, inCall, enabled⟩
    have armed := run.armed_of_halted several timed halted busy
    exact .inr (by simp [step, armed])

/-- One thread of two is asleep, and its timer is pending. -/
theorem timed_barrier_never_hangs_alone :
    ∃ trace, ∃ system : System (Fin 2),
      QuietRun (created .zeroed 1 2 1 0) trace system ∧ system.point 0 = .sleep ∧
        (step system .expire).isSome := by
  have run : QuietRun (created .zeroed 1 2 1 0 : System (Fin 2))
      [.exec 0 .unlockSleep, .exec 0 .testLeft, .exec 0 .decrementLeft, .exec 0 .startTimer,
        .exec 0 .testFirst, .exec 0 .lockArrive, .exec 0 .gate, .exec 0 .idle] _ :=
    .next (.next (.next (.next (.next (.next (.next (.next .start trivial rfl) trivial rfl)
      trivial rfl) trivial rfl) trivial rfl) trivial rfl) trivial rfl) trivial rfl
  have progress := timed_barrier_never_hangs (by decide) (by decide) run 0 (by decide)
  exact ⟨_, _, run, by decide, progress.resolve_left (by decide)⟩

end Timer

section Queue

variable {Thread : Type*} [DecidableEq Thread]

/-- The wait queue holds threads that wait for the flag, each of them once. -/
structure Queued (system : System Thread) : Prop where
  distinct : system.barrier.myQueue.Nodup
  waiting : ∀ thread ∈ system.barrier.myQueue,
    system.point thread = .gate ∨ system.point thread = .sleep

variable {system : System Thread} {thread : Thread} {point target : WaitPoint}
  {barrier : Barrier Thread}

/-- A thread that does not stand at a wait moves on. -/
theorem Queued.move (queued : Queued system) (atPoint : system.point thread = point)
    (away : point ≠ .gate ∧ point ≠ .sleep)
    (queue : barrier.myQueue = system.barrier.myQueue) :
    Queued ⟨barrier, Function.update system.point thread target⟩ := by
  refine ⟨by simpa [queue] using queued.distinct, fun other member => ?_⟩
  have waits := queued.waiting other (by simpa [queue] using member)
  have different : other ≠ thread := by
    rintro rfl
    rw [atPoint] at waits
    exact waits.elim away.1 away.2
  simpa [different] using waits

/-- A thread that leaves its wait is taken off the queue. -/
theorem Queued.finish (queued : Queued system) (target : WaitPoint) :
    Queued ⟨system.barrier.finishWait thread, Function.update system.point thread target⟩ := by
  refine ⟨by simpa using queued.distinct.erase thread, fun other member => ?_⟩
  simp only [Barrier.finishWait_myQueue] at member
  have remaining := (queued.distinct.mem_erase_iff).mp member
  simpa [remaining.1] using queued.waiting other remaining.2

omit [DecidableEq Thread] in
theorem Queued.empty (cleared : barrier.myQueue = []) (points : Thread → WaitPoint) :
    Queued ⟨barrier, points⟩ :=
  ⟨by simp [cleared], fun other member => by simp [cleared] at member⟩

theorem Queued.exec (queued : Queued system) (atPoint : system.point thread = point)
    (executes : Executes thread system.barrier point barrier target) :
    Queued ⟨barrier, Function.update system.point thread target⟩ := by
  cases executes with
  | gate | sleep => exact queued.finish _
  | wakeGate | wakeSleepers => exact Queued.empty rfl _
  | idle | lockArrive | arm | join | startTimer | decrementLeft | early | last | unlockSleep
  | lockLeave | incrementLeft | allLeft | someLeft | clearTimeoutFlag | clearCondFlag
  | incrementSyncNum | testTimeoutFlag | cancelTimer | noTimer | setCondFlag
  | incrementLeftLast | unlock | ret => exact queued.move atPoint ⟨nofun, nofun⟩ rfl

theorem Queued.block (queued : Queued system)
    (waits : system.point thread = .gate ∨ system.point thread = .sleep) :
    Queued ⟨system.barrier.prepareToWait thread, system.point⟩ := by
  refine ⟨by simpa using queued.distinct.insert, fun other member => ?_⟩
  simp only [Barrier.prepareToWait_myQueue, List.mem_insert_iff] at member
  rcases member with rfl | member
  · exact waits
  · exact queued.waiting other member

theorem Queued.step {after : System Thread} {event : Event Thread} (queued : Queued system)
    (quiet : event.Quiet) (stepTo : BarrierSys.step system event = some after) :
    Queued after := by
  have effect := step_eq_some_iff.mp stepTo
  cases event with
  | exec thread point =>
      obtain ⟨atPoint, ⟨barrier, target⟩, executed, rfl⟩ := effect
      exact queued.exec atPoint (executes_of_execute executed)
  | block thread =>
      obtain ⟨barrier, blocked, rfl⟩ := effect
      obtain ⟨condition, rfl⟩ := block_eq_some_iff.mp blocked
      exact queued.block (condition.imp And.left And.left)
  | signal => exact quiet.elim
  | expire =>
      obtain ⟨-, rfl⟩ := effect
      exact Queued.empty rfl _

variable {memory : Barrier Thread} {barrierId count : BitVec 32} {timeout tgid : Int}
  {trace : List (Event Thread)}

theorem QuietRun.queued
    (run : QuietRun (created memory barrierId count timeout tgid) trace system) :
    Queued system := by
  induction run with
  | start => exact Queued.empty rfl _
  | next _ quiet stepTo queued => exact queued.step quiet stepTo

end Queue

section Bounds

/-- The number of statements that a call executes from here on at most. -/
def WaitPoint.remaining : WaitPoint → Nat
  | .idle => 0
  | .gate => 18
  | .lockArrive => 17
  | .testFirst => 16
  | .startTimer => 15
  | .decrementLeft => 14
  | .testLeft => 13
  | .unlockSleep => 12
  | .sleep => 11
  | .lockLeave => 10
  | .incrementLeft => 9
  | .testAllLeft => 8
  | .clearTimeoutFlag => 7
  | .clearCondFlag => 6
  | .incrementSyncNum => 5
  | .wakeGate => 4
  | .testTimeoutFlag => 3
  | .cancelTimer => 6
  | .setCondFlag => 5
  | .wakeSleepers => 4
  | .incrementLeftLast => 3
  | .unlock _ => 2
  | .ret _ => 1

/-- The statements that a thread executes in one call at most, its entry
included. -/
def longestCall : Nat :=
  WaitPoint.gate.remaining + 1

variable {Thread : Type*} [DecidableEq Thread] {thread : Thread}
  {barrier after : Barrier Thread} {point target : WaitPoint}

/-- Every statement but the entry brings the end of the call nearer. -/
theorem Executes.remaining_lt (executes : Executes thread barrier point after target) :
    target.remaining + 1 ≤ point.remaining + (if point = .idle then longestCall else 0) := by
  cases executes <;> simp [WaitPoint.remaining, longestCall]

/-- How often the timer has expired. -/
def expiries (trace : List (Event Thread)) : Nat :=
  trace.countP (· = .expire)

section Steps

variable (trace : List (Event Thread))

@[simp]
theorem expiries_exec : expiries (.exec thread point :: trace) = expiries trace := by
  simp [expiries]

@[simp]
theorem expiries_block : expiries (.block thread :: trace) = expiries trace := by
  simp [expiries]

@[simp]
theorem expiries_expire : expiries (.expire :: trace) = expiries trace + 1 := by
  simp [expiries]

end Steps

variable {memory : Barrier Thread} {barrierId count : BitVec 32} {timeout tgid : Int}
  {trace : List (Event Thread)} {system : System Thread}

/-- If every call can pay for the statements that pass `test` from `allowance`
at its entry, then no thread executes more of them. -/
theorem QuietRun.executedBy_le (test : WaitPoint → Bool) (credit : WaitPoint → Nat)
    (allowance : Nat) (settled : credit .idle = 0)
    (pays : ∀ (thread : Thread) (barrier after : Barrier Thread) (point target : WaitPoint),
      Executes thread barrier point after target →
        (test point).toNat + credit target ≤
          credit point + (if point = .idle then allowance else 0))
    (run : QuietRun (created memory barrierId count timeout tgid) trace system)
    (thread : Thread) :
    executedBy thread test trace + credit (system.point thread) ≤
      allowance * calls thread trace := by
  induction run with
  | start => simp [executedBy, created, settled]
  | next earlier quiet stepTo bounded =>
      rcases quiet_cases quiet stepTo with
        ⟨mover, point, barrier, target, rfl, atPoint, executes, rfl⟩ | ⟨_, rfl, rfl⟩ |
        ⟨rfl, -, rfl⟩
      · by_cases own : mover = thread
        · subst own
          have paid := pays _ _ _ _ _ executes
          rw [atPoint] at bounded
          by_cases entry : point = .idle <;>
            simp [calls, entry, Nat.mul_add] at bounded paid ⊢ <;> omega
        · simpa [calls, own, Ne.symm own] using bounded
      · simpa [calls] using bounded
      · simpa [calls] using bounded

/-- A thread executes a bounded number of statements for each of its calls. -/
theorem QuietRun.statements_le
    (run : QuietRun (created memory barrierId count timeout tgid) trace system)
    (thread : Thread) :
    executedBy thread (fun _ => true) trace ≤ longestCall * calls thread trace := by
  have bounded := run.executedBy_le (fun _ => true) WaitPoint.remaining longestCall rfl
    (fun _ _ _ _ _ executes => by
      simpa [Nat.add_comm] using executes.remaining_lt) thread
  omega

/-- A call starts the timer at most once. -/
theorem QuietRun.starts_le
    (run : QuietRun (created memory barrierId count timeout tgid) trace system)
    (thread : Thread) :
    executedBy thread (· = .startTimer) trace ≤ calls thread trace := by
  have bounded := run.executedBy_le (· = .startTimer)
    (fun point => (point matches .gate | .lockArrive | .testFirst | .startTimer).toNat) 1 rfl
    (fun _ _ _ _ _ executes => by cases executes <;> simp) thread
  omega

/-- Runs keep what `barrier_init` alone assigns. -/
theorem QuietRun.sameSetup {start : System Thread} (run : QuietRun start trace system) :
    SameSetup start.barrier system.barrier := by
  induction run with
  | start => exact ⟨rfl, rfl, rfl, rfl⟩
  | next _ _ stepTo same =>
      have setup := sameSetup_of_step stepTo
      exact ⟨setup.tgid.trans same.tgid, setup.barrierId.trans same.barrierId,
        setup.initCount.trans same.initCount, setup.timeout.trans same.timeout⟩

/-- The timer expires at most once for each time it is started. -/
theorem QuietRun.expiries_le
    (run : QuietRun (created memory barrierId count timeout tgid) trace system) :
    expiries trace + system.barrier.hrTimer.isSome.toNat ≤ executed (· = .startTimer) trace := by
  induction run with
  | start => simp [expiries, executed, created, Barrier.initialise]
  | next earlier quiet stepTo bounded =>
      rcases quiet_cases quiet stepTo with
        ⟨mover, point, barrier, target, rfl, atPoint, executes, rfl⟩ | ⟨_, rfl, rfl⟩ |
        ⟨rfl, armed, rfl⟩
      · cases executes <;> simp at bounded ⊢ <;> omega
      · simpa using bounded
      · simp [armed] at bounded ⊢
        omega

end Bounds

end BarrierSys

end KinuxKernel
