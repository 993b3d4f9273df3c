import KinuxKernel.BarrierReuse

/-!
# The gate of a barrier

The gate is tested outside the lock and not tested again under it.  A call that
stands between the two when the flag is raised joins a round that is already
being released.  As long as the flag is only raised while nobody stands there,
every round takes exactly `count` calls in and the gate keeps all others out.
-/

namespace KinuxKernel

namespace BarrierSys

open TraceRun ThreadPoints

section Statements

variable {Thread : Type*} [DecidableEq Thread] {thread : Thread}
  {barrier after : Barrier Thread} {point target : WaitPoint}

/-- The window is entered through the gate only. -/
theorem Executes.window (executes : Executes thread barrier point after target)
    (enters : target.inWindow = true) : point.inWindow = true ∨ barrier.condFlag = 0 := by
  cases executes <;> simp_all [WaitPoint.inWindow]

theorem Executes.raise (executes : Executes thread barrier point after target)
    (raised : after.condFlag = 1) : barrier.condFlag = 1 ∨ point = .setCondFlag := by
  cases executes <;> simp_all [Barrier.finishWait, Barrier.wakeUpAll]

/-- Only the reset lowers the flag. -/
theorem Executes.stays_raised (executes : Executes thread barrier point after target)
    (raised : barrier.condFlag = 1) (away : point ≠ .clearCondFlag) : after.condFlag = 1 := by
  cases executes <;> simp_all

/-- Outside the critical sections a thread changes the lock and the wait queue
only. -/
theorem Executes.outside (executes : Executes thread barrier point after target)
    (outside : point.holdsLock = false) :
    after.condFlag = barrier.condFlag ∧ after.timeoutFlag = barrier.timeoutFlag ∧
      after.hrTimer = barrier.hrTimer ∧ after.left = barrier.left := by
  cases executes <;> simp_all [WaitPoint.holdsLock]

end Statements

variable {Thread : Type*}

/-- The two events that raise the flag. -/
def Event.Raises : Event Thread → Prop
  | .exec _ .setCondFlag | .expire => True
  | _ => False

/-- No call stands between the gate's test and its `left--`. -/
def WindowClear (system : System Thread) : Prop :=
  ∀ thread, (system.point thread).inWindow = false

variable [DecidableEq Thread]

/-- Runs without signals that raise the flag only while the window is clear. -/
abbrev ClearRun (start : System Thread) : List (Event Thread) → System Thread → Prop :=
  Run step (fun _ system event => event.Quiet ∧ (event.Raises → WindowClear system)) start

/-- No `left--` of the run was executed while the flag was up. -/
def NeverLate (start : System Thread) (trace : List (Event Thread)) : Prop :=
  ∀ thread earlier before, .exec thread .decrementLeft :: earlier <:+ trace →
    replay step start earlier = some before → before.barrier.condFlag ≠ 1

/-- No call joins a round that is being released; without a timeout at most
`count` calls return zero for every `count` calls that arrive. -/
def GateCloses (start : System Thread) (trace : List (Event Thread)) : Prop :=
  NeverLate start trace ∧
    (start.barrier.timeout ≤ 0 →
      executed (· = .ret 0) trace ≤
        start.barrier.initCount.toNat *
          (executed (· = .decrementLeft) trace / start.barrier.initCount.toNat))

theorem ClearRun.quiet {start system : System Thread} {trace : List (Event Thread)}
    (run : ClearRun start trace system) : QuietRun start trace system :=
  run.mono fun _ _ _ legal => legal.1

section Rounds

variable {memory : Barrier Thread} {barrierId count : BitVec 32} {timeout tgid : Int}
  {trace : List (Event Thread)} {system : System Thread}

/-- The window stays clear while the flag is up. -/
theorem ClearRun.window_clear
    (run : ClearRun (created memory barrierId count timeout tgid) trace system) :
    system.barrier.condFlag = 1 → WindowClear system := by
  induction run with
  | start =>
      intro raised
      simp [created, Barrier.initialise] at raised
  | @next trace before after event _ legal stepTo clear =>
      obtain ⟨quiet, raisesClear⟩ := legal
      intro raised other
      rcases quiet_cases quiet stepTo with
        ⟨thread, point, barrier, target, rfl, atPoint, executes, rfl⟩ | ⟨thread, -, rfl⟩ |
        ⟨rfl, -, rfl⟩
      · have before_clear : WindowClear before := by
          rcases executes.raise raised with already | rfl
          · exact clear already
          · exact raisesClear trivial
        by_cases moved : other = thread
        · subst other
          simp only [Function.update_self]
          by_contra enters
          rcases executes.window (by simpa using enters) with inside | opened
          · simp [← atPoint, before_clear thread] at inside
          · rcases executes.raise raised with already | rfl
            · omega
            · cases executes
              simp [WaitPoint.inWindow] at enters
        · simpa [moved] using before_clear other
      · exact clear raised other
      · exact raisesClear trivial other

/-- A late `left--` needs a call in the window while the flag is up. -/
theorem ClearRun.neverLate
    (run : ClearRun (created memory barrierId count timeout tgid) trace system) :
    NeverLate (created memory barrierId count timeout tgid) trace := by
  intro thread earlier before executed reached raised
  obtain ⟨earlierRun, -, after, stepTo⟩ := run.step_of_reached executed reached
  have atPoint := (step_eq_some_iff.mp stepTo).1
  have clear := ClearRun.window_clear earlierRun raised thread
  simp [atPoint, WaitPoint.inWindow] at clear

/-- Of the calls of some threads, those that have not left are inside. -/
theorem QuietRun.group_balance (group : Finset Thread)
    (run : QuietRun (created memory barrierId count timeout tgid) trace system) :
    ∑ thread ∈ group, arrivals thread trace =
      ∑ thread ∈ group, executedBy thread WaitPoint.leaves trace +
        ∑ thread ∈ group, (system.point thread).inside.toNat := by
  rw [← Finset.sum_add_distrib]
  apply Finset.sum_congr rfl
  intro thread _
  exact QuietRun.balance inside_delimited run thread

variable [Fintype Thread]

/-- Without a timeout the calls come and go in rounds.  `group` is any set of
threads of which a full round holds `size`: every finished round has taken
`size` of their calls in and let them out again. -/
theorem ClearRun.group_rounds (several : 2 ≤ count.toNat) (untimed : timeout ≤ 0)
    (group : Finset Thread) (size : Nat)
    (complete : ∀ point : Thread → WaitPoint,
      countAt WaitPoint.inside point = count.toNat →
        ∑ thread ∈ group, (point thread).inside.toNat = size)
    (run : ClearRun (created memory barrierId count timeout tgid) trace system) :
    (system.barrier.condFlag = 0 →
      ∑ thread ∈ group, executedBy thread WaitPoint.leaves trace = size * resets trace) ∧
    (system.barrier.condFlag = 1 →
      ∑ thread ∈ group, arrivals thread trace = size * (resets trace + 1)) := by
  induction run with
  | start =>
      exact ⟨fun _ => by simp [executedBy, resets, executed],
        fun raised => by simp [created] at raised⟩
  | @next trace before after event earlier legal stepTo ih =>
      obtain ⟨quiet, -⟩ := legal
      obtain ⟨accounting, constant, nonzero, -⟩ :=
        QuietRun.counted several (ClearRun.quiet earlier)
      have balance := QuietRun.group_balance group (ClearRun.quiet earlier)
      rcases quiet_cases quiet stepTo with
        ⟨thread, point, barrier, target, rfl, atPoint, executes, rfl⟩ | ⟨thread, rfl, rfl⟩ |
        ⟨rfl, armed, rfl⟩
      · have facts (holds : point.holdsLock = true) :
            OwnerFacts point before.barrier (inside before) :=
          accounting.owner_at atPoint holds
        cases executes
        case decrementLeft =>
          refine ⟨fun low => by simpa [WaitPoint.leaves] using ih.1 low, fun raised => ?_⟩
          have clear := ClearRun.window_clear earlier raised thread
          simp [atPoint, WaitPoint.inWindow] at clear
        case incrementLeft | incrementLeftLast =>
          obtain ⟨-, raised, -⟩ := facts rfl
          refine ⟨fun low => ?_, fun _ => by simpa [arrivals] using ih.2 raised⟩
          change before.barrier.condFlag = 0 at low
          omega
        case clearCondFlag =>
          -- everybody has left, so the round's arrivals are its departures
          obtain ⟨empty, raised, -⟩ := facts rfl
          refine ⟨fun _ => ?_, fun raised => by simp at raised⟩
          have full := ih.2 raised
          have nobody : ∑ thread ∈ group, (before.point thread).inside.toNat = 0 := by
            apply Finset.sum_eq_zero
            intro other _
            simp [countAt_eq_zero_iff.mp empty other]
          simp [WaitPoint.leaves]
          omega
        case setCondFlag =>
          -- the round is full, so its arrivals are the past ones and those inside
          have full := (facts rfl).1.trans (capacity_eq nonzero)
          refine ⟨fun low => by simp at low, fun _ => ?_⟩
          rw [constant] at full
          have present := complete before.point full
          rcases accounting.flag with low | raised
          · have past := ih.1 low
            simp [arrivals, Nat.mul_succ] at balance ⊢
            omega
          · simpa [arrivals] using ih.2 raised
        all_goals simpa [WaitPoint.leaves, arrivals] using ih
      · simpa [arrivals] using ih
      · have timed := accounting.timed armed
        rw [(QuietRun.constant (ClearRun.quiet earlier)).2] at timed
        omega

theorem ClearRun.rounds (several : 2 ≤ count.toNat) (untimed : timeout ≤ 0)
    (run : ClearRun (created memory barrierId count timeout tgid) trace system) :
    (system.barrier.condFlag = 0 →
      executed WaitPoint.leaves trace = count.toNat * resets trace) ∧
    (system.barrier.condFlag = 1 →
      executed (· = .decrementLeft) trace = count.toNat * (resets trace + 1)) := by
  rw [executed_eq_sum, executed_eq_sum]
  refine ClearRun.group_rounds several untimed Finset.univ count.toNat ?_ run
  intro point full
  rw [← full, countAt_eq_sum]

/-- Without a timeout no more calls return zero than complete rounds allow. -/
theorem ClearRun.zeros_le (several : 2 ≤ count.toNat) (untimed : timeout ≤ 0)
    (run : ClearRun (created memory barrierId count timeout tgid) trace system) :
    executed (· = .ret 0) trace ≤
      count.toNat * (executed (· = .decrementLeft) trace / count.toNat) := by
  have rounds := ClearRun.rounds several untimed run
  have accounting := (QuietRun.counted several (ClearRun.quiet run)).1
  have arrivals := QuietRun.total_balance arrival_delimited (ClearRun.quiet run)
  have leaves := QuietRun.total_balance inside_delimited (ClearRun.quiet run)
  have zeros : executed (· = .ret 0) trace ≤ executed WaitPoint.returns trace := by
    apply List.countP_mono_left
    intro event _
    cases event <;> simp [Event.executes]
    rintro rfl
    rfl
  have stillInside : countAt WaitPoint.inside system.point ≤
      countAt WaitPoint.arrived system.point := by
    apply Finset.card_le_card
    intro thread member
    simp only [Finset.mem_filter, Finset.mem_univ, true_and] at member ⊢
    revert member
    cases system.point thread <;> simp [WaitPoint.inside, WaitPoint.arrived]
  rcases accounting.flag with low | raised
  · -- whoever is still inside has not returned
    have complete := rounds.1 low
    have quotient : resets trace ≤ executed (· = .decrementLeft) trace / count.toNat := by
      rw [Nat.le_div_iff_mul_le (by omega), Nat.mul_comm]
      omega
    have scaled := Nat.mul_le_mul_left count.toNat quotient
    omega
  · have complete := rounds.2 raised
    rw [complete, Nat.mul_div_cancel_left _ (by omega)]
    omega

theorem ClearRun.gateCloses (several : 2 ≤ count.toNat)
    (run : ClearRun (created memory barrierId count timeout tgid) trace system) :
    GateCloses (created memory barrierId count timeout tgid) trace :=
  ⟨ClearRun.neverLate run, fun untimed => ClearRun.zeros_le several untimed run⟩

/-- When at most `count` threads use a barrier without timeout, everybody is
inside when the flag is raised. -/
theorem QuietRun.clear (several : 2 ≤ count.toNat) (untimed : timeout ≤ 0)
    (few : Fintype.card Thread ≤ count.toNat)
    (run : QuietRun (created memory barrierId count timeout tgid) trace system) :
    ClearRun (created memory barrierId count timeout tgid) trace system := by
  refine run.strengthen ?_
  intro trace before after event earlier quiet stepTo
  refine ⟨quiet, fun raises => ?_⟩
  obtain ⟨accounting, constant, -⟩ := QuietRun.counted several earlier
  rcases quiet_cases quiet stepTo with
    ⟨thread, point, barrier, target, rfl, atPoint, executes, rfl⟩ | ⟨thread, rfl, rfl⟩ |
    ⟨rfl, armed, rfl⟩
  · obtain rfl : point = .setCondFlag := by
      cases point <;> simp_all [Event.Raises]
    have full := (accounting.owner_at atPoint rfl).1.count_le
    rw [constant] at full
    intro other
    have everyone := forall_of_card_le_countAt (few.trans full) other
    revert everyone
    cases before.point other <;> simp [WaitPoint.inside, WaitPoint.inWindow]
  · exact raises.elim
  · have timed := accounting.timed armed
    rw [(QuietRun.constant earlier).2] at timed
    omega

end Rounds

section LateArrivals

variable {start system : System Thread} {trace : List (Event Thread)}

/-- A call at its `left--` while the flag is up arrives late. -/
theorem late_of_window (run : QuietRun start trace system) {thread : Thread}
    (atPoint : system.point thread = .decrementLeft) (raised : system.barrier.condFlag = 1) :
    ∃ trace system, QuietRun start trace system ∧ ¬ NeverLate start trace := by
  refine ⟨.exec thread .decrementLeft :: trace, _,
    QuietRun.extend run (.exec thread .decrementLeft) trivial (step_exec atPoint rfl), ?_⟩
  intro never
  exact never thread trace system (List.suffix_refl _) run.replay_eq raised

variable (memory : Barrier Thread) (barrierId count : BitVec 32) (timeout tgid : Int)

/-- With a timeout one caller is enough: its timer expires before its
`left--`. -/
theorem late_of_timeout (timed : 0 < timeout) (thread : Thread) :
    ∃ trace system, QuietRun (created memory barrierId count timeout tgid) trace system ∧
      ¬ NeverLate (created memory barrierId count timeout tgid) trace := by
  obtain ⟨steps, visited, alone, -⟩ := runAlone_enter thread
    (memory.initialise barrierId count timeout tgid) rfl rfl
  have entered := quietRun_alone (created memory barrierId count timeout tgid) rfl alone
  have armed :
      ((memory.initialise barrierId count timeout tgid).entered thread).hrTimer.isSome := by
    simp [Barrier.entered, Barrier.finishWait, Barrier.initialise, timed]
  have expired := QuietRun.extend entered .expire trivial (if_pos armed)
  exact late_of_window expired (Function.update_self ..) rfl

/-- Without a timeout one caller more than the count is enough: it passes the
gate before the last caller of the round raises the flag. -/
theorem late_of_crowd [Fintype Thread] (several : 2 ≤ count.toNat) (untimed : ¬ 0 < timeout)
    (crowded : count.toNat < Fintype.card Thread) :
    ∃ trace system, QuietRun (created memory barrierId count timeout tgid) trace system ∧
      ¬ NeverLate (created memory barrierId count timeout tgid) trace := by
  obtain ⟨threads, distinct, length⟩ :=
    exists_distinct Thread (Nat.succ_le_of_lt crowded)
  match threads, distinct, length with
  | late :: last :: sleepers, distinct, length =>
    simp only [List.length_cons, Nat.succ_eq_add_one, Nat.add_right_cancel_iff] at length
    simp only [List.nodup_cons, List.mem_cons, not_or] at distinct
    obtain ⟨⟨different, lateFresh⟩, lastFresh, distinct⟩ := distinct
    obtain ⟨trace, system, gathered⟩ :=
      exists_gathered memory barrierId count timeout tgid sleepers distinct (by omega)
    obtain ⟨constant, -⟩ := QuietRun.constant gathered.run
    -- the late caller passes the open gate and stops before the lock
    have passing : runAlone late 2 system.barrier .idle =
        some ([.gate, .idle], system.barrier.finishWait late, .lockArrive) := by
      simp [runAlone, execute, gathered.opened]
    have passed := QuietRun.alone gathered.run (gathered.away late lateFresh) passing
    -- the last caller comes and goes
    obtain ⟨steps, visited, entering, -⟩ := runAlone_enter last
      (system.barrier.finishWait late) gathered.opened gathered.unlocked
    have entered := QuietRun.alone passed
      (by simpa [Ne.symm different] using gathered.away last lastFresh) entering
    have one : ((system.barrier.finishWait late).entered last).left = 1 := by
      have total := gathered.left
      rw [constant] at total
      apply BitVec.eq_of_toNat_eq
      change system.barrier.left.toNat = 1
      omega
    obtain ⟨more, others, barrier, leaving, raised, unlocked⟩ := runAlone_last last _ one
    have left := QuietRun.alone entered (Function.update_self ..) leaving
    -- the late caller takes the lock
    have untimedStill : ¬ 0 < barrier.timeout := by
      rwa [(QuietRun.constant left).2]
    have arriving := QuietRun.alone left (by simp [different])
      (runAlone_lock late barrier unlocked untimedStill)
    exact late_of_window arriving (Function.update_self ..) raised
  | [], _, length | [_], _, length => simp at length <;> omega

/-- A round of two callers that a third one joins after the flag is raised:
three calls return zero although only three have arrived. -/
def overtaken : List (Event (Fin 3)) :=
  (script 0 [.ret 0, .unlock 0, .testTimeoutFlag, .wakeGate, .incrementSyncNum, .clearCondFlag,
    .clearTimeoutFlag, .testAllLeft, .incrementLeft, .lockLeave, .sleep]) ++
  (script 2 [.ret 0, .unlock 0, .incrementLeftLast, .wakeSleepers, .setCondFlag, .cancelTimer,
    .testLeft, .decrementLeft, .testFirst, .lockArrive]) ++
  (script 1 [.ret 0, .unlock 0, .incrementLeftLast, .wakeSleepers, .setCondFlag, .cancelTimer,
    .testLeft, .decrementLeft, .testFirst, .lockArrive, .gate, .idle]) ++
  script 2 [.gate, .idle] ++
  script 0 [.unlockSleep, .testLeft, .decrementLeft, .testFirst, .lockArrive, .gate, .idle]

/-- The gate does not close: with a count of two and three callers a call joins
a round that is being released, and three calls return zero for one complete
round. -/
theorem gate_stays_open :
    ∃ trace, ∃ system : System (Fin 3),
      QuietRun (created .zeroed 1 2 0 0) trace system ∧
        ¬ GateCloses (created .zeroed 1 2 0 0) trace ∧
        executed (· = .ret 0) trace = 3 ∧ executed (· = .decrementLeft) trace = 3 := by
  obtain ⟨system, run⟩ : ∃ system,
      QuietRun (created .zeroed 1 2 0 0 : System (Fin 3)) overtaken system :=
    exists_run_of_replay (by simp [overtaken, script, Event.Quiet]) (by decide +kernel)
  have zeros : executed (· = .ret 0) overtaken = 3 := by decide
  have arrived : executed (· = .decrementLeft) overtaken = 3 := by decide
  refine ⟨_, _, run, fun closes => ?_, zeros, arrived⟩
  have bound := closes.2 le_rfl
  rw [zeros, arrived] at bound
  exact absurd bound (by decide)

variable {memory barrierId count timeout tgid}

/-- As long as the flag is raised only while the window is clear, the gate
closes.  Over all runs it closes exactly for barriers without timeout that at
most `count` threads use. -/
theorem gate_closes_iff [Fintype Thread] (several : 2 ≤ count.toNat) :
    (∀ trace system, ClearRun (created memory barrierId count timeout tgid) trace system →
      GateCloses (created memory barrierId count timeout tgid) trace) ∧
    ((∀ trace system, QuietRun (created memory barrierId count timeout tgid) trace system →
      GateCloses (created memory barrierId count timeout tgid) trace) ↔
        (timeout ≤ 0 ∧ Fintype.card Thread ≤ count.toNat) ∨ IsEmpty Thread) := by
  refine ⟨fun trace system run => ClearRun.gateCloses several run, ?_, ?_⟩
  · intro closes
    by_contra fails
    rw [not_or, not_isEmpty_iff, not_and_or, not_le, not_le] at fails
    obtain ⟨large, ⟨thread⟩⟩ := fails
    have late : ∃ trace system,
        QuietRun (created memory barrierId count timeout tgid) trace system ∧
          ¬ NeverLate (created memory barrierId count timeout tgid) trace := by
      by_cases timed : 0 < timeout
      · exact late_of_timeout memory barrierId count timeout tgid timed thread
      · exact late_of_crowd memory barrierId count timeout tgid several timed
          (large.resolve_left timed)
    obtain ⟨trace, system, run, isLate⟩ := late
    exact isLate (closes trace system run).1
  · rintro (⟨untimed, few⟩ | empty) trace system run
    · exact ClearRun.gateCloses several (QuietRun.clear several untimed few run)
    · refine ⟨fun thread => isEmptyElim thread, fun untimed => ?_⟩
      have few : Fintype.card Thread ≤ count.toNat := by simp [Fintype.card_eq_zero]
      exact ClearRun.zeros_le several untimed (QuietRun.clear several untimed few run)

/-- Two threads complete a round. -/
theorem gate_closes_round :
    GateCloses (created .zeroed 1 2 0 0) (.exec 0 (.ret 0) :: oneRound) := by
  obtain ⟨system, run⟩ : ∃ system, QuietRun (created .zeroed 1 2 0 0)
      (.exec 0 (.ret 0) :: oneRound) system :=
    exists_run_of_replay (by simp [oneRound, script, Event.Quiet]) (by decide +kernel)
  exact (gate_closes_iff (by decide)).2.mpr (.inl ⟨le_rfl, by decide⟩) _ _ run

end LateArrivals

end BarrierSys

end KinuxKernel
