import KinuxKernel.BarrierTimeouts

/-!
# The members of a round

Whoever calls `barrier_wait`, however many threads there are and whether or not
the timer expires: a thread takes part in a round at most once, and a round ends
only after `count` different threads have joined it or its timer has expired
before that.
-/

namespace KinuxKernel

namespace BarrierSys

open TraceRun ThreadPoints

section Counts

variable {Thread : Type*} [DecidableEq Thread]

/-- Number of `left--` that a thread has executed in a round. -/
def joins (thread : Thread) (round : Nat) : List (Event Thread) → Nat
  | [] => 0
  | event :: earlier =>
      joins thread round earlier +
        (event.executesBy thread (· = .decrementLeft) && decide (resets earlier = round)).toNat

/-- The threads that have joined a round. -/
def members [Fintype Thread] (round : Nat) (trace : List (Event Thread)) : Finset Thread :=
  Finset.univ.filter fun thread => 1 ≤ joins thread round trace

variable {thread other : Thread} {point : WaitPoint} {trace : List (Event Thread)} {round : Nat}

@[simp]
theorem joins_exec :
    joins thread round (.exec other point :: trace) =
      joins thread round trace +
        (decide (other = thread) && decide (point = .decrementLeft) &&
          decide (resets trace = round)).toNat := rfl

@[simp]
theorem joins_block : joins thread round (.block other :: trace) = joins thread round trace := rfl

@[simp]
theorem joins_expire : joins thread round (.expire :: trace) = joins thread round trace := rfl

/-- Nobody joins a round before it begins. -/
theorem joins_eq_zero (future : resets trace < round) : joins thread round trace = 0 := by
  induction trace with
  | nil => rfl
  | cons event earlier ih =>
      have before : resets earlier ≤ resets (event :: earlier) :=
        executed_le_of_suffix _ (List.suffix_cons event earlier)
      have notNow : resets earlier ≠ round := by omega
      simp [joins, ih (by omega), notNow]

theorem arrivalsIn_eq_sum_joins [Fintype Thread] (round : Nat) (trace : List (Event Thread)) :
    arrivalsIn round trace = ∑ thread, joins thread round trace := by
  induction trace with
  | nil => simp [joins]
  | cons event earlier ih =>
      have here : (event.executes (· = .decrementLeft) &&
          decide (resets earlier = round)).toNat =
          ∑ thread, (event.executesBy thread (· = .decrementLeft) &&
            decide (resets earlier = round)).toNat := by
        cases event with
        | exec mover point =>
            rw [Finset.sum_eq_single mover]
            · simp [Event.executes, Event.executesBy]
            · intro thread _ different
              simp [Event.executesBy, Ne.symm different]
            · simp
        | block | signal | expire => simp [Event.executes, Event.executesBy]
      simp only [arrivalsIn, joins, Finset.sum_add_distrib, ih, here]

/-- A round that nobody joins twice has as many members as `left--`. -/
theorem arrivalsIn_eq_card_members [Fintype Thread]
    (once : ∀ thread, joins thread round trace ≤ 1) :
    arrivalsIn round trace = (members round trace).card := by
  rw [arrivalsIn_eq_sum_joins, members, Finset.card_filter]
  apply Finset.sum_congr rfl
  intro thread _
  have atMost := once thread
  split <;> omega

end Counts

section Runs

variable {Thread : Type*} [DecidableEq Thread] [Fintype Thread]

/-- A thread has joined every round at most once.  If it has joined the current
one, it is inside or the gate is closed behind it. -/
structure JoinsOnce (thread : Thread) (trace : List (Event Thread)) (system : System Thread) :
    Prop where
  once : ∀ round, joins thread round trace ≤ 1
  joined : joins thread (resets trace) trace = 1 →
    (system.point thread).inside = true ∨
      system.barrier.condFlag = 1 ∧ (system.point thread).inWindow = false

variable {thread : Thread} {trace : List (Event Thread)} {system : System Thread}
  {mover : Thread} {point target : WaitPoint} {barrier : Barrier Thread}

omit [Fintype Thread] in
/-- A call about to execute `left--` has not joined the current round yet. -/
theorem JoinsOnce.fresh (once : JoinsOnce thread trace system)
    (atPoint : (system.point thread).inWindow = true) :
    joins thread (resets trace) trace = 0 := by
  by_contra joined
  have atMost := once.once (resets trace)
  rcases once.joined (by omega) with within | ⟨-, away⟩
  · cases point : system.point thread <;> simp_all [WaitPoint.inside, WaitPoint.inWindow]
  · simp [away] at atPoint

/-- Whoever leaves the inside leaves it with the flag up. -/
theorem raised_of_leaves (accounting : Accounting system) (atPoint : system.point mover = point)
    (executes : Executes mover system.barrier point barrier target)
    (within : point.inside = true) :
    target.inside = true ∨ barrier.condFlag = 1 ∧ target.inWindow = false := by
  cases executes with
  | incrementLeft => exact .inr ⟨(accounting.owner_at atPoint rfl).2.1, rfl⟩
  | incrementLeftLast => exact .inr ⟨(accounting.owner_at atPoint rfl).2.1, rfl⟩
  | idle | gate | lockArrive | arm | join | startTimer | decrementLeft | early | last
  | unlockSleep | sleep | lockLeave | allLeft | someLeft | clearTimeoutFlag | clearCondFlag
  | incrementSyncNum | wakeGate | testTimeoutFlag | cancelTimer | noTimer | setCondFlag
  | wakeSleepers | unlock | ret =>
      first
      | exact .inl rfl
      | simp [WaitPoint.inside] at within

theorem JoinsOnce.exec (once : JoinsOnce thread trace system) (accounting : Accounting system)
    (atPoint : system.point mover = point)
    (executes : Executes mover system.barrier point barrier target) :
    JoinsOnce thread (.exec mover point :: trace)
      ⟨barrier, Function.update system.point mover target⟩ := by
  by_cases resetting : point = .clearCondFlag
  · -- the round ends, and nobody has joined the next one
    subst resetting
    have none : joins thread (resets trace + 1) trace = 0 := joins_eq_zero (by omega)
    exact ⟨fun round => by simpa using once.once round, fun joined => by simp [none] at joined⟩
  · by_cases joining : mover = thread ∧ point = .decrementLeft
    · obtain ⟨rfl, rfl⟩ := joining
      have fresh := once.fresh (by rw [atPoint]; rfl)
      constructor
      · intro round
        by_cases now : resets trace = round
        · subst now
          simp [fresh]
        · simpa [now] using once.once round
      · intro _
        cases executes
        exact .inl (by simp [WaitPoint.inside])
    · have same : ∀ round, joins thread round (.exec mover point :: trace) =
          joins thread round trace := by
        intro round
        rcases not_and_or.mp joining with away | away <;> simp [away]
      constructor
      · intro round
        rw [same]
        exact once.once round
      · intro joined
        rw [same, resets_exec, decide_eq_false resetting] at joined
        have before := once.joined joined
        by_cases own : mover = thread
        · subst own
          rw [atPoint] at before
          simp only [Function.update_self]
          rcases before with within | ⟨raised, outside⟩
          · exact raised_of_leaves accounting atPoint executes within
          · right
            refine ⟨executes.stays_raised raised resetting, ?_⟩
            by_contra enters
            rcases executes.window (by simpa using enters) with window | down
            · simp [window] at outside
            · simp [raised] at down
        · simp only [ne_eq, Ne.symm own, not_false_eq_true, Function.update_of_ne]
          exact before.imp_right fun past =>
            ⟨executes.stays_raised past.1 resetting, past.2⟩

variable {memory : Barrier Thread} {barrierId count : BitVec 32} {timeout tgid : Int}

theorem QuietRun.joinsOnce
    (run : QuietRun (created memory barrierId count timeout tgid) trace system)
    (thread : Thread) : JoinsOnce thread trace system := by
  induction run with
  | start => exact ⟨fun _ => Nat.zero_le _, fun joined => absurd joined (by simp [joins])⟩
  | next earlier quiet stepTo once =>
      rcases quiet_cases quiet stepTo with
        ⟨mover, point, barrier, target, rfl, atPoint, executes, rfl⟩ | ⟨_, rfl, rfl⟩ |
        ⟨rfl, -, rfl⟩
      · exact once.exec (QuietRun.accounting earlier) atPoint executes
      · exact ⟨once.once, once.joined⟩
      · exact ⟨once.once, fun joined => (once.joined joined).imp_right fun away => ⟨rfl, away.2⟩⟩

/-- A round that has ended was full, or its timer expired before that. -/
theorem QuietRun.finished_rounds (several : 2 ≤ count.toNat)
    (run : QuietRun (created memory barrierId count timeout tgid) trace system)
    {round : Nat} (finished : round < resets trace) :
    count.toNat ≤ arrivalsIn round trace ∨ ExpiredEarly count.toNat round trace := by
  induction run with
  | start => exact absurd finished (Nat.not_lt_zero _)
  | @next trace before after event earlier quiet stepTo ended =>
      have later : trace <:+ event :: trace := List.suffix_cons event trace
      by_cases old : round < resets trace
      · rcases ended old with full | expired
        · exact .inl (full.trans (arrivalsIn_le_of_suffix later))
        · exact .inr ((expiredEarly_cons_iff trace).mpr (.inr expired))
      · rcases quiet_cases quiet stepTo with
          ⟨mover, point, barrier, target, rfl, atPoint, executes, rfl⟩ | ⟨_, rfl, rfl⟩ |
          ⟨rfl, -, rfl⟩
        · have resetting : point = .clearCondFlag := by
            by_contra away
            simp [away] at finished
            omega
          subst resetting
          obtain rfl : round = resets trace := by
            simp at finished
            omega
          have facts := (QuietRun.accounting earlier).owner_at atPoint rfl
          simpa using ((QuietRun.callFacts several earlier).1).raised facts.2.1
        · exact absurd finished old
        · exact absurd finished old

/-- Whoever calls `barrier_wait` and whatever the timer does: no thread takes
part twice in one round, and every round that has ended had `count` different
members unless its timer expired before they had come. -/
theorem rounds_have_distinct_members (several : 2 ≤ count.toNat)
    (run : QuietRun (created memory barrierId count timeout tgid) trace system) :
    (∀ thread round, joins thread round trace ≤ 1) ∧
    ∀ round, round < resets trace →
      count.toNat ≤ (members round trace).card ∨ ExpiredEarly count.toNat round trace := by
  have once (thread : Thread) := (run.joinsOnce thread).once
  refine ⟨once, fun round finished => ?_⟩
  rw [← arrivalsIn_eq_card_members fun thread => once thread round]
  exact run.finished_rounds several finished

/-- The round of a caller that nobody joins has ended, so its timer expired. -/
theorem lone_round_expired :
    ∃ system, QuietRun (created .zeroed 1 2 1 0 : System (Fin 2)) (loneCaller 0) system ∧
      resets (loneCaller (0 : Fin 2)) = 1 ∧ ExpiredEarly 2 0 (loneCaller (0 : Fin 2)) := by
  obtain ⟨system, run⟩ : ∃ system, QuietRun (created .zeroed 1 2 1 0 : System (Fin 2))
      (loneCaller 0) system :=
    exists_run_of_replay (by simp [loneCaller, script, Event.Quiet]) (by decide +kernel)
  have rounds := (rounds_have_distinct_members (by decide) run).2 0 (by decide)
  exact ⟨system, run, by decide, rounds.resolve_left (by decide)⟩

end Runs

end BarrierSys

end KinuxKernel
