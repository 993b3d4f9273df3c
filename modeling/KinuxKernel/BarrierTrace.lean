import KinuxKernel.BarrierSystem

/-!
# What the history of a barrier says

Counts over the trace of a run: the calls a thread has begun, the `left--` it
has executed, the calls it has completed, and the resets of `cond_flag`.  A
round is the period between two resets, so the number of resets so far is the
number of the round.
-/

namespace KinuxKernel

namespace BarrierSys

open TraceRun ThreadPoints

/-- The last statement of a call. -/
def WaitPoint.returns : WaitPoint → Bool
  | .ret _ => true
  | _ => false

/-- The two `left++`. -/
def WaitPoint.leaves : WaitPoint → Bool
  | .incrementLeft | .incrementLeftLast => true
  | _ => false

section Counts

variable {Thread : Type*}

/-- The execution of a statement that passes `test`. -/
def Event.executes (test : WaitPoint → Bool) : Event Thread → Bool
  | .exec _ point => test point
  | _ => false

/-- How often a statement that passes `test` has been executed. -/
def executed (test : WaitPoint → Bool) (trace : List (Event Thread)) : Nat :=
  trace.countP (Event.executes test)

/-- Number of resets of `cond_flag` to zero, which is the current round. -/
def resets (trace : List (Event Thread)) : Nat :=
  executed (· = .clearCondFlag) trace

/-- Number of `left--` executed in a round. -/
def arrivalsIn (round : Nat) : List (Event Thread) → Nat
  | [] => 0
  | event :: earlier =>
      arrivalsIn round earlier +
        (event.executes (· = .decrementLeft) && decide (resets earlier = round)).toNat

/-- The timer expired in a round before its `count`-th `left--`. -/
def ExpiredEarly (count round : Nat) (trace : List (Event Thread)) : Prop :=
  ∃ earlier, .expire :: earlier <:+ trace ∧ resets earlier = round ∧
    arrivalsIn round earlier < count

section Steps

variable (test : WaitPoint → Bool) (thread : Thread) (point : WaitPoint)
  (trace : List (Event Thread)) (round : Nat)

@[simp]
theorem executed_exec :
    executed test (.exec thread point :: trace) =
      executed test trace + (test point).toNat := by
  cases passes : test point <;> simp [executed, Event.executes, passes]

@[simp]
theorem executed_block : executed test (.block thread :: trace) = executed test trace := by
  simp [executed, Event.executes]

@[simp]
theorem executed_signal : executed test (.signal thread point :: trace) = executed test trace := by
  simp [executed, Event.executes]

@[simp]
theorem executed_expire : executed test (.expire :: trace) = executed test trace := by
  simp [executed, Event.executes]

@[simp]
theorem resets_exec :
    resets (.exec thread point :: trace) =
      resets trace + (decide (point = .clearCondFlag)).toNat := by
  simp [resets]

@[simp]
theorem resets_block : resets (.block thread :: trace) = resets trace := by
  simp [resets]

@[simp]
theorem resets_signal : resets (.signal thread point :: trace) = resets trace := by
  simp [resets]

@[simp]
theorem resets_expire : resets (.expire :: trace) = resets trace := by
  simp [resets]

@[simp]
theorem arrivalsIn_nil : arrivalsIn round ([] : List (Event Thread)) = 0 := rfl

@[simp]
theorem resets_nil : resets ([] : List (Event Thread)) = 0 := rfl

@[simp]
theorem arrivalsIn_exec :
    arrivalsIn round (.exec thread point :: trace) =
      arrivalsIn round trace +
        (decide (point = .decrementLeft) && decide (resets trace = round)).toNat := rfl

@[simp]
theorem arrivalsIn_block :
    arrivalsIn round (.block thread :: trace) = arrivalsIn round trace := rfl

@[simp]
theorem arrivalsIn_signal :
    arrivalsIn round (.signal thread point :: trace) = arrivalsIn round trace := rfl

@[simp]
theorem arrivalsIn_expire :
    arrivalsIn round (.expire :: trace) = arrivalsIn round trace := rfl

variable {count round : Nat}

theorem expiredEarly_cons_iff {event : Event Thread} :
    ExpiredEarly count round (event :: trace) ↔
      (event = .expire ∧ resets trace = round ∧ arrivalsIn round trace < count) ∨
        ExpiredEarly count round trace :=
  exists_executed_cons_iff

@[simp]
theorem expiredEarly_exec :
    ExpiredEarly count round (.exec thread point :: trace) ↔
      ExpiredEarly count round trace := by
  simp [expiredEarly_cons_iff]

@[simp]
theorem expiredEarly_block :
    ExpiredEarly count round (.block thread :: trace) ↔
      ExpiredEarly count round trace := by
  simp [expiredEarly_cons_iff]

@[simp]
theorem expiredEarly_signal :
    ExpiredEarly count round (.signal thread point :: trace) ↔
      ExpiredEarly count round trace := by
  simp [expiredEarly_cons_iff]

theorem not_expiredEarly_nil : ¬ ExpiredEarly count round ([] : List (Event Thread)) := by
  simp [ExpiredEarly]

end Steps

variable {earlier trace : List (Event Thread)} {round : Nat}

theorem executed_le_of_suffix (test : WaitPoint → Bool) (suffix : earlier <:+ trace) :
    executed test earlier ≤ executed test trace :=
  suffix.sublist.countP_le

theorem arrivalsIn_le_of_suffix (suffix : earlier <:+ trace) :
    arrivalsIn round earlier ≤ arrivalsIn round trace := by
  induction trace with
  | nil => simp_all
  | cons event trace ih =>
      rcases List.suffix_cons_iff.mp suffix with rfl | inside
      · exact le_rfl
      · have le := ih inside
        simp only [arrivalsIn]
        omega

theorem arrivalsIn_eq_zero (future : resets trace < round) : arrivalsIn round trace = 0 := by
  induction trace with
  | nil => rfl
  | cons event trace ih =>
      have le : resets trace ≤ resets (event :: trace) :=
        executed_le_of_suffix _ (List.suffix_cons event trace)
      have past : resets trace ≠ round := by omega
      simp [arrivalsIn, ih (by omega), past]

theorem not_expiredEarly_of_lt {count : Nat} (future : resets trace < round) :
    ¬ ExpiredEarly count round trace := by
  rintro ⟨earlier, suffix, rfl, -⟩
  have le : resets (.expire :: earlier) ≤ resets trace := executed_le_of_suffix _ suffix
  rw [resets_expire] at le
  omega

end Counts

section PerThread

variable {Thread : Type*} [DecidableEq Thread]

/-- The execution by `thread` of a statement that passes `test`. -/
def Event.executesBy (thread : Thread) (test : WaitPoint → Bool) : Event Thread → Bool
  | .exec other point => other = thread && test point
  | _ => false

/-- How often `thread` has executed a statement that passes `test`. -/
def executedBy (thread : Thread) (test : WaitPoint → Bool) (trace : List (Event Thread)) : Nat :=
  trace.countP (Event.executesBy thread test)

/-- Number of calls that `thread` has begun. -/
def calls (thread : Thread) (trace : List (Event Thread)) : Nat :=
  executedBy thread (· = .idle) trace

/-- Number of `left--` that `thread` has executed. -/
def arrivals (thread : Thread) (trace : List (Event Thread)) : Nat :=
  executedBy thread (· = .decrementLeft) trace

/-- Number of calls from which `thread` has returned. -/
def completed (thread : Thread) (trace : List (Event Thread)) : Nat :=
  executedBy thread WaitPoint.returns trace

/-- The part of the history since the latest `left--` of `thread`. -/
def sinceArrival (thread : Thread) (trace : List (Event Thread)) : List (Event Thread) :=
  trace.takeWhile (· ≠ .exec thread .decrementLeft)

/-- The history up to the latest `left--` of `thread`. -/
def beforeArrival (thread : Thread) (trace : List (Event Thread)) : List (Event Thread) :=
  (trace.dropWhile (· ≠ .exec thread .decrementLeft)).tail

/-- The round that the latest call of `thread` joined. -/
def callRound (thread : Thread) (trace : List (Event Thread)) : Nat :=
  resets (beforeArrival thread trace)

/-- The latest call of `thread` has executed `point` after its `left--`. -/
def Passed (thread : Thread) (point : WaitPoint) (trace : List (Event Thread)) : Prop :=
  .exec thread point ∈ sinceArrival thread trace

section Steps

variable (thread other : Thread) (test : WaitPoint → Bool) (point : WaitPoint)
  (trace : List (Event Thread))

@[simp]
theorem executedBy_exec :
    executedBy thread test (.exec other point :: trace) =
      executedBy thread test trace + (decide (other = thread) && test point).toNat := by
  cases passes : decide (other = thread) && test point <;>
    simp [executedBy, Event.executesBy, passes]

@[simp]
theorem executedBy_block :
    executedBy thread test (.block other :: trace) = executedBy thread test trace := by
  simp [executedBy, Event.executesBy]

@[simp]
theorem executedBy_expire :
    executedBy thread test (.expire :: trace) = executedBy thread test trace := by
  simp [executedBy, Event.executesBy]

theorem callRound_cons (event : Event Thread) :
    callRound thread (event :: trace) =
      if event = .exec thread .decrementLeft then resets trace else callRound thread trace := by
  by_cases arrives : event = .exec thread .decrementLeft <;>
    simp [callRound, beforeArrival, arrives]

@[simp]
theorem callRound_self :
    callRound thread (.exec thread point :: trace) =
      if point = .decrementLeft then resets trace else callRound thread trace := by
  simp [callRound_cons]

@[simp]
theorem callRound_block : callRound thread (.block other :: trace) = callRound thread trace := by
  simp [callRound_cons]

@[simp]
theorem callRound_signal :
    callRound thread (.signal other point :: trace) = callRound thread trace := by
  simp [callRound_cons]

@[simp]
theorem callRound_expire : callRound thread (.expire :: trace) = callRound thread trace := by
  simp [callRound_cons]

theorem passed_cons_iff (event : Event Thread) :
    Passed thread point (event :: trace) ↔
      event ≠ .exec thread .decrementLeft ∧
        (event = .exec thread point ∨ Passed thread point trace) := by
  by_cases arrives : event = .exec thread .decrementLeft <;>
    simp [Passed, sinceArrival, arrives, eq_comm]

@[simp]
theorem passed_self (executed : WaitPoint) :
    Passed thread point (.exec thread executed :: trace) ↔
      executed ≠ .decrementLeft ∧ (executed = point ∨ Passed thread point trace) := by
  simp [passed_cons_iff]

@[simp]
theorem passed_block :
    Passed thread point (.block other :: trace) ↔ Passed thread point trace := by
  simp [passed_cons_iff]

@[simp]
theorem passed_expire :
    Passed thread point (.expire :: trace) ↔ Passed thread point trace := by
  simp [passed_cons_iff]

variable {thread other}

/-- The history of a call is its own thread's. -/
theorem callRound_other (different : other ≠ thread) :
    callRound thread (.exec other point :: trace) = callRound thread trace := by
  simp [callRound_cons, different]

theorem passed_other (different : other ≠ thread) (executed : WaitPoint) :
    Passed thread point (.exec other executed :: trace) ↔ Passed thread point trace := by
  simp [passed_cons_iff, different]

theorem callRound_le : callRound thread trace ≤ resets trace :=
  executed_le_of_suffix _ ((List.tail_suffix _).trans (List.dropWhile_suffix _))

end Steps

theorem executed_eq_sum [Fintype Thread] (test : WaitPoint → Bool)
    (trace : List (Event Thread)) :
    executed test trace = ∑ thread, executedBy thread test trace := by
  induction trace with
  | nil => simp [executed, executedBy]
  | cons event trace ih =>
      cases event with
      | exec other point =>
          have single : ∑ thread, (decide (other = thread) && test point).toNat =
              (test point).toNat := by
            rw [Finset.sum_eq_single other]
            · simp
            · intro thread _ different
              simp [Ne.symm different]
            · simp
          simp [Finset.sum_add_distrib, ih, single]
      | block other => simpa [executed, executedBy, Event.executes, Event.executesBy] using ih
      | signal other point =>
          simpa [executed, executedBy, Event.executes, Event.executesBy] using ih
      | expire => simpa [executed, executedBy, Event.executes, Event.executesBy] using ih

end PerThread

section Balances

variable {Thread : Type*} [DecidableEq Thread] {memory : Barrier Thread}
  {barrierId count : BitVec 32} {timeout tgid : Int} {trace : List (Event Thread)}
  {system : System Thread}

variable (Thread) in
/-- The statements in `begins` lead into the phase `during` of a call and those
in `ends` lead out of it. -/
def Delimits (begins ends during : WaitPoint → Bool) : Prop :=
  during .idle = false ∧
    ∀ (thread : Thread) (barrier after : Barrier Thread) (point target : WaitPoint),
      Executes thread barrier point after target →
        (during point).toNat + (begins point).toNat =
          (ends point).toNat + (during target).toNat

theorem call_delimited : Delimits Thread (· = .idle) WaitPoint.returns WaitPoint.inCall := by
  refine ⟨rfl, fun thread barrier after point target executes => ?_⟩
  cases executes <;> rfl

theorem arrival_delimited :
    Delimits Thread (· = .decrementLeft) WaitPoint.returns WaitPoint.arrived := by
  refine ⟨rfl, fun thread barrier after point target executes => ?_⟩
  cases executes <;> rfl

theorem inside_delimited :
    Delimits Thread (· = .decrementLeft) WaitPoint.leaves WaitPoint.inside := by
  refine ⟨rfl, fun thread barrier after point target executes => ?_⟩
  cases executes <;> rfl

variable {begins ends during : WaitPoint → Bool}

/-- Every entry of a thread into a phase of its calls is matched by an exit, or
the thread still stands there. -/
theorem QuietRun.balance (delimits : Delimits Thread begins ends during)
    (run : QuietRun (created memory barrierId count timeout tgid) trace system)
    (thread : Thread) :
    executedBy thread begins trace =
      executedBy thread ends trace + (during (system.point thread)).toNat := by
  induction run with
  | start => simp [executedBy, created, delimits.1]
  | next _ quiet stepTo same =>
      rcases quiet_cases quiet stepTo with
        ⟨mover, point, barrier, target, rfl, atPoint, executes, rfl⟩ | ⟨mover, rfl, rfl⟩ |
        ⟨rfl, -, rfl⟩
      · have change := delimits.2 mover _ _ _ _ executes
        by_cases moved : mover = thread
        · subst mover
          simp only [executedBy_exec, decide_true, Bool.true_and, Function.update_self]
          rw [atPoint] at same
          omega
        · simpa [moved, Ne.symm moved] using same
      · simpa using same
      · simpa using same

/-- The entries of all threads are matched by exits and by the threads that
stand in the phase. -/
theorem QuietRun.total_balance [Fintype Thread] (delimits : Delimits Thread begins ends during)
    (run : QuietRun (created memory barrierId count timeout tgid) trace system) :
    executed begins trace = executed ends trace + countAt during system.point := by
  rw [executed_eq_sum, executed_eq_sum, countAt_eq_sum, ← Finset.sum_add_distrib]
  apply Finset.sum_congr rfl
  intro thread _
  exact QuietRun.balance delimits run thread

end Balances

end BarrierSys

end KinuxKernel
