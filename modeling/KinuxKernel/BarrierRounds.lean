import KinuxKernel.BarrierGate
import KinuxKernel.CyclicBarrier

/-!
# The rounds of a barrier

`count` threads that use a barrier without timeout go through it in step: the
counts of their arrivals and returns are those of a cyclic barrier.
-/

namespace KinuxKernel

namespace BarrierSys

open TraceRun ThreadPoints CyclicBarrier

variable {Thread : Type*} [DecidableEq Thread]

/-- The thread has executed `left--` in its call of the given number. -/
def ArrivedInCall (thread : Thread) (number : Nat) (trace : List (Event Thread)) : Prop :=
  ∃ before, .exec thread .decrementLeft :: before <:+ trace ∧ calls thread before = number

/-- The arrivals and returns of all threads. -/
def progress (trace : List (Event Thread)) : Counts Thread :=
  ⟨fun thread => arrivals thread trace, fun thread => completed thread trace⟩

section Progress

variable (thread : Thread) (trace : List (Event Thread))

theorem progress_arrive :
    progress (.exec thread .decrementLeft :: trace) =
      { progress trace with
        arrived := Function.update (progress trace).arrived thread
          ((progress trace).arrived thread + 1) } := by
  simp only [progress, Counts.mk.injEq]
  constructor <;> ext other
  · by_cases same : other = thread
    · simp [arrivals, same]
    · simp [arrivals, same, Ne.symm same]
  · simp [completed, WaitPoint.returns]

theorem progress_return (code : Int) :
    progress (.exec thread (.ret code) :: trace) =
      { progress trace with
        departed := Function.update (progress trace).departed thread
          ((progress trace).departed thread + 1) } := by
  simp only [progress, Counts.mk.injEq]
  constructor <;> ext other
  · simp [arrivals]
  · by_cases same : other = thread
    · simp [completed, WaitPoint.returns, same]
    · simp [completed, same, Ne.symm same]

end Progress

section AnyBarrier

variable {memory : Barrier Thread} {barrierId count : BitVec 32} {timeout tgid : Int}
  {trace : List (Event Thread)} {system : System Thread}

/-- The arrivals of a thread are those of its calls, in order. -/
theorem QuietRun.arrivedInCall
    (run : QuietRun (created memory barrierId count timeout tgid) trace system)
    (thread : Thread) {number : Nat} (positive : 1 ≤ number)
    (le : number ≤ arrivals thread trace) : ArrivedInCall thread number trace := by
  induction run with
  | start =>
      simp only [arrivals, executedBy, List.countP_nil] at le
      omega
  | @next trace before after event earlier quiet stepTo ih =>
      by_cases past : number ≤ arrivals thread trace
      · obtain ⟨moment, suffix, same⟩ := ih past
        exact ⟨moment, suffix.trans (List.suffix_cons _ _), same⟩
      · -- this event is the arrival
        have arrives : event = .exec thread .decrementLeft := by
          rcases quiet_cases quiet stepTo with
            ⟨mover, point, -, -, rfl, -⟩ | ⟨mover, rfl, -⟩ | ⟨rfl, -⟩
          · by_contra other
            apply past
            simp only [Event.exec.injEq, not_and] at other
            by_cases moved : mover = thread
            · simpa [arrivals, other moved] using le
            · simpa [arrivals, moved] using le
          · exact (past (by simpa [arrivals] using le)).elim
          · exact (past (by simpa [arrivals] using le)).elim
        subst arrives
        refine ⟨trace, List.suffix_refl _, ?_⟩
        have atPoint := (step_eq_some_iff.mp stepTo).1
        have begun := QuietRun.balance call_delimited earlier thread
        have arrived := QuietRun.balance arrival_delimited earlier thread
        simp only [atPoint, WaitPoint.inCall, WaitPoint.arrived] at begun arrived
        simp [arrivals] at le past arrived
        simp [calls] at begun ⊢
        omega

theorem QuietRun.syncNum_counted
    (run : QuietRun (created memory barrierId count timeout tgid) trace system) :
    system.barrier.syncNum = BitVec.ofNat 32 (executed (· = .incrementSyncNum) trace) := by
  induction run with
  | start => rfl
  | next earlier quiet stepTo same =>
      rcases quiet_cases quiet stepTo with
        ⟨thread, point, barrier, target, rfl, -, executes, rfl⟩ | ⟨thread, rfl, rfl⟩ |
        ⟨rfl, -, rfl⟩
      · cases executes
        case incrementSyncNum => simp [same, BitVec.ofNat_add]
        all_goals simpa using same
      · simpa using same
      · simpa using same

theorem QuietRun.syncNum_eq [Fintype Thread]
    (run : QuietRun (created memory barrierId count timeout tgid) trace system)
    (settled : ∀ thread, system.point thread ≠ .incrementSyncNum) :
    system.barrier.syncNum = BitVec.ofNat 32 (resets trace) := by
  have delimited : Delimits Thread (· = .clearCondFlag) (· = .incrementSyncNum)
      (· = .incrementSyncNum) := by
    refine ⟨rfl, fun thread barrier after point target executes => ?_⟩
    cases executes <;> rfl
  have nobody : countAt (· = .incrementSyncNum) system.point = 0 :=
    countAt_eq_zero_iff.mpr fun thread => by simpa using settled thread
  have balance := QuietRun.total_balance delimited run
  rw [nobody, Nat.add_zero] at balance
  rw [QuietRun.syncNum_counted run, resets, balance]

/-- Without a timeout a flag that was clear from the start stays clear. -/
theorem QuietRun.code_eq_zero [Fintype Thread] (several : 2 ≤ count.toNat)
    (untimed : timeout ≤ 0) (lowered : memory.timeoutFlag = false)
    (run : QuietRun (created memory barrierId count timeout tgid) trace system) :
    system.barrier.timeoutFlag = false ∧
      ∀ thread code, system.point thread = .unlock code ∨ system.point thread = .ret code →
        code = 0 := by
  induction run with
  | start => exact ⟨lowered, fun thread code atEnd => by simp [created] at atEnd⟩
  | next earlier quiet stepTo ih =>
      rcases quiet_cases quiet stepTo with
        ⟨mover, point, barrier, target, -, atPoint, executes, rfl⟩ | ⟨mover, -, rfl⟩ |
        ⟨-, armed, rfl⟩
      · have lower : barrier.timeoutFlag = false := by
          cases executes <;> simp [ih.1]
        refine ⟨lower, fun thread code atEnd => ?_⟩
        by_cases moved : thread = mover
        · subst thread
          simp only [Function.update_self] at atEnd
          have past := ih.2 mover
          cases executes <;> simp_all
        · exact ih.2 thread code (by simpa [moved] using atEnd)
      · exact ih
      · have timed := (QuietRun.counted several earlier).1.timed armed
        rw [(QuietRun.constant earlier).2] at timed
        omega

end AnyBarrier

section ExactCallers

variable [Fintype Thread] {memory : Barrier Thread} {barrierId count : BitVec 32}
  {timeout tgid : Int} {trace : List (Event Thread)} {system : System Thread}
  (several : 2 ≤ count.toNat) (untimed : timeout ≤ 0)
  (exactly : Fintype.card Thread = count.toNat)
  (run : QuietRun (created memory barrierId count timeout tgid) trace system)

include several untimed exactly run

/-- Every thread arrives once in every round. -/
theorem QuietRun.arrivals_eq (thread : Thread) :
    arrivals thread trace = resets trace +
      if system.barrier.condFlag = 0 then (system.point thread).inside.toNat else 1 := by
  have balance := QuietRun.balance inside_delimited run thread
  have rounds := ClearRun.group_rounds several untimed {thread} 1
    (fun point full => by
      have everyone := forall_of_card_le_countAt (exactly.trans full.symm).le thread
      simp [everyone])
    (QuietRun.clear several untimed exactly.le run)
  simp only [Finset.sum_singleton, one_mul] at rounds
  rcases (QuietRun.counted several run).1.flag with low | raised
  · rw [if_pos low]
    have past := rounds.1 low
    rw [arrivals, balance, past]
  · rw [if_neg (by omega), rounds.2 raised]

/-- The threads use the barrier as a cyclic barrier. -/
theorem QuietRun.refines : Reachable (progress trace) := by
  induction run with
  | start => exact Relation.ReflTransGen.refl
  | next earlier quiet stepTo reached =>
      rcases quiet_cases quiet stepTo with
        ⟨thread, point, barrier, target, rfl, atPoint, executes, rfl⟩ | ⟨thread, rfl, rfl⟩ |
        ⟨rfl, -, rfl⟩
      · have balance := QuietRun.balance arrival_delimited earlier thread
        rw [atPoint] at balance
        cases executes
        case decrementLeft =>
          rw [progress_arrive]
          exact reached.tail (.arrive thread (by
            simpa [progress, arrivals, completed, WaitPoint.arrived] using balance))
        case ret code =>
          rw [progress_return]
          refine reached.tail (.depart thread ?_ fun other => ?_)
          · simp only [WaitPoint.arrived, Bool.toNat_true] at balance
            simp only [progress, arrivals, completed]
            omega
          · have own := QuietRun.arrivals_eq several untimed exactly earlier thread
            have others := QuietRun.arrivals_eq several untimed exactly earlier other
            rw [atPoint] at own
            simp only [WaitPoint.inside, Bool.toNat_false] at own
            simp only [progress]
            split at own <;> simp_all
        all_goals simpa [progress, arrivals, completed, WaitPoint.returns] using reached
      · simpa [progress, arrivals, completed] using reached
      · simpa [progress, arrivals, completed] using reached

/-- Barrier rounds are safe: when a thread returns, every thread has arrived in
its own call of that number; no thread completes more than one call more than
another; all calls return zero; and `sync_num` counts the rounds. -/
theorem rounds_are_safe :
    (∀ thread code earlier, .exec thread (.ret code) :: earlier <:+ trace →
      ∀ other, ArrivedInCall other (calls thread earlier) earlier) ∧
    (∀ thread other, completed thread trace ≤ completed other trace + 1) ∧
    (memory.timeoutFlag = false →
      ∀ thread code, .exec thread (.ret code) ∈ trace → code = 0) ∧
    ((∀ thread, system.point thread ≠ .incrementSyncNum) →
      system.barrier.syncNum = BitVec.ofNat 32 (resets trace)) := by
  refine ⟨?_, ?_, ?_, QuietRun.syncNum_eq run⟩
  · intro thread code earlier executed other
    obtain ⟨before, after, earlierRun, quiet, stepTo⟩ := run.of_executed executed
    have atPoint := (step_eq_some_iff.mp stepTo).1
    have begun := QuietRun.balance call_delimited earlierRun thread
    rw [atPoint] at begun
    change calls thread earlier = completed thread earlier + 1 at begun
    rw [begun]
    apply QuietRun.arrivedInCall earlierRun other (by omega)
    -- after the return the thread has departed as often as everybody has arrived
    have reached := QuietRun.refines several untimed exactly
      (QuietRun.extend earlierRun _ quiet stepTo)
    have present := reached.departed_le_arrived thread other
    simpa [progress, completed, arrivals, WaitPoint.returns] using present
  · exact (QuietRun.refines several untimed exactly run).departed_le_succ
  · intro lowered thread code returned
    obtain ⟨later, earlier, rfl⟩ := List.append_of_mem returned
    obtain ⟨before, after, earlierRun, -, stepTo⟩ :=
      run.of_executed (List.suffix_append later _)
    have atPoint := (step_eq_some_iff.mp stepTo).1
    exact (QuietRun.code_eq_zero several untimed lowered earlierRun).2 thread code (.inr atPoint)

end ExactCallers

theorem rounds_are_safe_once :
    (∀ other, ArrivedInCall other 1 oneRound) ∧
      ∀ thread code, .exec thread (.ret code) ∈ .exec 0 (.ret 0) :: oneRound → code = 0 := by
  obtain ⟨system, run⟩ : ∃ system, QuietRun (created .zeroed 1 2 0 0 : System (Fin 2))
      (.exec 0 (.ret 0) :: oneRound) system :=
    exists_run_of_replay (by simp [oneRound, script, Event.Quiet]) (by decide +kernel)
  have safe := rounds_are_safe (by decide) le_rfl (by decide) run
  exact ⟨safe.1 0 0 oneRound (List.suffix_refl _), safe.2.2.1 rfl⟩

end BarrierSys

end KinuxKernel
