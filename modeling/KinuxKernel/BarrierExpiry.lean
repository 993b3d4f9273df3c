import KinuxKernel.BarrierAgreement

/-!
# Timeouts without an expiry

A call that returns `-ETIME` has read `timeout_flag` in its own round.  The
timer sets the flag and the last call to leave a round clears it, but
`barrier_init` never assigns it, so in the first round of a barrier the flag may
also come from the memory that `kmalloc` returned.
-/

namespace KinuxKernel

namespace BarrierSys

open TraceRun ThreadPoints

section History

variable {Thread : Type*} {trace earlier : List (Event Thread)} {round : Nat}

/-- The timer's callback ran in a round. -/
def Expired (round : Nat) (trace : List (Event Thread)) : Prop :=
  ∃ earlier, .expire :: earlier <:+ trace ∧ resets earlier = round

theorem expired_cons_iff {event : Event Thread} :
    Expired round (event :: trace) ↔
      (event = .expire ∧ resets trace = round) ∨ Expired round trace :=
  exists_executed_cons_iff

@[simp]
theorem expired_exec (thread : Thread) (point : WaitPoint) :
    Expired round (.exec thread point :: trace) ↔ Expired round trace := by
  simp [expired_cons_iff]

@[simp]
theorem expired_block (thread : Thread) :
    Expired round (.block thread :: trace) ↔ Expired round trace := by
  simp [expired_cons_iff]

theorem Expired.cons (expired : Expired round trace) (event : Event Thread) :
    Expired round (event :: trace) :=
  expired_cons_iff.mpr (.inr expired)

theorem Expired.le (expired : Expired round trace) : round ≤ resets trace := by
  obtain ⟨earlier, suffix, rfl⟩ := expired
  rw [← resets_expire]
  exact executed_le_of_suffix _ suffix

theorem expired_script (thread : Thread) (points : List WaitPoint) :
    Expired round (script thread points ++ trace) ↔ Expired round trace := by
  induction points with
  | nil => rfl
  | cons point points ih => exact (expired_exec thread point).trans ih

end History

variable {Thread : Type*} [DecidableEq Thread]

/-- A call returns `-ETIME` only if the timer's callback ran in its own round,
and never on a barrier without timeout. -/
def NoSpuriousTimeout (timeout : Int) (trace : List (Event Thread)) : Prop :=
  (∀ thread earlier, .exec thread (.ret (-ETIME)) :: earlier <:+ trace →
    Expired (callRound thread earlier) earlier) ∧
  (timeout ≤ 0 → ∀ thread, .exec thread (.ret (-ETIME)) ∉ trace)

variable [Fintype Thread]

variable (Thread) in
/-- The flag came set from `kmalloc`, and some call can read it without having
reset it. -/
def StaleFlag (memory : Barrier Thread) (count : BitVec 32) : Prop :=
  memory.timeoutFlag = true ∧ 2 < count.toNat ∧ count.toNat ≤ Fintype.card Thread

/-- Where the flags of a barrier come from. -/
structure Alarms (memory : Barrier Thread) (count : BitVec 32) (trace : List (Event Thread))
    (system : System Thread) : Prop where
  raised : system.barrier.condFlag = 1 →
    Expired (resets trace) trace ∨ count.toNat ≤ Fintype.card Thread
  expired : Expired (resets trace) trace → system.barrier.condFlag = 1
  flagged : system.barrier.timeoutFlag = true →
    Expired (resets trace) trace ∨ memory.timeoutFlag = true
  timed : ∀ round, Expired round trace → 0 < system.barrier.timeout
  leaving : ∀ thread,
    system.point thread = .unlock (-ETIME) ∨ system.point thread = .ret (-ETIME) →
      Expired (callRound thread trace) trace ∨ StaleFlag Thread memory count

variable {memory : Barrier Thread} {barrierId count : BitVec 32} {timeout tgid : Int}
  {trace : List (Event Thread)} {system : System Thread}

/-- A call that has found the flag raised has been alarmed by the timer, or by what came
from `kmalloc`. -/
theorem Alarms.leaving_own (alarms : Alarms memory count trace system) {mover : Thread}
    {point target : WaitPoint} {barrier : Barrier Thread}
    (facts : CallFacts count.toNat mover trace system.barrier point)
    (atPoint : system.point mover = point)
    (executes : Executes mover system.barrier point barrier target)
    (atEnd : target = .unlock (-ETIME) ∨ target = .ret (-ETIME)) :
    Expired (callRound mover (.exec mover point :: trace)) trace ∨
      StaleFlag Thread memory count := by
  cases executes <;> simp only [reduceCtorEq, false_or, or_false, WaitPoint.unlock.injEq,
    WaitPoint.ret.injEq] at atEnd
  case testTimeoutFlag =>
    rw [callRound_self, if_neg (by simp)]
    by_cases flagged : system.barrier.timeoutFlag = true
    · rcases facts with ⟨reset, -⟩ | ⟨joined, -, -, raised, large⟩
      · have lowered := reset.lowered
        simp [flagged] at lowered
      · rw [show callRound mover trace = resets trace from joined]
        rcases alarms.flagged flagged, alarms.raised raised with
          ⟨expired | stale, expired' | enough⟩
        · exact .inl expired
        · exact .inl expired
        · exact .inl expired'
        · exact .inr ⟨stale, large, enough⟩
    · simp [flagged, ETIME] at atEnd
  case incrementLeftLast => simp [ETIME] at atEnd
  case unlock =>
    rw [callRound_self, if_neg (by simp)]
    exact alarms.leaving mover (.inl (atEnd ▸ atPoint))

theorem Alarms.exec (several : 2 ≤ count.toNat)
    (run : QuietRun (created memory barrierId count timeout tgid) trace system)
    (alarms : Alarms memory count trace system) {mover : Thread} {point target : WaitPoint}
    {barrier : Barrier Thread} (atPoint : system.point mover = point)
    (executes : Executes mover system.barrier point barrier target) :
    Alarms memory count (.exec mover point :: trace)
      ⟨barrier, Function.update system.point mover target⟩ := by
  obtain ⟨accounting, constant, nonzero, -⟩ := QuietRun.counted several run
  have calls := (QuietRun.callFacts several run).2 mover
  rw [atPoint] at calls
  have leaving (thread : Thread) (atEnd :
      Function.update system.point mover target thread = .unlock (-ETIME) ∨
        Function.update system.point mover target thread = .ret (-ETIME)) :
      Expired (callRound thread (.exec mover point :: trace)) (.exec mover point :: trace) ∨
        StaleFlag Thread memory count := by
    rw [expired_exec]
    by_cases own : mover = thread
    · subst mover
      exact alarms.leaving_own calls atPoint executes (by simpa using atEnd)
    · rw [callRound_other _ _ own]
      exact alarms.leaving thread (by simpa [Ne.symm own] using atEnd)
  by_cases clearing : point = .clearCondFlag
  · subst clearing
    have future : ¬ Expired (resets trace + 1) trace := fun expired => by
      have le := expired.le
      omega
    cases executes
    refine ⟨fun raised => by simp at raised, fun expired => ?_, fun flagged => ?_,
      fun round expired => alarms.timed round (by simpa using expired), leaving⟩
    · simp [future] at expired
    · have lowered := calls.2.2.2
      simp [lowered] at flagged
  · have sameRound : resets (.exec mover point :: trace) = resets trace := by simp [clearing]
    refine ⟨fun raised => ?_, fun expired => ?_, fun flagged => ?_,
      fun round expired => ?_, leaving⟩
    · rw [sameRound, expired_exec]
      rcases executes.raise raised with before | setting
      · exact alarms.raised before
      · subst setting
        -- the last arriver has everybody of the round inside
        have full := (accounting.owner_at atPoint rfl).1
        rw [Full, capacity_eq nonzero, constant] at full
        exact .inr (full ▸ countAt_le_card _ _)
    · rw [sameRound, expired_exec] at expired
      exact executes.stays_raised (alarms.expired expired) clearing
    · rw [sameRound, expired_exec]
      refine alarms.flagged ?_
      cases executes <;> simp_all
    · rw [expired_exec] at expired
      have timed := alarms.timed round expired
      cases executes <;> exact timed

theorem QuietRun.alarms (several : 2 ≤ count.toNat)
    (run : QuietRun (created memory barrierId count timeout tgid) trace system) :
    Alarms memory count trace system := by
  induction run with
  | start =>
      have never (round : Nat) : ¬ Expired round ([] : List (Event Thread)) := by simp [Expired]
      exact ⟨fun raised => by simp [created] at raised, fun expired => (never _ expired).elim,
        fun flagged => .inr flagged, fun round expired => (never _ expired).elim,
        fun thread atEnd => by simp [created] at atEnd⟩
  | @next trace before after event earlier quiet stepTo alarms =>
      rcases quiet_cases quiet stepTo with
        ⟨mover, point, barrier, target, rfl, atPoint, executes, rfl⟩ | ⟨mover, rfl, rfl⟩ |
        ⟨rfl, armed, rfl⟩
      · exact alarms.exec several earlier atPoint executes
      · exact ⟨by simpa using alarms.raised, by simpa using alarms.expired,
          by simpa using alarms.flagged, by simpa using alarms.timed,
          by simpa using alarms.leaving⟩
      · have now : Expired (resets (.expire :: trace)) (.expire :: trace) :=
          expired_cons_iff.mpr (.inl ⟨rfl, (resets_expire trace).symm⟩)
        refine ⟨fun _ => .inl now, fun _ => rfl, fun _ => .inl now, fun round _ => ?_,
          fun thread atEnd => ?_⟩
        · exact (QuietRun.counted several earlier).1.timed armed
        · rw [callRound_expire]
          exact (alarms.leaving thread atEnd).imp_left fun expired => expired.cons _

/-- A call that returns `-ETIME` timed out in its own round, or found a flag that
`barrier_init` left as it was. -/
theorem QuietRun.timedOut (several : 2 ≤ count.toNat)
    (run : QuietRun (created memory barrierId count timeout tgid) trace system)
    {thread : Thread} {earlier : List (Event Thread)}
    (returned : .exec thread (.ret (-ETIME)) :: earlier <:+ trace) :
    (Expired (callRound thread earlier) earlier ∧ 0 < timeout) ∨
      StaleFlag Thread memory count := by
  obtain ⟨before, after, earlierRun, -, stepTo⟩ := run.of_executed returned
  have alarms := QuietRun.alarms several earlierRun
  have atPoint := (step_eq_some_iff.mp stepTo).1
  refine (alarms.leaving thread (.inr atPoint)).imp_left fun expired => ⟨expired, ?_⟩
  have timed := alarms.timed _ expired
  rwa [(QuietRun.constant earlierRun).2] at timed

/-- With a stale flag, `count` threads complete the first round before any
expiry, and one of them returns `-ETIME`. -/
theorem exists_spurious (several : 2 ≤ count.toNat) (stale : StaleFlag Thread memory count) :
    ∃ trace system, QuietRun (created memory barrierId count timeout tgid) trace system ∧
      ¬ NoSpuriousTimeout timeout trace := by
  obtain ⟨set, large, enough⟩ := stale
  obtain ⟨last, sleeper, trace, system, complete, armed, sameFlag⟩ :=
    exists_complete memory barrierId count timeout tgid several enough
  have unexpired : ¬ Expired 0 trace := by
    intro expired
    have alarms := QuietRun.alarms several complete.run
    have timed := alarms.timed 0 expired
    rw [(QuietRun.constant complete.run).2] at timed
    rw [← complete.round] at expired
    obtain ⟨accounting, -, -, notOne⟩ := QuietRun.counted several complete.run
    have pending := armed timed
    simp [accounting.timer_off notOne (alarms.expired expired)] at pending
  obtain ⟨leaving, releasing, after, stays, stays', finished⟩ :=
    complete.timesOut large (sameFlag.trans set)
  refine ⟨_, _, finished, fun none => ?_⟩
  have expired := none.1 sleeper _ (List.suffix_refl _)
  have le : callRound sleeper (script sleeper leaving ++
      .exec last (.ret 0) :: (script last releasing ++ trace)) ≤ _ := callRound_le _
  rw [resets_alone sleeper stays, resets_exec, resets_alone last stays', complete.round] at le
  rw [expired_script, expired_exec, expired_script, Nat.le_zero.mp le] at expired
  exact unexpired expired

/-- No call of any run times out without an expiry in its own round, exactly when
the memory of the barrier came with `timeout_flag` clear, or the count is two,
or there are fewer threads than the count. -/
theorem no_spurious_timeout_iff (several : 2 ≤ count.toNat) :
    (∀ trace system, QuietRun (created memory barrierId count timeout tgid) trace system →
      NoSpuriousTimeout timeout trace) ↔
      memory.timeoutFlag = false ∨ count.toNat = 2 ∨ Fintype.card Thread < count.toNat := by
  have fresh_iff : memory.timeoutFlag = false ∨ count.toNat = 2 ∨
      Fintype.card Thread < count.toNat ↔ ¬ StaleFlag Thread memory count := by
    rw [StaleFlag, not_and_or, not_and_or, Bool.not_eq_true, not_lt, not_le]
    exact or_congr_right (or_congr_left ⟨le_of_eq, fun le => le_antisymm le several⟩)
  rw [fresh_iff]
  constructor
  · intro never stale
    obtain ⟨trace, system, run, spurious⟩ : ∃ trace system,
        QuietRun (created memory barrierId count timeout tgid) trace system ∧
          ¬ NoSpuriousTimeout timeout trace := exists_spurious several stale
    exact spurious (never trace system run)
  · intro fresh trace system run
    refine ⟨fun thread earlier returned => ?_, fun untimed thread member => ?_⟩
    · exact ((QuietRun.timedOut several run returned).resolve_right fresh).1
    · obtain ⟨later, earlier, rfl⟩ := List.append_of_mem member
      have timed := (QuietRun.timedOut several run (List.suffix_append later _)).resolve_right fresh
      omega

/-- Three threads complete a round of a barrier without timeout; the first one
to leave finds `timeout_flag` as `kmalloc` returned it. -/
def staleRound {Thread : Type*} (first second last : Thread) : List (Event Thread) :=
  script first [.ret (-62), .unlock (-62), .testTimeoutFlag, .testAllLeft, .incrementLeft,
    .lockLeave, .sleep] ++
  script last [.ret 0, .unlock 0, .incrementLeftLast, .wakeSleepers, .setCondFlag,
    .cancelTimer, .testLeft, .decrementLeft, .testFirst, .lockArrive, .gate, .idle] ++
  script second [.unlockSleep, .testLeft, .decrementLeft, .testFirst, .lockArrive, .gate, .idle] ++
  script first [.unlockSleep, .testLeft, .decrementLeft, .testFirst, .lockArrive, .gate, .idle]

theorem stale_flag_times_out :
    ∃ system, QuietRun (created { Barrier.zeroed with timeoutFlag := true } 1 3 0 0 :
        System (Fin 3)) (staleRound 0 1 2) system ∧
      ¬ NoSpuriousTimeout 0 (staleRound (0 : Fin 3) 1 2) := by
  obtain ⟨system, run⟩ : ∃ system, QuietRun (created
      { Barrier.zeroed with timeoutFlag := true } 1 3 0 0 : System (Fin 3))
      (staleRound 0 1 2) system :=
    exists_run_of_replay (by simp [staleRound, script, Event.Quiet]) (by decide +kernel)
  exact ⟨system, run, fun none => none.2 le_rfl 0 (by simp [staleRound, script, ETIME])⟩

theorem no_spurious_timeout_clear : NoSpuriousTimeout 0 (threeRound (0 : Fin 3) 1 2) := by
  obtain ⟨system, run⟩ : ∃ system,
      QuietRun (created .zeroed 1 3 0 0) (threeRound (0 : Fin 3) 1 2) system :=
    exists_run_of_replay (by simp [threeRound, script, Event.Quiet]) (by decide +kernel)
  exact (no_spurious_timeout_iff (by decide)).mpr (.inl rfl) _ system run

end BarrierSys

end KinuxKernel
