import KinuxKernel.BarrierGate

/-!
# The result of a call

What a call returns, for any timeout and any number of threads.  `RoundFacts`
relates the fields of the barrier to the history of the current round and
`CallFacts` says, at each of its statements, what has happened to a call.  A
call that returns zero has seen its round fill up, unless it is the last one to
leave a round that timed out: that call clears `timeout_flag` before it reads
it.
-/

namespace KinuxKernel

namespace BarrierSys

open TraceRun ThreadPoints

section Rounds

variable {Thread : Type*} [Fintype Thread]

/-- The current round is marked as timed out; the mark stays until the flag of
the barrier is lowered. -/
def Marked (system : System Thread) : Prop :=
  system.barrier.timeoutFlag = true ∨ ∃ thread, system.point thread = .clearCondFlag

/-- What the history of the current round and the barrier's flags have to do
with each other. -/
structure RoundFacts (count : Nat) (trace : List (Event Thread)) (system : System Thread) :
    Prop where
  present : inside system ≤ arrivalsIn (resets trace) trace
  raised : system.barrier.condFlag = 1 →
    count ≤ arrivalsIn (resets trace) trace ∨ ExpiredEarly count (resets trace) trace
  expired : ExpiredEarly count (resets trace) trace → Marked system

variable {count : Nat} {trace : List (Event Thread)} {system : System Thread}

/-- Only the owner of the lock can be about to lower the flag. -/
theorem Marked.flag (marked : Marked system) (accounting : Accounting system) {thread : Thread}
    (holds : (system.point thread).holdsLock = true)
    (elsewhere : system.point thread ≠ .clearCondFlag) : system.barrier.timeoutFlag = true := by
  rcases marked with set | ⟨other, clearing⟩
  · exact set
  · have same := accounting.mutex.unique holds
      (show (system.point other).holdsLock = true by rw [clearing]; rfl)
    rw [same] at elsewhere
    exact (elsewhere clearing).elim

variable [DecidableEq Thread]

omit [Fintype Thread] in
theorem Marked.exec (marked : Marked system) {thread : Thread} {point target : WaitPoint}
    {barrier : Barrier Thread} (atPoint : system.point thread = point)
    (away : point ≠ .clearCondFlag)
    (executes : Executes thread system.barrier point barrier target) :
    Marked ⟨barrier, Function.update system.point thread target⟩ := by
  by_cases lowering : point = .clearTimeoutFlag
  · subst lowering
    cases executes
    exact .inr ⟨thread, by simp⟩
  · refine marked.imp (fun set => ?_) ?_
    · cases executes <;> simp_all
    · rintro ⟨other, atClear⟩
      refine ⟨other, ?_⟩
      have different : other ≠ thread := by
        rintro rfl
        exact away (atPoint.symm.trans atClear)
      simpa [different] using atClear

theorem RoundFacts.exec (facts : RoundFacts system.barrier.initCount.toNat trace system)
    (accounting : Accounting system) {thread : Thread} {point target : WaitPoint}
    {barrier : Barrier Thread} (atPoint : system.point thread = point)
    (executes : Executes thread system.barrier point barrier target) :
    RoundFacts system.barrier.initCount.toNat (.exec thread point :: trace)
      ⟨barrier, Function.update system.point thread target⟩ := by
  have moved := countAt_update WaitPoint.inside system.point thread target
  have delimited := inside_delimited.2 thread _ _ _ _ executes
  rw [atPoint] at moved
  beta_reduce at delimited
  by_cases clearing : point = .clearCondFlag
  · -- a new round begins, with nobody inside
    subst clearing
    obtain ⟨empty, -⟩ := accounting.owner_at atPoint rfl
    have unexpired : ¬ ExpiredEarly system.barrier.initCount.toNat (resets trace + 1) trace :=
      not_expiredEarly_of_lt (Nat.lt_succ_self _)
    cases executes
    refine ⟨?_, fun raised => by simp at raised, fun early => by simp [unexpired] at early⟩
    simp only [WaitPoint.inside, inside] at moved empty ⊢
    omega
  have sameRound : resets (.exec thread point :: trace) = resets trace := by
    simp [clearing]
  refine ⟨?_, fun raised => ?_, fun early => ?_⟩ <;> rw [sameRound] at *
  · have present := facts.present
    simp only [arrivalsIn_exec, decide_true, Bool.and_true]
    simp only [inside] at present ⊢
    omega
  · by_cases setting : point = .setCondFlag
    · subst setting
      have full := (accounting.owner_at atPoint rfl).1.count_le
      exact .inl (by simpa using full.trans facts.present)
    · have already := (executes.raise raised).resolve_right setting
      refine (facts.raised already).imp (fun filled => ?_) (by simp)
      exact filled.trans (arrivalsIn_le_of_suffix (List.suffix_cons _ _))
  · exact (facts.expired (by simpa using early)).exec atPoint clearing executes

omit [DecidableEq Thread] in
theorem RoundFacts.created (memory : Barrier Thread) (barrierId size : BitVec 32)
    (timeout tgid : Int) :
    RoundFacts size.toNat [] (created memory barrierId size timeout tgid) := by
  have empty : inside (BarrierSys.created memory barrierId size timeout tgid) = 0 :=
    countAt_eq_zero_iff.mpr fun _ => rfl
  exact ⟨by simp [empty], fun raised => by simp [BarrierSys.created] at raised,
    fun early => (not_expiredEarly_nil early).elim⟩

omit [DecidableEq Thread] in
theorem RoundFacts.expire (facts : RoundFacts count trace system) :
    RoundFacts count (.expire :: trace) ⟨system.barrier.myCallback, system.point⟩ := by
  refine ⟨by simpa [inside] using facts.present, fun _ => ?_, fun _ => .inl rfl⟩
  rw [resets_expire, arrivalsIn_expire, expiredEarly_cons_iff]
  by_cases filled : count ≤ arrivalsIn (resets trace) trace
  · exact .inl filled
  · exact .inr (.inl ⟨rfl, rfl, by omega⟩)

end Rounds

section Calls

variable {Thread : Type*} [DecidableEq Thread]

section Assertions

variable (count : Nat) (thread : Thread) (trace : List (Event Thread))
  (barrier : Barrier Thread)

/-- The latest call of the thread was in the wait for the flag. -/
def Slept : Prop :=
  Passed thread .sleep trace

/-- The latest call of the thread was the last one to leave its round. -/
def TookReset : Prop :=
  Passed thread .clearTimeoutFlag trace

/-- The latest call of the thread has joined the current round. -/
def Joined : Prop :=
  callRound thread trace = resets trace

/-- The round of the latest call of the thread has filled up or timed out. -/
def Resolved : Prop :=
  count ≤ arrivalsIn (callRound thread trace) trace ∨
    ExpiredEarly count (callRound thread trace) trace

/-- The call has reset the barrier. -/
structure HasReset : Prop where
  slept : Slept thread trace
  tookReset : TookReset thread trace
  ended : callRound thread trace < resets trace
  resolved : Resolved count thread trace
  lowered : barrier.timeoutFlag = false

/-- What the result of a call tells about its round. -/
structure Verdict (code : Int) : Prop where
  leaving : callRound thread trace < resets trace ∨
    Joined thread trace ∧ barrier.condFlag = 1
  possible : code = 0 ∨ code = -ETIME ∧ 2 < count
  zero : code = 0 → count ≤ arrivalsIn (callRound thread trace) trace ∨
    TookReset thread trace ∧ ExpiredEarly count (callRound thread trace) trace
  timedOut : Slept thread trace → ExpiredEarly count (callRound thread trace) trace →
    code = -ETIME ∨ TookReset thread trace
  reset : TookReset thread trace → code = 0 ∧ Slept thread trace

/-- What has happened to a call before each of its statements. -/
def CallFacts : WaitPoint → Prop
  | .testLeft | .unlockSleep | .sleep | .cancelTimer | .setCondFlag | .wakeSleepers
  | .incrementLeftLast =>
      Joined thread trace ∧ ¬ Slept thread trace ∧ ¬ TookReset thread trace
  | .lockLeave | .incrementLeft | .testAllLeft | .clearTimeoutFlag =>
      Joined thread trace ∧ Slept thread trace ∧ ¬ TookReset thread trace
  | .clearCondFlag =>
      Joined thread trace ∧ Slept thread trace ∧ TookReset thread trace ∧
        barrier.timeoutFlag = false
  | .incrementSyncNum | .wakeGate => HasReset count thread trace barrier
  | .testTimeoutFlag =>
      (HasReset count thread trace barrier ∧ barrier.hrTimer = none) ∨
        (Joined thread trace ∧ Slept thread trace ∧ ¬ TookReset thread trace ∧
          barrier.condFlag = 1 ∧ 2 < count)
  | .unlock code | .ret code => Verdict count thread trace barrier code
  | .idle | .gate | .lockArrive | .testFirst | .startTimer | .decrementLeft => True

/-- The later history says the same about the latest call of the thread. -/
structure SameCall (later : List (Event Thread)) : Prop where
  round : callRound thread later = callRound thread trace
  slept : Slept thread later ↔ Slept thread trace
  tookReset : TookReset thread later ↔ TookReset thread trace
  arrived : ∀ round, arrivalsIn round trace ≤ arrivalsIn round later
  expired : ExpiredEarly count (callRound thread trace) later ↔
    ExpiredEarly count (callRound thread trace) trace

end Assertions

variable {count : Nat} {thread : Thread} {trace later : List (Event Thread)}
  {barrier after : Barrier Thread}

theorem sameCall_exec {mover : Thread} {point : WaitPoint}
    (elsewhere : mover = thread →
      point ≠ .decrementLeft ∧ point ≠ .sleep ∧ point ≠ .clearTimeoutFlag) :
    SameCall count thread trace (.exec mover point :: trace) := by
  have arrived (round : Nat) :
      arrivalsIn round trace ≤ arrivalsIn round (.exec mover point :: trace) :=
    arrivalsIn_le_of_suffix (List.suffix_cons _ _)
  by_cases own : mover = thread
  · subst mover
    obtain ⟨notArrival, notSleep, notClear⟩ := elsewhere rfl
    refine ⟨by simp [notArrival], ?_, ?_, arrived, by simp⟩
    · simp [Slept, notArrival, notSleep]
    · simp [TookReset, notArrival, notClear]
  · exact ⟨callRound_other _ _ own, passed_other _ _ own _, passed_other _ _ own _,
      arrived, by simp⟩

theorem sameCall_block (mover : Thread) :
    SameCall count thread trace (.block mover :: trace) :=
  ⟨by simp, by simp [Slept], by simp [TookReset], fun _ => by simp, by simp⟩

/-- The expiry of the timer concerns the current round only. -/
theorem sameCall_expire (ended : callRound thread trace < resets trace) :
    SameCall count thread trace (.expire :: trace) := by
  refine ⟨by simp, by simp [Slept], by simp [TookReset], fun _ => by simp, ?_⟩
  rw [expiredEarly_cons_iff]
  constructor
  · rintro (⟨-, current, -⟩ | past)
    · omega
    · exact past
  · exact .inr

namespace SameCall

variable (same : SameCall count thread trace later)

include same

theorem joined (sameRound : resets later = resets trace) :
    Joined thread later ↔ Joined thread trace := by
  rw [Joined, same.round, sameRound, Joined]

theorem resolved (resolved : Resolved count thread trace) : Resolved count thread later := by
  unfold Resolved at resolved ⊢
  rw [same.round, same.expired]
  exact resolved.imp_left fun filled => filled.trans (same.arrived _)

theorem hasReset (reset : HasReset count thread trace barrier)
    (le : resets trace ≤ resets later) (lowered : after.timeoutFlag = false) :
    HasReset count thread later after :=
  { slept := same.slept.mpr reset.slept
    tookReset := same.tookReset.mpr reset.tookReset
    ended := by
      rw [same.round]
      exact reset.ended.trans_le le
    resolved := same.resolved reset.resolved
    lowered := lowered }

theorem verdict {code : Int} (verdict : Verdict count thread trace barrier code)
    (leaving : callRound thread trace < resets later ∨
      Joined thread later ∧ after.condFlag = 1) :
    Verdict count thread later after code :=
  { leaving := by rwa [same.round]
    possible := verdict.possible
    zero := fun zero => by
      rw [same.round, same.expired, same.tookReset]
      exact (verdict.zero zero).imp_left fun filled => filled.trans (same.arrived _)
    timedOut := fun slept early => by
      rw [same.round, same.expired] at early
      rw [same.tookReset]
      exact verdict.timedOut (same.slept.mp slept) early
    reset := fun took => by
      rw [same.slept]
      exact verdict.reset (same.tookReset.mp took) }

/-- What has happened to a call stays so while nothing that it relies on
changes. -/
theorem callFacts {point : WaitPoint} (facts : CallFacts count thread trace barrier point)
    (sameRound : resets later = resets trace) (flag : after.condFlag = barrier.condFlag)
    (timeoutFlag : after.timeoutFlag = barrier.timeoutFlag)
    (timer : after.hrTimer = barrier.hrTimer) : CallFacts count thread later after point := by
  have joined := same.joined sameRound
  have hasReset (reset : HasReset count thread trace barrier) :
      HasReset count thread later after :=
    same.hasReset reset sameRound.ge (timeoutFlag.trans reset.lowered)
  have verdict (code : Int) (verdict : Verdict count thread trace barrier code) :
      Verdict count thread later after code :=
    same.verdict verdict (by rw [sameRound, joined, flag]; exact verdict.leaving)
  cases point <;>
    simp only [CallFacts, joined, same.slept, same.tookReset, flag, timeoutFlag, timer]
      at facts ⊢
  case unlock code | ret code => exact verdict code facts
  case incrementSyncNum | wakeGate => exact hasReset facts
  case testTimeoutFlag => exact facts.imp_left fun reset => ⟨hasReset reset.1, reset.2⟩
  all_goals exact facts

end SameCall

section Preservation

variable [Fintype Thread] {system : System Thread} {mover : Thread} {point target : WaitPoint}
  (accounting : Accounting system)

include accounting

/-- The result of a call that does not reset the barrier is the flag it reads
before the reset. -/
theorem verdict_of_read (rounds : RoundFacts system.barrier.initCount.toNat trace system)
    (atPoint : system.point thread = .testTimeoutFlag) (joined : Joined thread trace)
    (notReset : ¬ TookReset thread trace)
    (raised : system.barrier.condFlag = 1) (large : 2 < system.barrier.initCount.toNat) :
    Verdict system.barrier.initCount.toNat thread trace system.barrier
      (if system.barrier.timeoutFlag then -ETIME else 0) := by
  have holds : (system.point thread).holdsLock = true := by
    rw [atPoint]
    rfl
  have timedOut (early : ExpiredEarly system.barrier.initCount.toNat (resets trace) trace) :=
    (rounds.expired early).flag accounting holds (by simp [atPoint])
  have resolved := rounds.raised raised
  rw [← show callRound thread trace = resets trace from joined] at timedOut resolved
  refine
    { leaving := .inr ⟨joined, raised⟩
      possible := ?_
      zero := fun zero => .inl ?_
      timedOut := fun _ early => .inl (by simp [timedOut early])
      reset := fun took => (notReset took).elim }
  · split
    · exact .inr ⟨rfl, large⟩
    · exact .inl rfl
  · refine resolved.resolve_right fun early => ?_
    simp [timedOut early, ETIME] at zero

theorem CallFacts.own (several : 2 ≤ system.barrier.initCount.toNat)
    (rounds : RoundFacts system.barrier.initCount.toNat trace system)
    (facts : CallFacts system.barrier.initCount.toNat thread trace system.barrier point)
    (atPoint : system.point thread = point)
    (executes : Executes thread system.barrier point barrier target) :
    CallFacts system.barrier.initCount.toNat thread (.exec thread point :: trace) barrier
      target := by
  have owner (holds : point.holdsLock = true) :
      OwnerFacts point system.barrier (inside system) :=
    accounting.owner_at atPoint holds
  have same (elsewhere : point ≠ .decrementLeft ∧ point ≠ .sleep ∧ point ≠ .clearTimeoutFlag) :
      SameCall system.barrier.initCount.toNat thread trace (.exec thread point :: trace) :=
    sameCall_exec fun _ => elsewhere
  cases executes with
  | idle | gate | lockArrive | arm | join | startTimer | ret => trivial
  | decrementLeft => simp [CallFacts, Joined, Slept, TookReset]
  | early | last | unlockSleep | sleep | lockLeave | incrementLeft | allLeft
  | clearTimeoutFlag | cancelTimer | noTimer | setCondFlag | wakeSleepers =>
      simp_all [CallFacts, Joined, Slept, TookReset]
  | someLeft notFull =>
      obtain ⟨room, raised, -⟩ := owner rfl
      have nonzero : system.barrier.initCount ≠ 0 := by
        intro zero
        simp [zero] at several
      have bound := room.le_count nonzero
      have occupied : inside system ≠ 0 := fun empty => notFull
        ((accounting.balanced.left_eq_initCount_iff (room.le (by omega))).mpr empty)
      refine .inr ⟨?_, (same (by simp)).slept.mpr facts.2.1, ?_, raised, by omega⟩
      · exact ((same (by simp)).joined (by simp)).mpr facts.1
      · exact fun took => facts.2.2 ((same (by simp)).tookReset.mp took)
  | clearCondFlag =>
      obtain ⟨-, raised, -⟩ := owner rfl
      obtain ⟨joined, slept, took, lowered⟩ := facts
      have resolved := rounds.raised raised
      rw [← show callRound thread trace = resets trace from joined] at resolved
      exact
        { slept := (same (by simp)).slept.mpr slept
          tookReset := (same (by simp)).tookReset.mpr took
          ended := by
            rw [(same (by simp)).round, show callRound thread trace = resets trace from joined]
            simp
          resolved := (same (by simp)).resolved resolved
          lowered := lowered }
  | incrementSyncNum => exact (same (by simp)).hasReset facts (by simp) facts.lowered
  | wakeGate =>
      obtain ⟨-, -, disarmed⟩ := owner rfl
      exact .inl ⟨(same (by simp)).hasReset facts (by simp) facts.lowered, disarmed⟩
  | testTimeoutFlag =>
      rcases facts with ⟨reset, -⟩ | ⟨joined, slept, notReset, raised, large⟩
      · have verdict : Verdict system.barrier.initCount.toNat thread trace system.barrier
            (if system.barrier.timeoutFlag then -ETIME else 0) :=
          { leaving := .inl reset.ended
            possible := .inl (by simp [reset.lowered])
            zero := fun _ => reset.resolved.imp_right fun early => ⟨reset.tookReset, early⟩
            timedOut := fun _ _ => .inr reset.tookReset
            reset := fun _ => ⟨by simp [reset.lowered], reset.slept⟩ }
        exact (same (by simp)).verdict verdict (.inl (by simpa using reset.ended))
      · have verdict := verdict_of_read accounting rounds atPoint joined notReset raised large
        refine (same (by simp)).verdict verdict (.inr ⟨?_, raised⟩)
        exact ((same (by simp)).joined (by simp)).mpr joined
  | incrementLeftLast =>
      obtain ⟨full, raised, -⟩ := owner rfl
      obtain ⟨joined, notSlept, notReset⟩ := facts
      have verdict : Verdict system.barrier.initCount.toNat thread trace system.barrier 0 :=
        { leaving := .inr ⟨joined, raised⟩
          possible := .inl rfl
          zero := fun _ => .inl (by
            rw [show callRound thread trace = resets trace from joined]
            exact full.count_le.trans rounds.present)
          timedOut := fun slept => (notSlept slept).elim
          reset := fun took => (notReset took).elim }
      refine (same (by simp)).verdict verdict (.inr ⟨?_, raised⟩)
      exact ((same (by simp)).joined (by simp)).mpr joined
  | unlock code =>
      refine (same (by simp)).verdict facts ?_
      have leaving := facts.leaving
      rw [(same (by simp)).joined (by simp)]
      simpa using leaving

/-- Whatever another thread does, what has happened to a call remains true. -/
theorem CallFacts.other (different : mover ≠ thread)
    (facts : CallFacts system.barrier.initCount.toNat thread trace system.barrier
      (system.point thread))
    (atPoint : system.point mover = point)
    (executes : Executes mover system.barrier point barrier target) :
    CallFacts system.barrier.initCount.toNat thread (.exec mover point :: trace) barrier
      (system.point thread) := by
  have same : SameCall system.barrier.initCount.toNat thread trace (.exec mover point :: trace) :=
    sameCall_exec fun own => (different own).elim
  by_cases holds : (system.point thread).holdsLock = true
  · -- the mover is outside the critical sections
    have outside : point.holdsLock = false := by
      by_contra inside
      simp only [Bool.not_eq_false] at inside
      rw [← atPoint] at inside
      exact different (accounting.mutex.unique inside holds)
    obtain ⟨flag, timeoutFlag, timer, -⟩ := executes.outside outside
    refine same.callFacts facts ?_ flag timeoutFlag timer
    cases point <;> simp_all [WaitPoint.holdsLock]
  · have sameRound (inside : (system.point thread).inside = true) :
        resets (.exec mover point :: trace) = resets trace := by
      have occupied := Accounting.inside_pos thread inside
      have away : point ≠ .clearCondFlag := by
        rintro rfl
        have empty := (accounting.owner_at atPoint rfl).1
        omega
      simp [away]
    cases away : system.point thread <;> simp only [away, WaitPoint.holdsLock] at holds facts <;>
      try contradiction
    case idle | gate | lockArrive => trivial
    case sleep | lockLeave =>
      have joined := same.joined (sameRound (by rw [away]; rfl))
      simpa only [CallFacts, joined, same.slept, same.tookReset] using facts
    case ret code =>
      refine same.verdict facts ?_
      have leaving := facts.leaving
      have le : callRound thread trace ≤ resets trace := callRound_le trace
      by_cases clearing : point = .clearCondFlag
      · left
        simp [clearing]
        omega
      · have kept : resets (.exec mover point :: trace) = resets trace := by simp [clearing]
        rw [same.joined kept, kept]
        refine leaving.imp_right fun waiting => ⟨waiting.1, ?_⟩
        exact executes.stays_raised waiting.2 clearing

/-- The expiry of the timer changes nothing for the calls that have been
woken. -/
theorem CallFacts.expire {count : Nat} (several : system.barrier.initCount ≠ 1)
    (armed : system.barrier.hrTimer.isSome)
    (facts : CallFacts count thread trace system.barrier (system.point thread)) :
    CallFacts count thread (.expire :: trace) system.barrier.myCallback
      (system.point thread) := by
  have low (raised : system.barrier.condFlag = 1) : False := by
    simp [accounting.timer_off several raised] at armed
  have disarmed (off : system.barrier.hrTimer = none) : False := by
    simp [off] at armed
  have owner (holds : (system.point thread).holdsLock = true) :=
    accounting.owner thread ((accounting.mutex thread).mp holds)
  cases atPoint : system.point thread <;> simp only [atPoint] at facts owner
  case idle | gate | lockArrive | testFirst | startTimer | decrementLeft => trivial
  case clearCondFlag => exact (disarmed (owner rfl).2.2).elim
  case incrementSyncNum | wakeGate => exact (disarmed (owner rfl).2.2).elim
  case testTimeoutFlag =>
    rcases facts with ⟨-, off⟩ | ⟨-, -, -, raised, -⟩
    · exact (disarmed off).elim
    · exact (low raised).elim
  case unlock code | ret code =>
    rcases facts.leaving with ended | ⟨-, raised⟩
    · exact (sameCall_expire ended).verdict facts (.inl (by simpa using ended))
    · exact (low raised).elim
  all_goals simpa [CallFacts, Joined, Slept, TookReset] using facts

end Preservation

section Runs

variable [Fintype Thread] {memory : Barrier Thread} {barrierId count : BitVec 32}
  {timeout tgid : Int} {system : System Thread}

theorem QuietRun.callFacts (several : 2 ≤ count.toNat)
    (run : QuietRun (created memory barrierId count timeout tgid) trace system) :
    RoundFacts count.toNat trace system ∧
      ∀ thread, CallFacts count.toNat thread trace system.barrier (system.point thread) := by
  induction run with
  | start => exact ⟨RoundFacts.created memory barrierId count timeout tgid, fun thread => trivial⟩
  | next earlier quiet stepTo ih =>
      obtain ⟨rounds, calls⟩ := ih
      obtain ⟨accounting, constant, -, notOne⟩ := QuietRun.counted several earlier
      rcases quiet_cases quiet stepTo with
        ⟨mover, point, barrier, target, rfl, atPoint, executes, rfl⟩ | ⟨mover, rfl, rfl⟩ |
        ⟨rfl, armed, rfl⟩
      · rw [← constant] at rounds calls several ⊢
        refine ⟨rounds.exec accounting atPoint executes, fun thread => ?_⟩
        by_cases own : mover = thread
        · subst mover
          have facts := (atPoint ▸ calls thread).own accounting several rounds atPoint executes
          simpa using facts
        · have facts := (calls thread).other accounting own atPoint executes
          simpa [Ne.symm own] using facts
      · refine ⟨⟨?_, ?_, ?_⟩, fun thread => ?_⟩
        · simpa [inside] using rounds.present
        · simpa using rounds.raised
        · simpa [Marked] using rounds.expired
        · exact (sameCall_block mover).callFacts (calls thread) (by simp) rfl rfl rfl
      · exact ⟨rounds.expire, fun thread => (calls thread).expire accounting notOne armed⟩

theorem QuietRun.verdict (several : 2 ≤ count.toNat)
    (run : QuietRun (created memory barrierId count timeout tgid) trace system)
    {thread : Thread} {code : Int} {earlier : List (Event Thread)}
    (returned : .exec thread (.ret code) :: earlier <:+ trace) :
    ∃ before, QuietRun (created memory barrierId count timeout tgid) earlier before ∧
      Verdict count.toNat thread earlier before.barrier code := by
  obtain ⟨before, after, earlierRun, -, stepTo⟩ := run.of_executed returned
  have facts := (QuietRun.callFacts several earlierRun).2 thread
  rw [(step_eq_some_iff.mp stepTo).1] at facts
  exact ⟨before, earlierRun, facts⟩

/-- A zero result means that everybody arrived, and whoever was asleep in a
round that timed out returns `-ETIME`. -/
def ZeroMeansAll (count : Nat) (trace : List (Event Thread)) : Prop :=
  ∀ thread code earlier, .exec thread (.ret code) :: earlier <:+ trace →
    (code = 0 → count ≤ arrivalsIn (callRound thread earlier) earlier) ∧
    (Slept thread earlier → ExpiredEarly count (callRound thread earlier) earlier →
      code = -ETIME)

/-- A zero result means that everybody arrived in exactly those runs in which
no call that has reset the barrier after an early expiry has returned. -/
theorem zero_means_all_iff (several : 2 ≤ count.toNat)
    (run : QuietRun (created memory barrierId count timeout tgid) trace system) :
    ZeroMeansAll count.toNat trace ↔
      ∀ thread code earlier, .exec thread (.ret code) :: earlier <:+ trace →
        TookReset thread earlier →
          ¬ ExpiredEarly count.toNat (callRound thread earlier) earlier := by
  constructor
  · intro all thread code earlier returned took early
    obtain ⟨before, -, verdict⟩ := QuietRun.verdict several run returned
    obtain ⟨zero, slept⟩ := verdict.reset took
    have timedOut := (all thread code earlier returned).2 slept early
    simp [zero, ETIME] at timedOut
  · intro unread thread code earlier returned
    obtain ⟨before, -, verdict⟩ := QuietRun.verdict several run returned
    refine ⟨fun zero => ?_, fun slept early => ?_⟩
    · refine (verdict.zero zero).resolve_right ?_
      rintro ⟨took, early⟩
      exact unread thread code earlier returned took early
    · refine (verdict.timedOut slept early).resolve_right fun took => ?_
      exact unread thread code earlier returned took early

end Runs

end Calls

/-- A caller that nobody joins: its timer expires, and as the last one to leave
the round it returns zero. -/
def loneCaller {Thread : Type*} (thread : Thread) : List (Event Thread) :=
  script thread [.unlock 0, .testTimeoutFlag, .wakeGate, .incrementSyncNum, .clearCondFlag,
    .clearTimeoutFlag, .testAllLeft, .incrementLeft, .lockLeave, .sleep] ++
  .expire :: script thread [.unlockSleep, .testLeft, .decrementLeft, .startTimer, .testFirst,
    .lockArrive, .gate, .idle]

/-- With two threads, a count of two and a timeout a call returns zero although
nobody else has arrived. -/
theorem lone_caller_returns_zero :
    ∃ system, QuietRun (created .zeroed 1 2 1 0 : System (Fin 2))
        (.exec 0 (.ret 0) :: loneCaller 0) system ∧
      ¬ ZeroMeansAll 2 (.exec 0 (.ret 0) :: loneCaller 0) := by
  obtain ⟨system, run⟩ : ∃ system, QuietRun (created .zeroed 1 2 1 0 : System (Fin 2))
      (.exec 0 (.ret 0) :: loneCaller 0) system :=
    exists_run_of_replay (by simp [loneCaller, script, Event.Quiet]) (by decide +kernel)
  refine ⟨system, run, fun all => ?_⟩
  have filled := (all 0 0 (loneCaller 0) (List.suffix_refl _)).1 rfl
  exact absurd filled (by decide)

/-- Two of three threads have come when the timer expires, and one of them has left. -/
def earlyLeaver {Thread : Type*} (first second : Thread) : List (Event Thread) :=
  script first [.ret (-62), .unlock (-62), .testTimeoutFlag, .testAllLeft, .incrementLeft,
    .lockLeave, .sleep] ++
  .expire :: script second [.unlockSleep, .testLeft, .decrementLeft, .testFirst, .lockArrive,
    .gate, .idle] ++
  script first [.unlockSleep, .testLeft, .decrementLeft, .startTimer, .testFirst, .lockArrive,
    .gate, .idle]

theorem zero_means_all_early :
    ∃ system, QuietRun (created .zeroed 1 3 1 0) (earlyLeaver (0 : Fin 3) 1) system ∧
      ZeroMeansAll 3 (earlyLeaver (0 : Fin 3) 1) := by
  obtain ⟨system, run⟩ : ∃ system,
      QuietRun (created .zeroed 1 3 1 0) (earlyLeaver (0 : Fin 3) 1) system :=
    exists_run_of_replay (by simp [earlyLeaver, script, Event.Quiet]) (by decide +kernel)
  refine ⟨system, run, (zero_means_all_iff (by decide) run).mpr ?_⟩
  intro thread code earlier returned took
  obtain ⟨same, rfl⟩ | older := executed_cons_iff.mp returned
  · obtain ⟨rfl, -⟩ := Event.exec.inj same
    simp [TookReset, Passed, sinceArrival, script] at took
  · have member := older.subset (List.mem_cons_self ..)
    simp [script] at member

end BarrierSys

end KinuxKernel
