import KinuxKernel.BarrierRounds
import KinuxKernel.BarrierTimeouts

/-!
# The outcome of a complete round

The last arriver returns zero whatever `timeout_flag` says, and so does the
last call to leave; the others return what the flag says.  They agree as long
as the flag is clear once a round is complete.
-/

namespace KinuxKernel

namespace BarrierSys

open TraceRun ThreadPoints

variable {Thread : Type*} [DecidableEq Thread]

/-- The calls of a round in which `count` calls arrived return the same code,
zero or `-ETIME`. -/
def Agreement (count : Nat) (trace : List (Event Thread)) : Prop :=
  ∀ first second code code' earlier earlier',
    .exec first (.ret code) :: earlier <:+ trace →
    .exec second (.ret code') :: earlier' <:+ trace →
    callRound first earlier = callRound second earlier' →
    count ≤ arrivalsIn (callRound first earlier) trace →
    code = code' ∧ (code = 0 ∨ code = -ETIME)

/-- The timer does not expire in a complete round, and the call that completes
a round finds `timeout_flag` clear. -/
def Timely (count : Nat) (trace : List (Event Thread)) (system : System Thread) :
    Event Thread → Prop
  | .expire => arrivalsIn (resets trace) trace < count
  | .exec _ .decrementLeft =>
      count ≤ arrivalsIn (resets trace) trace + 1 → system.barrier.timeoutFlag = false
  | _ => True

/-- Runs without signals all of whose steps are timely. -/
abbrev TimelyRun (count : Nat) (start : System Thread) :
    List (Event Thread) → System Thread → Prop :=
  Run step (fun trace system event => event.Quiet ∧ Timely count trace system event) start

/-- A round that will never be complete: it is over, or nobody can complete it
before it is. -/
def Spoilt (count round : Nat) (trace : List (Event Thread)) (system : System Thread) : Prop :=
  arrivalsIn round trace < count ∧
    (round < resets trace ∨ round = resets trace ∧ Marked system)

theorem TimelyRun.quiet {count : Nat} {start system : System Thread}
    {trace : List (Event Thread)} (run : TimelyRun count start trace system) :
    QuietRun start trace system :=
  run.mono fun _ _ _ legal => legal.1

section Timely

variable [Fintype Thread] {memory : Barrier Thread} {barrierId count : BitVec 32}
  {timeout tgid : Int} {trace : List (Event Thread)} {before after system : System Thread}
  {event : Event Thread}

theorem Spoilt.step (accounting : Accounting before) {size round : Nat} (quiet : event.Quiet)
    (timely : Timely size trace before event)
    (stepTo : BarrierSys.step before event = some after)
    (spoilt : Spoilt size round trace before) :
    Spoilt size round (event :: trace) after := by
  obtain ⟨few, late⟩ := spoilt
  rcases quiet_cases quiet stepTo with
    ⟨mover, point, barrier, target, rfl, atPoint, executes, rfl⟩ | ⟨mover, rfl, rfl⟩ |
    ⟨rfl, -, rfl⟩
  · constructor
    · by_cases arrives : point = .decrementLeft ∧ resets trace = round
      · obtain ⟨rfl, rfl⟩ := arrives
        -- a marked round is not complete after this arrival either
        have marked := (late.resolve_left (by omega)).2
        have set := marked.flag accounting (by rw [atPoint]; rfl) (by simp [atPoint])
        by_contra complete
        have clear := timely (by simpa using complete)
        simp [set] at clear
      · have kept : arrivalsIn round (.exec mover point :: trace) = arrivalsIn round trace := by
          simpa using arrives
        exact kept ▸ few
    · by_cases clearing : point = .clearCondFlag
      · left
        simp [clearing]
        omega
      · have kept : resets (.exec mover point :: trace) = resets trace := by simp [clearing]
        rw [kept]
        exact late.imp_right fun ⟨same, marked⟩ =>
          ⟨same, marked.exec atPoint clearing executes⟩
  · exact ⟨by simpa using few, by simpa [Marked] using late⟩
  · refine ⟨by simpa using few, ?_⟩
    rw [resets_expire]
    exact late.imp_right fun ⟨same, _⟩ => ⟨same, .inl rfl⟩

/-- A timely run keeps complete rounds unmarked, and whoever returns something
else than zero has left a spoilt round. -/
structure Timekeeping (size : Nat) (trace : List (Event Thread)) (system : System Thread) :
    Prop where
  clear : size ≤ arrivalsIn (resets trace) trace → system.barrier.timeoutFlag = false
  leaving : ∀ thread code, system.point thread = .unlock code ∨ system.point thread = .ret code →
    code = 0 ∨ Spoilt size (callRound thread trace) trace system
  returned : ∀ thread code earlier, .exec thread (.ret code) :: earlier <:+ trace →
    code = 0 ∨ Spoilt size (callRound thread earlier) trace system

section Keeping

variable {size : Nat} {mover thread : Thread} {point target : WaitPoint}
  {barrier : Barrier Thread} {code : Int}

omit [Fintype Thread]

/-- A complete round stays unmarked, as its last arriver has found the flag clear. -/
theorem Timekeeping.clear_exec (keeping : Timekeeping size trace before) (one : 1 < size)
    (timely : Timely size trace before (.exec mover point))
    (executes : Executes mover before.barrier point barrier target)
    (complete : size ≤ arrivalsIn (resets (.exec mover point :: trace))
      (.exec mover point :: trace)) : barrier.timeoutFlag = false := by
  by_cases clearing : point = .clearCondFlag
  · have fresh : arrivalsIn (resets trace + 1) trace = 0 :=
      arrivalsIn_eq_zero (Nat.lt_succ_self _)
    simp only [clearing, resets_exec, decide_true, Bool.toNat_true, arrivalsIn_exec,
      fresh] at complete
    simp at complete
    omega
  · have clear : before.barrier.timeoutFlag = false := by
      by_cases arrives : point = .decrementLeft
      · subst arrives
        exact timely (by simpa using complete)
      · exact keeping.clear (by simpa [clearing, arrives] using complete)
    cases executes <;> simp [clear]

/-- A call that finds the flag raised is in a round that it keeps from being complete. -/
theorem Timekeeping.flagged (keeping : Timekeeping size trace before)
    (facts : CallFacts size thread trace before.barrier .testTimeoutFlag)
    (flagged : before.barrier.timeoutFlag = true) :
    Spoilt size (callRound thread trace) trace before := by
  rcases facts with ⟨reset, -⟩ | ⟨joined, -⟩
  · have lowered := reset.lowered
    simp [flagged] at lowered
  · have incomplete : arrivalsIn (resets trace) trace < size := by
      by_contra complete
      have clear := keeping.clear (by omega)
      simp [flagged] at clear
    exact ⟨by rwa [show callRound thread trace = _ from joined], .inr ⟨joined, .inl flagged⟩⟩

/-- The code of a call is decided when it tests the flag, or as it is the last arriver. -/
theorem Timekeeping.leaving_own (keeping : Timekeeping size trace before)
    (facts : CallFacts size thread trace before.barrier point)
    (atPoint : before.point thread = point)
    (executes : Executes thread before.barrier point barrier target)
    (atEnd : target = .unlock code ∨ target = .ret code) :
    code = 0 ∨ Spoilt size (callRound thread (.exec thread point :: trace)) trace before := by
  cases executes <;> simp only [reduceCtorEq, false_or, or_false, WaitPoint.unlock.injEq,
    WaitPoint.ret.injEq] at atEnd
  case testTimeoutFlag =>
    subst atEnd
    by_cases flagged : before.barrier.timeoutFlag = true
    · right
      rw [callRound_self, if_neg (by simp)]
      exact keeping.flagged facts flagged
    · exact .inl (by simp [flagged])
  case incrementLeftLast => exact .inl atEnd.symm
  case unlock =>
    subst atEnd
    rw [callRound_self, if_neg (by simp)]
    exact keeping.leaving thread _ (.inl atPoint)

end Keeping

theorem TimelyRun.timekeeping (several : 2 ≤ count.toNat)
    (run : TimelyRun count.toNat (created memory barrierId count timeout tgid) trace system) :
    Timekeeping count.toNat trace system := by
  induction run with
  | start =>
      refine ⟨fun complete => ?_, fun thread code atEnd => by simp [created] at atEnd,
        fun thread code earlier returned => by simp at returned⟩
      simp only [arrivalsIn] at complete
      omega
  | @next trace before after event earlier legal stepTo ih =>
      obtain ⟨quiet, timely⟩ := legal
      have quietRun := TimelyRun.quiet earlier
      have accounting := (QuietRun.counted several quietRun).1
      have calls := (QuietRun.callFacts several quietRun).2
      have stays {round : Nat} (spoilt : Spoilt count.toNat round trace before) :
          Spoilt count.toNat round (event :: trace) after :=
        spoilt.step accounting quiet timely stepTo
      have returned : ∀ thread code past, .exec thread (.ret code) :: past <:+ event :: trace →
          code = 0 ∨ Spoilt count.toNat (callRound thread past) (event :: trace) after := by
        intro thread code past suffix
        obtain ⟨rfl, rfl⟩ | before := executed_cons_iff.mp suffix
        · have atPoint := (step_eq_some_iff.mp stepTo).1
          exact (ih.leaving thread code (.inr atPoint)).imp_right stays
        · exact (ih.returned thread code past before).imp_right stays
      rcases quiet_cases quiet stepTo with
        ⟨mover, point, barrier, target, rfl, atPoint, executes, rfl⟩ | ⟨mover, rfl, rfl⟩ |
        ⟨rfl, -, rfl⟩
      · refine ⟨ih.clear_exec (by omega) timely executes, fun thread code atEnd => ?_, returned⟩
        by_cases own : mover = thread
        · subst mover
          simp only [Function.update_self] at atEnd
          have left := ih.leaving_own (atPoint ▸ calls thread) atPoint executes atEnd
          exact left.imp_right stays
        · rw [callRound_other _ _ own]
          have still := ih.leaving thread code (by simpa [Ne.symm own] using atEnd)
          exact still.imp_right stays
      · refine ⟨by simpa using ih.clear, fun thread code atEnd => ?_, returned⟩
        rw [callRound_block]
        exact (ih.leaving thread code atEnd).imp_right stays
      · refine ⟨fun complete => ?_, fun thread code atEnd => ?_, returned⟩
        · have incomplete : arrivalsIn (resets trace) trace < count.toNat := timely
          simp at complete
          omega
        · rw [callRound_expire]
          exact (ih.leaving thread code atEnd).imp_right stays

theorem TimelyRun.agreement (several : 2 ≤ count.toNat)
    (run : TimelyRun count.toNat (created memory barrierId count timeout tgid) trace system) :
    Agreement count.toNat trace := by
  intro first second code code' earlier earlier' returned returned' sameRound complete
  have keeping := TimelyRun.timekeeping several run
  have zero := (keeping.returned _ _ _ returned).resolve_right fun spoilt => by
    have incomplete := spoilt.1
    omega
  have zero' := (keeping.returned _ _ _ returned').resolve_right fun spoilt => by
    have incomplete := spoilt.1
    rw [← sameRound] at incomplete
    omega
  exact ⟨zero.trans zero'.symm, .inl zero⟩

/-- With a count of two all calls return zero. -/
theorem QuietRun.agreement_two (pair : count.toNat = 2)
    (run : QuietRun (created memory barrierId count timeout tgid) trace system) :
    Agreement count.toNat trace := by
  have zero {thread : Thread} {code : Int} {earlier : List (Event Thread)}
      (returned : .exec thread (.ret code) :: earlier <:+ trace) : code = 0 := by
    obtain ⟨before, -, verdict⟩ := QuietRun.verdict pair.ge run returned
    exact verdict.possible.resolve_right fun timedOut => by omega
  intro first second code code' earlier earlier' returned returned' _ _
  exact ⟨(zero returned).trans (zero returned').symm, .inl (zero returned)⟩

/-- Without a timeout and with the flag clear from the start every step is
timely. -/
theorem QuietRun.timely (several : 2 ≤ count.toNat) (untimed : timeout ≤ 0)
    (lowered : memory.timeoutFlag = false)
    (run : QuietRun (created memory barrierId count timeout tgid) trace system) :
    TimelyRun count.toNat (created memory barrierId count timeout tgid) trace system := by
  refine run.strengthen ?_
  intro trace before after event earlier quiet stepTo
  refine ⟨quiet, ?_⟩
  rcases quiet_cases quiet stepTo with
    ⟨mover, point, barrier, target, rfl, atPoint, executes, rfl⟩ | ⟨mover, rfl, rfl⟩ |
    ⟨rfl, armed, rfl⟩
  · cases executes
    case decrementLeft =>
      exact fun _ => (QuietRun.code_eq_zero several untimed lowered earlier).1
    all_goals trivial
  · trivial
  · have timed := (QuietRun.counted several earlier).1.timed armed
    rw [(QuietRun.constant earlier).2] at timed
    omega

end Timely

section SplitDecisions

/-- The first round is complete: its last arriver is about to cancel the timer
and somebody else is asleep. -/
structure Complete (count : Nat) (start : System Thread) (last sleeper : Thread)
    (trace : List (Event Thread)) (system : System Thread) : Prop where
  run : QuietRun start trace system
  different : sleeper ≠ last
  filling : system.point last = .cancelTimer
  asleep : system.point sleeper = .sleep
  round : resets trace = 0
  arrived : count ≤ arrivalsIn 0 trace
  left : system.barrier.left = 0

variable [Fintype Thread] (memory : Barrier Thread) (barrierId count : BitVec 32)
  (timeout tgid : Int)

variable {memory barrierId count timeout tgid} in
/-- Once the last arriver has found zero, all calls of the round have arrived. -/
theorem arrived_of_filling (several : 2 ≤ count.toNat) {trace : List (Event Thread)}
    {system : System Thread}
    (run : QuietRun (created memory barrierId count timeout tgid) trace system) {last : Thread}
    (filling : system.point last = .cancelTimer) :
    count.toNat ≤ arrivalsIn (resets trace) trace := by
  obtain ⟨accounting, constant, -⟩ := QuietRun.counted several run
  have full := (accounting.owner_at filling rfl).1.count_le
  rw [constant] at full
  exact full.trans (QuietRun.callFacts several run).1.present

/-- `count` threads can complete a round while the timer is still pending. -/
theorem exists_complete (several : 2 ≤ count.toNat)
    (enough : count.toNat ≤ Fintype.card Thread) :
    ∃ last sleeper trace system,
      Complete count.toNat (created memory barrierId count timeout tgid) last sleeper trace
        system ∧
      (0 < timeout → system.barrier.hrTimer.isSome) ∧
      system.barrier.timeoutFlag = memory.timeoutFlag := by
  obtain ⟨threads, distinct, length⟩ := exists_distinct Thread enough
  match threads, distinct, length with
  | last :: sleeper :: others, distinct, length =>
    simp only [List.length_cons] at length
    obtain ⟨fresh, distinct⟩ := List.nodup_cons.mp distinct
    obtain ⟨trace, system, gathered⟩ := exists_gathered memory barrierId count timeout tgid
      (sleeper :: others) distinct (by simp only [List.length_cons]; omega)
    obtain ⟨constant, sameTimeout⟩ := QuietRun.constant gathered.run
    have one : system.barrier.left = 1 := by
      have total := gathered.left
      rw [constant, List.length_cons] at total
      apply BitVec.eq_of_toNat_eq
      change system.barrier.left.toNat = 1
      omega
    have notFirst : system.barrier.left ≠ system.barrier.initCount := by
      rw [constant, one]
      rintro rfl
      simp at several
    obtain ⟨steps, visited, entering, noReset⟩ :=
      runAlone_enter last system.barrier gathered.opened gathered.unlocked
    have entered := QuietRun.alone gathered.run (gathered.away last fresh) entering
    have filled := QuietRun.alone entered (Function.update_self ..) (runAlone_fill last _ one)
    have away : sleeper ≠ last := by
      rintro rfl
      simp at fresh
    have sameRound : resets (script last [.testLeft, .decrementLeft] ++
        (script last visited ++ trace)) = 0 := by
      rw [resets_alone last (by decide), resets_alone last noReset, gathered.round]
    have arrived := arrived_of_filling several filled (Function.update_self ..)
    rw [sameRound] at arrived
    refine ⟨last, sleeper, _, _, ⟨filled, away, by simp, ?_, sameRound, arrived, rfl⟩,
      fun timed => ?_, gathered.flag⟩
    · simpa [away] using gathered.asleep sleeper (by simp)
    · have armed := gathered.armed (by rwa [sameTimeout]) (by simp)
      simpa [Barrier.entered, notFirst] using armed
  | [], _, length | [_], _, length => simp at length; omega

variable {memory barrierId count timeout tgid} {last sleeper : Thread}
  {trace : List (Event Thread)} {system : System Thread}

omit [Fintype Thread] in
theorem Complete.expire
    (complete : Complete count.toNat (created memory barrierId count timeout tgid) last sleeper
      trace system) (armed : system.barrier.hrTimer.isSome) :
    Complete count.toNat (created memory barrierId count timeout tgid) last sleeper
      (.expire :: trace) ⟨system.barrier.myCallback, system.point⟩ :=
  { run := complete.run.extend .expire trivial (if_pos armed)
    different := complete.different
    filling := complete.filling
    asleep := complete.asleep
    round := by simpa using complete.round
    arrived := complete.arrived
    left := complete.left }

omit [Fintype Thread] in
/-- In a complete round that is marked as timed out the last arriver returns
zero and a sleeper `-ETIME`, both before the round ends. -/
theorem Complete.timesOut (large : 2 < count.toNat)
    (complete : Complete count.toNat (created memory barrierId count timeout tgid) last sleeper
      trace system) (flagged : system.barrier.timeoutFlag = true) :
    ∃ leaving releasing after, .clearCondFlag ∉ leaving ∧ .clearCondFlag ∉ releasing ∧
      QuietRun (created memory barrierId count timeout tgid)
        (.exec sleeper (.ret (-ETIME)) :: (script sleeper leaving ++
          .exec last (.ret 0) :: (script last releasing ++ trace))) after := by
  have constant := (QuietRun.constant complete.run).1
  obtain ⟨released, releasing, raised, unlocked, left, sameCount, sameFlag⟩ :=
    runAlone_release last system.barrier
  have atSleep : Function.update system.point last .idle sleeper = .sleep := by
    simpa [complete.different] using complete.asleep
  have notLast : released.left + 1 ≠ released.initCount := by
    rw [left, complete.left, sameCount, constant]
    rintro rfl
    simp at large
  obtain ⟨after, leaving⟩ :=
    runAlone_leave sleeper released raised unlocked notLast (sameFlag.trans flagged)
  have finished := (complete.run.alone complete.filling releasing).alone atSleep leaving
  exact ⟨[.unlock (-ETIME), .testTimeoutFlag, .testAllLeft, .incrementLeft, .lockLeave, .sleep],
    [.unlock 0, .incrementLeftLast, .wakeSleepers, .setCondFlag, .cancelTimer], _,
    by decide, by decide, finished⟩

omit [Fintype Thread] in
theorem Complete.split (large : 2 < count.toNat)
    (complete : Complete count.toNat (created memory barrierId count timeout tgid) last sleeper
      trace system) (flagged : system.barrier.timeoutFlag = true) :
    ∃ trace system, QuietRun (created memory barrierId count timeout tgid) trace system ∧
      ¬ Agreement count.toNat trace := by
  obtain ⟨leaving, releasing, after, stays, stays', finished⟩ :=
    complete.timesOut large flagged
  refine ⟨_, _, finished, fun agree => ?_⟩
  -- both calls belong to the first round
  have firstRound {thread : Thread} {earlier : List (Event Thread)}
      (noReset : resets earlier = 0) : callRound thread earlier = 0 :=
    Nat.le_zero.mp (noReset ▸ callRound_le earlier)
  have released : resets (script last releasing ++ trace) = 0 := by
    rw [resets_alone last stays', complete.round]
  have left : resets (script sleeper leaving ++
      .exec last (.ret 0) :: (script last releasing ++ trace)) = 0 := by
    rw [resets_alone sleeper stays, resets_exec, released]
    rfl
  have sameCode := agree sleeper last (-ETIME) 0 _ _ (List.suffix_refl _)
    ((List.suffix_append (script sleeper leaving) _).trans (List.suffix_cons _ _))
    ((firstRound left).trans (firstRound released).symm) ?_
  · exact absurd sameCode.1 (by decide)
  · refine le_of_le_of_eq (complete.arrived.trans (arrivalsIn_le_of_suffix ?_))
      (congrArg (fun round => arrivalsIn round _) (firstRound left).symm)
    exact ((List.suffix_append _ _).trans (List.suffix_cons _ _)).trans
      ((List.suffix_append _ _).trans (List.suffix_cons _ _))

variable (memory barrierId count timeout tgid) in
/-- The calls of a complete round disagree when the timer expires after the last
`left--`, or when the flag was set from the start. -/
theorem split_decision (large : 2 < count.toNat) (enough : count.toNat ≤ Fintype.card Thread)
    (flagged : 0 < timeout ∨ memory.timeoutFlag = true) :
    ∃ trace system, QuietRun (created memory barrierId count timeout tgid) trace system ∧
      ¬ Agreement count.toNat trace := by
  obtain ⟨last, sleeper, trace, system, complete, armed, sameFlag⟩ :=
    exists_complete memory barrierId count timeout tgid (by omega) enough
  rcases flagged with timed | set
  · exact (complete.expire (armed timed)).split large rfl
  · exact complete.split large (sameFlag.trans set)

/-- The calls of a complete round agree in every run in which the timer never
expires in a complete round and no round is completed with `timeout_flag` set.
Over all runs of `count` threads they agree exactly for a count of two, and for
barriers without timeout whose memory came with the flag clear. -/
theorem outcome_agreement_iff (several : 2 ≤ count.toNat)
    (exactly : Fintype.card Thread = count.toNat) :
    (∀ trace system,
      TimelyRun count.toNat (created memory barrierId count timeout tgid) trace system →
        Agreement count.toNat trace) ∧
    ((∀ trace system, QuietRun (created memory barrierId count timeout tgid) trace system →
        Agreement count.toNat trace) ↔
      count.toNat = 2 ∨ (timeout ≤ 0 ∧ memory.timeoutFlag = false)) := by
  refine ⟨fun trace system run => TimelyRun.agreement several run, ?_, ?_⟩
  · intro agree
    by_contra fails
    rw [not_or, not_and_or, not_le, Bool.not_eq_false] at fails
    obtain ⟨trace, system, run, split⟩ := split_decision memory barrierId count timeout tgid
      (by omega) exactly.ge fails.2
    exact split (agree trace system run)
  · rintro (pair | ⟨untimed, lowered⟩) trace system run
    · exact QuietRun.agreement_two pair run
    · exact TimelyRun.agreement several (QuietRun.timely several untimed lowered run)

end SplitDecisions

/-- Three threads complete a round, and the timer expires before the last one
cancels it. -/
def lateExpiry {Thread : Type*} (first second last : Thread) : List (Event Thread) :=
  script first [.ret (-62), .unlock (-62), .testTimeoutFlag, .testAllLeft, .incrementLeft,
    .lockLeave, .sleep] ++
  script last [.ret 0, .unlock 0, .incrementLeftLast, .wakeSleepers, .setCondFlag,
    .cancelTimer] ++
  .expire :: script last [.testLeft, .decrementLeft, .testFirst, .lockArrive, .gate, .idle] ++
  script second [.unlockSleep, .testLeft, .decrementLeft, .testFirst, .lockArrive, .gate, .idle] ++
  script first [.unlockSleep, .testLeft, .decrementLeft, .startTimer, .testFirst, .lockArrive,
    .gate, .idle]

/-- With three threads, a count of three and a timeout two calls of one complete
round return zero and `-ETIME`. -/
theorem late_expiry_splits :
    ∃ system, QuietRun (created .zeroed 1 3 1 0 : System (Fin 3)) (lateExpiry 0 1 2) system ∧
      ¬ Agreement 3 (lateExpiry (0 : Fin 3) 1 2) := by
  obtain ⟨system, run⟩ : ∃ system,
      QuietRun (created .zeroed 1 3 1 0 : System (Fin 3)) (lateExpiry 0 1 2) system :=
    exists_run_of_replay (by simp [lateExpiry, script, Event.Quiet]) (by decide +kernel)
  refine ⟨system, run, fun agree => ?_⟩
  have same := agree 0 2 (-62) 0 ((lateExpiry 0 1 2).drop 1) ((lateExpiry 0 1 2).drop 8)
    (List.suffix_refl _) (List.drop_suffix 7 (lateExpiry 0 1 2)) (by decide) (by decide)
  exact absurd same.1 (by decide)

theorem outcome_agreement_three : Agreement 3 (threeRound (0 : Fin 3) 1 2) := by
  obtain ⟨system, run⟩ : ∃ system,
      QuietRun (created .zeroed 1 3 0 0) (threeRound (0 : Fin 3) 1 2) system :=
    exists_run_of_replay (by simp [threeRound, script, Event.Quiet]) (by decide +kernel)
  exact (outcome_agreement_iff (by decide) (by decide)).2.mpr (.inr ⟨le_rfl, rfl⟩) _ _ run

end BarrierSys

end KinuxKernel
