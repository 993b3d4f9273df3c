import KinuxKernel.BarrierMutex
import KinuxKernel.BarrierTimeouts

/-!
# Signals in the waits of a barrier

Both waits of `barrier_wait` are interruptible and ignore their result.  A
signal at the gate lets a call into a round early, which the accounting bears.
A signal in the sleep shows only at the `left++` that follows: until then the
call may be taken to be asleep still.  As long as every woken call executes its
`left++` with the flag up, a run is in this sense a run without signals.
-/

namespace KinuxKernel

namespace BarrierSys

open TraceRun ThreadPoints

section Asleep

/-- A woken call counts as asleep until its `left++`. -/
def WaitPoint.settle : WaitPoint → WaitPoint
  | .lockLeave | .incrementLeft => .sleep
  | point => point

variable {Thread : Type*}

/-- The barrier with another lock and nobody in its queue. -/
@[simps]
def Barrier.calm (barrier : Barrier Thread) (lock : Option Thread) : Barrier Thread :=
  { barrier with barrierLock := lock, myQueue := [] }

/-- The lock without an owner that counts as asleep. -/
def heldAwake (lock : Option Thread) (point : Thread → WaitPoint) : Option Thread :=
  lock.filter fun thread => point thread ≠ .incrementLeft

/-- The system with the woken calls put back to sleep. -/
def settled (system : System Thread) : System Thread :=
  ⟨system.barrier.calm (heldAwake system.barrier.barrierLock system.point),
    WaitPoint.settle ∘ system.point⟩

@[simp]
theorem heldAwake_none (points : Thread → WaitPoint) : heldAwake none points = none := rfl

@[simp]
theorem heldAwake_some (thread : Thread) (points : Thread → WaitPoint) :
    heldAwake (some thread) points =
      if points thread = .incrementLeft then none else some thread := by
  by_cases leaving : points thread = .incrementLeft <;>
    simp [heldAwake, Option.filter, leaving]

variable [DecidableEq Thread] {thread : Thread} {barrier after : Barrier Thread}
  {point target : WaitPoint} {lock : Option Thread} {points : Thread → WaitPoint}

theorem heldAwake_update (awake : points thread ≠ .incrementLeft)
    (stays : target ≠ .incrementLeft) :
    heldAwake lock (Function.update points thread target) = heldAwake lock points := by
  unfold heldAwake
  congr 1
  funext other
  by_cases same : other = thread
  · simp [same, awake, stays]
  · simp [same]

theorem settled_update (barrier : Barrier Thread) (target : WaitPoint) :
    settled ⟨barrier, Function.update points thread target⟩ =
      ⟨barrier.calm (heldAwake barrier.barrierLock (Function.update points thread target)),
        Function.update (WaitPoint.settle ∘ points) thread target.settle⟩ := by
  simp only [settled, Function.comp_update]

/-- Apart from the lock operations no statement depends on the lock or the
queue. -/
theorem Executes.calm (executes : Executes thread barrier point after target)
    (acquires : point.locks = false) (releases : point.unlocks = false) :
    Executes thread (barrier.calm lock) point (after.calm lock) target := by
  cases executes
  case lockArrive | lockLeave => simp [WaitPoint.locks] at acquires
  case unlockSleep | unlock => simp [WaitPoint.unlocks] at releases
  case gate opened => exact .gate opened
  case sleep raised => exact .sleep raised
  case arm first timed => exact .arm first timed
  case join late => exact .join late
  case early nonzero => exact .early nonzero
  case last zero => exact .last zero
  case allLeft full => exact .allLeft full
  case someLeft notFull => exact .someLeft notFull
  case cancelTimer timed => exact .cancelTimer timed
  case noTimer untimed => exact .noTimer untimed
  all_goals constructor

variable {system : System Thread}

/-- Every statement but those of a woken call up to its `left++` is executed by
the settled system as well. -/
theorem settled_exec (atPoint : system.point thread = point)
    (awake : point ≠ .sleep ∧ point ≠ .lockLeave ∧ point ≠ .incrementLeft)
    (executes : Executes thread system.barrier point barrier target) :
    ∃ calmed, Executes thread (settled system).barrier point calmed target ∧
      settled ⟨barrier, Function.update system.point thread target⟩ =
        ⟨calmed, Function.update (settled system).point thread target⟩ := by
  have stays : target ≠ .incrementLeft ∧ target.settle = target := by
    cases executes <;> simp_all [WaitPoint.settle]
  rw [settled_update, stays.2]
  by_cases acquires : point.locks = true
  · cases executes <;> simp only [WaitPoint.locks, reduceCtorEq, ne_eq, not_true_eq_false,
      and_false, false_and] at acquires awake
    case lockArrive free =>
      refine ⟨_, .lockArrive ?_, ?_⟩
      · simp [settled, Barrier.calm, free]
      · simp [settled, Barrier.calm]
  by_cases releases : point.unlocks = true
  · cases executes <;> simp only [WaitPoint.unlocks, reduceCtorEq] at releases
    case unlockSleep => exact ⟨_, .unlockSleep, rfl⟩
    case unlock code => exact ⟨_, .unlock code, rfl⟩
  · rw [Bool.not_eq_true] at acquires releases
    have sameLock : barrier.barrierLock = system.barrier.barrierLock := by
      cases executes <;> first | rfl | simp_all [WaitPoint.locks, WaitPoint.unlocks]
    refine ⟨_, executes.calm acquires releases, ?_⟩
    rw [sameLock, heldAwake_update (by rw [atPoint]; exact awake.2.2) stays.1]
    rfl

/-- A call that is taken to be asleep stays so until it has the lock. -/
theorem settled_wake (barrier : Barrier Thread) (atPoint : system.point thread = .sleep)
    (same : barrier.calm none = system.barrier.calm none)
    (sameLock : barrier.barrierLock = system.barrier.barrierLock) :
    settled ⟨barrier, Function.update system.point thread .lockLeave⟩ = settled system := by
  have asleep : WaitPoint.settle .lockLeave = (WaitPoint.settle ∘ system.point) thread := by
    simp [atPoint, WaitPoint.settle]
  rw [settled_update, sameLock, heldAwake_update (by simp [atPoint]) (by simp), asleep,
    Function.update_eq_self]
  simp only [Barrier.calm, Barrier.mk.injEq] at same
  simp [settled, Barrier.calm, same]

theorem settled_lock (atPoint : system.point thread = .lockLeave)
    (free : system.barrier.barrierLock = none) :
    settled ⟨{ system.barrier with barrierLock := some thread },
      Function.update system.point thread .incrementLeft⟩ = settled system := by
  have asleep : WaitPoint.settle .incrementLeft = (WaitPoint.settle ∘ system.point) thread := by
    simp [atPoint, WaitPoint.settle]
  rw [settled_update, asleep, Function.update_eq_self]
  simp [settled, Barrier.calm, free]

end Asleep

section Invariant

variable {Thread : Type*} [Fintype Thread] [DecidableEq Thread]

/-- A run with signals in the waits is, up to the calls taken to be asleep, a run
without signals. -/
structure Settles (trace : List (Event Thread)) (system : System Thread) : Prop where
  locked : Locked system
  accounting : Accounting (settled system)
  rounds : RoundFacts system.barrier.initCount.toNat trace (settled system)

variable {trace : List (Event Thread)} {system : System Thread} {thread : Thread}
  {barrier : Barrier Thread} {target : WaitPoint}

omit [Fintype Thread] [DecidableEq Thread] in
/-- A history may be replaced by one that tells the same about its current
round. -/
theorem RoundFacts.retrace [Fintype Thread] {count : Nat} {later : List (Event Thread)}
    (rounds : RoundFacts count trace system) (sameRound : resets later = resets trace)
    (sameArrivals : arrivalsIn (resets trace) later = arrivalsIn (resets trace) trace)
    (sameExpiry : ExpiredEarly count (resets trace) later ↔
      ExpiredEarly count (resets trace) trace) : RoundFacts count later system := by
  refine ⟨?_, ?_, ?_⟩
  · rw [sameRound, sameArrivals]
    exact rounds.present
  · rw [sameRound, sameArrivals, sameExpiry]
    exact rounds.raised
  · rw [sameRound, sameExpiry]
    exact rounds.expired

/-- At its `left++` a woken call is seen to wake up, take the lock and leave. -/
theorem Settles.leave (settles : Settles trace system)
    (atPoint : system.point thread = .incrementLeft)
    (raised : system.barrier.condFlag = 1) :
    Settles (.exec thread .incrementLeft :: trace)
      ⟨{ system.barrier with left := system.barrier.left + 1 },
        Function.update system.point thread .testAllLeft⟩ := by
  have owns : system.barrier.barrierLock = some thread :=
    (settles.locked thread).mp (by rw [atPoint]; rfl)
  have asleep : (settled system).point thread = .sleep := by
    simp [settled, atPoint, WaitPoint.settle]
  have unlocked : (settled system).barrier = system.barrier.calm none := by
    simp [settled, owns, atPoint]
  -- the three statements that the call executes in the settled system
  have waking : Executes thread (settled system).barrier .sleep (system.barrier.calm none)
      .lockLeave := by
    rw [unlocked]
    exact .sleep raised
  have locking : Executes thread (system.barrier.calm none) .lockLeave
      (system.barrier.calm (some thread)) .incrementLeft := .lockLeave rfl
  have leaving : Executes thread (system.barrier.calm (some thread)) .incrementLeft
      ({ system.barrier with left := system.barrier.left + 1 }.calm (some thread))
      .testAllLeft := .incrementLeft
  have woken := settles.accounting.exec asleep waking
  have inLock := woken.exec (Function.update_self ..) locking
  have left := inLock.exec (Function.update_self ..) leaving
  have rounds := ((settles.rounds.exec settles.accounting asleep waking).exec woken
    (Function.update_self ..) locking).exec inLock (Function.update_self ..) leaving
  simp only [Function.update_idem] at left rounds
  have same : settled ⟨{ system.barrier with left := system.barrier.left + 1 },
      Function.update system.point thread .testAllLeft⟩ =
      ⟨{ system.barrier with left := system.barrier.left + 1 }.calm (some thread),
        Function.update (settled system).point thread .testAllLeft⟩ := by
    rw [settled_update]
    simp [owns, settled, WaitPoint.settle]
  refine ⟨settles.locked.exec atPoint .incrementLeft, same ▸ left, same ▸ ?_⟩
  exact rounds.retrace (by simp) (by simp) (by simp)

omit [DecidableEq Thread] in
/-- Nothing changes in the settled system. -/
theorem Settles.still (settles : Settles trace system) {later : List (Event Thread)}
    {after : System Thread} (locked : Locked after) (same : settled after = settled system)
    (sameRound : resets later = resets trace)
    (sameArrivals : ∀ round, arrivalsIn round later = arrivalsIn round trace)
    (sameExpiry : ∀ count round, ExpiredEarly count round later ↔ ExpiredEarly count round trace) :
    Settles later after := by
  have sameCount : after.barrier.initCount = system.barrier.initCount :=
    congrArg (·.barrier.initCount) same
  refine ⟨locked, same ▸ settles.accounting, ?_⟩
  rw [sameCount, same]
  exact settles.rounds.retrace sameRound (sameArrivals _) (sameExpiry _ _)

theorem RoundFacts.bystander {count : Nat} (rounds : RoundFacts count trace system)
    {point : WaitPoint} (queue : List Thread) (atPoint : system.point thread = point)
    (same : target.inside = point.inside) (away : point ≠ .clearCondFlag) :
    RoundFacts count trace ⟨{ system.barrier with myQueue := queue },
      Function.update system.point thread target⟩ := by
  have counted := Accounting.inside_update target atPoint (by rw [same])
  refine ⟨?_, rounds.raised, fun expired => ?_⟩
  · simp only [inside, counted]
    exact rounds.present
  · refine (rounds.expired expired).imp_right fun past => ?_
    obtain ⟨other, clearing⟩ := past
    refine ⟨other, ?_⟩
    have different : other ≠ thread := by
      rintro rfl
      exact away (atPoint.symm.trans clearing)
    simpa [different] using clearing

/-- A signal lets a call through the gate whatever the flag says. -/
theorem Settles.enter (settles : Settles trace system)
    (atPoint : system.point thread = .gate) :
    Settles (.signal thread .gate :: trace)
      ⟨system.barrier.finishWait thread,
        Function.update system.point thread .lockArrive⟩ := by
  have same : settled ⟨system.barrier.finishWait thread,
      Function.update system.point thread .lockArrive⟩ =
      ⟨{ (settled system).barrier with myQueue := [] },
        Function.update (settled system).point thread .lockArrive⟩ := by
    rw [settled_update, heldAwake_update (by simp [atPoint]) (by simp)]
    rfl
  have waiting : (settled system).point thread = .gate := by
    simp [settled, atPoint, WaitPoint.settle]
  have rounds : RoundFacts system.barrier.initCount.toNat trace
      ⟨{ (settled system).barrier with myQueue := [] },
        Function.update (settled system).point thread .lockArrive⟩ :=
    settles.rounds.bystander [] waiting rfl (by simp)
  refine ⟨settles.locked.move (by rw [atPoint]; rfl), ?_, ?_⟩
  · rw [same]
    exact settles.accounting.bystander [] waiting rfl rfl rfl (by simp)
  · rw [same]
    exact rounds.retrace (by simp) (by simp) (by simp)

/-- The statements of the runs that bear signals in the waits: a woken call
leaves with the flag up, and a round is only reset after `count` arrivals. -/
def Awake (count : Nat) (trace : List (Event Thread)) (system : System Thread) :
    Event Thread → Prop
  | .exec _ .incrementLeft => system.barrier.condFlag = 1
  | .exec _ .clearTimeoutFlag => count ≤ arrivalsIn (resets trace) trace
  | _ => True

instance (event : Event Thread) : Decidable event.FailedLock :=
  match event with
  | .signal _ point => inferInstanceAs (Decidable (point.locks = true))
  | .exec _ _ | .block _ | .expire => inferInstanceAs (Decidable False)

instance (count : Nat) (trace : List (Event Thread)) (system : System Thread)
    (event : Event Thread) : Decidable (Awake count trace system event) :=
  decidable_of_iff
    ((∀ thread, event = .exec thread .incrementLeft → system.barrier.condFlag = 1) ∧
      ∀ thread, event = .exec thread .clearTimeoutFlag → count ≤ arrivalsIn (resets trace) trace)
    (by
      cases event with
      | exec thread point => cases point <;> simp [Awake]
      | block | signal | expire => simp [Awake])

/-- Runs in which signals may end the waits for the flag. -/
abbrev WaitRun (start : System Thread) : List (Event Thread) → System Thread → Prop :=
  Run step (each fun event => ¬ event.FailedLock) start

abbrev AwakeRun (count : Nat) (start : System Thread) :
    List (Event Thread) → System Thread → Prop :=
  Run step (fun trace system event => ¬ event.FailedLock ∧ Awake count trace system event) start

theorem Settles.step (settles : Settles trace system) {event : Event Thread}
    {after : System Thread} (acquired : ¬ event.FailedLock) {count : Nat}
    (awake : Awake count trace system event)
    (stepTo : BarrierSys.step system event = some after) : Settles (event :: trace) after := by
  have locked := settles.locked.step acquired stepTo
  have effect := step_eq_some_iff.mp stepTo
  cases event with
  | exec thread point =>
      obtain ⟨atPoint, ⟨barrier, target⟩, executed, rfl⟩ := effect
      have executes := executes_of_execute executed
      by_cases sleeping : point = .sleep
      · subst sleeping
        cases executes
        exact settles.still locked (settled_wake _ atPoint rfl rfl) (by simp) (by simp) (by simp)
      by_cases woken : point = .lockLeave
      · subst woken
        cases executes with
        | lockLeave free =>
            exact settles.still locked (settled_lock atPoint free) (by simp) (by simp) (by simp)
      by_cases leaving : point = .incrementLeft
      · subst leaving
        cases executes
        exact settles.leave atPoint awake
      · obtain ⟨calmed, executes', same⟩ :=
          settled_exec atPoint ⟨sleeping, woken, leaving⟩ executes
        have standing : (settled system).point thread = point := by
          simp only [settled, Function.comp_apply, atPoint]
          cases point <;> simp_all [WaitPoint.settle]
        have sameCount : barrier.initCount = system.barrier.initCount := by
          cases executes <;> rfl
        refine ⟨locked, ?_, ?_⟩
        · rw [same]
          exact settles.accounting.exec standing executes'
        · rw [same, sameCount]
          exact settles.rounds.exec settles.accounting standing executes'
  | block thread =>
      obtain ⟨barrier, blocked, rfl⟩ := effect
      obtain ⟨-, rfl⟩ := block_eq_some_iff.mp blocked
      exact settles.still locked rfl (by simp) (by simp) (by simp)
  | signal thread point =>
      obtain ⟨atPoint, ⟨barrier, target⟩, interrupted, rfl⟩ := effect
      rcases interrupt_cases interrupted with ⟨⟨rfl, rfl⟩ | ⟨rfl, rfl⟩, rfl⟩ |
        ⟨⟨rfl, -⟩ | ⟨rfl, -⟩, -⟩
      · exact settles.enter atPoint
      · exact settles.still locked (settled_wake _ atPoint rfl rfl) (by simp) (by simp) (by simp)
      · exact (acquired rfl).elim
      · exact (acquired rfl).elim
  | expire =>
      obtain ⟨armed, rfl⟩ := effect
      exact ⟨locked, settles.accounting.expire armed, settles.rounds.expire⟩

end Invariant

section Calls

variable {Thread : Type*} [DecidableEq Thread]

section Assertions

variable (count : Nat) (thread : Thread) (trace : List (Event Thread))
  (barrier : Barrier Thread)

/-- The round of the latest call of the thread has filled up. -/
def Filled : Prop :=
  count ≤ arrivalsIn (callRound thread trace) trace

/-- What a call knows about the arrivals in its round before each of its
statements. -/
def ArrivalFacts : WaitPoint → Prop
  | .testLeft | .unlockSleep | .sleep | .lockLeave | .incrementLeft | .testAllLeft
  | .clearTimeoutFlag | .cancelTimer | .setCondFlag | .wakeSleepers | .incrementLeftLast =>
      Joined thread trace
  | .clearCondFlag => Joined thread trace ∧ Filled count thread trace
  | .incrementSyncNum | .wakeGate => Filled count thread trace
  | .testTimeoutFlag =>
      Filled count thread trace ∨ Joined thread trace ∧ barrier.condFlag = 1
  | .unlock code | .ret code => code = 0 → Filled count thread trace
  | .idle | .gate | .lockArrive | .testFirst | .startTimer | .decrementLeft => True

end Assertions

variable {count : Nat} {thread : Thread} {trace later : List (Event Thread)}
  {barrier after : Barrier Thread} {point target : WaitPoint}

theorem Filled.onward (filled : Filled count thread trace)
    (sameCall : callRound thread later = callRound thread trace) (suffix : trace <:+ later) :
    Filled count thread later := by
  rw [Filled, sameCall]
  exact filled.trans (arrivalsIn_le_of_suffix suffix)

/-- What a call knows stays true while its round goes on. -/
theorem ArrivalFacts.onward (facts : ArrivalFacts count thread trace barrier point)
    (sameRound : resets later = resets trace)
    (sameCall : callRound thread later = callRound thread trace) (suffix : trace <:+ later)
    (raised : barrier.condFlag = 1 → after.condFlag = 1) :
    ArrivalFacts count thread later after point := by
  have joined (joined : Joined thread trace) : Joined thread later := by
    rw [Joined, sameCall, sameRound]
    exact joined
  have filled (filled : Filled count thread trace) : Filled count thread later :=
    filled.onward sameCall suffix
  cases point <;> simp only [ArrivalFacts] at facts ⊢
  case clearCondFlag => exact ⟨joined facts.1, filled facts.2⟩
  case incrementSyncNum | wakeGate => exact filled facts
  case testTimeoutFlag => exact facts.imp filled fun leaving => ⟨joined leaving.1, raised leaving.2⟩
  case unlock | ret => exact fun zero => filled (facts zero)
  all_goals exact joined facts

variable [Fintype Thread] {system : System Thread} {mover : Thread}

/-- The statements of a call keep what it knows about its round. -/
theorem ArrivalFacts.own (settles : Settles trace system)
    (facts : ArrivalFacts system.barrier.initCount.toNat thread trace system.barrier point)
    (awake : Awake system.barrier.initCount.toNat trace system (.exec thread point))
    (atPoint : system.point thread = point)
    (executes : Executes thread system.barrier point barrier target) :
    ArrivalFacts system.barrier.initCount.toNat thread (.exec thread point :: trace) barrier
      target := by
  have standing (fixed : point.settle = point) : (settled system).point thread = point := by
    simp [settled, atPoint, fixed]
  have filled (elsewhere : point ≠ .decrementLeft)
      (filled : Filled system.barrier.initCount.toNat thread trace) :
      Filled system.barrier.initCount.toNat thread (.exec thread point :: trace) :=
    filled.onward (by simp [elsewhere]) (List.suffix_cons ..)
  cases executes with
  | idle | gate | lockArrive | arm | join | startTimer | ret => trivial
  | decrementLeft => simp [ArrivalFacts, Joined]
  | early | last | unlockSleep | sleep | lockLeave | incrementLeft | allLeft | cancelTimer
  | noTimer | setCondFlag | wakeSleepers =>
      simpa [ArrivalFacts, Joined] using facts
  | someLeft =>
      have draining := (settles.accounting.owner_at (standing rfl) rfl).2
      exact .inr ⟨by simpa [Joined, ArrivalFacts] using facts, draining.1⟩
  | clearTimeoutFlag =>
      have joined : Joined thread trace := facts
      refine ⟨by simpa [Joined] using joined, filled (by simp) ?_⟩
      rw [Filled, show callRound thread trace = _ from joined]
      exact awake
  | clearCondFlag => exact filled (by simp) facts.2
  | incrementSyncNum => exact filled (by simp) facts
  | wakeGate => exact .inl (filled (by simp) facts)
  | testTimeoutFlag =>
      intro zero
      refine filled (by simp) (facts.elim id fun signalled => ?_)
      obtain ⟨joined, raised⟩ := signalled
      rw [Filled, show callRound thread trace = _ from joined]
      refine (settles.rounds.raised raised).resolve_right fun early => ?_
      -- an early expiry leaves the flag set, so the call would not return zero
      have set : system.barrier.timeoutFlag = true :=
        (settles.rounds.expired early).flag settles.accounting
          (by rw [standing rfl]; rfl) (by rw [standing rfl]; simp)
      simp [set, ETIME] at zero
  | incrementLeftLast =>
      intro _
      have full := (settles.accounting.owner_at (standing rfl) rfl).1.count_le
      refine filled (by simp) ?_
      rw [Filled, show callRound thread trace = _ from facts]
      exact full.trans settles.rounds.present
  | unlock code => exact fun zero => filled (by simp) (facts zero)

/-- Whatever another thread does keeps what a call knows. -/
theorem ArrivalFacts.other (settles : Settles trace system) (different : mover ≠ thread)
    (facts : ArrivalFacts count thread trace system.barrier (system.point thread))
    (atPoint : system.point mover = point)
    (executes : Executes mover system.barrier point barrier target) :
    ArrivalFacts count thread (.exec mover point :: trace) barrier (system.point thread) := by
  by_cases clearing : point = .clearCondFlag
  · subst clearing
    have standing : (settled system).point mover = .clearCondFlag := by
      simp [settled, atPoint, WaitPoint.settle]
    have empty := (settles.accounting.owner_at standing rfl).1
    have outside : ((settled system).point thread).inside = false :=
      countAt_eq_zero_iff.mp empty thread
    have unowned : (system.point thread).holdsLock ≠ true := fun holds =>
      different (settles.locked.unique (by rw [atPoint]; rfl) holds)
    simp only [settled, Function.comp_apply] at outside
    -- only a call on its way out is left
    cases away : system.point thread <;>
      simp [away, WaitPoint.settle, WaitPoint.inside, WaitPoint.holdsLock] at outside unowned
    case ret code =>
      rw [away] at facts
      exact fun zero => (facts zero).onward (callRound_other _ _ different) (List.suffix_cons ..)
    all_goals trivial
  · exact facts.onward (by simp [clearing]) (callRound_other _ _ different) (List.suffix_cons ..)
      fun raised => executes.stays_raised raised clearing

/-- No call returns zero before `count` calls have entered its round. -/
def HoldsBack (count : Nat) (trace : List (Event Thread)) : Prop :=
  ∀ thread earlier, .exec thread (.ret 0) :: earlier <:+ trace → Filled count thread earlier

omit [DecidableEq Thread] [Fintype Thread] in
/-- In a round: from `hrtimer_start` or `left--` on to the `left++`. -/
def WaitPoint.inRound (point : WaitPoint) : Bool :=
  point.inside || point = .decrementLeft

omit [DecidableEq Thread] [Fintype Thread] in
/-- A pending timer has somebody in its round. -/
def TimerAttended (system : System Thread) : Prop :=
  system.barrier.hrTimer.isSome → ∃ thread, (system.point thread).inRound = true

omit [DecidableEq Thread] in
theorem exists_inside (occupied : 1 ≤ inside system) :
    ∃ thread, (system.point thread).inside = true := by
  by_contra nobody
  have empty : inside system = 0 := countAt_eq_zero_iff.mpr fun thread => by
    simpa using not_exists.mp nobody thread
  omega

omit [DecidableEq Thread] in
theorem Accounting.attended (accounting : Accounting system) : TimerAttended system := by
  intro armed
  have resting (rest : AtRest system.barrier (inside system)) :
      ∃ thread, (system.point thread).inRound = true := by
    obtain ⟨thread, isInside⟩ := exists_inside (rest.armed armed).2
    exact ⟨thread, by simp [WaitPoint.inRound, isInside]⟩
  have disarmed (off : system.barrier.hrTimer = none) : False := by
    simp [off] at armed
  cases locked : system.barrier.barrierLock with
  | none => exact resting (accounting.free locked)
  | some owner =>
      have holds := (accounting.mutex owner).mpr locked
      have facts := accounting.owner owner locked
      have owned (inRound : (system.point owner).inRound = true) :
          ∃ thread, (system.point thread).inRound = true := ⟨owner, inRound⟩
      cases atPoint : system.point owner <;> simp only [atPoint, OwnerFacts] at facts owned
      case testFirst | testTimeoutFlag | unlock => exact resting facts
      case startTimer => exact resting facts.1
      case decrementLeft | testLeft | unlockSleep | cancelTimer | setCondFlag | wakeSleepers |
          incrementLeftLast | incrementLeft => exact owned rfl
      case testAllLeft | clearTimeoutFlag | clearCondFlag | incrementSyncNum | wakeGate =>
        exact (disarmed facts.2.2).elim
      all_goals simp [atPoint, WaitPoint.holdsLock] at holds

end Calls

section Created

variable {Thread : Type*} [DecidableEq Thread] {memory : Barrier Thread}
  {barrierId count : BitVec 32} {timeout tgid : Int} {trace : List (Event Thread)}
  {system : System Thread}

theorem AwakeRun.facts [Fintype Thread]
    (run : AwakeRun count.toNat (created memory barrierId count timeout tgid) trace system) :
    system.barrier.initCount = count ∧ Settles trace system ∧
      ∀ thread, ArrivalFacts count.toNat thread trace system.barrier (system.point thread) := by
  induction run with
  | start =>
      have accounting := Accounting.created memory barrierId count timeout tgid
      have rounds := RoundFacts.created memory barrierId count timeout tgid
      exact ⟨rfl, ⟨.created, accounting, rounds⟩, fun _ => trivial⟩
  | @next trace before after event _ legal stepTo ih =>
      obtain ⟨acquired, awake⟩ := legal
      obtain ⟨rfl, settles, calls⟩ := ih
      refine ⟨(sameSetup_of_step stepTo).initCount, settles.step acquired awake stepTo,
        fun thread => ?_⟩
      have effect := step_eq_some_iff.mp stepTo
      cases event with
      | exec mover point =>
          obtain ⟨atPoint, ⟨barrier, target⟩, executed, rfl⟩ := effect
          have executes := executes_of_execute executed
          by_cases own : mover = thread
          · subst mover
            have facts := (atPoint ▸ calls thread).own settles awake atPoint executes
            simpa using facts
          · have facts := (calls thread).other settles own atPoint executes
            simpa [Ne.symm own] using facts
      | block mover =>
          obtain ⟨barrier, blocked, rfl⟩ := effect
          obtain ⟨-, rfl⟩ := block_eq_some_iff.mp blocked
          exact (calls thread).onward (by simp) (by simp) (List.suffix_cons ..) id
      | signal mover point =>
          obtain ⟨atPoint, ⟨barrier, target⟩, interrupted, rfl⟩ := effect
          have facts := calls thread
          rcases interrupt_cases interrupted with ⟨woken, rfl⟩ | ⟨failed, -⟩
          · have moved : ArrivalFacts before.barrier.initCount.toNat thread trace before.barrier
                (Function.update before.point mover target thread) := by
              by_cases own : thread = mover
              · subst thread
                rw [atPoint] at facts
                rcases woken with ⟨rfl, rfl⟩ | ⟨rfl, rfl⟩
                · simp [ArrivalFacts]
                · simpa [ArrivalFacts] using facts
              · simpa [own] using facts
            exact moved.onward (by simp) (by simp) (List.suffix_cons ..) id
          · refine (acquired ?_).elim
            rcases failed with ⟨rfl, -⟩ | ⟨rfl, -⟩ <;> rfl
      | expire =>
          obtain ⟨-, rfl⟩ := effect
          exact (calls thread).onward (by simp) (by simp) (List.suffix_cons ..) fun _ => rfl

/-- What the barrier promises its callers whatever signals they get. -/
structure SignalSafe (count : Nat) (trace : List (Event Thread)) (system : System Thread) :
    Prop where
  holdsBack : HoldsBack count trace
  attended : TimerAttended system

theorem AwakeRun.signalSafe [Fintype Thread]
    (run : AwakeRun count.toNat (created memory barrierId count timeout tgid) trace system) :
    SignalSafe count.toNat trace system := by
  constructor
  · intro thread earlier returned
    obtain ⟨before, after, past, -, stepTo⟩ := run.of_executed returned
    have facts := (AwakeRun.facts past).2.2 thread
    rw [(step_eq_some_iff.mp stepTo).1] at facts
    exact facts rfl
  · intro armed
    obtain ⟨thread, inRound⟩ := (AwakeRun.facts run).2.1.accounting.attended armed
    refine ⟨thread, ?_⟩
    revert inRound
    simp only [settled, Function.comp_apply]
    cases system.point thread <;> simp [WaitPoint.settle, WaitPoint.inRound, WaitPoint.inside]

/-- A single caller goes to sleep, is woken by a signal and leaves as the last
one of its round. -/
def signalledCaller (thread : Thread) (timed : Bool) : List (Event Thread) :=
  script thread [.unlock 0, .testTimeoutFlag, .wakeGate, .incrementSyncNum, .clearCondFlag,
    .clearTimeoutFlag, .testAllLeft, .incrementLeft, .lockLeave] ++
  .signal thread .sleep :: script thread ([.unlockSleep, .testLeft, .decrementLeft] ++
    (if timed then [.startTimer] else []) ++ [.testFirst, .lockArrive, .gate, .idle])

theorem not_holdsBack_signalled (thread : Thread) (timed : Bool) {count : Nat}
    (several : 2 ≤ count) :
    ¬ HoldsBack count (.exec thread (.ret 0) :: signalledCaller thread timed) := by
  intro holdsBack
  have filled := holdsBack thread _ (List.suffix_refl _)
  cases timed <;> simp [Filled, signalledCaller, script] at filled
  all_goals omega

theorem WaitRun.alone {start : System Thread} (run : WaitRun start trace system)
    {thread : Thread} {steps : Nat} {visited : List WaitPoint} {barrier : Barrier Thread}
    {point target : WaitPoint} (atPoint : system.point thread = point)
    (alone : runAlone thread steps system.barrier point = some (visited, barrier, target)) :
    WaitRun start (script thread visited ++ trace)
      ⟨barrier, Function.update system.point thread target⟩ := by
  refine Run.append run ((quietRun_alone system atPoint alone).mono ?_)
  intro _ _ event quiet failed
  cases event with
  | signal => exact quiet
  | exec | block | expire => exact failed

/-- The first caller goes to sleep, with its timer pending if there is one. -/
theorem runAlone_first (memory : Barrier Thread) (barrierId : BitVec 32) (timeout tgid : Int)
    (several : 2 ≤ count.toNat) (thread : Thread) :
    ∃ steps after, runAlone thread steps (memory.initialise barrierId count timeout tgid) .idle =
      some ([.unlockSleep, .testLeft, .decrementLeft] ++
          (if 0 < timeout then [.startTimer] else []) ++ [.testFirst, .lockArrive, .gate, .idle],
        after, .sleep) ∧
      after.barrierLock = none ∧ after.left + 1 = after.initCount ∧
      (0 < timeout → after.hrTimer.isSome) := by
  have notLast : count - 1#32 ≠ 0#32 := by
    intro zero
    have one : count = 1 := by grind
    simp [one] at several
  by_cases timed : 0 < timeout
  · refine ⟨8, { memory.initialise barrierId count timeout tgid with
      left := count - 1, hrTimer := some timeout }, ?_, rfl, BitVec.sub_add_cancel .., fun _ => rfl⟩
    simp [runAlone, execute, Barrier.initialise, Barrier.finishWait, timed, notLast]
  · refine ⟨7, { memory.initialise barrierId count timeout tgid with left := count - 1 },
      ?_, rfl, BitVec.sub_add_cancel .., fun again => (timed again).elim⟩
    simp [runAlone, execute, Barrier.initialise, Barrier.finishWait, timed, notLast]

/-- The last call to leave resets the barrier, but not its timer. -/
theorem runAlone_reset (thread : Thread) (barrier : Barrier Thread)
    (unlocked : barrier.barrierLock = none) (last : barrier.left + 1#32 = barrier.initCount) :
    ∃ after, runAlone thread 10 barrier .lockLeave =
      some ([.ret 0, .unlock 0, .testTimeoutFlag, .wakeGate, .incrementSyncNum, .clearCondFlag,
        .clearTimeoutFlag, .testAllLeft, .incrementLeft, .lockLeave], after, .idle) ∧
      after.hrTimer = barrier.hrTimer := by
  refine ⟨{ barrier with
      left := barrier.left + 1, timeoutFlag := false, condFlag := 0
      syncNum := barrier.syncNum + 1, myQueue := [], barrierLock := none }, ?_, rfl⟩
  simp [runAlone, execute, Barrier.wakeUpAll, unlocked, last]

variable (memory barrierId timeout tgid) in
/-- One caller and one signal are enough: the call returns zero alone, and leaves
its timer behind. -/
theorem exists_signalled (several : 2 ≤ count.toNat) (thread : Thread) :
    ∃ system, WaitRun (created memory barrierId count timeout tgid)
        (.exec thread (.ret 0) :: signalledCaller thread (0 < timeout)) system ∧
      (0 < timeout → ¬ TimerAttended system) := by
  obtain ⟨steps, asleep, falling, unlocked, last, armed⟩ :=
    runAlone_first memory barrierId timeout tgid several thread
  have sleeping : WaitRun (created memory barrierId count timeout tgid) _ _ :=
    WaitRun.alone .start rfl falling
  have woken : WaitRun (created memory barrierId count timeout tgid) (.signal thread .sleep :: _)
      ⟨asleep.finishWait thread, Function.update (fun _ => .idle) thread .lockLeave⟩ :=
    Run.next sleeping (by simp [each, Event.FailedLock, WaitPoint.locks])
      (by simp [step, interrupt, created])
  obtain ⟨after, resetting, sameTimer⟩ :=
    runAlone_reset thread (asleep.finishWait thread) unlocked last
  have finished := woken.alone (by simp) resetting
  refine ⟨_, by simpa [signalledCaller, script] using finished, fun timed attended => ?_⟩
  obtain ⟨other, inRound⟩ := attended (by simpa [sameTimer] using armed timed)
  by_cases same : other = thread
  · subst other
    simp [WaitPoint.inRound, WaitPoint.inside] at inRound
  · simp [WaitPoint.inRound, WaitPoint.inside] at inRound

variable (memory barrierId timeout tgid) in
/-- In every run with signals in the waits in which woken calls leave with the
flag up and rounds are reset after `count` arrivals, no call returns zero early
and no timer is left behind.  Signals alone guarantee neither: one caller is
enough to break the barrier. -/
theorem signals_hold_back_iff [Fintype Thread] (several : 2 ≤ count.toNat) :
    (∀ trace system,
      AwakeRun count.toNat (created memory barrierId count timeout tgid) trace system →
        SignalSafe count.toNat trace system) ∧
    ((∀ trace system, WaitRun (created memory barrierId count timeout tgid) trace system →
        SignalSafe count.toNat trace system) ↔ IsEmpty Thread) := by
  refine ⟨fun trace system run => run.signalSafe, fun safe => ⟨fun thread => ?_⟩, ?_⟩
  · obtain ⟨system, run, -⟩ := exists_signalled memory barrierId timeout tgid several thread
    exact not_holdsBack_signalled thread _ several (safe _ _ run).holdsBack
  · intro empty trace system run
    have awake : AwakeRun count.toNat (created memory barrierId count timeout tgid) trace
        system := by
      refine run.strengthen fun {trace before after event} _ acquired _ => ⟨acquired, ?_⟩
      cases event with
      | exec thread => exact isEmptyElim thread
      | block | signal | expire => trivial
    exact awake.signalSafe

end Created

/-- A signal lets a lone caller return zero, and its timer stays pending with
nobody in the call. -/
theorem signalled_caller_returns_zero :
    ∃ system, WaitRun (created .zeroed 1 2 1 0 : System (Fin 2))
        (.exec 0 (.ret 0) :: signalledCaller 0 true) system ∧
      ¬ HoldsBack 2 (.exec 0 (.ret 0) :: signalledCaller (0 : Fin 2) true) ∧
      system.barrier.hrTimer.isSome ∧ ∀ thread, system.point thread = .idle := by
  refine ⟨_, run_of_replay (by simp [signalledCaller, script, Event.FailedLock,
    WaitPoint.locks]) rfl, ?_, rfl, by decide⟩
  exact not_holdsBack_signalled 0 true le_rfl

/-- A signal ends the wait of a thread that the last one to arrive has just woken, and the
round is completed. -/
def signalledRound (first last : Thread) : List (Event Thread) :=
  script first [.ret 0, .unlock 0, .testTimeoutFlag, .wakeGate, .incrementSyncNum, .clearCondFlag,
    .clearTimeoutFlag, .testAllLeft, .incrementLeft, .lockLeave] ++
  .signal first .sleep :: script last [.ret 0, .unlock 0, .incrementLeftLast, .wakeSleepers,
    .setCondFlag, .cancelTimer, .testLeft, .decrementLeft, .testFirst, .lockArrive, .gate,
    .idle] ++
  script first [.unlockSleep, .testLeft, .decrementLeft, .startTimer, .testFirst, .lockArrive,
    .gate, .idle]

theorem signals_hold_back_round :
    ∃ system, AwakeRun 2 (created .zeroed 1 2 1 0) (signalledRound (0 : Fin 2) 1) system ∧
      (∀ thread, system.point thread = .idle) ∧
      SignalSafe 2 (signalledRound (0 : Fin 2) 1) system := by
  have checked : (checkedReplay step
      (fun trace system event => ¬ event.FailedLock ∧ Awake 2 trace system event)
      (created .zeroed 1 2 1 0) (signalledRound (0 : Fin 2) 1)).map
      (fun system => decide (∀ thread, system.point thread = .idle)) = some true := by
    decide +kernel
  obtain ⟨system, reached, returned⟩ := Option.map_eq_some_iff.mp checked
  have run : AwakeRun 2 (created .zeroed 1 2 1 0) (signalledRound (0 : Fin 2) 1) system :=
    run_of_checkedReplay reached
  have several : 2 ≤ (2 : BitVec 32).toNat := by decide
  exact ⟨system, run, of_decide_eq_true returned,
    (signals_hold_back_iff .zeroed 1 1 0 several).1 _ _ run⟩

end BarrierSys

end KinuxKernel
