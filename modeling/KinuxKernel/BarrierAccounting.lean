import KinuxKernel.BarrierSystem

/-!
# The accounting invariant of a barrier

`left` counts the calls that are between their `left--` and their `left++`, and
`cond_flag` and the timer follow this count.  What holds while the lock is free
is `AtRest`; what the owner of the lock relies on at each of its statements is
`OwnerFacts`.  Both are stated for every count that `barrier_init` accepts.
-/

namespace KinuxKernel

namespace BarrierSys

open TraceRun ThreadPoints

section Assertions

variable {Thread : Type*}

/-- `left` is `init_count` less the number of calls inside, in 32 bits. -/
def Balanced (barrier : Barrier Thread) (inside : Nat) : Prop :=
  (barrier.left.toNat + inside) % 2 ^ 32 = barrier.initCount.toNat

/-- The number of `left--` that bring `left` to zero; a count of zero wraps
around. -/
def capacity (barrier : Barrier Thread) : Nat :=
  if barrier.initCount = 0 then 2 ^ 32 else barrier.initCount.toNat

/-- Another call may still enter without being the last one. -/
def Room (barrier : Barrier Thread) (inside : Nat) : Prop :=
  inside < capacity barrier

/-- The barrier between two critical sections.  With a count of one the flag
stays raised although nobody is inside. -/
structure AtRest (barrier : Barrier Thread) (inside : Nat) : Prop where
  room : Room barrier inside
  raised : barrier.condFlag = 1 → 1 ≤ inside ∨ barrier.initCount = 1
  armed : barrier.hrTimer.isSome → barrier.condFlag = 0 ∧ 1 ≤ inside

/-- An armed timer has not raised the flag; with a count of one the flag may
be up from an earlier call. -/
def ArmedLow (barrier : Barrier Thread) : Prop :=
  barrier.hrTimer.isSome → barrier.condFlag = 0 ∨ barrier.initCount = 1

/-- The last arriver's part: all calls of the round are inside. -/
def Full (barrier : Barrier Thread) (inside : Nat) : Prop :=
  inside = capacity barrier

/-- The flag is up and the timer is off: the round is being left. -/
def Draining (barrier : Barrier Thread) : Prop :=
  barrier.condFlag = 1 ∧ barrier.hrTimer = none

/-- What the owner of the lock relies on before each of its statements. -/
def OwnerFacts : WaitPoint → Barrier Thread → Nat → Prop
  | .testFirst, barrier, inside | .testTimeoutFlag, barrier, inside
  | .unlock _, barrier, inside => AtRest barrier inside
  | .startTimer, barrier, inside => AtRest barrier inside ∧ inside = 0 ∧ 0 < barrier.timeout
  | .decrementLeft, barrier, inside => Room barrier inside ∧ ArmedLow barrier
  | .testLeft, barrier, inside => Room barrier (inside - 1) ∧ ArmedLow barrier
  | .unlockSleep, barrier, inside => Room barrier inside ∧ ArmedLow barrier
  | .cancelTimer, barrier, inside => Full barrier inside ∧ ArmedLow barrier
  | .setCondFlag, barrier, inside => Full barrier inside ∧ barrier.hrTimer = none
  | .wakeSleepers, barrier, inside | .incrementLeftLast, barrier, inside =>
      Full barrier inside ∧ Draining barrier
  | .incrementLeft, barrier, inside => Room barrier inside ∧ Draining barrier
  | .testAllLeft, barrier, inside => Room barrier (inside + 1) ∧ Draining barrier
  | .clearTimeoutFlag, barrier, inside | .clearCondFlag, barrier, inside =>
      inside = 0 ∧ Draining barrier
  | .incrementSyncNum, barrier, inside | .wakeGate, barrier, inside =>
      inside = 0 ∧ barrier.condFlag = 0 ∧ barrier.hrTimer = none
  | .idle, _, _ | .gate, _, _ | .lockArrive, _, _ | .sleep, _, _ | .lockLeave, _, _
  | .ret _, _, _ => True

variable {barrier : Barrier Thread} {inside : Nat}

theorem Room.lt_word (room : Room barrier inside) : inside < 2 ^ 32 := by
  have bound := barrier.initCount.isLt
  unfold Room capacity at room
  split at room <;> omega

theorem Room.le (room : Room barrier inside) {fewer : Nat} (le : fewer ≤ inside) :
    Room barrier fewer :=
  lt_of_le_of_lt le room

theorem Room.count_ne_one (room : Room barrier inside) (occupied : 1 ≤ inside) :
    barrier.initCount ≠ 1 := by
  intro one
  simp only [Room, capacity, one] at room
  simp at room
  omega

theorem Room.empty (barrier : Barrier Thread) : Room barrier 0 := by
  unfold Room capacity
  split
  · decide
  · next nonzero =>
      have positive : barrier.initCount.toNat ≠ 0 := fun zero =>
        nonzero (BitVec.eq_of_toNat_eq (by simpa using zero))
      omega

theorem Full.count_le (full : Full barrier inside) : barrier.initCount.toNat ≤ inside := by
  have bound := barrier.initCount.isLt
  unfold Full capacity at full
  split at full <;> omega

/-- The barrier as the last arriver leaves it. -/
theorem Full.rest_of_succ {rest : Nat} (full : Full barrier inside)
    (counted : inside = rest + 1) (draining : Draining barrier) :
    AtRest { barrier with left := barrier.left + 1 } rest := by
  have capacity_eq : rest + 1 = capacity barrier := counted.symm.trans full
  refine ⟨?_, fun _ => ?_, fun armed => ?_⟩
  · change rest < capacity barrier
    omega
  · by_cases alone : rest = 0
    · refine .inr (BitVec.eq_of_toNat_eq ?_)
      change barrier.initCount.toNat = 1
      unfold capacity at capacity_eq
      split at capacity_eq <;> omega
    · exact .inl (by omega)
  · change barrier.hrTimer.isSome at armed
    simp [draining.2] at armed

/-- The first caller of a round sees `left == init_count`. -/
theorem Balanced.left_eq_initCount_iff (balanced : Balanced barrier inside)
    (room : Room barrier inside) : barrier.left = barrier.initCount ↔ inside = 0 := by
  have bound := room.lt_word
  have leftBound := barrier.left.isLt
  rw [← BitVec.toNat_inj]
  unfold Balanced at balanced
  omega

/-- The caller whose decrement gives zero is the last one of its round. -/
theorem Balanced.full_of_left_eq_zero (balanced : Balanced barrier inside)
    (occupied : 1 ≤ inside) (room : Room barrier (inside - 1)) (zero : barrier.left = 0) :
    Full barrier inside := by
  have bound := barrier.initCount.isLt
  have leftZero : barrier.left.toNat = 0 := by simp [zero]
  unfold Balanced at balanced
  unfold Room capacity at room
  unfold Full capacity
  split at room
  case isTrue none =>
    have countZero : barrier.initCount.toNat = 0 := by simp [none]
    rw [if_pos none]
    omega
  case isFalse nonzero =>
    rw [if_neg nonzero]
    omega

/-- A caller whose decrement leaves something has not filled the round. -/
theorem Balanced.room_of_left_ne_zero (balanced : Balanced barrier inside)
    (room : Room barrier (inside - 1)) (nonzero : barrier.left ≠ 0) : Room barrier inside := by
  have positive : barrier.left.toNat ≠ 0 := by
    intro zero
    exact nonzero (BitVec.eq_of_toNat_eq (by simpa using zero))
  have bound := barrier.initCount.isLt
  have leftBound := barrier.left.isLt
  unfold Balanced at balanced
  unfold Room capacity at room ⊢
  split at room
  case isTrue none =>
    have countZero : barrier.initCount.toNat = 0 := by simp [none]
    rw [if_pos none]
    omega
  case isFalse nonzero =>
    rw [if_neg nonzero]
    omega

theorem Balanced.decrement (balanced : Balanced barrier inside) :
    Balanced { barrier with left := barrier.left - 1 } (inside + 1) := by
  unfold Balanced at balanced ⊢
  have leftBound := barrier.left.isLt
  simp only [BitVec.toNat_sub, BitVec.ofNat_eq_ofNat]
  rw [← balanced]
  simp
  omega

theorem Balanced.increment (balanced : Balanced barrier (inside + 1)) :
    Balanced { barrier with left := barrier.left + 1 } inside := by
  unfold Balanced at balanced ⊢
  have leftBound := barrier.left.isLt
  simp only [BitVec.toNat_add, BitVec.ofNat_eq_ofNat]
  rw [← balanced]
  simp
  omega

/-- The wait queue plays no part in the accounting. -/
theorem OwnerFacts.queue {point : WaitPoint} (facts : OwnerFacts point barrier inside)
    (queue : List Thread) : OwnerFacts point { barrier with myQueue := queue } inside := by
  have resting (rest : AtRest barrier inside) :
      AtRest { barrier with myQueue := queue } inside :=
    ⟨rest.room, rest.raised, rest.armed⟩
  cases point
  case testFirst | testTimeoutFlag | unlock => exact resting facts
  case startTimer => exact ⟨resting facts.1, facts.2⟩
  all_goals exact facts

theorem AtRest.expire (rest : AtRest barrier inside) (armed : barrier.hrTimer.isSome) :
    AtRest barrier.myCallback inside :=
  ⟨rest.room, fun _ => .inl (rest.armed armed).2, fun still => by
    simp [Barrier.myCallback, Barrier.wakeUpAll] at still⟩

/-- The expiry keeps whatever the owner of the lock, at any of its statements,
relies on. -/
theorem OwnerFacts.expire {point : WaitPoint} (facts : OwnerFacts point barrier inside)
    (armed : barrier.hrTimer.isSome) : OwnerFacts point barrier.myCallback inside := by
  have low : ArmedLow barrier.myCallback := by
    intro still
    simp [Barrier.myCallback, Barrier.wakeUpAll] at still
  cases point <;> simp only [OwnerFacts] at facts ⊢
  case testFirst | testTimeoutFlag | unlock => exact facts.expire armed
  case startTimer =>
    have occupied := (facts.1.armed armed).2
    omega
  case decrementLeft | testLeft | unlockSleep => exact ⟨facts.1, low⟩
  case cancelTimer => exact ⟨facts.1, low⟩
  case setCondFlag | wakeSleepers | incrementLeftLast | incrementLeft | testAllLeft |
      clearTimeoutFlag | clearCondFlag | incrementSyncNum | wakeGate =>
    simp_all [Draining]

end Assertions

section Invariant

variable {Thread : Type*} [Fintype Thread]

/-- Number of calls that have executed `left--` and not yet `left++`. -/
def inside (system : System Thread) : Nat :=
  countAt WaitPoint.inside system.point

/-- The accounting invariant. -/
structure Accounting (system : System Thread) : Prop where
  mutex : OwnedAt WaitPoint.holdsLock system.point system.barrier.barrierLock
  balanced : Balanced system.barrier (inside system)
  flag : system.barrier.condFlag = 0 ∨ system.barrier.condFlag = 1
  timed : system.barrier.hrTimer.isSome → 0 < system.barrier.timeout
  woken : ∀ thread, system.point thread = .lockLeave → system.barrier.condFlag = 1
  free : system.barrier.barrierLock = none → AtRest system.barrier (inside system)
  owner : ∀ thread, system.barrier.barrierLock = some thread →
    OwnerFacts (system.point thread) system.barrier (inside system)

namespace Accounting

variable {system : System Thread} {thread : Thread} {point target : WaitPoint}
  {barrier : Barrier Thread}

theorem inside_pos (thread : Thread) (atPoint : (system.point thread).inside = true) :
    1 ≤ inside system :=
  countAt_pos thread atPoint

/-- A pending timer belongs to somebody's call. -/
theorem inCall_of_armed (accounting : Accounting system)
    (armed : system.barrier.hrTimer.isSome) :
    ∃ thread, (system.point thread).inCall = true := by
  cases locked : system.barrier.barrierLock with
  | none =>
      have occupied := ((accounting.free locked).armed armed).2
      by_contra nobody
      have empty : inside system = 0 := countAt_eq_zero_iff.mpr fun thread => by
        have idle : system.point thread = .idle := by
          simpa [WaitPoint.inCall] using not_exists.mp nobody thread
        rw [idle]
        rfl
      omega
  | some owner =>
      have holds := (accounting.mutex owner).mpr locked
      refine ⟨owner, ?_⟩
      revert holds
      cases system.point owner <;> simp [WaitPoint.holdsLock, WaitPoint.inCall]

theorem queue (accounting : Accounting system) (queue : List Thread) :
    Accounting ⟨{ system.barrier with myQueue := queue }, system.point⟩ :=
  { mutex := accounting.mutex
    balanced := accounting.balanced
    flag := accounting.flag
    timed := accounting.timed
    woken := accounting.woken
    free := fun unlocked =>
      let rest := accounting.free unlocked
      ⟨rest.room, rest.raised, rest.armed⟩
    owner := fun thread owns => (accounting.owner thread owns).queue queue }

theorem expire (accounting : Accounting system) (armed : system.barrier.hrTimer.isSome) :
    Accounting ⟨system.barrier.myCallback, system.point⟩ :=
  { mutex := accounting.mutex
    balanced := accounting.balanced
    flag := .inr rfl
    timed := fun still => by simp [Barrier.myCallback, Barrier.wakeUpAll] at still
    woken := fun _ _ => rfl
    free := fun unlocked =>
      (accounting.free unlocked).expire armed
    owner := fun thread owns => (accounting.owner thread owns).expire armed }

variable [DecidableEq Thread]

theorem inside_update (target : WaitPoint) (atPoint : system.point thread = point) {count : Nat}
    (counted : count + point.inside.toNat = inside system + target.inside.toNat) :
    countAt WaitPoint.inside (Function.update system.point thread target) = count := by
  have change := countAt_update WaitPoint.inside system.point thread target
  rw [atPoint] at change
  exact Nat.add_right_cancel (change.trans counted.symm)

/-- A thread that does not touch the lock moves on; only the wait queue may
change. -/
theorem bystander (accounting : Accounting system) (queue : List Thread)
    (atPoint : system.point thread = point) (outside : point.holdsLock = false)
    (stays : target.holdsLock = false) (same : target.inside = point.inside)
    (woken : target = .lockLeave → system.barrier.condFlag = 1) :
    Accounting ⟨{ system.barrier with myQueue := queue },
      Function.update system.point thread target⟩ := by
  have count := inside_update target atPoint (by rw [same])
  refine
    { mutex := accounting.mutex.move (by rw [stays, atPoint, outside])
      balanced := by
        simp only [inside, count]
        exact accounting.balanced
      flag := accounting.flag
      timed := accounting.timed
      woken := ?_
      free := ?_
      owner := ?_ }
  · intro other atLeave
    by_cases moved : other = thread
    · subst other
      exact woken (by simpa using atLeave)
    · exact accounting.woken other (by simpa [moved] using atLeave)
  · intro unlocked
    have rest := accounting.free unlocked
    simp only [inside, count]
    exact ⟨rest.room, rest.raised, rest.armed⟩
  · intro other owns
    have different : other ≠ thread := by
      rintro rfl
      rw [← atPoint, (accounting.mutex other).mpr owns] at outside
      contradiction
    have facts := (accounting.owner other owns).queue queue
    simpa only [inside, count, Function.update_of_ne different] using facts

/-- The owner of the lock executes a statement and keeps the lock. -/
theorem owner_move (accounting : Accounting system) (atPoint : system.point thread = point)
    (owns : system.barrier.barrierLock = some thread) (keeps : target.holdsLock = true)
    (lock : barrier.barrierLock = some thread) {count : Nat}
    (counted : count + point.inside.toNat = inside system + target.inside.toNat)
    (balanced : Balanced barrier count)
    (flag : barrier.condFlag = 0 ∨ barrier.condFlag = 1)
    (timed : barrier.hrTimer.isSome → 0 < barrier.timeout)
    (woken : 1 ≤ count → system.barrier.condFlag = 1 → barrier.condFlag = 1)
    (facts : OwnerFacts target barrier count) :
    Accounting ⟨barrier, Function.update system.point thread target⟩ := by
  have counts := inside_update target atPoint counted
  have holding : (system.point thread).holdsLock = true := (accounting.mutex thread).mpr owns
  refine
    { mutex := ?_
      balanced := by simpa only [inside, counts] using balanced
      flag := flag
      timed := timed
      woken := ?_
      free := fun unlocked => by simp [lock] at unlocked
      owner := ?_ }
  · have owned := accounting.mutex
    rw [owns] at owned
    change OwnedAt _ _ barrier.barrierLock
    rw [lock]
    exact owned.move (by rw [keeps, holding])
  · intro other atLeave
    have different : other ≠ thread := by
      rintro rfl
      simp only [Function.update_self] at atLeave
      simp [atLeave, WaitPoint.holdsLock] at keeps
    have before : system.point other = .lockLeave := by simpa [different] using atLeave
    refine woken ?_ (accounting.woken other before)
    rw [← counts]
    exact countAt_pos other (by simp [different, before, WaitPoint.inside])
  · intro other otherOwns
    obtain rfl : thread = other := Option.some.inj (lock.symm.trans otherOwns)
    simpa only [inside, counts, Function.update_self] using facts

theorem acquire (accounting : Accounting system) (atPoint : system.point thread = point)
    (unlocked : system.barrier.barrierLock = none) (keeps : target.holdsLock = true)
    (same : target.inside = point.inside)
    (facts : OwnerFacts target { system.barrier with barrierLock := some thread }
      (inside system)) :
    Accounting ⟨{ system.barrier with barrierLock := some thread },
      Function.update system.point thread target⟩ := by
  have count := inside_update target atPoint (by rw [same])
  have owned := accounting.mutex
  rw [unlocked] at owned
  refine
    { mutex := owned.acquire keeps
      balanced := by
        simp only [inside, count]
        exact accounting.balanced
      flag := accounting.flag
      timed := accounting.timed
      woken := ?_
      free := fun still => by simp at still
      owner := ?_ }
  · intro other atLeave
    have different : other ≠ thread := by
      rintro rfl
      simp only [Function.update_self] at atLeave
      simp [atLeave, WaitPoint.holdsLock] at keeps
    exact accounting.woken other (by simpa [different] using atLeave)
  · intro other otherOwns
    obtain rfl : thread = other := Option.some.inj otherOwns
    simpa only [inside, count, Function.update_self] using facts

theorem release (accounting : Accounting system) (atPoint : system.point thread = point)
    (owns : system.barrier.barrierLock = some thread) (leaves : target.holdsLock = false)
    (same : target.inside = point.inside) (away : target ≠ .lockLeave)
    (rest : AtRest system.barrier (inside system)) :
    Accounting ⟨{ system.barrier with barrierLock := none },
      Function.update system.point thread target⟩ := by
  have count := inside_update target atPoint (by rw [same])
  have owned := accounting.mutex
  rw [owns] at owned
  refine
    { mutex := owned.release leaves
      balanced := by
        simp only [inside, count]
        exact accounting.balanced
      flag := accounting.flag
      timed := accounting.timed
      woken := ?_
      free := ?_
      owner := fun other otherOwns => by simp at otherOwns }
  · intro other atLeave
    by_cases moved : other = thread
    · subst other
      exact (away (by simpa using atLeave)).elim
    · exact accounting.woken other (by simpa [moved] using atLeave)
  · intro _
    simp only [inside, count]
    exact ⟨rest.room, rest.raised, rest.armed⟩

/-- Every statement keeps the accounting.  One case per statement: the owner
of the lock passes on what it relies on, everybody else leaves it alone. -/
theorem exec (accounting : Accounting system)
    {point : WaitPoint} (atPoint : system.point thread = point)
    (executes : Executes thread system.barrier point barrier target) :
    Accounting ⟨barrier, Function.update system.point thread target⟩ := by
  have owner (holds : point.holdsLock = true) :
      system.barrier.barrierLock = some thread ∧
        OwnerFacts point system.barrier (inside system) := by
    have owns := (accounting.mutex thread).mp (by rw [atPoint]; exact holds)
    exact ⟨owns, atPoint ▸ accounting.owner thread owns⟩
  have occupied (isInside : point.inside = true) : 1 ≤ inside system :=
    inside_pos thread (by rw [atPoint]; exact isInside)
  cases executes with
  | idle => exact accounting.bystander _ atPoint rfl rfl rfl (by simp)
  | gate => exact accounting.bystander _ atPoint rfl rfl rfl (by simp)
  | ret => exact accounting.bystander _ atPoint rfl rfl rfl (by simp)
  | sleep raised => exact accounting.bystander _ atPoint rfl rfl rfl (fun _ => raised)
  | lockArrive unlocked =>
      have rest := accounting.free unlocked
      exact accounting.acquire atPoint unlocked rfl rfl ⟨rest.room, rest.raised, rest.armed⟩
  | lockLeave unlocked =>
      have rest := accounting.free unlocked
      have raised := accounting.woken thread atPoint
      refine accounting.acquire atPoint unlocked rfl rfl ⟨rest.room, raised, ?_⟩
      by_contra armed
      have low := (rest.armed (Option.isSome_iff_ne_none.mpr armed)).1
      omega
  | arm first timed =>
      obtain ⟨owns, rest⟩ := owner rfl
      have empty := (accounting.balanced.left_eq_initCount_iff rest.room).mp first
      exact accounting.owner_move atPoint owns rfl owns rfl accounting.balanced
        accounting.flag accounting.timed (fun _ => id) ⟨rest, empty, timed⟩
  | join =>
      obtain ⟨owns, rest⟩ := owner rfl
      exact accounting.owner_move atPoint owns rfl owns rfl accounting.balanced
        accounting.flag accounting.timed (fun _ => id)
        ⟨rest.room, fun armed => .inl (rest.armed armed).1⟩
  | startTimer =>
      obtain ⟨owns, rest, empty, timed⟩ := owner rfl
      refine accounting.owner_move atPoint owns rfl owns rfl accounting.balanced
        accounting.flag (fun _ => timed) (fun _ => id) ⟨rest.room, fun _ => ?_⟩
      rcases accounting.flag with low | raised
      · exact .inl low
      · rcases rest.raised raised with occupied | one
        · omega
        · exact .inr one
  | decrementLeft =>
      obtain ⟨owns, room, low⟩ := owner rfl
      exact accounting.owner_move atPoint owns rfl owns rfl accounting.balanced.decrement
        accounting.flag accounting.timed (fun _ => id) ⟨room, low⟩
  | early nonzero =>
      obtain ⟨owns, room, low⟩ := owner rfl
      exact accounting.owner_move atPoint owns rfl owns rfl accounting.balanced
        accounting.flag accounting.timed (fun _ => id)
        ⟨accounting.balanced.room_of_left_ne_zero room nonzero, low⟩
  | last zero =>
      obtain ⟨owns, room, low⟩ := owner rfl
      exact accounting.owner_move atPoint owns rfl owns rfl accounting.balanced
        accounting.flag accounting.timed (fun _ => id)
        ⟨accounting.balanced.full_of_left_eq_zero (occupied rfl) room zero, low⟩
  | unlockSleep =>
      obtain ⟨owns, room, low⟩ := owner rfl
      have several := room.count_ne_one (occupied rfl)
      exact accounting.release atPoint owns rfl rfl (by simp)
        ⟨room, fun _ => .inl (occupied rfl), fun armed =>
          ⟨(low armed).resolve_right several, occupied rfl⟩⟩
  | incrementLeft =>
      obtain ⟨owns, room, draining⟩ := owner rfl
      obtain ⟨rest, counted⟩ := Nat.exists_eq_add_of_le' (occupied rfl)
      have balanced := accounting.balanced
      rw [counted] at balanced
      exact accounting.owner_move atPoint owns rfl owns counted.symm balanced.increment
        accounting.flag accounting.timed (fun _ => id) ⟨counted ▸ room, draining⟩
  | allLeft full =>
      obtain ⟨owns, room, draining⟩ := owner rfl
      exact accounting.owner_move atPoint owns rfl owns rfl accounting.balanced
        accounting.flag accounting.timed (fun _ => id)
        ⟨(accounting.balanced.left_eq_initCount_iff (room.le (by omega))).mp full, draining⟩
  | someLeft notFull =>
      obtain ⟨owns, room, draining⟩ := owner rfl
      have occupied : inside system ≠ 0 := fun empty =>
        notFull ((accounting.balanced.left_eq_initCount_iff (room.le (by omega))).mpr empty)
      refine accounting.owner_move atPoint owns rfl owns rfl accounting.balanced
        accounting.flag accounting.timed (fun _ => id)
        ⟨room.le (by omega), fun _ => .inl (by omega), fun armed => ?_⟩
      simp [draining.2] at armed
  | clearTimeoutFlag =>
      obtain ⟨owns, empty, draining⟩ := owner rfl
      exact accounting.owner_move atPoint owns rfl owns rfl accounting.balanced
        accounting.flag accounting.timed (fun _ => id) ⟨empty, draining⟩
  | clearCondFlag =>
      obtain ⟨owns, empty, draining⟩ := owner rfl
      exact accounting.owner_move atPoint owns rfl owns rfl accounting.balanced
        (.inl rfl) accounting.timed (fun occupied => by omega) ⟨empty, rfl, draining.2⟩
  | incrementSyncNum =>
      obtain ⟨owns, empty, low, disarmed⟩ := owner rfl
      exact accounting.owner_move atPoint owns rfl owns rfl accounting.balanced
        accounting.flag accounting.timed (fun _ => id) ⟨empty, low, disarmed⟩
  | wakeGate =>
      obtain ⟨owns, empty, low, disarmed⟩ := owner rfl
      refine accounting.owner_move atPoint owns rfl owns rfl accounting.balanced
        accounting.flag accounting.timed (fun _ => id)
        ⟨empty ▸ Room.empty _, fun raised => ?_, fun armed => ?_⟩
      · change system.barrier.condFlag = 1 at raised
        omega
      · change system.barrier.hrTimer.isSome at armed
        simp [disarmed] at armed
  | testTimeoutFlag =>
      obtain ⟨owns, rest⟩ := owner rfl
      exact accounting.owner_move atPoint owns rfl owns rfl accounting.balanced
        accounting.flag accounting.timed (fun _ => id) rest
  | cancelTimer =>
      obtain ⟨owns, full, low⟩ := owner rfl
      exact accounting.owner_move atPoint owns rfl owns rfl accounting.balanced
        accounting.flag (fun armed => by simp at armed) (fun _ => id) ⟨full, rfl⟩
  | noTimer untimed =>
      obtain ⟨owns, full, low⟩ := owner rfl
      have disarmed : system.barrier.hrTimer = none := by
        by_contra armed
        exact untimed (accounting.timed (Option.isSome_iff_ne_none.mpr armed))
      exact accounting.owner_move atPoint owns rfl owns rfl accounting.balanced
        accounting.flag accounting.timed (fun _ => id) ⟨full, disarmed⟩
  | setCondFlag =>
      obtain ⟨owns, full, disarmed⟩ := owner rfl
      exact accounting.owner_move atPoint owns rfl owns rfl accounting.balanced
        (.inr rfl) accounting.timed (fun _ _ => rfl) ⟨full, rfl, disarmed⟩
  | wakeSleepers =>
      obtain ⟨owns, full, draining⟩ := owner rfl
      exact accounting.owner_move atPoint owns rfl owns rfl accounting.balanced
        accounting.flag accounting.timed (fun _ => id) ⟨full, draining⟩
  | incrementLeftLast =>
      obtain ⟨owns, full, draining⟩ := owner rfl
      obtain ⟨rest, counted⟩ := Nat.exists_eq_add_of_le' (occupied rfl)
      have balanced := accounting.balanced
      rw [counted] at balanced
      refine accounting.owner_move atPoint owns rfl owns counted.symm balanced.increment
        accounting.flag accounting.timed (fun _ => id)
        (full.rest_of_succ counted draining)
  | unlock =>
      obtain ⟨owns, rest⟩ := owner rfl
      exact accounting.release atPoint owns rfl rfl (by simp) rest

end Accounting

theorem Accounting.step [DecidableEq Thread] {system after : System Thread} {event : Event Thread}
    (accounting : Accounting system)
    (quiet : event.Quiet) (stepTo : BarrierSys.step system event = some after) :
    Accounting after := by
  rcases quiet_cases quiet stepTo with
    ⟨thread, point, barrier, target, -, atPoint, executes, rfl⟩ |
    ⟨thread, -, rfl⟩ | ⟨-, armed, rfl⟩
  · exact accounting.exec atPoint executes
  · exact accounting.queue _
  · exact accounting.expire armed

section Runs

variable (memory : Barrier Thread) (barrierId count : BitVec 32) (timeout tgid : Int)

theorem Accounting.created :
    Accounting (created memory barrierId count timeout tgid) := by
  have empty : inside (BarrierSys.created memory barrierId count timeout tgid) = 0 :=
    countAt_eq_zero_iff.mpr fun _ => rfl
  refine
    { mutex := fun thread => by
        simp [BarrierSys.created, Barrier.initialise, WaitPoint.holdsLock]
      balanced := ?_
      flag := .inl rfl
      timed := fun armed => by
        simp [BarrierSys.created, Barrier.initialise] at armed
      woken := fun thread atLeave => by simp [BarrierSys.created] at atLeave
      free := fun _ => ?_
      owner := fun thread owns => by
        simp [BarrierSys.created, Barrier.initialise] at owns }
  · rw [empty]
    exact Nat.mod_eq_of_lt count.isLt
  · rw [empty]
    refine ⟨Room.empty _, fun raised => ?_, fun armed => ?_⟩
    · simp [BarrierSys.created, Barrier.initialise] at raised
    · simp [BarrierSys.created, Barrier.initialise] at armed

variable [DecidableEq Thread] {memory barrierId count timeout tgid}
  {trace : List (Event Thread)} {system : System Thread}

theorem QuietRun.accounting
    (run : QuietRun (BarrierSys.created memory barrierId count timeout tgid) trace system) :
    Accounting system := by
  induction run with
  | start => exact Accounting.created memory barrierId count timeout tgid
  | next _ quiet stepTo accounting =>
      exact accounting.step quiet stepTo

end Runs

end Invariant

end BarrierSys

end KinuxKernel
