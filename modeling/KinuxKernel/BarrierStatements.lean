import Mathlib.Data.List.Basic
import Mathlib.Tactic.Simps.Basic

/-!
# The statements of `barrier_wait`

One barrier of `barrier_sys.c`: the fields of `struct barrier` together with the
kernel objects embedded in it, the assignments of `barrier_init`, the timer
callback, and every statement of `barrier_wait` after its lookup.  Each
statement is a partial function on the barrier; it is undefined exactly where
the calling thread has to wait.
-/

namespace KinuxKernel

namespace BarrierSys

def ETIME : Int := 62

def EBUSY : Int := 16

def EINVAL : Int := 22

/-- `struct barrier`.  A mutex is represented by its owner, the hrtimer by the
relative time it was started with while it is enqueued, and the wait queue by
the threads asleep in it. -/
structure Barrier (Thread : Type*) where
  syncNum : BitVec 32
  left : BitVec 32
  initCount : BitVec 32
  barrierId : BitVec 32
  barrierLock : Option Thread
  hrTimer : Option Int
  tgid : Int
  ktime : Int
  timeout : Int
  myQueue : List Thread
  condFlag : Int
  timeoutFlag : Bool

/-- The statements of `barrier_wait` from its first wait on; each name stands
for the statement about to be executed.  `idle` is the call itself. -/
inductive WaitPoint where
  | idle
  | gate
  | lockArrive
  | testFirst
  | startTimer
  | decrementLeft
  | testLeft
  | unlockSleep
  | sleep
  | lockLeave
  | incrementLeft
  | testAllLeft
  | clearTimeoutFlag
  | clearCondFlag
  | incrementSyncNum
  | wakeGate
  | testTimeoutFlag
  | cancelTimer
  | setCondFlag
  | wakeSleepers
  | incrementLeftLast
  | unlock (code : Int)
  | ret (code : Int)
deriving DecidableEq, Repr

namespace WaitPoint

/-- In a `barrier_wait` call. -/
def inCall (point : WaitPoint) : Bool :=
  point ≠ .idle

/-- From `mutex_lock_interruptible` to the matching `mutex_unlock`. -/
def holdsLock : WaitPoint → Bool
  | .idle | .gate | .lockArrive | .sleep | .lockLeave | .ret _ => false
  | _ => true

/-- After `left--` and before the `left++` of the same call. -/
def inside : WaitPoint → Bool
  | .testLeft | .unlockSleep | .sleep | .lockLeave | .incrementLeft
  | .cancelTimer | .setCondFlag | .wakeSleepers | .incrementLeftLast => true
  | _ => false

/-- After the gate's test and before `left--`. -/
def inWindow : WaitPoint → Bool
  | .lockArrive | .testFirst | .startTimer | .decrementLeft => true
  | _ => false

/-- After `left--` and before the end of the call. -/
def arrived : WaitPoint → Bool
  | .idle | .gate | .lockArrive | .testFirst | .startTimer | .decrementLeft => false
  | _ => true

end WaitPoint

namespace Barrier

variable {Thread : Type*}

/-- Memory whose every byte is zero. -/
def zeroed : Barrier Thread where
  syncNum := 0
  left := 0
  initCount := 0
  barrierId := 0
  barrierLock := none
  hrTimer := none
  tgid := 0
  ktime := 0
  timeout := 0
  myQueue := []
  condFlag := 0
  timeoutFlag := false

/-- The assignments of `barrier_init` to the block `memory` that `kmalloc`
returned.  `timeout_flag` is never assigned, and `ktime` only for a positive
timeout.  Fresh memory is on no timer base, initialised or not. -/
@[simps]
def initialise (memory : Barrier Thread) (barrierId count : BitVec 32)
    (timeout tgid : Int) : Barrier Thread :=
  { memory with
    barrierId := barrierId
    syncNum := 0
    initCount := count
    left := count
    tgid := tgid
    myQueue := []
    condFlag := 0
    ktime := if 0 < timeout then timeout else memory.ktime
    hrTimer := none
    timeout := timeout
    barrierLock := none }

/-- `wake_up_all(&barrier->my_queue)`. -/
@[simps]
def wakeUpAll (barrier : Barrier Thread) : Barrier Thread :=
  { barrier with myQueue := [] }

/-- `my_callback`; the expired timer is no longer enqueued. -/
@[simps]
def myCallback (barrier : Barrier Thread) : Barrier Thread :=
  { barrier.wakeUpAll with hrTimer := none, condFlag := 1, timeoutFlag := true }

variable [DecidableEq Thread]

/-- Entering the sleep of `wait_event_interruptible`. -/
@[simps]
def prepareToWait (barrier : Barrier Thread) (thread : Thread) : Barrier Thread :=
  { barrier with myQueue := barrier.myQueue.insert thread }

/-- Leaving `wait_event_interruptible`. -/
@[simps]
def finishWait (barrier : Barrier Thread) (thread : Thread) : Barrier Thread :=
  { barrier with myQueue := barrier.myQueue.erase thread }

end Barrier

variable {Thread : Type*} [DecidableEq Thread]

/-- Execute one statement of `barrier_wait`, giving the next one. -/
def execute (thread : Thread) (barrier : Barrier Thread) :
    WaitPoint → Option (Barrier Thread × WaitPoint)
  | .idle => some (barrier, .gate)
  | .gate =>
      if barrier.condFlag = 0 then some (barrier.finishWait thread, .lockArrive) else none
  | .lockArrive =>
      if barrier.barrierLock = none then
        some ({ barrier with barrierLock := some thread }, .testFirst)
      else none
  -- `timeout` never changes, so its test is read together with the first one
  | .testFirst =>
      some (barrier,
        if barrier.left = barrier.initCount ∧ 0 < barrier.timeout then .startTimer
        else .decrementLeft)
  | .startTimer => some ({ barrier with hrTimer := some barrier.ktime }, .decrementLeft)
  | .decrementLeft => some ({ barrier with left := barrier.left - 1 }, .testLeft)
  | .testLeft => some (barrier, if barrier.left ≠ 0 then .unlockSleep else .cancelTimer)
  | .unlockSleep => some ({ barrier with barrierLock := none }, .sleep)
  | .sleep =>
      if barrier.condFlag = 1 then some (barrier.finishWait thread, .lockLeave) else none
  | .lockLeave =>
      if barrier.barrierLock = none then
        some ({ barrier with barrierLock := some thread }, .incrementLeft)
      else none
  | .incrementLeft => some ({ barrier with left := barrier.left + 1 }, .testAllLeft)
  | .testAllLeft =>
      some (barrier,
        if barrier.left = barrier.initCount then .clearTimeoutFlag else .testTimeoutFlag)
  | .clearTimeoutFlag => some ({ barrier with timeoutFlag := false }, .clearCondFlag)
  | .clearCondFlag => some ({ barrier with condFlag := 0 }, .incrementSyncNum)
  | .incrementSyncNum => some ({ barrier with syncNum := barrier.syncNum + 1 }, .wakeGate)
  | .wakeGate => some (barrier.wakeUpAll, .testTimeoutFlag)
  | .testTimeoutFlag => some (barrier, .unlock (if barrier.timeoutFlag then -ETIME else 0))
  | .cancelTimer =>
      some (if 0 < barrier.timeout then { barrier with hrTimer := none } else barrier,
        .setCondFlag)
  | .setCondFlag => some ({ barrier with condFlag := 1 }, .wakeSleepers)
  | .wakeSleepers => some (barrier.wakeUpAll, .incrementLeftLast)
  | .incrementLeftLast => some ({ barrier with left := barrier.left + 1 }, .unlock 0)
  | .unlock code => some ({ barrier with barrierLock := none }, .ret code)
  | .ret _ => some (barrier, .idle)

/-- A signal ends an interruptible operation early.  The code ignores the
result of all four, so the call goes on as if the operation had succeeded. -/
def interrupt (thread : Thread) (barrier : Barrier Thread) :
    WaitPoint → Option (Barrier Thread × WaitPoint)
  | .gate => some (barrier.finishWait thread, .lockArrive)
  | .lockArrive => some (barrier, .testFirst)
  | .sleep => some (barrier.finishWait thread, .lockLeave)
  | .lockLeave => some (barrier, .incrementLeft)
  | _ => none

/-- A thread whose condition reads false goes to sleep in the wait queue. -/
def block (thread : Thread) (barrier : Barrier Thread) : WaitPoint → Option (Barrier Thread)
  | .gate => if barrier.condFlag = 0 then none else some (barrier.prepareToWait thread)
  | .sleep => if barrier.condFlag = 1 then none else some (barrier.prepareToWait thread)
  | _ => none

end BarrierSys

end KinuxKernel
