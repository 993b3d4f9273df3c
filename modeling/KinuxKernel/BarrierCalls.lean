import KinuxKernel.BarrierAccounting
import KinuxKernel.BarrierRegistry

/-!
# Concurrent calls of `barrier_wait` and `barrier_destroy`

All interleavings of whole `barrier_wait` and `barrier_destroy` calls on the
list of barriers, from `mutex_lock` and the lookup to the return, together with
the timers.  What happens to one barrier as long as it is allocated is a run of
that barrier alone, so its accounting holds here as well.
-/

namespace KinuxKernel

namespace BarrierSys

open TraceRun ThreadPoints

/-- The two calls that look up a barrier. -/
inductive Syscall where
  | wait
  | destroy
deriving DecidableEq

/-- The statement a thread executes next.  The list head is the `loop` that is
`none`. -/
inductive CallPoint (Address : Type*) where
  | idle
  | lock (call : Syscall) (barrierId : BitVec 32)
  | next (call : Syscall) (barrierId : BitVec 32) (loop : Option Address)
  | test (call : Syscall) (barrierId : BitVec 32) (loop : Option Address)
  | unlockWait (barrier : Address)
  | waiting (barrier : Address) (point : WaitPoint)
  | testBusy (barrier : Address)
  | listDel (barrier : Address)
  | free (barrier : Address)
  | unlock (call : Syscall) (code : Int)
  | ret (code : Int)
deriving DecidableEq

/-- What the calls share: the list with its barriers and the two mutexes. -/
structure Kernel (Address Thread : Type*) where
  registry : Registry Address Thread
  waitLock : Option Thread
  initDestLock : Option Thread

structure CallSystem (Address Thread : Type*) where
  kernel : Kernel Address Thread
  point : Thread → CallPoint Address

inductive CallEvent (Address Thread : Type*) where
  | enter (thread : Thread) (call : Syscall) (barrierId : BitVec 32)
  | exec (thread : Thread) (point : CallPoint Address)
  | block (thread : Thread)
  | expire (barrier : Address)

variable {Address Thread : Type*}

/-- The mutex that protects the lookup of a call. -/
def Kernel.mutex (kernel : Kernel Address Thread) : Syscall → Option Thread
  | .wait => kernel.waitLock
  | .destroy => kernel.initDestLock

def Kernel.setMutex (kernel : Kernel Address Thread) (owner : Option Thread) :
    Syscall → Kernel Address Thread
  | .wait => { kernel with waitLock := owner }
  | .destroy => { kernel with initDestLock := owner }

/-- Where a thread goes on after a statement of `barrier_wait` on a barrier it
has found. -/
def resume (barrier : Address) : WaitPoint → CallPoint Address
  | .idle => .idle
  | point => .waiting barrier point

/-- No thread is in a call, and the mutexes are free. -/
def CallSystem.started (registry : Registry Address Thread) : CallSystem Address Thread :=
  ⟨⟨registry, none, none⟩, fun _ => .idle⟩

/-- The statement of `barrier_wait` on `barrier` that a thread executes next. -/
def CallPoint.on [DecidableEq Address] (barrier : Address) : CallPoint Address → WaitPoint
  | .waiting other point => if other = barrier then point else .idle
  | _ => .idle

namespace Registry

variable [DecidableEq Address] (registry : Registry Address Thread)

/-- `loop->next`; undefined for a node that is not in the list. -/
def listNext : Option Address → Option (Option Address)
  | none => registry.barrierList.map List.head?
  | some node => registry.barrierList.bind fun list =>
      if node ∈ list then some (list.dropWhile (· ≠ node)).tail.head? else none

def listDel (address : Address) : Registry Address Thread :=
  { registry with
    barrierList := registry.barrierList.map (·.erase address)
    distinct := by exact (registry.removeBarrier address).distinct
    allocated := by
      intro other listed
      have nodes : (registry.removeBarrier address).nodes = registry.nodes.erase address :=
        remove_nodes
      have member : other ∈ registry.nodes.erase address := nodes ▸ listed
      exact registry.allocated other (List.mem_of_mem_erase member) }

@[simp]
theorem listDel_nodes (address : Address) :
    (registry.listDel address).nodes = registry.nodes.erase address :=
  remove_nodes

theorem not_mem_listDel (address : Address) : address ∉ (registry.listDel address).nodes := by
  rw [listDel_nodes]
  exact fun still => (registry.distinct.mem_erase_iff.mp still).1 rfl

/-- `kfree` of a block that `list_del` has taken off the list. -/
def kfree (address : Address) (unlisted : address ∉ registry.nodes) : Registry Address Thread :=
  { registry with
    memory := Function.update registry.memory address none
    allocated := by
      intro other listed
      have different : other ≠ address := by
        rintro rfl
        exact unlisted listed
      simpa [different] using registry.allocated other listed }

end Registry

variable [DecidableEq Address] [DecidableEq Thread]

/-- Execute one statement of a call, giving the next one. -/
def executeCall (tgid : Int) (thread : Thread) (kernel : Kernel Address Thread) :
    CallPoint Address → Option (Kernel Address Thread × CallPoint Address)
  | .idle => none
  | .lock call barrierId =>
      if kernel.mutex call = none then
        some (kernel.setMutex (some thread) call, .next call barrierId none)
      else none
  | .next call barrierId loop =>
      (kernel.registry.listNext loop).map fun following => (kernel, .test call barrierId following)
  | .test call _ none => some (kernel, .unlock call (-EINVAL))
  | .test call barrierId (some node) =>
      (kernel.registry.handle node).map fun handle =>
        (kernel,
          if handle = (tgid, barrierId) then
            match call with
            | .wait => .unlockWait node
            | .destroy => .testBusy node
          else .next call barrierId (some node))
  | .unlockWait node => some (kernel.setMutex none .wait, .waiting node .gate)
  | .waiting node point =>
      (kernel.registry.memory node).bind fun barrier =>
        (execute thread barrier point).map fun result =>
          ({ kernel with registry := kernel.registry.writeBarrier node result.1 },
            resume node result.2)
  | .testBusy node =>
      (kernel.registry.memory node).map fun barrier =>
        (kernel, if barrier.myQueue ≠ [] then .unlock .destroy (-EBUSY) else .listDel node)
  | .listDel node =>
      if node ∈ kernel.registry.nodes then
        some ({ kernel with registry := kernel.registry.listDel node }, .free node)
      else none
  | .free node =>
      if unlisted : node ∉ kernel.registry.nodes then
        some ({ kernel with registry := kernel.registry.kfree node unlisted },
          .unlock .destroy 0)
      else none
  | .unlock call code => some (kernel.setMutex none call, .ret code)
  | .ret _ => some (kernel, .idle)

/-- One event; undefined where it cannot happen or touches a freed barrier. -/
def callStep (tgid : Thread → Int) (system : CallSystem Address Thread) :
    CallEvent Address Thread → Option (CallSystem Address Thread)
  | .enter thread call barrierId =>
      if system.point thread = .idle then
        some { system with
          point := Function.update system.point thread (.lock call barrierId) }
      else none
  | .exec thread point =>
      if system.point thread = point then
        (executeCall (tgid thread) thread system.kernel point).map fun result =>
          ⟨result.1, Function.update system.point thread result.2⟩
      else none
  | .block thread =>
      match system.point thread with
      | .waiting node point =>
          (system.kernel.registry.memory node).bind fun barrier =>
            (block thread barrier point).map fun after =>
              { system with
                kernel := { system.kernel with
                  registry := system.kernel.registry.writeBarrier node after } }
      | _ => none
  | .expire node =>
      (system.kernel.registry.memory node).bind fun barrier =>
        if barrier.hrTimer.isSome then
          some { system with
            kernel := { system.kernel with
              registry := system.kernel.registry.writeBarrier node barrier.myCallback } }
        else none

/-- Runs of calls by threads of the processes `tgid`. -/
abbrev CallsRun (tgid : Thread → Int) (start : CallSystem Address Thread) :
    List (CallEvent Address Thread) → CallSystem Address Thread → Prop :=
  Run (callStep tgid) (each fun _ => True) start

/-- What a statement of a call can do. -/
inductive CallEffect (tgid : Int) (thread : Thread) (kernel : Kernel Address Thread) :
    CallPoint Address → Kernel Address Thread → CallPoint Address → Prop
  | lock (call : Syscall) (barrierId : BitVec 32) : kernel.mutex call = none →
      CallEffect tgid thread kernel (.lock call barrierId)
        (kernel.setMutex (some thread) call) (.next call barrierId none)
  | next (call : Syscall) (barrierId : BitVec 32) (loop following : Option Address) :
      kernel.registry.listNext loop = some following →
      CallEffect tgid thread kernel (.next call barrierId loop) kernel
        (.test call barrierId following)
  | miss (call : Syscall) (barrierId : BitVec 32) :
      CallEffect tgid thread kernel (.test call barrierId none) kernel (.unlock call (-EINVAL))
  | pass (call : Syscall) (barrierId : BitVec 32) (node : Address) :
      kernel.registry.handle node ≠ some (tgid, barrierId) →
      CallEffect tgid thread kernel (.test call barrierId (some node)) kernel
        (.next call barrierId (some node))
  | foundWait (barrierId : BitVec 32) (node : Address) :
      kernel.registry.handle node = some (tgid, barrierId) →
      CallEffect tgid thread kernel (.test .wait barrierId (some node)) kernel (.unlockWait node)
  | foundDestroy (barrierId : BitVec 32) (node : Address) :
      kernel.registry.handle node = some (tgid, barrierId) →
      CallEffect tgid thread kernel (.test .destroy barrierId (some node)) kernel
        (.testBusy node)
  | unlockWait (node : Address) :
      CallEffect tgid thread kernel (.unlockWait node) (kernel.setMutex none .wait)
        (.waiting node .gate)
  | waiting (node : Address) (barrier after : Barrier Thread) (point target : WaitPoint) :
      kernel.registry.memory node = some barrier → Executes thread barrier point after target →
      execute thread barrier point = some (after, target) →
      CallEffect tgid thread kernel (.waiting node point)
        { kernel with registry := kernel.registry.writeBarrier node after } (resume node target)
  | busy (node : Address) (barrier : Barrier Thread) :
      kernel.registry.memory node = some barrier → barrier.myQueue ≠ [] →
      CallEffect tgid thread kernel (.testBusy node) kernel (.unlock .destroy (-EBUSY))
  | quiet (node : Address) (barrier : Barrier Thread) :
      kernel.registry.memory node = some barrier → barrier.myQueue = [] →
      CallEffect tgid thread kernel (.testBusy node) kernel (.listDel node)
  | listDel (node : Address) : node ∈ kernel.registry.nodes →
      CallEffect tgid thread kernel (.listDel node)
        { kernel with registry := kernel.registry.listDel node } (.free node)
  | free (node : Address) (unlisted : node ∉ kernel.registry.nodes) :
      CallEffect tgid thread kernel (.free node)
        { kernel with registry := kernel.registry.kfree node unlisted } (.unlock .destroy 0)
  | unlock (call : Syscall) (code : Int) :
      CallEffect tgid thread kernel (.unlock call code) (kernel.setMutex none call) (.ret code)
  | ret (code : Int) : CallEffect tgid thread kernel (.ret code) kernel .idle

section Steps

variable {tgid : Int} {thread : Thread} {kernel after : Kernel Address Thread}
  {point target : CallPoint Address}

theorem callEffect_of_execute
    (executed : executeCall tgid thread kernel point = some (after, target)) :
    CallEffect tgid thread kernel point after target := by
  cases point with
  | idle => simp [executeCall] at executed
  | lock call barrierId =>
      obtain ⟨unlocked, same⟩ := Option.ite_none_right_eq_some.mp executed
      obtain ⟨rfl, rfl⟩ := Prod.mk.inj (Option.some.inj same)
      exact .lock call barrierId unlocked
  | next call barrierId loop =>
      obtain ⟨following, walked, same⟩ := Option.map_eq_some_iff.mp executed
      obtain ⟨rfl, rfl⟩ := Prod.mk.inj same
      exact .next call barrierId loop following walked
  | test call barrierId loop =>
      cases loop with
      | none =>
          obtain ⟨rfl, rfl⟩ := Prod.mk.inj (Option.some.inj executed)
          exact .miss call barrierId
      | some node =>
          obtain ⟨handle, allocated, same⟩ := Option.map_eq_some_iff.mp executed
          obtain ⟨rfl, rfl⟩ := Prod.mk.inj same
          by_cases wanted : handle = (tgid, barrierId)
          · subst wanted
            rw [if_pos rfl]
            cases call with
            | wait => exact .foundWait barrierId node allocated
            | destroy => exact .foundDestroy barrierId node allocated
          · rw [if_neg wanted]
            exact .pass call barrierId node (by simpa [allocated] using wanted)
  | unlockWait node =>
      obtain ⟨rfl, rfl⟩ := Prod.mk.inj (Option.some.inj executed)
      exact .unlockWait node
  | waiting node point =>
      obtain ⟨barrier, allocated, executed⟩ := Option.bind_eq_some_iff.mp executed
      obtain ⟨⟨result, next⟩, statement, same⟩ := Option.map_eq_some_iff.mp executed
      obtain ⟨rfl, rfl⟩ := Prod.mk.inj same
      exact .waiting node barrier result point next allocated (executes_of_execute statement)
        statement
  | testBusy node =>
      obtain ⟨barrier, allocated, same⟩ := Option.map_eq_some_iff.mp executed
      obtain ⟨rfl, rfl⟩ := Prod.mk.inj same
      by_cases asleep : barrier.myQueue = []
      · rw [if_neg (not_not.mpr asleep)]
        exact .quiet node barrier allocated asleep
      · rw [if_pos asleep]
        exact .busy node barrier allocated asleep
  | listDel node =>
      obtain ⟨listed, same⟩ := Option.ite_none_right_eq_some.mp executed
      obtain ⟨rfl, rfl⟩ := Prod.mk.inj (Option.some.inj same)
      exact .listDel node listed
  | free node =>
      simp only [executeCall, Option.dite_none_right_eq_some] at executed
      obtain ⟨unlisted, same⟩ := executed
      obtain ⟨rfl, rfl⟩ := Prod.mk.inj (Option.some.inj same)
      exact .free node unlisted
  | unlock call code =>
      obtain ⟨rfl, rfl⟩ := Prod.mk.inj (Option.some.inj executed)
      exact .unlock call code
  | ret code =>
      obtain ⟨rfl, rfl⟩ := Prod.mk.inj (Option.some.inj executed)
      exact .ret code

end Steps

section Systems

variable {tgid : Thread → Int} {system after : CallSystem Address Thread}
  {event : CallEvent Address Thread}

/-- Every event enters a call, executes a statement of one, or changes one
barrier as an event of that barrier. -/
theorem callStep_cases (stepTo : callStep tgid system event = some after) :
    (∃ thread call barrierId, event = .enter thread call barrierId ∧
      system.point thread = .idle ∧
      after = ⟨system.kernel,
        Function.update system.point thread (.lock call barrierId)⟩) ∨
    (∃ thread point kernel target, event = .exec thread point ∧ system.point thread = point ∧
      CallEffect (tgid thread) thread system.kernel point kernel target ∧
      after = ⟨kernel, Function.update system.point thread target⟩) ∨
    (∃ node barrier changed, system.kernel.registry.memory node = some barrier ∧
      (∃ event : Event Thread, event.Quiet ∧
        BarrierSys.step ⟨barrier, fun thread => (system.point thread).on node⟩ event =
          some ⟨changed, fun thread => (system.point thread).on node⟩) ∧
      after = ⟨{ system.kernel with
        registry := system.kernel.registry.writeBarrier node changed }, system.point⟩ ∧
      ((∃ thread, event = .block thread) ∨ event = .expire node)) := by
  cases event with
  | enter thread call barrierId =>
      obtain ⟨idle, same⟩ := Option.ite_none_right_eq_some.mp stepTo
      exact .inl ⟨thread, call, barrierId, rfl, idle, (Option.some.inj same).symm⟩
  | exec thread point =>
      obtain ⟨atPoint, mapped⟩ := Option.ite_none_right_eq_some.mp stepTo
      obtain ⟨⟨kernel, target⟩, executed, rfl⟩ := Option.map_eq_some_iff.mp mapped
      exact .inr (.inl ⟨thread, point, kernel, target, rfl, atPoint,
        callEffect_of_execute executed, rfl⟩)
  | block thread =>
      simp only [callStep] at stepTo
      split at stepTo
      · next node point atPoint =>
          obtain ⟨barrier, allocated, mapped⟩ := Option.bind_eq_some_iff.mp stepTo
          obtain ⟨changed, blocked, rfl⟩ := Option.map_eq_some_iff.mp mapped
          refine .inr (.inr ⟨node, barrier, changed, allocated, ⟨.block thread, trivial, ?_⟩, rfl,
            .inl ⟨thread, rfl⟩⟩)
          simp [BarrierSys.step, atPoint, CallPoint.on, blocked]
      · simp at stepTo
  | expire node =>
      obtain ⟨barrier, allocated, expired⟩ := Option.bind_eq_some_iff.mp stepTo
      obtain ⟨armed, same⟩ := Option.ite_none_right_eq_some.mp expired
      obtain rfl := Option.some.inj same
      refine .inr (.inr ⟨node, barrier, barrier.myCallback, allocated,
        ⟨.expire, trivial, ?_⟩, rfl, .inr rfl⟩)
      simp [BarrierSys.step, armed]

omit [DecidableEq Thread] in
theorem on_resume (node other : Address) (point : WaitPoint) :
    (resume node point).on other = if node = other then point else .idle := by
  cases point <;> simp [resume, CallPoint.on]

omit [DecidableEq Address] [DecidableEq Thread] in
@[simp]
theorem setMutex_registry (kernel : Kernel Address Thread) (owner : Option Thread)
    (call : Syscall) : (kernel.setMutex owner call).registry = kernel.registry := by
  cases call <;> rfl

/-- The barrier at an address with the statements that the threads execute on
it. -/
def CallSystem.view (system : CallSystem Address Thread) (node : Address)
    (barrier : Barrier Thread) : System Thread :=
  ⟨barrier, fun thread => (system.point thread).on node⟩

theorem view_update (point : Thread → CallPoint Address) (thread : Thread)
    (target : CallPoint Address) (kernel : Kernel Address Thread) (node : Address)
    (barrier : Barrier Thread) :
    CallSystem.view ⟨kernel, Function.update point thread target⟩ node barrier =
      ⟨barrier, Function.update (fun other => (point other).on node) thread (target.on node)⟩ := by
  unfold CallSystem.view
  congr 1
  funext other
  by_cases same : other = thread
  · subst same
    simp
  · simp [same]

/-- A thread moves on without a statement on the barrier. -/
theorem view_update_same {thread : Thread} {point target : CallPoint Address}
    (atPoint : system.point thread = point) (kernel : Kernel Address Thread) (node : Address)
    (barrier : Barrier Thread) (same : target.on node = point.on node) :
    CallSystem.view ⟨kernel, Function.update system.point thread target⟩ node barrier =
      system.view node barrier := by
  have unchanged : Function.update (fun other => (system.point other).on node) thread
      (target.on node) = fun other => (system.point other).on node := by
    apply Function.update_eq_self_iff.mpr
    rw [same, atPoint]
  rw [view_update, unchanged]
  rfl

/-- A barrier that stays allocated is left alone by a step, or makes a step of
its own. -/
theorem view_step (stepTo : callStep tgid system event = some after) {node : Address}
    {changed : Barrier Thread} (allocated : after.kernel.registry.memory node = some changed) :
    ∃ barrier, system.kernel.registry.memory node = some barrier ∧
      (after.view node changed = system.view node barrier ∨
        ∃ event : Event Thread, event.Quiet ∧
          BarrierSys.step (system.view node barrier) event = some (after.view node changed)) := by
  rcases callStep_cases stepTo with
    ⟨thread, call, barrierId, -, idle, rfl⟩ |
    ⟨thread, point, kernel, target, -, atPoint, effect, rfl⟩ |
    ⟨other, barrier, result, before, ⟨event, quiet, ownStep⟩, rfl, -⟩
  · exact ⟨changed, allocated, .inl (view_update_same idle _ _ _ rfl)⟩
  · cases effect with
    | lock | unlock =>
        rw [setMutex_registry] at allocated
        exact ⟨changed, allocated, .inl (view_update_same atPoint _ _ _ rfl)⟩
    | next | miss | pass | foundWait | foundDestroy | busy | quiet | ret | listDel =>
        exact ⟨changed, allocated, .inl (view_update_same atPoint _ _ _ rfl)⟩
    | unlockWait found =>
        rw [setMutex_registry] at allocated
        refine ⟨changed, allocated, ?_⟩
        by_cases same : found = node
        · subst same
          refine .inr ⟨.exec thread .idle, trivial, ?_⟩
          rw [view_update]
          have idle : (system.view found changed).point thread = .idle := by
            simp [CallSystem.view, atPoint, CallPoint.on]
          rw [step_exec idle rfl]
          simp [CallSystem.view, CallPoint.on]
        · exact .inl (view_update_same atPoint _ _ _ (by simp [CallPoint.on, same]))
    | waiting found barrier result point next before executes executed =>
        by_cases same : found = node
        · subst same
          obtain rfl : result = changed := by
            simpa [Registry.writeBarrier] using allocated
          refine ⟨barrier, before, .inr ⟨.exec thread point, trivial, ?_⟩⟩
          have standing : (system.view found barrier).point thread = point := by
            simp [CallSystem.view, atPoint, CallPoint.on]
          rw [view_update, step_exec standing executed, on_resume, if_pos rfl]
          rfl
        · have before : system.kernel.registry.memory node = some changed := by
            simpa [Registry.writeBarrier, Ne.symm same] using allocated
          refine ⟨changed, before, .inl (view_update_same atPoint _ _ _ ?_)⟩
          rw [on_resume, if_neg same]
          exact (if_neg same).symm
    | free removed unlisted =>
        have different : node ≠ removed := by
          rintro rfl
          simp [Registry.kfree] at allocated
        have before : system.kernel.registry.memory node = some changed := by
          simpa [Registry.kfree, different] using allocated
        exact ⟨changed, before, .inl (view_update_same atPoint _ _ _ rfl)⟩
  · by_cases same : other = node
    · subst same
      obtain rfl : result = changed := by
        simpa [Registry.writeBarrier] using allocated
      exact ⟨barrier, before, .inr ⟨event, quiet, ownStep⟩⟩
    · have before : system.kernel.registry.memory node = some changed := by
        simpa [Registry.writeBarrier, Ne.symm same] using allocated
      exact ⟨changed, before, .inl rfl⟩

/-- All allocated barriers are in the list and as `barrier_init` leaves them. -/
def Registry.Fresh (registry : Registry Address Thread) : Prop :=
  ∀ node barrier, registry.memory node = some barrier → node ∈ registry.nodes ∧
    ∃ memory barrierId count timeout tgid,
      barrier = Barrier.initialise memory barrierId count timeout tgid

/-- What happens to a barrier while it is allocated is a run of its own. -/
theorem CallsRun.view {registry : Registry Address Thread} (fresh : registry.Fresh)
    {trace : List (CallEvent Address Thread)}
    (run : CallsRun tgid (CallSystem.started registry) trace system) {node : Address}
    {barrier : Barrier Thread} (allocated : system.kernel.registry.memory node = some barrier) :
    ∃ memory barrierId count timeout tgid own,
      QuietRun (created memory barrierId count timeout tgid) own (system.view node barrier) := by
  induction run generalizing barrier with
  | start =>
      obtain ⟨-, memory, barrierId, count, timeout, tgid, rfl⟩ := fresh node barrier allocated
      exact ⟨memory, barrierId, count, timeout, tgid, [], .start⟩
  | next earlier _ stepTo ih =>
      obtain ⟨before, allocatedBefore, same | ⟨event, quiet, ownStep⟩⟩ :=
        view_step stepTo allocated
      · rw [same]
        exact ih allocatedBefore
      · obtain ⟨memory, barrierId, count, timeout, tgid, own, ownRun⟩ := ih allocatedBefore
        exact ⟨memory, barrierId, count, timeout, tgid, event :: own, ownRun.extend event quiet
          ownStep⟩

/-- A timer is pending only while a thread is between the gate and its return. -/
theorem CallsRun.timer [Fintype Thread] {registry : Registry Address Thread}
    (fresh : registry.Fresh) {trace : List (CallEvent Address Thread)}
    (run : CallsRun tgid (CallSystem.started registry) trace system) {node : Address}
    {barrier : Barrier Thread} (allocated : system.kernel.registry.memory node = some barrier)
    (armed : barrier.hrTimer.isSome) :
    ∃ thread point, system.point thread = .waiting node point := by
  obtain ⟨memory, barrierId, count, timeout, process, own, ownRun⟩ :=
    CallsRun.view fresh run allocated
  obtain ⟨thread, busy⟩ := (QuietRun.accounting ownRun).inCall_of_armed armed
  refine ⟨thread, (system.point thread).on node, ?_⟩
  have busy : ((system.point thread).on node).inCall = true := busy
  revert busy
  cases system.point thread with
  | waiting other point =>
      by_cases same : other = node <;> simp [CallPoint.on, same, WaitPoint.inCall]
  | _ => simp [CallPoint.on, WaitPoint.inCall]

theorem CallsRun.exec {start : CallSystem Address Thread}
    {trace : List (CallEvent Address Thread)} (run : CallsRun tgid start trace system)
    {thread : Thread} {point target : CallPoint Address} {kernel : Kernel Address Thread}
    (atPoint : system.point thread = point)
    (executed : executeCall (tgid thread) thread system.kernel point = some (kernel, target)) :
    CallsRun tgid start (.exec thread point :: trace)
      ⟨kernel, Function.update system.point thread target⟩ :=
  Run.next run trivial (by simp [callStep, atPoint, executed])

theorem CallsRun.onward {start : CallSystem Address Thread}
    {trace : List (CallEvent Address Thread)} {kernel after : Kernel Address Thread}
    {others : Thread → CallPoint Address} {thread : Thread} {point target : CallPoint Address}
    (run : CallsRun tgid start trace ⟨kernel, Function.update others thread point⟩)
    (executed : executeCall (tgid thread) thread kernel point = some (after, target)) :
    CallsRun tgid start (.exec thread point :: trace)
      ⟨after, Function.update others thread target⟩ := by
  have next := run.exec (Function.update_self ..) executed
  rwa [Function.update_idem] at next

omit [DecidableEq Thread] in
theorem Registry.listNext_append {registry : Registry Address Thread} {passed rest : List Address}
    (listed : registry.barrierList = some (passed ++ rest)) :
    registry.listNext passed.getLast? = some rest.head? := by
  have distinct := registry.distinct
  rw [listed, Option.getD_some] at distinct
  rcases List.eq_nil_or_concat passed with rfl | ⟨before, last, rfl⟩
  · simp [Registry.listNext, listed]
  · simp only [List.concat_eq_append, List.append_assoc, List.singleton_append] at listed distinct ⊢
    have skipped : ∀ other ∈ before, decide (other ≠ last) = true := by
      intro other member
      have apart := List.disjoint_of_nodup_append distinct member
      exact decide_eq_true fun same => apart (by simp [same])
    have dropped : (before ++ last :: rest).dropWhile (· ≠ last) = last :: rest := by
      rw [List.dropWhile_append_of_pos skipped]
      simp
    simp only [Registry.listNext, List.getLast?_concat, listed, Option.bind_some]
    rw [if_pos (by simp), dropped]
    rfl

/-- A lookup that nobody disturbs comes to the first barrier with the wanted
process and id, or to the end of the list. -/
theorem CallsRun.lookup {start : CallSystem Address Thread} {thread : Thread} {call : Syscall}
    {barrierId : BitVec 32} {found : Option Address} {passed rest : List Address}
    (listed : system.kernel.registry.barrierList = some (passed ++ rest))
    (first : rest.find? (fun address =>
      system.kernel.registry.handle address = some (tgid thread, barrierId)) = found)
    (atPoint : system.point thread = .next call barrierId passed.getLast?)
    {trace : List (CallEvent Address Thread)} (run : CallsRun tgid start trace system) :
    ∃ trace, CallsRun tgid start trace
      ⟨system.kernel, Function.update system.point thread (.test call barrierId found)⟩ := by
  induction rest generalizing system passed trace with
  | nil =>
      obtain rfl : none = found := first
      exact ⟨_, run.exec atPoint (by simp [executeCall, Registry.listNext_append listed])⟩
  | cons node rest ih =>
      have stepped : CallsRun tgid start _ ⟨system.kernel,
          Function.update system.point thread (.test call barrierId (some node))⟩ :=
        run.exec atPoint (by simp [executeCall, Registry.listNext_append listed])
      by_cases wanted : system.kernel.registry.handle node = some (tgid thread, barrierId)
      · obtain rfl : some node = found := by simpa [wanted] using first
        exact ⟨_, stepped⟩
      · obtain ⟨handle, allocated⟩ : ∃ handle, system.kernel.registry.handle node = some handle :=
          Registry.handle_of_node (by simp [Registry.nodes, listed])
        have other : handle ≠ (tgid thread, barrierId) := by
          rintro rfl
          exact wanted allocated
        have passedOn : CallsRun tgid start _ ⟨system.kernel,
            Function.update system.point thread (.next call barrierId (some node))⟩ :=
          stepped.onward (by simp [executeCall, allocated, other])
        obtain ⟨whole, reached⟩ := @ih _ (passed ++ [node]) (by simpa using listed)
          (by simpa [wanted] using first) (by simp) _ passedOn
        rw [Function.update_idem] at reached
        exact ⟨whole, reached⟩

/-- A thread calls and looks a barrier up while nobody disturbs it. -/
theorem CallsRun.find {start : CallSystem Address Thread}
    {trace : List (CallEvent Address Thread)} (run : CallsRun tgid start trace system)
    (thread : Thread) (idle : system.point thread = .idle) (call : Syscall)
    (free : system.kernel.mutex call = none) {barrierId : BitVec 32} {found : Option Address}
    (looked : system.kernel.registry.findBarrier (tgid thread) barrierId = some found) :
    ∃ trace, CallsRun tgid start trace
      ⟨system.kernel.setMutex (some thread) call,
        Function.update system.point thread (.test call barrierId found)⟩ := by
  obtain ⟨list, listed, first⟩ := Option.map_eq_some_iff.mp looked
  have entered : CallsRun tgid start (.enter thread call barrierId :: trace)
      ⟨system.kernel, Function.update system.point thread (.lock call barrierId)⟩ :=
    Run.next run trivial (by simp [callStep, idle])
  have locked : CallsRun tgid start _ ⟨system.kernel.setMutex (some thread) call,
      Function.update system.point thread (.next call barrierId none)⟩ :=
    entered.onward (by simp [executeCall, free])
  obtain ⟨whole, reached⟩ := @CallsRun.lookup _ _ _ _ _ _ _ _ call barrierId found [] list
    (by simpa using listed) (by simpa using first) (Function.update_self ..) _ locked
  rw [Function.update_idem] at reached
  exact ⟨whole, reached⟩

/-- A call of `barrier_destroy` that nobody disturbs does what `barrierDestroy`
says. -/
theorem CallsRun.barrierDestroy {start : CallSystem Address Thread}
    {trace : List (CallEvent Address Thread)} (run : CallsRun tgid start trace system)
    (thread : Thread) (idle : system.point thread = .idle)
    (free : system.kernel.initDestLock = none) {barrierId : BitVec 32}
    {registry : Registry Address Thread} {code : Int}
    (served : system.kernel.registry.barrierDestroy barrierId (tgid thread) =
      some (registry, code)) :
    ∃ trace, CallsRun tgid start trace ⟨{ system.kernel with registry := registry },
      Function.update system.point thread (.ret code)⟩ := by
  obtain ⟨found, looked, served⟩ := Option.bind_eq_some_iff.mp served
  obtain ⟨_, reached⟩ := run.find thread idle .destroy free looked
  -- the state of the kernel inside the critical section
  let held (registry : Registry Address Thread) : Kernel Address Thread :=
    { system.kernel with registry := registry, initDestLock := some thread }
  have unlocked : ∀ {registry trace}, CallsRun tgid start trace
      ⟨held registry, Function.update system.point thread (.unlock .destroy code)⟩ →
      ∃ trace, CallsRun tgid start trace ⟨{ system.kernel with registry := registry },
        Function.update system.point thread (.ret code)⟩ :=
    fun before => ⟨_, before.onward (by simp [held, executeCall, Kernel.setMutex, ← free])⟩
  cases found with
  | none =>
      obtain ⟨rfl, rfl⟩ := Prod.mk.inj (Option.some.inj served)
      exact unlocked (reached.onward rfl)
  | some node =>
      obtain ⟨barrier, allocated, served⟩ := Option.map_eq_some_iff.mp served
      obtain ⟨listed, handle⟩ := Registry.find_spec looked
      have tested : CallsRun tgid start _ ⟨held system.kernel.registry,
          Function.update system.point thread (.testBusy node)⟩ :=
        reached.onward (by simp [held, executeCall, Kernel.setMutex, handle])
      split at served
      · next asleep =>
          obtain ⟨rfl, rfl⟩ := Prod.mk.inj served
          exact unlocked (tested.onward (by simp [held, executeCall, allocated, asleep]))
      · next empty =>
          obtain ⟨rfl, rfl⟩ := Prod.mk.inj served
          have quiet : CallsRun tgid start _ ⟨held system.kernel.registry,
              Function.update system.point thread (.listDel node)⟩ :=
            tested.onward (by simp [held, executeCall, allocated, not_not.mp empty])
          have removed : CallsRun tgid start _ ⟨held (system.kernel.registry.listDel node),
              Function.update system.point thread (.free node)⟩ :=
            quiet.onward (by simp [held, executeCall, listed])
          have unlisted := system.kernel.registry.not_mem_listDel node
          have freed : CallsRun tgid start _ ⟨held (system.kernel.registry.removeBarrier node),
              Function.update system.point thread (.unlock .destroy 0)⟩ :=
            removed.onward (by simp only [held, executeCall, dif_pos unlisted]; rfl)
          exact unlocked freed

end Systems

end BarrierSys

end KinuxKernel
