import KinuxKernel.BarrierCalls

/-!
# The lifetime of a barrier

`barrier_destroy` asks `waitqueue_active` whether a barrier is in use, under
another mutex than the lookup of `barrier_wait`.  The queue only shows the
threads asleep in it, and a lookup may reach the barrier after the answer.
Where neither happens only unused barriers are removed, and then no timer is
pending either.
-/

namespace KinuxKernel

namespace BarrierSys

open TraceRun

variable {Address Thread : Type*} [DecidableEq Address]

/-- In a call of `barrier_wait` whose lookup stands on the barrier or has found
it. -/
def CallPoint.uses (node : Address) : CallPoint Address → Bool
  | .next .wait _ (some loop) | .test .wait _ (some loop) => loop = node
  | .unlockWait barrier | .waiting barrier _ => barrier = node
  | _ => false

/-- About to take the barrier off the list or to free it. -/
def CallPoint.removes (node : Address) : CallPoint Address → Bool
  | .listDel barrier | .free barrier => barrier = node
  | _ => false

/-- In a call of `barrier_destroy`, before its return. -/
def CallPoint.inDestroy : CallPoint Address → Bool
  | .lock .destroy _ | .next .destroy _ _ | .test .destroy _ _ | .testBusy _ | .listDel _
  | .free _ | .unlock .destroy _ => true
  | _ => false

/-- Neither a call of `barrier_wait` nor the timer needs the barrier. -/
def CallSystem.Unused (system : CallSystem Address Thread) (node : Address) : Prop :=
  (∀ thread, (system.point thread).uses node = false) ∧
    ∀ barrier, system.kernel.registry.memory node = some barrier → barrier.hrTimer = none

/-- The statements that a thread has executed in its present call. -/
def ownCall [DecidableEq Thread] (thread : Thread) :
    List (CallEvent Address Thread) → List (CallPoint Address)
  | [] => []
  | .enter other _ _ :: trace => if other = thread then [] else ownCall thread trace
  | .exec other point :: trace =>
      if other = thread then point :: ownCall thread trace else ownCall thread trace
  | _ :: trace => ownCall thread trace

/-- The call has executed neither `list_del` nor `kfree`. -/
def Untouched (points : List (CallPoint Address)) : Prop :=
  ∀ node, .listDel node ∉ points ∧ .free node ∉ points

/-- What the result of `barrier_destroy` says about the statements executed. -/
def Outcome (code : Int) (points : List (CallPoint Address)) : Prop :=
  (code = 0 ∧ ∃ node, .listDel node ∈ points ∧ .free node ∈ points) ∨
  (code = -EBUSY ∧ Untouched points) ∨
  (code = -EINVAL ∧ Untouched points ∧ ∀ node, .testBusy node ∉ points)

variable [DecidableEq Thread]

/-- `barrier_destroy` removes and frees only unused barriers; otherwise it
returns an error, `-EBUSY` if it has found a barrier, and changes nothing. -/
structure DestroySafe (tgid : Thread → Int) (start : CallSystem Address Thread)
    (trace : List (CallEvent Address Thread)) : Prop where
  unused : ∀ thread point node earlier before, .exec thread point :: earlier <:+ trace →
    point.removes node = true → replay (callStep tgid) start earlier = some before →
    before.Unused node
  refused : ∀ thread earlier before code, earlier <:+ trace →
    replay (callStep tgid) start earlier = some before →
    before.point thread = .unlock .destroy code → Outcome code (ownCall thread earlier)
  unchanged : ∀ thread point earlier before after, .exec thread point :: earlier <:+ trace →
    replay (callStep tgid) start earlier = some before →
    callStep tgid before (.exec thread point) = some after → point.inDestroy = true →
    (∀ node, point.removes node = false) → after.kernel.registry = before.kernel.registry

/-- The busy test finds an empty queue only when no call of `barrier_wait` uses
the barrier, and a lookup of `barrier_wait` steps onto no barrier that has
passed its busy test. -/
def Guarded (system : CallSystem Address Thread) : CallEvent Address Thread → Prop
  | .exec _ (.testBusy node) => ∀ barrier, system.kernel.registry.memory node = some barrier →
      barrier.myQueue = [] → ∀ thread, (system.point thread).uses node = false
  | .exec _ (.next .wait _ loop) => ∀ node,
      system.kernel.registry.listNext loop = some (some node) →
        ∀ thread, system.point thread ≠ .listDel node
  | _ => True

instance [Fintype Thread] (system : CallSystem Address Thread) (event : CallEvent Address Thread) :
    Decidable (Guarded system event) :=
  match event with
  | .exec _ (.testBusy node) => inferInstanceAs (Decidable
      (∀ barrier ∈ system.kernel.registry.memory node, barrier.myQueue = [] →
        ∀ thread, (system.point thread).uses node = false))
  | .exec _ (.next .wait _ loop) => decidable_of_iff
      (∀ following ∈ system.kernel.registry.listNext loop, ∀ node ∈ following,
        ∀ thread, system.point thread ≠ .listDel node)
      ⟨fun all node walked => all _ walked node rfl, fun all _ walked node same =>
        all node (same ▸ walked)⟩
  | .exec _ .idle | .exec _ (.lock _ _) | .exec _ (.next .destroy _ _) | .exec _ (.test _ _ _)
  | .exec _ (.unlockWait _) | .exec _ (.waiting _ _) | .exec _ (.listDel _) | .exec _ (.free _)
  | .exec _ (.unlock _ _) | .exec _ (.ret _) | .enter _ _ _ | .block _ | .expire _ =>
      inferInstanceAs (Decidable True)

/-- Runs whose steps are all guarded. -/
abbrev GuardedRun (tgid : Thread → Int) (start : CallSystem Address Thread) :
    List (CallEvent Address Thread) → CallSystem Address Thread → Prop :=
  Run (callStep tgid) (fun _ => Guarded) start

omit [DecidableEq Thread] in
theorem Registry.listNext_mem {registry : Registry Address Thread} {loop : Option Address}
    {node : Address} (walked : registry.listNext loop = some (some node)) :
    node ∈ registry.nodes := by
  cases loop with
  | none =>
      obtain ⟨list, listed, first⟩ := Option.map_eq_some_iff.mp walked
      simpa [Registry.nodes, listed] using List.mem_of_head? first
  | some last =>
      obtain ⟨list, listed, walked⟩ := Option.bind_eq_some_iff.mp walked
      obtain ⟨-, first⟩ := Option.ite_none_right_eq_some.mp walked
      have following := List.mem_of_mem_tail (List.mem_of_head? (Option.some.inj first))
      simpa [Registry.nodes, listed] using (List.dropWhile_sublist _).subset following

section Effects

variable {tgid : Int} {thread : Thread} {kernel after : Kernel Address Thread}
  {point target : CallPoint Address} {node : Address}

/-- A thread begins to use a barrier by stepping onto it. -/
theorem CallEffect.uses (effect : CallEffect tgid thread kernel point after target)
    (stands : target.uses node = true) :
    point.uses node = true ∨ ∃ barrierId loop, point = .next .wait barrierId loop ∧
      kernel.registry.listNext loop = some (some node) := by
  cases effect with
  | next call barrierId loop following walked =>
      cases call <;> cases following <;> simp [CallPoint.uses] at stands
      subst stands
      exact .inr ⟨barrierId, loop, rfl, walked⟩
  | pass call =>
      cases call <;> simp [CallPoint.uses] at stands
      exact .inl (by simp [CallPoint.uses, stands])
  | waiting found barrier result point next =>
      refine .inl ?_
      cases next <;> simp_all [CallPoint.uses, resume]
  | foundWait | unlockWait => exact .inl stands
  | lock | miss | foundDestroy | busy | quiet | listDel | free | unlock | ret =>
      simp [CallPoint.uses] at stands

/-- A thread begins to remove a barrier when it finds the queue empty. -/
theorem CallEffect.removes (effect : CallEffect tgid thread kernel point after target)
    (removing : target.removes node = true) :
    point.removes node = true ∨ point = .testBusy node ∧
      ∃ barrier, kernel.registry.memory node = some barrier ∧ barrier.myQueue = [] := by
  cases effect with
  | quiet found barrier allocated empty =>
      obtain rfl : found = node := by simpa [CallPoint.removes] using removing
      exact .inr ⟨rfl, barrier, allocated, empty⟩
  | listDel => exact .inl removing
  | waiting found barrier result point next =>
      cases next <;> simp [CallPoint.removes, resume] at removing
  | lock | next | miss | pass | foundWait | foundDestroy | unlockWait | busy | free | unlock
  | ret => simp [CallPoint.removes] at removing

theorem CallEffect.nodes (effect : CallEffect tgid thread kernel point after target) :
    after.registry.nodes ⊆ kernel.registry.nodes := by
  cases effect with
  | lock | unlock | unlockWait => rw [setMutex_registry]; exact List.Subset.refl _
  | listDel found =>
      change (kernel.registry.listDel found).nodes ⊆ _
      rw [Registry.listDel_nodes]
      exact List.erase_subset
  | next | miss | pass | foundWait | foundDestroy | waiting | busy | quiet | free | ret =>
      exact List.Subset.refl _

/-- A barrier about to be freed has just been taken off the list. -/
theorem CallEffect.freeing (effect : CallEffect tgid thread kernel point after target)
    (freeing : target = .free node) : node ∉ after.registry.nodes := by
  cases effect with
  | listDel found =>
      obtain rfl := CallPoint.free.inj freeing
      exact kernel.registry.not_mem_listDel found
  | waiting found barrier result point next =>
      cases next <;> simp [resume] at freeing
  | lock | next | miss | pass | foundWait | foundDestroy | unlockWait | busy | quiet | free
  | unlock | ret => simp at freeing

end Effects

/-- Nobody uses a barrier that is about to be removed, and a barrier that is about
to be freed is off the list. -/
structure Sheltered (system : CallSystem Address Thread) : Prop where
  removing : ∀ thread node, (system.point thread).removes node = true →
    ∀ other, (system.point other).uses node = false
  unlisted : ∀ thread node, system.point thread = .free node →
    node ∉ system.kernel.registry.nodes

section Runs

variable {tgid : Thread → Int} {system after : CallSystem Address Thread}
  {event : CallEvent Address Thread} {trace : List (CallEvent Address Thread)}

/-- A guarded statement of a call keeps the barriers in use away from their
removal. -/
theorem Sheltered.exec (sheltered : Sheltered system) {thread : Thread}
    {point target : CallPoint Address} {kernel : Kernel Address Thread}
    (atPoint : system.point thread = point)
    (effect : CallEffect (tgid thread) thread system.kernel point kernel target)
    (guarded : Guarded system (.exec thread point)) :
    Sheltered ⟨kernel, Function.update system.point thread target⟩ := by
  constructor
  · intro remover node removing other
    by_contra stands
    rw [Bool.not_eq_false] at stands
    by_cases removerMoved : remover = thread <;> by_cases otherMoved : other = thread
    · -- one thread cannot do both
      subst removerMoved
      subst otherMoved
      simp only [Function.update_self] at removing stands
      cases target <;> simp [CallPoint.removes, CallPoint.uses] at removing stands
    · subst removerMoved
      simp only [Function.update_self, Function.update_of_ne otherMoved] at removing stands
      rcases effect.removes removing with before | ⟨rfl, barrier, allocated, empty⟩
      · simp [sheltered.removing _ _ (atPoint ▸ before) other] at stands
      · simp [guarded barrier allocated empty other] at stands
    · subst otherMoved
      simp only [Function.update_self, Function.update_of_ne removerMoved] at removing stands
      rcases effect.uses stands with before | ⟨barrierId, loop, rfl, walked⟩
      · simp [← atPoint, sheltered.removing _ _ removing other] at before
      · -- the lookup finds only listed nodes
        have notDeleting := guarded node walked remover
        have listed := Registry.listNext_mem walked
        cases standing : system.point remover <;>
          simp [standing, CallPoint.removes] at removing notDeleting
        case free =>
          subst removing
          exact sheltered.unlisted _ _ standing listed
        case listDel => exact notDeleting removing
    · simp only [Function.update_of_ne removerMoved, Function.update_of_ne otherMoved]
        at removing stands
      simp [sheltered.removing _ _ removing other] at stands
  · intro remover node freeing listed
    have before := effect.nodes listed
    by_cases moved : remover = thread
    · subst moved
      simp only [Function.update_self] at freeing
      exact effect.freeing freeing listed
    · simp only [Function.update_of_ne moved] at freeing
      exact sheltered.unlisted _ _ freeing before

theorem Sheltered.enter (sheltered : Sheltered system) {thread : Thread} (call : Syscall)
    (barrierId : BitVec 32) :
    Sheltered ⟨system.kernel, Function.update system.point thread (.lock call barrierId)⟩ := by
  have before : ∀ other (test : CallPoint Address → Bool), test (.lock call barrierId) = false →
      test (Function.update system.point thread (.lock call barrierId) other) = true →
      test (system.point other) = true := by
    intro other test fails passes
    by_cases moved : other = thread
    · subst moved
      simp [fails] at passes
    · simpa [moved] using passes
  constructor
  · intro remover node removing other
    by_contra stands
    rw [Bool.not_eq_false] at stands
    have stands := before other (CallPoint.uses node) rfl stands
    simp [sheltered.removing _ _ (before remover (CallPoint.removes node) rfl removing)
      other] at stands
  · intro remover node freeing
    by_cases moved : remover = thread
    · subst moved
      simp at freeing
    · exact sheltered.unlisted remover node (by simpa [moved] using freeing)

/-- In guarded runs barriers in use stay clear of their removal. -/
theorem GuardedRun.sheltered {start : CallSystem Address Thread}
    (idle : ∀ thread, start.point thread = .idle) (run : GuardedRun tgid start trace system) :
    Sheltered system := by
  induction run with
  | start => exact ⟨by simp [idle, CallPoint.removes], by simp [idle]⟩
  | next earlier guarded stepTo ih =>
      rcases callStep_cases stepTo with
        ⟨thread, call, barrierId, rfl, atIdle, rfl⟩ |
        ⟨thread, point, kernel, target, rfl, atPoint, effect, rfl⟩ |
        ⟨node, barrier, result, -, -, rfl, -⟩
      · exact ih.enter call barrierId
      · exact ih.exec atPoint effect guarded
      · exact ⟨ih.removing, ih.unlisted⟩

/-- What the statements executed in a call of `barrier_destroy` have been. -/
def CallHistory : CallPoint Address → List (CallPoint Address) → Prop
  | .lock .destroy _, points | .next .destroy _ _, points | .test .destroy _ _, points
  | .testBusy _, points => Untouched points ∧ ∀ node, .testBusy node ∉ points
  | .listDel _, points => Untouched points
  | .free node, points => .listDel node ∈ points
  | .unlock .destroy code, points => Outcome code points
  | _, _ => True

theorem CallEffect.history {tgid : Int} {thread : Thread} {kernel after : Kernel Address Thread}
    {point target : CallPoint Address}
    (effect : CallEffect tgid thread kernel point after target)
    {points : List (CallPoint Address)} (history : CallHistory point points) :
    CallHistory target (point :: points) := by
  cases effect with
  | lock call | next call | pass call =>
      cases call with
      | wait => trivial
      | destroy => simpa [CallHistory, Untouched] using history
  | miss call =>
      cases call with
      | wait => trivial
      | destroy => exact .inr (.inr ⟨rfl, by simpa [CallHistory, Untouched] using history⟩)
  | foundDestroy => simpa [CallHistory, Untouched] using history
  | quiet => simpa [CallHistory, Untouched] using history.1
  | busy => exact .inr (.inl ⟨rfl, by simpa [CallHistory, Untouched] using history.1⟩)
  | listDel node => exact List.mem_cons_self
  | free node => exact .inl ⟨rfl, node, List.mem_cons_of_mem _ history, List.mem_cons_self⟩
  | waiting found barrier result point next => cases next <;> trivial
  | foundWait | unlockWait | unlock | ret => trivial

/-- The statements that a thread has executed in its call agree with its next
one. -/
theorem CallsRun.history {start : CallSystem Address Thread}
    (idle : ∀ thread, start.point thread = .idle) (run : CallsRun tgid start trace system)
    (thread : Thread) : CallHistory (system.point thread) (ownCall thread trace) := by
  induction run with
  | start =>
      rw [idle]
      trivial
  | @next trace before after event _ _ stepTo ih =>
      rcases callStep_cases stepTo with
        ⟨mover, call, barrierId, rfl, -, rfl⟩ |
        ⟨mover, point, kernel, target, rfl, atPoint, effect, rfl⟩ |
        ⟨node, barrier, result, -, -, rfl, ⟨blocker, rfl⟩ | rfl⟩
      · by_cases moved : mover = thread
        · subst moved
          cases call <;> simp [ownCall, CallHistory, Untouched]
        · simpa [ownCall, moved, Ne.symm moved] using ih
      · by_cases moved : mover = thread
        · subst moved
          simpa [ownCall] using effect.history (atPoint ▸ ih)
        · simpa [ownCall, moved, Ne.symm moved] using ih
      · exact ih
      · exact ih

/-- A statement of `barrier_destroy` other than `list_del` and `kfree` changes
neither the list nor a barrier. -/
theorem CallEffect.unchanged {tgid : Int} {thread : Thread} {kernel after : Kernel Address Thread}
    {point target : CallPoint Address}
    (effect : CallEffect tgid thread kernel point after target)
    (destroying : point.inDestroy = true) (keeps : ∀ node, point.removes node = false) :
    after.registry = kernel.registry := by
  cases effect with
  | lock | unlock | unlockWait => exact setMutex_registry _ _ _
  | waiting => simp [CallPoint.inDestroy] at destroying
  | listDel node | free node => simpa [CallPoint.removes] using keeps node
  | next | miss | pass | foundWait | foundDestroy | busy | quiet | ret => rfl

theorem GuardedRun.destroySafe [Fintype Thread] {registry : Registry Address Thread}
    (fresh : registry.Fresh)
    (run : GuardedRun tgid (CallSystem.started registry) trace system) :
    DestroySafe tgid (CallSystem.started registry) trace := by
  have calls {trace : List (CallEvent Address Thread)} {system : CallSystem Address Thread}
      (run : GuardedRun tgid (CallSystem.started registry) trace system) :
      CallsRun tgid (CallSystem.started registry) trace system :=
    run.mono fun _ _ _ _ => trivial
  refine ⟨?_, ?_, ?_⟩
  · intro thread point node earlier before executed removing reached
    obtain ⟨earlierRun, guarded, after, stepTo⟩ := run.step_of_reached executed reached
    have atPoint := (Option.ite_none_right_eq_some.mp stepTo).1
    have unused := (GuardedRun.sheltered (fun _ => rfl) earlierRun).removing thread node
      (atPoint ▸ removing)
    refine ⟨unused, fun barrier allocated => ?_⟩
    by_contra armed
    obtain ⟨user, point, inCall⟩ := CallsRun.timer fresh (calls earlierRun) allocated
      (Option.isSome_iff_ne_none.mpr armed)
    simpa [inCall, CallPoint.uses] using unused user
  · intro thread earlier before code suffix reached atUnlock
    have earlierRun := run.of_reached suffix reached
    have history := CallsRun.history (fun _ => rfl) (calls earlierRun) thread
    rwa [atUnlock] at history
  · intro thread point earlier before after _ _ stepTo destroying keeps
    obtain ⟨-, mapped⟩ := Option.ite_none_right_eq_some.mp stepTo
    obtain ⟨⟨kernel, target⟩, executed, rfl⟩ := Option.map_eq_some_iff.mp mapped
    exact (callEffect_of_execute executed).unchanged destroying keeps

/-- The busy test is about a barrier of the calling process, and `list_del` comes
after it. -/
theorem CallEffect.finding {tgid : Int} {thread : Thread} {kernel after : Kernel Address Thread}
    {point target : CallPoint Address} {node : Address}
    (effect : CallEffect tgid thread kernel point after target) :
    (target = .testBusy node → ∃ barrierId,
      kernel.registry.handle node = some (tgid, barrierId)) ∧
    (target = .listDel node → point = .testBusy node) := by
  cases effect with
  | foundDestroy barrierId found handle =>
      refine ⟨fun same => ⟨barrierId, ?_⟩, by simp⟩
      rw [← CallPoint.testBusy.inj same]
      exact handle
  | quiet found => exact ⟨by simp, fun same => by rw [CallPoint.listDel.inj same]⟩
  | waiting found barrier result point next => cases next <;> simp [resume]
  | _ => simp

/-- A process without barriers never gets to the busy test. -/
theorem CallsRun.foreign {registry : Registry Address Thread} (fresh : registry.Fresh)
    {process : Int} (sameProcess : ∀ thread, tgid thread = process)
    (foreign : ∀ node ∈ registry.nodes, registry.ownedBy process node = false)
    (run : CallsRun tgid (CallSystem.started registry) trace system) :
    (∀ node barrier, system.kernel.registry.memory node = some barrier →
      barrier.tgid ≠ process) ∧
    ∀ thread node, system.point thread ≠ .testBusy node ∧ system.point thread ≠ .listDel node := by
  induction run with
  | start =>
      refine ⟨fun node barrier allocated => ?_, fun thread node => ⟨by simp [CallSystem.started],
        by simp [CallSystem.started]⟩⟩
      have notOwned := foreign node (fresh node barrier allocated).1
      have allocated : registry.memory node = some barrier := allocated
      simpa [Registry.ownedBy, allocated] using notOwned
  | next _ _ stepTo ih =>
      refine ⟨fun node changed allocated => ?_, fun thread node => ?_⟩
      · obtain ⟨barrier, before, same | ⟨event, -, ownStep⟩⟩ := view_step stepTo allocated
        · obtain rfl : changed = barrier := congrArg System.barrier same
          exact ih.1 node changed before
        · have kept : changed.tgid = barrier.tgid := (sameSetup_of_step ownStep).tgid
          rw [kept]
          exact ih.1 node barrier before
      · rcases callStep_cases stepTo with
          ⟨mover, call, barrierId, rfl, atIdle, rfl⟩ |
          ⟨mover, point, kernel, target, rfl, atPoint, effect, rfl⟩ |
          ⟨other, barrier, result, -, -, rfl, -⟩
        · by_cases moved : thread = mover
          · simp [moved]
          · simpa [moved] using ih.2 thread node
        · by_cases moved : thread = mover
          · subst moved
            simp only [Function.update_self]
            refine ⟨fun same => ?_, fun same => ?_⟩
            · obtain ⟨barrierId, handle⟩ := effect.finding.1 same
              obtain ⟨barrier, allocated, key⟩ := Option.map_eq_some_iff.mp handle
              exact ih.1 node barrier allocated
                ((Prod.mk.inj key).1.trans (sameProcess thread))
            · exact (ih.2 thread node).1 (atPoint.trans (effect.finding.2 same))
          · simpa [moved] using ih.2 thread node
        · exact ih.2 thread node

/-- A step is guarded if nobody uses a barrier at its busy test, and nobody is
about to remove one during a lookup. -/
theorem guarded_of_step (stepTo : callStep tgid system event = some after)
    (unused : ∀ thread node, system.point thread = .testBusy node →
      ∀ other, (system.point other).uses node = false)
    (unclaimed : ∀ thread barrierId loop, system.point thread = .next .wait barrierId loop →
      ∀ other node, system.point other ≠ .listDel node) : Guarded system event := by
  cases event with
  | enter | block | expire => trivial
  | exec thread point =>
      have atPoint := (Option.ite_none_right_eq_some.mp stepTo).1
      cases point with
      | testBusy node => exact fun _ _ _ => unused thread node atPoint
      | next call barrierId loop =>
          cases call with
          | wait => exact fun node _ other => unclaimed thread barrierId loop atPoint other node
          | destroy => trivial
      | _ => trivial

/-- A thread alone is never in a call of `barrier_wait` while it destroys. -/
theorem CallsRun.guarded_of_alone [Subsingleton Thread] {start : CallSystem Address Thread}
    (run : CallsRun tgid start trace system) : GuardedRun tgid start trace system := by
  refine run.strengthen ?_
  intro trace before after event _ _ stepTo
  apply guarded_of_step stepTo
  · intro thread node atPoint other
    rw [Subsingleton.elim other thread, atPoint]
    rfl
  · intro thread barrierId loop atPoint other node
    rw [Subsingleton.elim other thread, atPoint]
    simp

theorem CallsRun.guarded_of_foreign {registry : Registry Address Thread} (fresh : registry.Fresh)
    {process : Int} (sameProcess : ∀ thread, tgid thread = process)
    (foreign : ∀ node ∈ registry.nodes, registry.ownedBy process node = false)
    (run : CallsRun tgid (CallSystem.started registry) trace system) :
    GuardedRun tgid (CallSystem.started registry) trace system := by
  refine run.strengthen ?_
  intro trace before after event earlier _ stepTo
  have nobody := (CallsRun.foreign fresh sameProcess foreign earlier).2
  apply guarded_of_step stepTo
  · intro thread node atPoint
    exact ((nobody thread node).1 atPoint).elim
  · intro _ _ _ _ other node
    exact (nobody other node).2

end Runs

section Configurations

variable {tgid : Thread → Int} {registry : Registry Address Thread}

omit [DecidableEq Address] [DecidableEq Thread] in
theorem Registry.exists_found {tgid : Int} {node : Address} (listed : node ∈ registry.nodes)
    (owned : registry.ownedBy tgid node = true) :
    ∃ barrierId found, registry.findBarrier tgid barrierId = some (some found) := by
  obtain ⟨⟨process, barrierId⟩, handle⟩ := Registry.handle_of_node listed
  obtain rfl : process = tgid := by simpa [Registry.ownedBy_eq, handle] using owned
  refine ⟨barrierId, ?_⟩
  cases some : registry.barrierList with
  | none => simp [Registry.nodes, some] at listed
  | some list =>
      have inside : node ∈ list := by simpa [Registry.nodes, some] using listed
      have found : (list.find? fun address =>
          registry.handle address = Option.some (process, barrierId)).isSome :=
        List.find?_isSome.mpr ⟨node, inside, by simpa using handle⟩
      obtain ⟨first, found⟩ := Option.isSome_iff_exists.mp found
      exact ⟨first, by simp [Registry.findBarrier, some, found]⟩

/-- Another thread of the process may stand on the barrier when it is taken off
the list. -/
theorem exists_unsafe (fresh : registry.Fresh) {user remover : Thread} (different : user ≠ remover)
    (sameProcess : tgid user = tgid remover) {node : Address} (listed : node ∈ registry.nodes)
    (owned : registry.ownedBy (tgid remover) node = true) :
    ∃ trace system, CallsRun tgid (CallSystem.started registry) trace system ∧
      ¬ DestroySafe tgid (CallSystem.started registry) trace := by
  obtain ⟨barrierId, node, found⟩ := Registry.exists_found listed owned
  obtain ⟨listed, handle⟩ := Registry.find_spec found
  obtain ⟨barrier, allocated, -⟩ := Option.map_eq_some_iff.mp handle
  obtain ⟨-, _, _, _, _, _, rfl⟩ := fresh node barrier allocated
  -- `user` stands on the barrier
  have nothing : CallsRun tgid (CallSystem.started registry) [] _ := .start
  obtain ⟨_, used⟩ := nothing.find user rfl .wait rfl (sameProcess ▸ found)
  -- `remover` finds it, and nobody asleep in its queue
  obtain ⟨_, looked⟩ := used.find remover (Function.update_of_ne different.symm ..) .destroy rfl
    found
  have tested := looked.onward (show executeCall (tgid remover) remover _
    (.test .destroy barrierId (some node)) = some (_, .testBusy node) by
      simp [executeCall, Kernel.setMutex, CallSystem.started, handle]; rfl)
  have quiet := tested.onward (show executeCall (tgid remover) remover _
    (.testBusy node) = some (_, .listDel node) by
      simp [executeCall, allocated]; rfl)
  have removed := quiet.onward (show executeCall (tgid remover) remover _
    (.listDel node) = some (_, .free node) by
      simp [executeCall, listed]; rfl)
  refine ⟨_, _, removed, fun safe => ?_⟩
  have unused := safe.unused remover (.listDel node) node _ _ (List.suffix_refl _)
    (by simp [CallPoint.removes]) quiet.replay_eq
  simpa [Function.update_of_ne different, CallPoint.uses] using unused.1 user

/-- `barrier_destroy` is safe in every guarded run.  All runs of the threads of one
process are safe exactly when there is only one thread or no barrier of the
process. -/
theorem destroy_is_safe [Fintype Thread] (fresh : registry.Fresh) :
    (∀ trace system, GuardedRun tgid (CallSystem.started registry) trace system →
      DestroySafe tgid (CallSystem.started registry) trace) ∧
    ∀ process, (∀ thread, tgid thread = process) →
      ((∀ trace system, CallsRun tgid (CallSystem.started registry) trace system →
          DestroySafe tgid (CallSystem.started registry) trace) ↔
        Subsingleton Thread ∨ ∀ node ∈ registry.nodes, registry.ownedBy process node = false) := by
  refine ⟨fun trace system run => GuardedRun.destroySafe fresh run, ?_⟩
  intro process sameProcess
  constructor
  · intro safe
    by_contra neither
    simp only [not_or, not_forall, Bool.not_eq_false] at neither
    obtain ⟨several, node, listed, owned⟩ := neither
    obtain ⟨user, remover, different⟩ := not_subsingleton_iff_nontrivial.mp several
    obtain ⟨trace, system, run, isUnsafe⟩ := exists_unsafe fresh different
      ((sameProcess user).trans (sameProcess remover).symm) listed
      (by rw [sameProcess remover]; exact owned)
    exact isUnsafe (safe trace system run)
  · rintro (alone | foreign) trace system run
    · exact GuardedRun.destroySafe fresh (CallsRun.guarded_of_alone run)
    · exact GuardedRun.destroySafe fresh
        (CallsRun.guarded_of_foreign fresh sameProcess foreign run)

end Configurations

/-- One barrier of the process 7, for two threads and without a timeout. -/
def oneBarrier (Thread : Type) : Registry Nat Thread where
  firstFlag := 1
  barrierList := some [0]
  memory := Function.update (fun _ => none) 0 (some (Barrier.zeroed.initialise 1 2 0 7))
  distinct := by simp
  allocated := by simp

theorem oneBarrier_fresh (Thread : Type) : (oneBarrier Thread).Fresh := by
  intro node barrier allocated
  by_cases same : node = 0
  · subst same
    obtain rfl : Barrier.zeroed.initialise 1 2 0 7 = barrier := by
      simpa [oneBarrier] using allocated
    exact ⟨by simp [Registry.nodes, oneBarrier], _, _, _, _, _, rfl⟩
  · simp [oneBarrier, same] at allocated

/-- A thread calls `barrier_destroy` while another one stands before the gate. -/
def destroyAtGate : List (CallEvent Nat Bool) :=
  [.exec true (.free 0), .exec true (.listDel 0), .exec true (.testBusy 0),
    .exec true (.test .destroy 1 (some 0)), .exec true (.next .destroy 1 none),
    .exec true (.lock .destroy 1), .enter true .destroy 1,
    .exec false (.unlockWait 0), .exec false (.test .wait 1 (some 0)),
    .exec false (.next .wait 1 none), .exec false (.lock .wait 1), .enter false .wait 1]

theorem freed_at_gate :
    (∃ system, CallsRun (fun _ => 7) (CallSystem.started (oneBarrier Bool)) destroyAtGate system) ∧
      ¬ DestroySafe (fun _ => 7) (CallSystem.started (oneBarrier Bool)) destroyAtGate := by
  refine ⟨exists_run_of_replay (fun _ _ => trivial) (by decide +kernel), fun safe => ?_⟩
  obtain ⟨before, run⟩ : ∃ before, CallsRun (fun _ => 7) (CallSystem.started (oneBarrier Bool))
      destroyAtGate.tail before :=
    exists_run_of_replay (fun _ _ => trivial) (by decide +kernel)
  have unused := safe.unused true (.free 0) 0 destroyAtGate.tail before
    (List.suffix_refl _) rfl run.replay_eq
  have uses : (replay (callStep fun _ => 7) (CallSystem.started (oneBarrier Bool))
      destroyAtGate.tail).map (fun system => (system.point false).uses 0) = some true := by
    decide +kernel
  rw [run.replay_eq] at uses
  simp [unused.1 false] at uses

/-- A thread looks up the barrier 0 for a call. -/
def lookUp (thread : Bool) (call : Syscall) : List (CallEvent Nat Bool) :=
  [.exec thread (.test call 1 (some 0)), .exec thread (.next call 1 none),
    .exec thread (.lock call 1), .enter thread call 1]

/-- A thread executes statements of `barrier_wait` on the barrier 0, newest first. -/
def onBarrier (thread : Bool) (points : List WaitPoint) : List (CallEvent Nat Bool) :=
  points.map fun point => .exec thread (.waiting 0 point)

/-- Two threads complete a round, and then one of them destroys the barrier. -/
def destroyAfterRound : List (CallEvent Nat Bool) :=
  [.exec true (.ret 0), .exec true (.unlock .destroy 0), .exec true (.free 0),
    .exec true (.listDel 0), .exec true (.testBusy 0)] ++ lookUp true .destroy ++
  onBarrier false [.ret 0, .unlock 0, .testTimeoutFlag, .wakeGate, .incrementSyncNum,
    .clearCondFlag, .clearTimeoutFlag, .testAllLeft, .incrementLeft, .lockLeave, .sleep] ++
  onBarrier true [.ret 0, .unlock 0, .incrementLeftLast, .wakeSleepers, .setCondFlag,
    .cancelTimer, .testLeft, .decrementLeft, .testFirst, .lockArrive, .gate] ++
  .exec true (.unlockWait 0) :: lookUp true .wait ++
  .block false :: onBarrier false [.unlockSleep, .testLeft, .decrementLeft, .testFirst,
    .lockArrive, .gate] ++
  .exec false (.unlockWait 0) :: lookUp false .wait

theorem destroy_is_safe_round :
    ∃ system, GuardedRun (fun _ => 7) (CallSystem.started (oneBarrier Bool)) destroyAfterRound
        system ∧
      system.kernel.registry.nodes = [] ∧
      DestroySafe (fun _ => 7) (CallSystem.started (oneBarrier Bool)) destroyAfterRound := by
  have checked : (checkedReplay (callStep fun _ => 7) (fun _ => Guarded)
      (CallSystem.started (oneBarrier Bool)) destroyAfterRound).map
      (fun system => system.kernel.registry.nodes) = some [] := by decide +kernel
  obtain ⟨system, reached, empty⟩ := Option.map_eq_some_iff.mp checked
  have run : GuardedRun (fun _ => 7) (CallSystem.started (oneBarrier Bool)) destroyAfterRound
      system := run_of_checkedReplay reached
  exact ⟨system, run, empty, (destroy_is_safe (oneBarrier_fresh Bool)).1 _ _ run⟩

end BarrierSys

end KinuxKernel
