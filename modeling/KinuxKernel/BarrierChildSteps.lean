import KinuxKernel.BarrierChildren

/-!
# The steps of the children

A statement of a thread in `barrier_wait` moves the loops of the threads of its
barrier and leaves all else alone.  The main thread of a child creates a barrier
that is its own, and destroys it when its threads have been joined.
-/

namespace KinuxKernel

namespace BarrierSys

open TraceRun

section Program

variable {Address Process : Type*}

namespace Program

section Moves

variable [DecidableEq Address] [DecidableEq Process] {tgid : Process → Int}
  {timeout syncNum : Int} {program after : Program Address Process}
  {place : Group Process → Address} {group : Group Process} {address : Address}
  {barrier changed : Barrier (Fin group.2.threadCount)}

/-- An event of the threads of one barrier, or of its timer, seen from the whole
program: the rest of it stays as it was. -/
structure Advances (program after : Program Address Process) (group : Group Process)
    (address : Address) (changed : Barrier (Fin group.2.threadCount)) : Prop where
  registry : after.registry =
    program.registry.writeBarrier address (changed.rename (Sigma.mk group))
  stage : after.stage = program.stage
  mybarrier : after.mybarrier = program.mybarrier
  destroyed : after.destroyed = program.destroyed
  point : ∀ worker, worker.1 ≠ group → after.point worker = program.point worker
  barrier : ∀ worker, worker.1 ≠ group → after.barrier worker = program.barrier worker
  i : ∀ worker, worker.1 ≠ group → after.i worker = program.i worker
  failed : ∀ worker, worker.1 ≠ group → after.failed worker = program.failed worker

/-- Threads that have left their loops stay where they are. -/
theorem left_loops {Thread : Type*} [DecidableEq Thread] {workload next : Workload Thread}
    {event : Event Thread} (stepTo : Workload.step syncNum workload event = some next)
    (quiet : event.Quiet)
    (left : ∀ thread, workload.system.point thread = .idle ∧
      workload.i thread = syncNum.toNat) (thread : Thread) :
    next.system.point thread = .idle ∧ next.i thread = syncNum.toNat := by
  obtain ⟨moved, guard, advanced, -⟩ := Workload.step_spec stepTo
  have effect := step_eq_some_iff.mp moved
  cases event with
  | exec mover point =>
      obtain ⟨atPoint, -⟩ := effect
      obtain rfl : point = .idle := atPoint.symm.trans (left mover).1
      have below := guard mover rfl
      have finished := (left mover).2
      omega
  | block other =>
      obtain ⟨blocked, -, same⟩ := effect
      rw [advanced thread, same]
      exact left thread
  | signal => exact quiet.elim
  | expire =>
      rw [advanced thread, effect.2]
      exact left thread

theorem Sound.advance (sound : program.Sound tgid timeout syncNum place)
    (lives : program.Lives group)
    (hosts : program.Hosts tgid timeout syncNum group (place group) barrier)
    (advances : Advances program after group (place group) changed)
    (event : Event (Fin group.2.threadCount))
    (stepTo : Workload.step syncNum (program.workload group barrier) event =
      some (after.workload group changed)) (quiet : event.Quiet)
    (caller : ∀ thread, after.point ⟨group, thread⟩ ≠ .idle →
      after.barrier ⟨group, thread⟩ = some (place group)) :
    after.Sound tgid timeout syncNum place := by
  have sameLife : ∀ other, after.Lives other ↔ program.Lives other := fun other => by
    simp only [Lives, advances.stage]
  have nodes : after.registry.nodes = program.registry.nodes := by
    rw [advances.registry]
    rfl
  have elsewhere : ∀ other, other ≠ place group →
      after.registry.memory other = program.registry.memory other := by
    intro other different
    rw [advances.registry]
    simp [Registry.writeBarrier, different]
  have here : after.registry.memory (place group) =
      some (changed.rename (Sigma.mk group)) := by
    rw [advances.registry]
    simp [Registry.writeBarrier]
  constructor
  case started =>
    rw [nodes, advances.registry]
    exact sound.started
  case listed =>
    rw [advances.registry]
    exact sound.listed
  case flagged =>
    intro process
    rw [advances.stage, advances.registry]
    exact sound.flagged process
  case used =>
    intro other inUse
    rw [nodes]
    by_cases same : other = place group
    · exact same ▸ sound.place_mem lives
    · exact sound.used other (by rwa [elsewhere other same] at inUse)
  case nodes =>
    intro other
    rw [nodes, sound.nodes]
    simp only [sameLife]
  case apart =>
    intro first second firstLives secondLives
    exact sound.apart first second ((sameLife _).mp firstLives) ((sameLife _).mp secondLives)
  case hosted =>
    intro other otherLives
    have lived := (sameLife other).mp otherLives
    obtain ⟨id, otherBarrier, block, memory, trace, run⟩ := sound.hosted other lived
    refine ⟨by rwa [advances.mybarrier], ?_⟩
    by_cases same : other = group
    · subst same
      obtain ⟨-, memory, trace, run⟩ := hosts
      exact ⟨changed, here, memory, event :: trace, .next run quiet stepTo⟩
    · have apart : place other ≠ place group := fun samePlace =>
        same (sound.apart _ _ lived lives samePlace)
      refine ⟨otherBarrier, (elsewhere _ apart).trans block, memory, trace, ?_⟩
      have unseen : after.workload other otherBarrier = program.workload other otherBarrier := by
        simp only [workload]
        congr 1
        · congr 1
          exact funext fun thread => advances.point ⟨other, thread⟩ same
        · exact funext fun thread => advances.i ⟨other, thread⟩ same
        · exact funext fun thread => advances.failed ⟨other, thread⟩ same
      rwa [unseen]
  case calling =>
    rintro ⟨other, thread⟩ busy
    rw [sameLife]
    by_cases same : other = group
    · subst same
      exact ⟨lives, caller thread busy⟩
    · rw [advances.point _ same] at busy
      rw [advances.barrier _ same]
      exact sound.calling _ busy
  case waiting =>
    rintro ⟨other, thread⟩ notCreated
    rw [advances.stage] at notCreated
    have different : other ≠ group := by
      rintro rfl
      simp [Stage.created_of_live lives] at notCreated
    rw [advances.point _ different, advances.i _ different, advances.failed _ different]
    exact sound.waiting _ notCreated
  case joined =>
    rintro ⟨other, thread⟩ joined
    rw [advances.stage] at joined
    by_cases same : other = group
    · subst same
      exact left_loops stepTo quiet (fun thread => sound.joined ⟨other, thread⟩ joined) thread
    · rw [advances.point _ same, advances.i _ same]
      exact sound.joined _ joined
  case destroyed =>
    intro other
    rw [advances.destroyed, advances.stage]
    exact sound.destroyed other

omit [DecidableEq Address] [DecidableEq Process] in
theorem name_injective (group : Group Process) :
    Function.Injective (@Sigma.mk (Group Process) (fun group => Fin group.2.threadCount) group) :=
  sigma_mk_injective

omit [DecidableEq Address] in
/-- Names of threads in different groups differ, and so do names in one group. -/
theorem update_group {Value : Type*} (values : Worker Process → Value) (group : Group Process)
    (thread : Fin group.2.threadCount) (value : Value) :
    (fun other => Function.update values ⟨group, thread⟩ value ⟨group, other⟩) =
      Function.update (fun other => values ⟨group, other⟩) thread value :=
  Function.update_comp_eq_of_injective values (name_injective group) thread value

omit [DecidableEq Address] in
theorem update_other {Value : Type*} (values : Worker Process → Value) (group : Group Process)
    (thread : Fin group.2.threadCount) (value : Value) {worker : Worker Process}
    (different : worker.1 ≠ group) :
    Function.update values ⟨group, thread⟩ value worker = values worker :=
  Function.update_of_ne (by rintro rfl; exact different rfl) ..

omit [DecidableEq Address] [DecidableEq Process] in
/-- The block of a call is the barrier of its group. -/
theorem Sound.target (sound : program.Sound tgid timeout syncNum place)
    {thread : Fin group.2.threadCount} (busy : program.point ⟨group, thread⟩ ≠ .idle) :
    program.Lives group ∧ program.barrier ⟨group, thread⟩ = some (place group) ∧
      ∃ barrier, program.Hosts tgid timeout syncNum group (place group) barrier ∧
        program.target ⟨group, thread⟩ =
          some (place group, barrier.rename (Sigma.mk group)) := by
  obtain ⟨lives, pointer⟩ := sound.calling _ busy
  obtain ⟨-, barrier, hosts⟩ := sound.hosted group lives
  exact ⟨lives, pointer, barrier, hosts, by simp [Program.target, pointer, hosts.1]⟩

omit [DecidableEq Address] in
/-- A statement of a thread is a step of the loops of its group. -/
theorem workload_exec {thread : Fin group.2.threadCount} {point successor : WaitPoint}
    (notCall : point ≠ .idle) (atPoint : program.point ⟨group, thread⟩ = point)
    (executed : execute thread barrier point = some (changed, successor))
    (points : after.point = Function.update program.point ⟨group, thread⟩ successor)
    (counters : after.i = (program.account ⟨group, thread⟩ point).i)
    (prints : after.failed = (program.account ⟨group, thread⟩ point).failed) :
    Workload.step syncNum (program.workload group barrier) (.exec thread point) =
      some (after.workload group changed) := by
  have moved : BarrierSys.step (program.workload group barrier).system (.exec thread point) =
      some ⟨changed,
        Function.update (fun other => program.point ⟨group, other⟩) thread successor⟩ :=
    step_exec atPoint executed
  unfold Workload.step
  rw [moved, Option.bind_some]
  simp only [workload, points, counters, prints, update_group]
  cases point with
  | idle => exact absurd rfl notCall
  | ret code =>
      by_cases negative : code < 0 <;>
        simp [account, returned, negative, update_group]
  | _ => rfl

theorem Sound.exec (sound : program.Sound tgid timeout syncNum place) {worker : Worker Process}
    {point : WaitPoint}
    (stepTo : step tgid timeout syncNum program (.exec worker point) = some after) :
    after.Sound tgid timeout syncNum place := by
  obtain ⟨group, thread⟩ := worker
  obtain ⟨⟨notCall, atPoint⟩, effect⟩ := Option.ite_none_right_eq_some.mp stepTo
  obtain ⟨lives, pointer, barrier, hosts, target⟩ := sound.target (by rwa [atPoint])
  have renamed := execute_rename barrier (name_injective group) thread point
  rw [target, Option.bind_some, renamed, Option.map_map] at effect
  obtain ⟨⟨changed, successor⟩, executed, rfl⟩ := Option.map_eq_some_iff.mp effect
  have same : ∀ worker : Worker Process, worker.1 ≠ group →
      (program.account ⟨group, thread⟩ point).i worker = program.i worker ∧
        (program.account ⟨group, thread⟩ point).failed worker = program.failed worker := by
    intro worker different
    cases point with
    | ret code =>
        by_cases negative : code < 0 <;>
          simp [account, returned, negative, update_other, different]
    | _ => exact ⟨rfl, rfl⟩
  have kept : (program.account ⟨group, thread⟩ point).stage = program.stage ∧
      (program.account ⟨group, thread⟩ point).mybarrier = program.mybarrier ∧
      (program.account ⟨group, thread⟩ point).destroyed = program.destroyed ∧
      (program.account ⟨group, thread⟩ point).barrier = program.barrier := by
    cases point <;> exact ⟨rfl, rfl, rfl, rfl⟩
  have advances : Advances program
      { program.account ⟨group, thread⟩ point with
        registry := program.registry.writeBarrier (place group)
          (changed.rename (Sigma.mk group))
        point := Function.update program.point ⟨group, thread⟩ successor }
      group (place group) changed :=
    { registry := rfl
      stage := kept.1
      mybarrier := kept.2.1
      destroyed := kept.2.2.1
      point := fun worker different => update_other _ _ _ _ different
      barrier := fun worker _ => congrFun kept.2.2.2 worker
      i := fun worker different => (same worker different).1
      failed := fun worker different => (same worker different).2 }
  refine sound.advance lives hosts advances (.exec thread point)
    (workload_exec notCall atPoint executed rfl rfl rfl) trivial fun other busy => ?_
  change (program.account ⟨group, thread⟩ point).barrier _ = _
  rw [kept.2.2.2]
  by_cases own : other = thread
  · exact own ▸ pointer
  · have busy : program.point ⟨group, other⟩ ≠ .idle := by
      simpa [own] using busy
    exact (sound.calling _ busy).2

omit [DecidableEq Process] in
/-- Writing back what a block holds changes nothing. -/
theorem writeBarrier_self {Thread : Type*} {registry : Registry Address Thread}
    {held : Barrier Thread} (block : registry.memory address = some held) :
    registry.writeBarrier address held = registry := by
  have same : Function.update registry.memory address (some held) = registry.memory := by
    rw [← block, Function.update_eq_self]
  cases registry
  simp only [Registry.writeBarrier, Registry.mk.injEq, true_and]
  exact same

theorem Sound.call (sound : program.Sound tgid timeout syncNum place)
    (injective : Function.Injective tgid) {worker : Worker Process}
    (stepTo : step tgid timeout syncNum program (.call worker) = some after) :
    after.Sound tgid timeout syncNum place := by
  obtain ⟨group, thread⟩ := worker
  obtain ⟨⟨created, idle, below⟩, effect⟩ := Option.ite_none_right_eq_some.mp stepTo
  have lives : program.Lives group := by
    by_contra gone
    have joined := Stage.joined_of_not_live created (by simpa [Lives] using gone)
    have finished := (sound.joined ⟨group, thread⟩ joined).2
    omega
  obtain ⟨-, barrier, hosts⟩ := sound.hosted group lives
  have looked : program.registry.waitLookup (tgid group.1) (program.mybarrier group) =
      some (program.registry, .ok (place group)) := by
    simp [Registry.waitLookup, sound.find injective lives]
  rw [looked] at effect
  obtain rfl := Option.some.inj effect
  have moved : BarrierSys.step (program.workload group barrier).system (.exec thread .idle) =
      some ⟨barrier, Function.update (fun other => program.point ⟨group, other⟩) thread .gate⟩ :=
    step_exec idle rfl
  have advances : Advances program
      { program with
        barrier := Function.update program.barrier ⟨group, thread⟩ (some (place group))
        point := Function.update program.point ⟨group, thread⟩ .gate }
      group (place group) barrier :=
    { registry := (writeBarrier_self hosts.1).symm
      stage := rfl
      mybarrier := rfl
      destroyed := rfl
      point := fun worker different => update_other _ _ _ _ different
      barrier := fun worker different => update_other _ _ _ _ different
      i := fun _ _ => rfl
      failed := fun _ _ => rfl }
  refine sound.advance lives hosts advances (.exec thread .idle) ?_ trivial fun other busy => ?_
  · unfold Workload.step
    rw [moved, Option.bind_some]
    simp only [workload, update_group]
    exact if_pos below
  · by_cases own : other = thread
    · simp [own]
    · have busy : program.point ⟨group, other⟩ ≠ .idle := by simpa [own] using busy
      simpa [own] using (sound.calling _ busy).2

theorem Sound.block (sound : program.Sound tgid timeout syncNum place)
    {worker : Worker Process}
    (stepTo : step tgid timeout syncNum program (.block worker) = some after) :
    after.Sound tgid timeout syncNum place := by
  obtain ⟨group, thread⟩ := worker
  have busy : program.point ⟨group, thread⟩ ≠ .idle := by
    intro idle
    obtain ⟨_, -, effect⟩ := Option.bind_eq_some_iff.mp stepTo
    rw [idle] at effect
    simp [BarrierSys.block] at effect
  obtain ⟨lives, -, barrier, hosts, target⟩ := sound.target busy
  have renamed := block_rename barrier (name_injective group) thread
    (program.point ⟨group, thread⟩)
  simp only [step, target, Option.bind_some, renamed, Option.map_map] at stepTo
  obtain ⟨changed, blocked, rfl⟩ := Option.map_eq_some_iff.mp stepTo
  have advances : Advances program
      { program with
        registry := program.registry.writeBarrier (place group)
          (changed.rename (Sigma.mk group)) } group (place group) changed :=
    ⟨rfl, rfl, rfl, rfl, fun _ _ => rfl, fun _ _ => rfl, fun _ _ => rfl, fun _ _ => rfl⟩
  refine sound.advance lives hosts advances (.block thread) ?_ trivial
    fun other busy => (sound.calling _ busy).2
  simp [Workload.step, BarrierSys.step, workload, blocked]

theorem Sound.expire (sound : program.Sound tgid timeout syncNum place)
    (stepTo : step tgid timeout syncNum program (.expire address) = some after) :
    after.Sound tgid timeout syncNum place := by
  obtain ⟨held, block, effect⟩ := Option.bind_eq_some_iff.mp stepTo
  obtain ⟨armed, same⟩ := Option.ite_none_right_eq_some.mp effect
  obtain rfl := Option.some.inj same
  obtain ⟨group, lives, rfl⟩ := (sound.nodes address).mp (sound.used address (by simp [block]))
  obtain ⟨-, barrier, hosts⟩ := sound.hosted group lives
  obtain rfl := Option.some.inj (block.symm.trans hosts.1)
  have advances : Advances program
      { program with
        registry := program.registry.writeBarrier (place group)
          (barrier.rename (Sigma.mk group)).myCallback } group (place group)
      barrier.myCallback :=
    ⟨by rw [rename_myCallback], rfl, rfl, rfl, fun _ _ => rfl, fun _ _ => rfl, fun _ _ => rfl,
      fun _ _ => rfl⟩
  refine sound.advance lives hosts advances .expire ?_ trivial
    fun other busy => (sound.calling _ busy).2
  have pending : barrier.hrTimer.isSome := armed
  simp [Workload.step, BarrierSys.step, workload, pending]

section Stages

variable (stage : after.stage =
  Function.update program.stage group.1 (program.stage group.1).next) (other : Group Process)
include stage

omit [DecidableEq Address] in
theorem lives_of_init (atStage : program.stage group.1 = .init group.2) :
    after.Lives other ↔ other = group ∨ program.Lives other := by
  by_cases same : other.1 = group.1
  · rw [Lives, Lives, stage, same, Function.update_self, atStage, Stage.live_next_init]
    exact or_congr_left ⟨fun half => Prod.ext same half, fun whole => congrArg Prod.snd whole⟩
  · have different : other ≠ group := fun whole => same (congrArg Prod.fst whole)
    simp [Lives, stage, same, different]

omit [DecidableEq Address] in
theorem created_of_init (atStage : program.stage group.1 = .init group.2) :
    (after.stage other.1).created other.2 = true ↔
      other = group ∨ (program.stage other.1).created other.2 = true := by
  by_cases same : other.1 = group.1
  · rw [stage, same, Function.update_self, atStage, Stage.created_next_init]
    exact or_congr_left ⟨fun half => Prod.ext same half, fun whole => congrArg Prod.snd whole⟩
  · have different : other ≠ group := fun whole => same (congrArg Prod.fst whole)
    simp [stage, same, different]

omit [DecidableEq Address] in
theorem lives_of_destroy (atStage : program.stage group.1 = .destroy group.2) :
    after.Lives other ↔ program.Lives other ∧ other ≠ group := by
  by_cases same : other.1 = group.1
  · rw [Lives, Lives, stage, same, Function.update_self, atStage, Stage.live_next_destroy]
    exact and_congr_right fun _ => not_congr
      ⟨fun half => Prod.ext same half, fun whole => congrArg Prod.snd whole⟩
  · have different : other ≠ group := fun whole => same (congrArg Prod.fst whole)
    simp [Lives, stage, same, different]

end Stages

/-- The main thread of a child creates a barrier and its threads. -/
theorem Sound.init (sound : program.Sound tgid timeout syncNum place)
    (injective : Function.Injective tgid) {contents : Barrier (Worker Process)}
    (stepTo : step tgid timeout syncNum program (.init group address contents) = some after) :
    after.Sound tgid timeout syncNum (Function.update place group address) := by
  obtain ⟨atStage, effect⟩ := Option.ite_none_right_eq_some.mp stepTo
  obtain ⟨⟨registry, barrierId⟩, served, same⟩ := Option.map_eq_some_iff.mp effect
  obtain ⟨rfl, inserted, flag, block⟩ := Registry.init_spec sound.started served
  rw [sound.nextId_eq injective atStage] at block same
  have fresh : address ∉ program.registry.nodes := Registry.not_node_of_fresh inserted.fresh
  have notLive : ¬ program.Lives group := by
    simp [Lives, atStage, Stage.not_live_init]
  have notCreated : (program.stage group.1).created group.2 = false := by
    simp [atStage, Stage.not_created_init]
  have apartFrom : ∀ other, program.Lives other → other ≠ group ∧ place other ≠ address := by
    intro other lives
    exact ⟨fun whole => notLive (whole ▸ lives),
      fun here => fresh (here ▸ sound.place_mem lives)⟩
  have placed : ∀ other, program.Lives other →
      Function.update place group address other = place other := fun other lives =>
    Function.update_of_ne (apartFrom other lives).1 ..
  have stage : after.stage = Function.update program.stage group.1 (program.stage group.1).next :=
    same ▸ rfl
  have lives := lives_of_init stage
  have created := created_of_init stage
  subst same
  constructor
  case started => exact fun cleared => absurd cleared flag
  case listed =>
    intro _
    have listed := inserted.nodes
    cases list : registry.barrierList with
    | none => simp [Registry.nodes, list] at listed
    | some => rfl
  case flagged => exact fun _ _ => flag
  case used =>
    intro other inUse
    rw [inserted.nodes, List.mem_cons]
    by_cases here : other = address
    · exact .inl here
    · exact .inr (sound.used other (by rwa [inserted.others other here] at inUse))
  case nodes =>
    intro other
    rw [inserted.nodes, List.mem_cons, sound.nodes]
    constructor
    · rintro (rfl | ⟨group', lived, rfl⟩)
      · exact ⟨group, (lives _ atStage).mpr (.inl rfl), Function.update_self ..⟩
      · exact ⟨group', (lives _ atStage).mpr (.inr lived), placed _ lived⟩
    · rintro ⟨group', lived, rfl⟩
      rcases (lives _ atStage).mp lived with rfl | lived
      · exact .inl (Function.update_self ..)
      · exact .inr ⟨group', lived, (placed _ lived).symm⟩
  case apart =>
    intro one two oneLives twoLives samePlace
    rcases (lives _ atStage).mp oneLives with rfl | oneBefore <;>
      rcases (lives _ atStage).mp twoLives with rfl | twoBefore
    · rfl
    · rw [Function.update_self, placed _ twoBefore] at samePlace
      exact absurd samePlace.symm (apartFrom _ twoBefore).2
    · rw [Function.update_self, placed _ oneBefore] at samePlace
      exact absurd samePlace (apartFrom _ oneBefore).2
    · rw [placed _ oneBefore, placed _ twoBefore] at samePlace
      exact sound.apart _ _ oneBefore twoBefore samePlace
  case hosted =>
    intro other lived
    rcases (lives _ atStage).mp lived with rfl | lived
    · refine ⟨Function.update_self .., ?_⟩
      rw [Function.update_self]
      exact hosts_fresh block fun thread => sound.waiting ⟨other, thread⟩ notCreated
    · obtain ⟨id, barrier, held, memory, trace, run⟩ := sound.hosted other lived
      refine ⟨by simpa [(apartFrom _ lived).1] using id, barrier, ?_, memory, trace, run⟩
      rw [placed _ lived]
      exact (inserted.others _ (apartFrom _ lived).2).trans held
  case calling =>
    intro worker busy
    obtain ⟨lived, pointer⟩ := sound.calling worker busy
    exact ⟨(lives _ atStage).mpr (.inr lived), by rw [placed _ lived]; exact pointer⟩
  case waiting =>
    intro worker later
    refine sound.waiting worker ?_
    by_contra before
    have now := (created worker.1 atStage).mpr (.inr (by simpa using before))
    simp [now] at later
  case joined =>
    intro worker joined
    by_cases own : worker.1.1 = group.1
    · rw [stage, own, Function.update_self, atStage, Stage.not_joined_next_init] at joined
      exact absurd joined (by decide)
    · rw [stage, Function.update_of_ne own] at joined
      exact sound.joined worker joined
  case destroyed =>
    intro other
    by_cases new : other = group
    · subst new
      have now := (lives other atStage).mpr (.inl rfl)
      rw [if_neg fun gone => Bool.noConfusion (gone.2.symm.trans now)]
      exact (sound.destroyed other).trans (if_neg fun before => by
        simp [notCreated] at before)
    · have sameCreated := (created other atStage).trans (or_iff_right new)
      have sameLives := (lives other atStage).trans (or_iff_right new)
      simp only [Lives, ← Bool.not_eq_true] at sameLives ⊢
      rw [sound.destroyed other]
      simp only [← Bool.not_eq_true, sameCreated, sameLives]

/-- The main thread of a child joins its threads. -/
theorem Sound.join (sound : program.Sound tgid timeout syncNum place) {process : Process}
    (stepTo : step tgid timeout syncNum program (.join process) = some after) :
    after.Sound tgid timeout syncNum place := by
  obtain ⟨⟨atStage, finished⟩, same⟩ := Option.ite_none_right_eq_some.mp stepTo
  obtain rfl := Option.some.inj same
  have stageOf (other : Process) (own : other = process) :
      Function.update program.stage process (program.stage process).next other =
        .destroy .first := by
    rw [own, Function.update_self, atStage]
    rfl
  have elsewhere (other : Process) (own : other ≠ process) :
      Function.update program.stage process (program.stage process).next other =
        program.stage other := Function.update_of_ne own ..
  have sameLife (other : Process) (half : Half) :
      (Function.update program.stage process (program.stage process).next other).live half =
        (program.stage other).live half := by
    by_cases own : other = process
    · rw [stageOf other own, own, atStage]
      rfl
    · rw [elsewhere other own]
  have sameCreated (other : Process) (half : Half) :
      (Function.update program.stage process (program.stage process).next other).created half =
        (program.stage other).created half := by
    by_cases own : other = process
    · rw [stageOf other own, own, atStage]
      rfl
    · rw [elsewhere other own]
  constructor
  case started => exact sound.started
  case listed => exact sound.listed
  case flagged =>
    intro other later
    by_cases own : other = process
    · exact sound.flagged other (by simp [own, atStage])
    · exact sound.flagged other (by rwa [← elsewhere other own])
  case used => exact sound.used
  case nodes =>
    simp only [Lives, sameLife]
    exact sound.nodes
  case apart =>
    simp only [Lives, sameLife]
    exact sound.apart
  case hosted =>
    simp only [Lives, sameLife]
    exact sound.hosted
  case calling =>
    simp only [Lives, sameLife]
    exact sound.calling
  case waiting =>
    simp only [sameCreated]
    exact sound.waiting
  case joined =>
    rintro ⟨⟨other, half⟩, thread⟩ joined
    by_cases own : other = process
    · subst own
      have left := finished half thread
      have lives : program.Lives (other, half) := by
        rw [Lives, atStage]
        rfl
      obtain ⟨-, barrier, -, memory, trace, run⟩ := sound.hosted _ lives
      exact ⟨left.1, run.all_cycles left.1 left.2⟩
    · exact sound.joined _ (by rwa [← elsewhere other own])
  case destroyed =>
    simp only [sameLife, sameCreated]
    exact sound.destroyed

/-- The main thread of a child destroys a barrier, which nobody is asleep on. -/
theorem Sound.destroy (sound : program.Sound tgid timeout syncNum place)
    (injective : Function.Injective tgid)
    (stepTo : step tgid timeout syncNum program (.destroy group) = some after) :
    after.Sound tgid timeout syncNum place := by
  obtain ⟨atStage, effect⟩ := Option.ite_none_right_eq_some.mp stepTo
  obtain ⟨⟨registry, code⟩, served, same⟩ := Option.map_eq_some_iff.mp effect
  have lives : program.Lives group := by
    rw [Lives, atStage]
    exact Stage.live_destroy group.2
  have joined : (program.stage group.1).joined = true := by
    rw [atStage]
    rfl
  obtain ⟨-, barrier, held, memory, trace, run⟩ := sound.hosted group lives
  have rest := Workload.resting_of_idle (several_threads group.2) run.project
    fun thread => (sound.joined ⟨group, thread⟩ joined).1
  have found := sound.find injective lives
  obtain ⟨rfl, rfl⟩ : registry = program.registry.removeBarrier (place group) ∧ code = 0 := by
    rcases Registry.destroy_cases served with
      ⟨missed, -, -⟩ | ⟨address, block, looked, holds, outcome⟩
    · simp [found] at missed
    · obtain rfl : place group = address := by simpa [found] using looked
      obtain rfl := Option.some.inj (held.symm.trans holds)
      rcases outcome with ⟨busy, -, -⟩ | ⟨-, removed, zero⟩
      · have empty : barrier.myQueue = [] := rest.myQueue
        simp [empty] at busy
      · exact ⟨removed, zero⟩
  have stage : after.stage = Function.update program.stage group.1 (program.stage group.1).next :=
    same ▸ rfl
  have lifeIff := lives_of_destroy stage
  have elsewhere (other : Process) (apart : other ≠ group.1) :
      after.stage other = program.stage other := by
    rw [stage, Function.update_of_ne apart]
  have here (other : Group Process) (own : other.1 = group.1) :
      (after.stage other.1).created other.2 = true := by
    rw [stage, own, Function.update_self, atStage, Stage.created_next_destroy]
  have apartFrom (other : Group Process) (lived : program.Lives other) (different : other ≠ group) :
      place other ≠ place group := fun samePlace =>
    different (sound.apart _ _ lived lives samePlace)
  have memoryOf (address : Address) (different : address ≠ place group) :
      (program.registry.removeBarrier (place group)).memory address =
        program.registry.memory address := Function.update_of_ne different ..
  have nodesIff (address : Address) :
      address ∈ (program.registry.removeBarrier (place group)).nodes ↔
        address ≠ place group ∧ address ∈ program.registry.nodes := by
    rw [Registry.remove_nodes]
    exact List.Nodup.mem_erase_iff program.registry.distinct
  subst same
  constructor
  case started =>
    intro flag
    have empty := sound.started flag
    simp [Registry.remove_nodes, empty]
  case listed =>
    intro flag
    simpa [Registry.removeBarrier] using sound.listed flag
  case flagged =>
    intro other later
    by_cases own : other = group.1
    · exact sound.flagged other (by simp [own, atStage])
    · exact sound.flagged other (by rwa [← elsewhere other own])
  case used =>
    intro address inUse
    by_cases gone : address = place group
    · exact absurd (by simp [gone, Registry.removeBarrier]) inUse
    · exact (nodesIff address).mpr
        ⟨gone, sound.used address (by rwa [memoryOf address gone] at inUse)⟩
  case nodes =>
    intro address
    rw [nodesIff, sound.nodes]
    constructor
    · rintro ⟨different, other, lived, rfl⟩
      exact ⟨other, (lifeIff _ atStage).mpr ⟨lived, fun same => different (by rw [same])⟩, rfl⟩
    · rintro ⟨other, lived, rfl⟩
      obtain ⟨lived, different⟩ := (lifeIff _ atStage).mp lived
      exact ⟨apartFrom other lived different, other, lived, rfl⟩
  case apart =>
    intro one two oneLives twoLives
    exact sound.apart one two ((lifeIff _ atStage).mp oneLives).1
      ((lifeIff _ atStage).mp twoLives).1
  case hosted =>
    intro other lived
    obtain ⟨lived, different⟩ := (lifeIff _ atStage).mp lived
    obtain ⟨id, otherBarrier, held, run⟩ := sound.hosted other lived
    exact ⟨id, otherBarrier, (memoryOf _ (apartFrom other lived different)).trans held, run⟩
  case calling =>
    intro worker busy
    obtain ⟨lived, pointer⟩ := sound.calling worker busy
    refine ⟨(lifeIff _ atStage).mpr ⟨lived, fun own => busy ?_⟩, pointer⟩
    exact (sound.joined worker (by rwa [own])).1
  case waiting =>
    intro worker notCreated
    by_cases own : worker.1.1 = group.1
    · simp [here worker.1 own] at notCreated
    · exact sound.waiting worker (by rwa [← elsewhere _ own])
  case joined =>
    intro worker later
    by_cases own : worker.1.1 = group.1
    · exact sound.joined worker (by rwa [own])
    · exact sound.joined worker (by rwa [← elsewhere _ own])
  case destroyed =>
    intro other
    by_cases own : other = group
    · subst own
      have gone : ¬ _ := fun lived => ((lifeIff other atStage).mp lived).2 rfl
      rw [if_pos ⟨here other rfl, by simpa [Lives] using gone⟩]
      exact Function.update_self ..
    · have sameLives := (lifeIff other atStage).trans (and_iff_left own)
      have kept : Function.update program.destroyed group (some 0) other =
          program.destroyed other := Function.update_of_ne own ..
      refine kept.trans ((sound.destroyed other).trans ?_)
      by_cases sameProcess : other.1 = group.1
      · have before : (program.stage other.1).created other.2 = true := by
          rw [sameProcess, atStage]
          rfl
        simp only [Lives, ← Bool.not_eq_true] at sameLives ⊢
        simp only [here other sameProcess, before, sameLives]
      · rw [elsewhere _ sameProcess]

end Moves

end Program

end Program

end BarrierSys

end KinuxKernel
