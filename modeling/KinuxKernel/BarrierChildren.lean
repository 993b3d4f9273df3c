import KinuxKernel.BarrierLookups
import KinuxKernel.BarrierWorkload

/-!
# The children of the user program

`main` of `user.c` forks child processes.  Each child creates two barriers and
the threads that use them, joins its threads and destroys its barriers.  All
children share the list of barriers.  Seen from the threads of one barrier the
whole program is a run of their loops, as long as the calls that change the list
and the lookups in it do not run into each other.
-/

namespace KinuxKernel

namespace BarrierSys

open TraceRun

section Renaming

variable {Thread Worker : Type*}

/-- A barrier whose threads go by other names. -/
@[simps]
def Barrier.rename (name : Thread → Worker) (barrier : Barrier Thread) : Barrier Worker where
  syncNum := barrier.syncNum
  left := barrier.left
  initCount := barrier.initCount
  barrierId := barrier.barrierId
  barrierLock := barrier.barrierLock.map name
  hrTimer := barrier.hrTimer
  tgid := barrier.tgid
  ktime := barrier.ktime
  timeout := barrier.timeout
  myQueue := barrier.myQueue.map name
  condFlag := barrier.condFlag
  timeoutFlag := barrier.timeoutFlag

variable (name : Thread → Worker) (barrier : Barrier Thread)

theorem rename_myCallback : (barrier.rename name).myCallback = barrier.myCallback.rename name := by
  simp [Barrier.rename, Barrier.myCallback, Barrier.wakeUpAll]

/-- Of the memory that `kmalloc` returned only unassigned fields remain. -/
theorem initialise_rename (contents : Barrier Worker) (barrierId count : BitVec 32)
    (timeout tgid : Int) :
    contents.initialise barrierId count timeout tgid =
      (({ Barrier.zeroed with
          ktime := contents.ktime
          timeoutFlag := contents.timeoutFlag } : Barrier Thread).initialise barrierId count
            timeout tgid).rename name := by
  simp [Barrier.rename, Barrier.initialise]

variable [DecidableEq Thread] [DecidableEq Worker] {name}

theorem rename_finishWait (injective : Function.Injective name) (thread : Thread) :
    (barrier.rename name).finishWait (name thread) = (barrier.finishWait thread).rename name := by
  simp [Barrier.rename, Barrier.finishWait, List.map_erase injective]

theorem rename_prepareToWait (injective : Function.Injective name) (thread : Thread) :
    (barrier.rename name).prepareToWait (name thread) =
      (barrier.prepareToWait thread).rename name := by
  by_cases queued : thread ∈ barrier.myQueue
  · have renamed : name thread ∈ barrier.myQueue.map name := List.mem_map_of_mem queued
    simp [Barrier.rename, Barrier.prepareToWait, List.insert_of_mem queued,
      List.insert_of_mem renamed]
  · have renamed : name thread ∉ barrier.myQueue.map name := by
      rwa [List.mem_map_of_injective injective]
    simp [Barrier.rename, Barrier.prepareToWait, List.insert_of_not_mem queued,
      List.insert_of_not_mem renamed]

/-- Renaming commutes with every statement. -/
theorem execute_rename (injective : Function.Injective name) (thread : Thread)
    (point : WaitPoint) :
    execute (name thread) (barrier.rename name) point =
      (execute thread barrier point).map fun result => (result.1.rename name, result.2) := by
  cases point with
  | gate | sleep =>
      simp only [execute, Barrier.rename_condFlag, rename_finishWait barrier injective]
      split <;> rfl
  | lockArrive | lockLeave =>
      cases locked : barrier.barrierLock <;> simp [execute, Barrier.rename, locked]
  | cancelTimer =>
      simp only [execute, Barrier.rename_timeout]
      split <;> rfl
  | _ => rfl

theorem block_rename (injective : Function.Injective name) (thread : Thread)
    (point : WaitPoint) :
    block (name thread) (barrier.rename name) point =
      (block thread barrier point).map fun result => result.rename name := by
  cases point with
  | gate | sleep =>
      simp only [block, Barrier.rename_condFlag, rename_prepareToWait barrier injective]
      split <;> rfl
  | _ => rfl

end Renaming

/-- The two barriers of a child: `mybarrier1` and `mybarrier2`. -/
inductive Half where
  | first
  | second
deriving DecidableEq, Repr

namespace Half

instance : Fintype Half :=
  ⟨{.first, .second}, fun half => by cases half <;> decide⟩

/-- The numbers of threads in the calls of `ChildProcess`. -/
def threadCount : Half → Nat
  | .first => 20
  | .second => 5

/-- The id that the first and the second barrier of a process get. -/
def barrierId : Half → BitVec 32
  | .first => 1
  | .second => 2

end Half

/-- Where the main thread of a child stands. -/
inductive Stage where
  | init (half : Half)
  | join
  | destroy (half : Half)
  | exited
deriving DecidableEq, Repr

namespace Stage

/-- What `main` does next. -/
def next : Stage → Stage
  | .init .first => .init .second
  | .init .second => .join
  | .join => .destroy .first
  | .destroy .first => .destroy .second
  | .destroy .second => .exited
  | .exited => .exited

/-- `ChildProcess` has created the threads of the barrier. -/
def created : Stage → Half → Bool
  | .init .first, _ => false
  | .init .second, half => half = .first
  | _, _ => true

/-- The barrier has been initialised and not been destroyed. -/
def live : Stage → Half → Bool
  | .init .first, _ | .exited, _ => false
  | .init .second, half => half = .first
  | .destroy .second, half => half = .second
  | .join, _ | .destroy .first, _ => true

/-- The threads have been joined. -/
def joined : Stage → Bool
  | .destroy _ | .exited => true
  | _ => false

/-- A barrier that exists has its threads. -/
theorem created_of_live {stage : Stage} {half : Half} (live : stage.live half = true) :
    stage.created half = true := by
  rcases stage with (_ | _) | _ | _ | _ <;> cases half <;> first | rfl | exact live

/-- Threads whose barrier is gone have been joined. -/
theorem joined_of_not_live {stage : Stage} {half : Half} (created : stage.created half = true)
    (gone : stage.live half = false) : stage.joined = true := by
  rcases stage with (_ | _) | _ | (_ | _) | _ <;> cases half <;>
    simp_all [Stage.created, live, joined]

theorem live_next_init (half other : Half) :
    (next (.init half)).live other = true ↔ other = half ∨ live (.init half) other = true := by
  cases half <;> cases other <;> simp [next, live]

theorem created_next_init (half other : Half) :
    (next (.init half)).created other = true ↔
      other = half ∨ created (.init half) other = true := by
  cases half <;> cases other <;> simp [next, created]

theorem live_next_destroy (half other : Half) :
    (next (.destroy half)).live other = true ↔
      live (.destroy half) other = true ∧ other ≠ half := by
  cases half <;> cases other <;> simp [next, live]

theorem not_live_init (half : Half) : live (.init half) half = false := by
  cases half <;> rfl

theorem not_created_init (half : Half) : created (.init half) half = false := by
  cases half <;> rfl

theorem not_joined_next_init (half : Half) : (next (.init half)).joined = false := by
  cases half <;> rfl

theorem created_next_destroy (half other : Half) : (next (.destroy half)).created other = true := by
  cases half <;> rfl

theorem live_destroy (half : Half) : live (.destroy half) half = true := by
  cases half <;> rfl

end Stage

section Program

variable {Address Process : Type*}

/-- The threads of one barrier of a child. -/
abbrev Group (Process : Type*) :=
  Process × Half

abbrev Worker (Process : Type*) :=
  Σ group : Group Process, Fin group.2.threadCount

/-- All children: the kernel's registry; for each child where its main thread
stands, the ids it keeps in `mybarrier1` and `mybarrier2` and what
`barrier_destroy` has returned; for each thread its place in `barrier_wait`, the
variable `barrier` of this call, and its loop in `Threadfn`. -/
structure Program (Address Process : Type*) where
  registry : Registry Address (Worker Process)
  stage : Process → Stage
  mybarrier : Group Process → BitVec 32
  destroyed : Group Process → Option Int
  barrier : Worker Process → Option Address
  point : Worker Process → WaitPoint
  i : Worker Process → Nat
  failed : Worker Process → Nat

inductive ProgramEvent (Address Process : Type*) where
  | init (group : Group Process) (address : Address) (contents : Barrier (Worker Process))
  | call (worker : Worker Process)
  | exec (worker : Worker Process) (point : WaitPoint)
  | block (worker : Worker Process)
  | expire (address : Address)
  | join (process : Process)
  | destroy (group : Group Process)

namespace Program

/-- The children after `fork`, on a freshly booted kernel. -/
def forked : Program Address Process where
  registry := .boot
  stage := fun _ => .init .first
  mybarrier := fun _ => 0
  destroyed := fun _ => none
  barrier := fun _ => none
  point := fun _ => .idle
  i := fun _ => 0
  failed := fun _ => 0

section Steps

variable [DecidableEq Address] [DecidableEq Process]

/-- What `Threadfn` does with a result of `barrier_wait`. -/
def returned (program : Program Address Process) (worker : Worker Process) (code : Int) :
    Program Address Process :=
  { program with
    i := Function.update program.i worker (program.i worker + 1)
    failed :=
      if code < 0 then Function.update program.failed worker (program.failed worker + 1)
      else program.failed }

/-- What a statement of `barrier_wait` means for the loop around it. -/
def account (program : Program Address Process) (worker : Worker Process) :
    WaitPoint → Program Address Process
  | .ret code => program.returned worker code
  | _ => program

/-- The block that a thread's call works on. -/
def target (program : Program Address Process) (worker : Worker Process) :
    Option (Address × Barrier (Worker Process)) :=
  (program.barrier worker).bind fun address =>
    (program.registry.memory address).map fun barrier => (address, barrier)

/-- One event of the program.  Each `barrier_init`, each `barrier_destroy` and the lookup
of each `barrier_wait` is one step; what can go wrong between their statements is
the subject of `BarrierConcurrentInit` and `BarrierLifetime`. -/
def step (tgid : Process → Int) (timeout syncNum : Int) (program : Program Address Process) :
    ProgramEvent Address Process → Option (Program Address Process)
  | .init group address contents =>
      if program.stage group.1 = .init group.2 then
        (program.registry.barrierInit address contents (BitVec.ofNat 32 group.2.threadCount)
            timeout (tgid group.1)).map fun result =>
          { program with
            registry := result.1
            stage := Function.update program.stage group.1 (program.stage group.1).next
            mybarrier := Function.update program.mybarrier group result.2 }
      else none
  | .call worker =>
      if (program.stage worker.1.1).created worker.1.2 ∧ program.point worker = .idle ∧
          (program.i worker : Int) < syncNum then
        (program.registry.waitLookup (tgid worker.1.1) (program.mybarrier worker.1)).map
          fun result =>
            match result.2 with
            | .ok address =>
                { program with
                  registry := result.1
                  barrier := Function.update program.barrier worker (some address)
                  point := Function.update program.point worker .gate }
            | .error code => { program.returned worker code with registry := result.1 }
      else none
  | .exec worker point =>
      if point ≠ .idle ∧ program.point worker = point then
        (program.target worker).bind fun place =>
          (execute worker place.2 point).map fun result =>
            { program.account worker point with
              registry := program.registry.writeBarrier place.1 result.1
              point := Function.update program.point worker result.2 }
      else none
  | .block worker =>
      (program.target worker).bind fun place =>
        (block worker place.2 (program.point worker)).map fun barrier =>
          { program with registry := program.registry.writeBarrier place.1 barrier }
  | .expire address =>
      (program.registry.memory address).bind fun barrier =>
        if barrier.hrTimer.isSome then
          some { program with
            registry := program.registry.writeBarrier address barrier.myCallback }
        else none
  | .join process =>
      if program.stage process = .join ∧ ∀ half, ∀ thread : Fin half.threadCount,
          program.point ⟨(process, half), thread⟩ = .idle ∧
            syncNum ≤ program.i ⟨(process, half), thread⟩ then
        some { program with
          stage := Function.update program.stage process (program.stage process).next }
      else none
  | .destroy group =>
      if program.stage group.1 = .destroy group.2 then
        (program.registry.barrierDestroy (program.mybarrier group) (tgid group.1)).map
          fun result =>
            { program with
              registry := result.1
              stage := Function.update program.stage group.1 (program.stage group.1).next
              destroyed := Function.update program.destroyed group (some result.2) }
      else none

/-- Nothing but going to sleep is left to do. -/
def Over (tgid : Process → Int) (timeout syncNum : Int) (program : Program Address Process) :
    Prop :=
  ∀ event, (∀ worker, event ≠ .block worker) → step tgid timeout syncNum program event = none

end Steps

section Groups

variable (tgid : Process → Int) (timeout syncNum : Int) (program : Program Address Process)

/-- The barrier of the group exists. -/
def Lives (group : Group Process) : Prop :=
  (program.stage group.1).live group.2 = true

/-- What the threads of a barrier see of the program. -/
def workload (group : Group Process) (barrier : Barrier (Fin group.2.threadCount)) :
    Workload (Fin group.2.threadCount) where
  system := ⟨barrier, fun thread => program.point ⟨group, thread⟩⟩
  i := fun thread => program.i ⟨group, thread⟩
  failed := fun thread => program.failed ⟨group, thread⟩

/-- A block holds the barrier of a group as the loops of its threads have left
it. -/
def Hosts (group : Group Process) (address : Address)
    (barrier : Barrier (Fin group.2.threadCount)) : Prop :=
  program.registry.memory address = some (barrier.rename (Sigma.mk group)) ∧
    ∃ memory trace, Workload.QuietRun syncNum
      (Workload.started (created memory group.2.barrierId
        (BitVec.ofNat 32 group.2.threadCount) timeout (tgid group.1))) trace
      (program.workload group barrier)

/-- The list holds the barriers of the live groups and nothing else, and each of
them is the barrier that its threads and their main thread mean. -/
structure Sound (place : Group Process → Address) : Prop where
  started : program.registry.firstFlag = 0 → program.registry.nodes = []
  listed : program.registry.firstFlag ≠ 0 → program.registry.barrierList.isSome
  flagged : ∀ process, program.stage process ≠ .init .first → program.registry.firstFlag ≠ 0
  used : ∀ address, program.registry.memory address ≠ none → address ∈ program.registry.nodes
  nodes : ∀ address, address ∈ program.registry.nodes ↔
    ∃ group, program.Lives group ∧ place group = address
  apart : ∀ group other, program.Lives group → program.Lives other →
    place group = place other → group = other
  hosted : ∀ group, program.Lives group →
    program.mybarrier group = group.2.barrierId ∧
      ∃ barrier, program.Hosts tgid timeout syncNum group (place group) barrier
  calling : ∀ worker, program.point worker ≠ .idle →
    program.Lives worker.1 ∧ program.barrier worker = some (place worker.1)
  waiting : ∀ worker, (program.stage worker.1.1).created worker.1.2 = false →
    program.point worker = .idle ∧ program.i worker = 0 ∧ program.failed worker = 0
  joined : ∀ worker, (program.stage worker.1.1).joined = true →
    program.point worker = .idle ∧ program.i worker = syncNum.toNat
  destroyed : ∀ group, program.destroyed group =
    if (program.stage group.1).created group.2 ∧ (program.stage group.1).live group.2 = false
    then some 0 else none

end Groups

section Facts

variable {tgid : Process → Int} {timeout syncNum : Int} {program : Program Address Process}
  {place : Group Process → Address} {group : Group Process} {address : Address}
  {barrier : Barrier (Fin group.2.threadCount)}

theorem card_threads (half : Half) :
    Fintype.card (Fin half.threadCount) = (BitVec.ofNat 32 half.threadCount).toNat := by
  cases half <;> rfl

theorem several_threads (half : Half) : 2 ≤ (BitVec.ofNat 32 half.threadCount).toNat := by
  cases half <;> decide

/-- The barrier in the block has the group's process and id. -/
theorem Hosts.key (hosts : program.Hosts tgid timeout syncNum group address barrier) :
    barrier.tgid = tgid group.1 ∧ barrier.barrierId = group.2.barrierId := by
  obtain ⟨-, memory, trace, run⟩ := hosts
  have setup := run.project.sameSetup
  exact ⟨setup.tgid, setup.barrierId⟩

theorem Hosts.handle (hosts : program.Hosts tgid timeout syncNum group address barrier) :
    program.registry.handle address = some (tgid group.1, group.2.barrierId) := by
  simp [Registry.handle, hosts.1, hosts.key.1, hosts.key.2]

/-- What `barrier_init` has made of a block is a barrier for threads that have not
begun. -/
theorem hosts_fresh {contents : Barrier (Worker Process)}
    (block : program.registry.memory address = some (contents.initialise group.2.barrierId
      (BitVec.ofNat 32 group.2.threadCount) timeout (tgid group.1)))
    (idle : ∀ thread, program.point ⟨group, thread⟩ = .idle ∧ program.i ⟨group, thread⟩ = 0 ∧
      program.failed ⟨group, thread⟩ = 0) :
    ∃ barrier, program.Hosts tgid timeout syncNum group address barrier := by
  let memory : Barrier (Fin group.2.threadCount) :=
    { Barrier.zeroed with
      ktime := contents.ktime
      timeoutFlag := contents.timeoutFlag }
  let system := created memory group.2.barrierId (BitVec.ofNat 32 group.2.threadCount) timeout
    (tgid group.1)
  have started : program.workload group system.barrier = Workload.started system := by
    simp [workload, Workload.started, system, created, idle]
  refine ⟨system.barrier, block.trans (congrArg some (initialise_rename ..)), memory, [], ?_⟩
  rw [started]
  exact Run.start

theorem barrierId_injective : Function.Injective Half.barrierId := by
  intro half other same
  cases half <;> cases other <;> first | rfl | exact absurd same (by decide)

namespace Sound

variable (sound : program.Sound tgid timeout syncNum place)
include sound

theorem handle (lives : program.Lives group) :
    program.registry.handle (place group) = some (tgid group.1, group.2.barrierId) := by
  obtain ⟨-, barrier, hosts⟩ := sound.hosted group lives
  exact hosts.handle

theorem place_mem (lives : program.Lives group) : place group ∈ program.registry.nodes :=
  (sound.nodes _).mpr ⟨group, lives, rfl⟩

/-- A lookup with the id that the group keeps finds the group's barrier. -/
theorem find (injective : Function.Injective tgid) (lives : program.Lives group) :
    program.registry.findBarrier (tgid group.1) (program.mybarrier group) =
      some (some (place group)) := by
  have member := sound.place_mem lives
  have own := sound.handle lives
  rw [(sound.hosted group lives).1]
  cases found : program.registry.findBarrier (tgid group.1) group.2.barrierId with
  | none =>
      have none : program.registry.barrierList = none := by
        simpa [Registry.findBarrier] using found
      simp [Registry.nodes, none] at member
  | some result =>
      cases result with
      | none =>
          obtain ⟨list, same, missed⟩ := Option.map_eq_some_iff.mp found
          have absent := List.find?_eq_none.mp missed (place group)
            (by simpa [Registry.nodes, same] using member)
          simp [own] at absent
      | some node =>
          obtain ⟨listed, key⟩ := Registry.find_spec found
          obtain ⟨other, otherLives, rfl⟩ := (sound.nodes node).mp listed
          rw [sound.handle otherLives] at key
          obtain ⟨sameProcess, sameId⟩ := Prod.mk.inj (Option.some.inj key)
          have same : other = group :=
            Prod.ext (injective sameProcess) (barrierId_injective sameId)
          rw [same]

/-- A node belongs to a process exactly if it is the place of a group of it. -/
theorem ownedBy_iff (injective : Function.Injective tgid) (process : Process)
    (listed : address ∈ program.registry.nodes) :
    program.registry.ownedBy (tgid process) address = true ↔
      ∃ half, program.Lives (process, half) ∧ place (process, half) = address := by
  obtain ⟨⟨owner, half⟩, lives, rfl⟩ := (sound.nodes address).mp listed
  rw [Registry.ownedBy_eq, sound.handle lives]
  simp only [Option.any_some, decide_eq_true_eq]
  constructor
  · intro same
    obtain rfl := injective same
    exact ⟨half, lives, rfl⟩
  · rintro ⟨other, otherLives, same⟩
    obtain ⟨rfl, -⟩ := Prod.mk.inj (sound.apart _ _ otherLives lives same)
    rfl

/-- A process has as many barriers in the list as live groups. -/
theorem ownCount_eq_zero (injective : Function.Injective tgid) (process : Process)
    (none : ∀ half, ¬ program.Lives (process, half)) :
    program.registry.ownCount (tgid process) = 0 := by
  rw [Registry.ownCount, List.countP_eq_zero]
  intro address listed owned
  obtain ⟨half, lives, -⟩ := (sound.ownedBy_iff injective process listed).mp owned
  exact none half lives

theorem ownCount_eq_one (injective : Function.Injective tgid) (process : Process) (half : Half)
    (only : ∀ other, program.Lives (process, other) ↔ other = half) :
    program.registry.ownCount (tgid process) = 1 := by
  classical
  have lives := (only half).mpr rfl
  have own : program.registry.nodes.countP (program.registry.ownedBy (tgid process)) =
      program.registry.nodes.countP (· == place (process, half)) := by
    apply List.countP_congr
    intro address listed
    rw [sound.ownedBy_iff injective process listed, beq_iff_eq]
    constructor
    · rintro ⟨other, otherLives, rfl⟩
      rw [(only other).mp otherLives]
    · rintro rfl
      exact ⟨half, lives, rfl⟩
  rw [Registry.ownCount, own]
  exact List.count_eq_one_of_mem program.registry.distinct (sound.place_mem lives)

/-- The ids come in the order in which a child creates its barriers. -/
theorem nextId_eq (injective : Function.Injective tgid)
    (atStage : program.stage group.1 = .init group.2) :
    program.registry.nextId (tgid group.1) = group.2.barrierId := by
  obtain ⟨process, half⟩ := group
  cases half with
  | first =>
      have none := sound.ownCount_eq_zero injective process fun half => by
        simp only [Lives, atStage]
        simp [Stage.live]
      simp [Registry.nextId, none, Half.barrierId]
  | second =>
      have one := sound.ownCount_eq_one injective process .first fun half => by
        simp only [Lives, atStage]
        simp [Stage.live]
      simp [Registry.nextId, one, Half.barrierId]

end Sound

end Facts

end Program

end Program

end BarrierSys

end KinuxKernel
