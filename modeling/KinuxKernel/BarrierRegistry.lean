import KinuxKernel.BarrierSystem

/-!
# The list of barriers

The static variables of `barrier_sys.c` with the list of all barriers, and the
calls `barrier_init` and `barrier_destroy` made one at a time.  A barrier gets
the number of barriers that its process has, plus one, as its id; ids stay
unique and resolve to their barriers in exactly the histories in which this id
is never in use already.
-/

namespace KinuxKernel

namespace BarrierSys

open TraceRun

/-- The static variables and the allocated blocks.  There is no list before
`INIT_LIST_HEAD`; its nodes are allocated and occur once. -/
structure Registry (Address Thread : Type*) where
  firstFlag : Int
  barrierList : Option (List Address)
  memory : Address → Option (Barrier Thread)
  distinct : (barrierList.getD []).Nodup
  allocated : ∀ address ∈ barrierList.getD [], (memory address).isSome

namespace Registry

variable {Address Thread : Type*}

/-- After boot all static variables are zero. -/
def boot : Registry Address Thread where
  firstFlag := 0
  barrierList := none
  memory := fun _ => none
  distinct := by simp
  allocated := by simp

variable (registry : Registry Address Thread)

/-- The nodes of the list. -/
def nodes : List Address :=
  registry.barrierList.getD []

/-- What a lookup compares: the process and the id of the barrier. -/
def handle (address : Address) : Option (Int × BitVec 32) :=
  (registry.memory address).map fun barrier => (barrier.tgid, barrier.barrierId)

/-- The body of `if (atomic_read(&first_flag) == 0)`. -/
def initialiseGlobals : Registry Address Thread :=
  { registry with
    firstFlag := 1
    barrierList := some []
    distinct := by simp
    allocated := by simp }

/-- `list_to_barrier(loop)->tgid == current->tgid`. -/
def ownedBy (tgid : Int) (address : Address) : Bool :=
  (registry.memory address).any fun barrier => barrier.tgid = tgid

/-- The loop that counts the barriers of the process, in an `int`.  It faults
on a list head that was never initialised. -/
def countBarriers (tgid : Int) : Option (BitVec 32) :=
  registry.barrierList.map fun list =>
    BitVec.ofNat 32 (list.countP (registry.ownedBy tgid))

/-- The loop that looks a barrier up, in `barrier_wait` and `barrier_destroy`.
It faults on a list head that was never initialised. -/
def findBarrier (tgid : Int) (barrierId : BitVec 32) : Option (Option Address) :=
  registry.barrierList.map fun list =>
    list.find? fun address => registry.handle address = some (tgid, barrierId)

variable [DecidableEq Address]

/-- The part of `barrier_init` under `init_dest_lock`.  `kmalloc` returns a block
that is not in use, with unknown contents. -/
def insertBarrier (address : Address) (contents : Barrier Thread) (numBarriers count : BitVec 32)
    (timeout tgid : Int) : Option (Registry Address Thread × BitVec 32) :=
  if free : registry.barrierList.isSome ∧ registry.memory address = none then
    some
      ({ registry with
          barrierList := some (address :: registry.nodes)
          memory := Function.update registry.memory address
            (some (contents.initialise (numBarriers + 1) count timeout tgid))
          distinct := by
            refine List.nodup_cons.mpr ⟨fun listed => ?_, registry.distinct⟩
            have taken := registry.allocated address listed
            simp [free.2] at taken
          allocated := by
            intro other member
            by_cases same : other = address
            · simp [same]
            · have listed : other ∈ registry.nodes := by simpa [same] using member
              simpa [same] using registry.allocated other listed },
        numBarriers + 1)
  else none

/-- `list_del` and `kfree`. -/
def removeBarrier (address : Address) : Registry Address Thread :=
  { registry with
    barrierList := registry.barrierList.map (·.erase address)
    memory := Function.update registry.memory address none
    distinct := by
      have distinct := registry.distinct
      cases listed : registry.barrierList with
      | none => simp
      | some list => simpa [listed] using (by simpa [listed] using distinct : list.Nodup).erase _
    allocated := by
      intro other member
      have distinct := registry.distinct
      have allocated := registry.allocated
      cases listed : registry.barrierList with
      | none => simp [listed] at member
      | some list =>
          simp only [listed, Option.getD_some, Option.map_some] at distinct allocated member
          obtain ⟨different, listed⟩ := distinct.mem_erase_iff.mp member
          simpa [different] using allocated other listed }

/-- A statement of `barrier_wait` or the timer writes to a barrier. -/
def writeBarrier (address : Address) (barrier : Barrier Thread) : Registry Address Thread :=
  { registry with
    memory := Function.update registry.memory address (some barrier)
    allocated := by
      intro other listed
      by_cases same : other = address
      · simp [same]
      · simpa [same] using registry.allocated other listed }

/-- A whole call of `barrier_init`. -/
def barrierInit (address : Address) (contents : Barrier Thread) (count : BitVec 32)
    (timeout tgid : Int) : Option (Registry Address Thread × BitVec 32) :=
  let registry := if registry.firstFlag = 0 then registry.initialiseGlobals else registry
  (registry.countBarriers tgid).bind fun numBarriers =>
    registry.insertBarrier address contents numBarriers count timeout tgid

/-- A whole call of `barrier_destroy`. -/
def barrierDestroy (barrierId : BitVec 32) (tgid : Int) :
    Option (Registry Address Thread × Int) :=
  (registry.findBarrier tgid barrierId).bind fun found =>
    match found with
    | none => some (registry, -EINVAL)
    | some address => (registry.memory address).map fun barrier =>
        if barrier.myQueue ≠ [] then (registry, -EBUSY)
        else (registry.removeBarrier address, 0)

/-- The number of barriers of a process. -/
def ownCount (tgid : Int) : Nat :=
  registry.nodes.countP (registry.ownedBy tgid)

/-- The id that the next barrier of a process gets. -/
def nextId (tgid : Int) : BitVec 32 :=
  BitVec.ofNat 32 (registry.ownCount tgid) + 1

/-- No two barriers have the same process and id. -/
def Unique : Prop :=
  (registry.nodes.map registry.handle).Nodup

instance : Decidable registry.Unique :=
  inferInstanceAs (Decidable (registry.nodes.map registry.handle).Nodup)

/-- A barrier has been put in front of the list. -/
structure Inserted (address : Address) (tgid : Int) (barrierId : BitVec 32)
    (after : Registry Address Thread) : Prop where
  fresh : registry.memory address = none
  nodes : after.nodes = address :: registry.nodes
  own : after.handle address = some (tgid, barrierId)
  others : ∀ other, other ≠ address → after.memory other = registry.memory other

section Facts

variable {registry} {after : Registry Address Thread} {address : Address}
  {contents : Barrier Thread} {numBarriers count barrierId : BitVec 32} {timeout tgid : Int}
  {code : Int}

omit [DecidableEq Address] in
theorem ownedBy_eq (tgid : Int) (address : Address) :
    registry.ownedBy tgid address = (registry.handle address).any fun key => key.1 = tgid := by
  unfold ownedBy handle
  cases registry.memory address <;> rfl

omit [DecidableEq Address] in
theorem handle_of_node (listed : address ∈ registry.nodes) :
    ∃ key, registry.handle address = some key := by
  obtain ⟨barrier, block⟩ := Option.isSome_iff_exists.mp (registry.allocated address listed)
  exact ⟨_, by rw [handle, block]; rfl⟩

omit [DecidableEq Address] in
theorem not_node_of_fresh (fresh : registry.memory address = none) :
    address ∉ registry.nodes := by
  intro listed
  have taken := registry.allocated address listed
  simp [fresh] at taken

theorem insert_spec
    (inserted : registry.insertBarrier address contents numBarriers count timeout tgid =
      some (after, barrierId)) :
    barrierId = numBarriers + 1 ∧ registry.Inserted address tgid barrierId after ∧
      after.firstFlag = registry.firstFlag ∧
      after.memory address = some (contents.initialise barrierId count timeout tgid) := by
  unfold insertBarrier at inserted
  split at inserted
  · next free =>
      simp only [Option.some.injEq, Prod.mk.injEq] at inserted
      obtain ⟨rfl, rfl⟩ := inserted
      exact ⟨rfl, ⟨free.2, rfl, by simp [handle], fun other different => by simp [different]⟩,
        rfl, by simp⟩
  · simp at inserted

/-- A call of `barrier_init` puts a barrier in front of the list, whose id is the
number of its process's barriers plus one. -/
theorem init_spec (started : registry.firstFlag = 0 → registry.nodes = [])
    (served : registry.barrierInit address contents count timeout tgid =
      some (after, barrierId)) :
    barrierId = registry.nextId tgid ∧ registry.Inserted address tgid barrierId after ∧
      after.firstFlag ≠ 0 ∧
      after.memory address = some (contents.initialise barrierId count timeout tgid) := by
  unfold barrierInit at served
  obtain ⟨numBarriers, counted, inserted⟩ := Option.bind_eq_some_iff.mp served
  obtain ⟨list, listed, rfl⟩ := Option.map_eq_some_iff.mp counted
  obtain ⟨rfl, put, flag, block⟩ := insert_spec inserted
  by_cases first : registry.firstFlag = 0
  · have empty := started first
    rw [if_pos first] at put listed flag block ⊢
    obtain rfl : [] = list := Option.some.inj listed
    have id : registry.nextId tgid = BitVec.ofNat 32 0 + 1 := by simp [nextId, ownCount, empty]
    refine ⟨id.symm, ⟨put.fresh, ?_, put.own, put.others⟩, ?_, block⟩
    · rw [put.nodes, empty]
      rfl
    · rw [flag]
      exact one_ne_zero
  · rw [if_neg first] at put listed flag block ⊢
    refine ⟨by simp [nextId, ownCount, nodes, listed], put, ?_, block⟩
    rwa [flag]

omit [DecidableEq Address] in
theorem find_spec (found : registry.findBarrier tgid barrierId = some (some address)) :
    address ∈ registry.nodes ∧ registry.handle address = some (tgid, barrierId) := by
  obtain ⟨list, listed, found⟩ := Option.map_eq_some_iff.mp found
  exact ⟨by simpa [nodes, listed] using List.mem_of_find?_eq_some found,
    by simpa using List.find?_some found⟩

omit [DecidableEq Address] in
/-- With unique handles a lookup finds the barrier that has the handle. -/
theorem find_of_unique (unique : registry.Unique) (listed : address ∈ registry.nodes)
    (own : registry.handle address = some (tgid, barrierId)) :
    registry.findBarrier tgid barrierId = some (some address) := by
  cases found : registry.findBarrier tgid barrierId with
  | none =>
      have none : registry.barrierList = none := by simpa [findBarrier] using found
      simp [nodes, none] at listed
  | some result =>
      cases result with
      | none =>
          obtain ⟨list, same, missed⟩ := Option.map_eq_some_iff.mp found
          have absent := List.find?_eq_none.mp missed address (by simpa [nodes, same] using listed)
          simp [own] at absent
      | some other =>
          obtain ⟨otherListed, otherOwn⟩ := find_spec found
          rw [List.inj_on_of_nodup_map unique otherListed listed (otherOwn.trans own.symm)]

/-- What a call of `barrier_destroy` finds and does. -/
theorem destroy_cases (served : registry.barrierDestroy barrierId tgid = some (after, code)) :
    (registry.findBarrier tgid barrierId = some none ∧ after = registry ∧ code = -EINVAL) ∨
    ∃ address barrier, registry.findBarrier tgid barrierId = some (some address) ∧
      registry.memory address = some barrier ∧
      ((barrier.myQueue ≠ [] ∧ after = registry ∧ code = -EBUSY) ∨
        (barrier.myQueue = [] ∧ after = registry.removeBarrier address ∧ code = 0)) := by
  obtain ⟨found, looked, served⟩ := Option.bind_eq_some_iff.mp served
  cases found with
  | none =>
      obtain ⟨rfl, rfl⟩ := Prod.mk.inj (Option.some.inj served)
      exact .inl ⟨looked, rfl, rfl⟩
  | some address =>
      obtain ⟨barrier, block, served⟩ := Option.map_eq_some_iff.mp served
      refine .inr ⟨address, barrier, looked, block, ?_⟩
      split at served
      · next busy =>
          obtain ⟨rfl, rfl⟩ := Prod.mk.inj served
          exact .inl ⟨busy, rfl, rfl⟩
      · next empty =>
          obtain ⟨rfl, rfl⟩ := Prod.mk.inj served
          exact .inr ⟨not_not.mp empty, rfl, rfl⟩

/-- A call of `barrier_destroy` removes the first barrier with the wanted handle,
or changes nothing and fails. -/
theorem destroy_spec (served : registry.barrierDestroy barrierId tgid = some (after, code)) :
    (code = 0 ∧ ∃ address, address ∈ registry.nodes ∧
      registry.handle address = some (tgid, barrierId) ∧ after = registry.removeBarrier address) ∨
    (code ≠ 0 ∧ after = registry) := by
  rcases destroy_cases served with
    ⟨-, rfl, rfl⟩ | ⟨address, barrier, looked, -, ⟨-, rfl, rfl⟩ | ⟨-, rfl, rfl⟩⟩
  · exact .inr ⟨by decide, rfl⟩
  · exact .inr ⟨by decide, rfl⟩
  · obtain ⟨listed, own⟩ := find_spec looked
    exact .inl ⟨rfl, address, listed, own, rfl⟩

theorem remove_nodes : (registry.removeBarrier address).nodes = registry.nodes.erase address := by
  change (registry.barrierList.map (·.erase address)).getD [] =
    (registry.barrierList.getD []).erase address
  cases registry.barrierList <;> simp

theorem remove_handle {other : Address} (different : other ≠ address) :
    (registry.removeBarrier address).handle other = registry.handle other := by
  simp [handle, removeBarrier, different]

end Facts

end Registry

section Calls

variable {Address Thread : Type*} [DecidableEq Address]

/-- The calls, made one at a time, with what they return.  In between
`barrier_wait` calls and timers change barriers, but never their process or
id. -/
inductive Call (Address Thread : Type*) where
  | init (tgid : Int) (address : Address) (contents : Barrier Thread) (count : BitVec 32)
      (timeout : Int) (barrierId : BitVec 32)
  | destroy (tgid : Int) (barrierId : BitVec 32) (code : Int)
  | wait (address : Address) (after : Barrier Thread)

/-- The registry after a call; undefined where the call returns something
else. -/
def serve (registry : Registry Address Thread) :
    Call Address Thread → Option (Registry Address Thread)
  | .init tgid address contents count timeout barrierId =>
      (registry.barrierInit address contents count timeout tgid).bind fun result =>
        if result.2 = barrierId then some result.1 else none
  | .destroy tgid barrierId code =>
      (registry.barrierDestroy barrierId tgid).bind fun result =>
        if result.2 = code then some result.1 else none
  | .wait address after =>
      (registry.memory address).bind fun barrier =>
        if after.tgid = barrier.tgid ∧ after.barrierId = barrier.barrierId then
          some (registry.writeBarrier address after)
        else none

/-- Runs from boot. -/
abbrev CallRun : List (Call Address Thread) → Registry Address Thread → Prop :=
  Run serve (each fun _ => True) Registry.boot

/-- An id that `barrier_init` returned resolves to its barrier until a
`barrier_destroy` of that id succeeds. -/
def Resolves (trace : List (Call Address Thread)) (registry : Registry Address Thread) : Prop :=
  ∀ tgid address contents count timeout barrierId later earlier,
    trace = later ++ .init tgid address contents count timeout barrierId :: earlier →
    .destroy tgid barrierId 0 ∉ later →
    registry.findBarrier tgid barrierId = some (some address)

/-- Handles are unique and stable throughout a history. -/
def HandlesHold (trace : List (Call Address Thread)) : Prop :=
  ∀ earlier registry, earlier <:+ trace → replay serve Registry.boot earlier = some registry →
    registry.Unique ∧ Resolves earlier registry

/-- At every `barrier_init` the next id of the process is not in use by a barrier
of the process. -/
def FreshIds (trace : List (Call Address Thread)) : Prop :=
  ∀ tgid address contents count timeout barrierId earlier registry,
    .init tgid address contents count timeout barrierId :: earlier <:+ trace →
    replay serve Registry.boot earlier = some registry →
    some (tgid, registry.nextId tgid) ∉ registry.nodes.map registry.handle

variable {registry after : Registry Address Thread} {call : Call Address Thread}
  {trace : List (Call Address Thread)}

theorem serve_init {tgid : Int} {address : Address} {contents : Barrier Thread}
    {count barrierId : BitVec 32} {timeout : Int}
    (served : serve registry (.init tgid address contents count timeout barrierId) =
      some after) :
    registry.barrierInit address contents count timeout tgid = some (after, barrierId) := by
  obtain ⟨⟨result, returned⟩, called, picked⟩ := Option.bind_eq_some_iff.mp served
  obtain ⟨rfl, same⟩ := Option.ite_none_right_eq_some.mp picked
  rwa [← Option.some.inj same]

theorem serve_destroy {tgid code : Int} {barrierId : BitVec 32}
    (served : serve registry (.destroy tgid barrierId code) = some after) :
    registry.barrierDestroy barrierId tgid = some (after, code) := by
  obtain ⟨⟨result, returned⟩, called, picked⟩ := Option.bind_eq_some_iff.mp served
  obtain ⟨rfl, same⟩ := Option.ite_none_right_eq_some.mp picked
  rwa [← Option.some.inj same]

theorem serve_wait {address : Address} {written : Barrier Thread}
    (served : serve registry (.wait address written) = some after) :
    ∃ barrier, registry.memory address = some barrier ∧ written.tgid = barrier.tgid ∧
      written.barrierId = barrier.barrierId ∧ after = registry.writeBarrier address written := by
  obtain ⟨barrier, block, picked⟩ := Option.bind_eq_some_iff.mp served
  obtain ⟨⟨sameTgid, sameId⟩, same⟩ := Option.ite_none_right_eq_some.mp picked
  exact ⟨barrier, block, sameTgid, sameId, (Option.some.inj same).symm⟩

/-- What each kind of call does to the list. -/
theorem serve_cases (started : registry.firstFlag = 0 → registry.nodes = [])
    (served : serve registry call = some after) :
    (∃ tgid address contents count timeout,
      call = .init tgid address contents count timeout (registry.nextId tgid) ∧
        registry.Inserted address tgid (registry.nextId tgid) after ∧ after.firstFlag ≠ 0) ∨
    (∃ tgid barrierId address, call = .destroy tgid barrierId 0 ∧ address ∈ registry.nodes ∧
      registry.handle address = some (tgid, barrierId) ∧
        after = registry.removeBarrier address) ∨
    ((∀ tgid address contents count timeout barrierId,
        call ≠ .init tgid address contents count timeout barrierId) ∧
      after.nodes = registry.nodes ∧ after.handle = registry.handle ∧
        after.firstFlag = registry.firstFlag) := by
  cases call with
  | init tgid address contents count timeout barrierId =>
      obtain ⟨rfl, inserted, flag, -⟩ := Registry.init_spec started (serve_init served)
      exact .inl ⟨_, _, _, _, _, rfl, inserted, flag⟩
  | destroy tgid barrierId code =>
      rcases Registry.destroy_spec (serve_destroy served) with
        ⟨rfl, address, listed, own, rfl⟩ | ⟨-, rfl⟩
      · exact .inr (.inl ⟨_, _, address, rfl, listed, own, rfl⟩)
      · exact .inr (.inr ⟨by simp, rfl, rfl, rfl⟩)
  | wait address written =>
      obtain ⟨barrier, block, sameTgid, sameId, rfl⟩ := serve_wait served
      refine .inr (.inr ⟨by simp, rfl, ?_, rfl⟩)
      funext other
      by_cases here : other = address
      · simp [Registry.handle, Registry.writeBarrier, here, block, sameTgid, sameId]
      · simp [Registry.handle, Registry.writeBarrier, here]

theorem CallRun.started (run : CallRun trace registry) :
    registry.firstFlag = 0 → registry.nodes = [] := by
  induction run with
  | start => exact fun _ => rfl
  | next _ _ served started =>
      rcases serve_cases started served with
        ⟨_, _, _, _, _, -, -, flag⟩ | ⟨_, _, address, -, -, -, rfl⟩ | ⟨-, nodes, -, flag⟩
      · exact fun clear => (flag clear).elim
      · intro clear
        rw [Registry.remove_nodes, started clear]
        rfl
      · rw [nodes, flag]
        exact started

/-- Whatever happens to a listed barrier between two calls is such a change. -/
theorem wait_served [DecidableEq Thread] {system next : System Thread} {event : Event Thread}
    (stepTo : step system event = some next) {address : Address}
    (block : registry.memory address = some system.barrier) :
    serve registry (.wait address next.barrier) =
      some (registry.writeBarrier address next.barrier) := by
  have setup := sameSetup_of_step stepTo
  simp [serve, block, setup.tgid, setup.barrierId]

/-- A barrier whose id has been returned and not been destroyed is listed. -/
def Live (trace : List (Call Address Thread)) (registry : Registry Address Thread) : Prop :=
  ∀ tgid address contents count timeout barrierId later earlier,
    trace = later ++ .init tgid address contents count timeout barrierId :: earlier →
    .destroy tgid barrierId 0 ∉ later →
    address ∈ registry.nodes ∧ registry.handle address = some (tgid, barrierId)

omit [DecidableEq Address] in
theorem Registry.Inserted.handle_others {address : Address} {tgid : Int} {barrierId : BitVec 32}
    (inserted : registry.Inserted address tgid barrierId after) {other : Address}
    (listed : other ∈ registry.nodes) : after.handle other = registry.handle other := by
  have different : other ≠ address := by
    rintro rfl
    exact Registry.not_node_of_fresh inserted.fresh listed
  rw [Registry.handle, Registry.handle, inserted.others other different]

omit [DecidableEq Address] in
/-- A process has one barrier more after it has inserted one. -/
theorem Registry.Inserted.ownCount {address : Address} {tgid : Int} {barrierId : BitVec 32}
    (inserted : registry.Inserted address tgid barrierId after) (other : Int) :
    after.ownCount other = registry.ownCount other + (decide (tgid = other)).toNat := by
  have others : registry.nodes.countP (after.ownedBy other) =
      registry.nodes.countP (registry.ownedBy other) := by
    refine List.countP_congr fun node listed => ?_
    rw [Registry.ownedBy_eq, Registry.ownedBy_eq, inserted.handle_others listed]
  have own : after.ownedBy other address = decide (tgid = other) := by
    simp [Registry.ownedBy_eq, inserted.own]
  rw [Registry.ownCount, inserted.nodes, List.countP_cons, others, own, Registry.ownCount]
  by_cases same : tgid = other <;> simp [same]

omit [DecidableEq Address] in
theorem Registry.Inserted.handles {address : Address} {tgid : Int} {barrierId : BitVec 32}
    (inserted : registry.Inserted address tgid barrierId after) :
    after.nodes.map after.handle =
      some (tgid, barrierId) :: registry.nodes.map registry.handle := by
  rw [inserted.nodes, List.map_cons, inserted.own]
  congr 1
  exact List.map_congr_left fun other listed => inserted.handle_others listed

omit [DecidableEq Address] in
/-- Inserting a barrier keeps handles unique if and only if its handle is new. -/
theorem Registry.Inserted.unique_iff {address : Address} {tgid : Int} {barrierId : BitVec 32}
    (inserted : registry.Inserted address tgid barrierId after) :
    after.Unique ↔ some (tgid, barrierId) ∉ registry.nodes.map registry.handle ∧
      registry.Unique := by
  rw [Registry.Unique, inserted.handles, List.nodup_cons, Registry.Unique]

theorem Registry.Unique.remove (unique : registry.Unique) (address : Address) :
    (registry.removeBarrier address).Unique := by
  have others : (registry.nodes.erase address).map (registry.removeBarrier address).handle =
      (registry.nodes.erase address).map registry.handle := by
    refine List.map_congr_left fun other listed => Registry.remove_handle ?_
    exact (registry.distinct.mem_erase_iff.mp listed).1
  rw [Registry.Unique, Registry.remove_nodes, others]
  exact unique.sublist ((List.erase_sublist ..).map _)

theorem Live.serve (started : registry.firstFlag = 0 → registry.nodes = [])
    (live : Live trace registry) (served : BarrierSys.serve registry call = some after) :
    Live (call :: trace) after := by
  intro tgid address contents count timeout barrierId later earlier same undestroyed
  have kinds := serve_cases started served
  cases later with
  | nil =>
      -- the barrier has just been created
      obtain ⟨rfl, rfl⟩ := List.cons.inj same
      rcases kinds with ⟨_, _, _, _, _, same, inserted, -⟩ | ⟨_, _, _, same, -⟩ | ⟨notInit, -⟩
      · obtain ⟨rfl, rfl, rfl, rfl, rfl, rfl⟩ := Call.init.inj same
        exact ⟨by simp [inserted.nodes], inserted.own⟩
      · cases same
      · exact (notInit _ _ _ _ _ _ rfl).elim
  | cons head later =>
      obtain ⟨rfl, rfl⟩ := List.cons.inj same
      simp only [List.mem_cons, not_or] at undestroyed
      obtain ⟨listed, own⟩ := live _ _ _ _ _ _ later earlier rfl undestroyed.2
      rcases kinds with
        ⟨_, _, _, _, _, -, inserted, -⟩ | ⟨_, _, removed, rfl, -, removedOwn, rfl⟩ |
        ⟨-, nodes, handle, -⟩
      · exact ⟨by simp [inserted.nodes, listed], (inserted.handle_others listed).trans own⟩
      · have different : address ≠ removed := by
          rintro rfl
          obtain ⟨rfl, rfl⟩ := Prod.mk.inj (Option.some.inj (own.symm.trans removedOwn))
          exact undestroyed.1 rfl
        rw [Registry.remove_nodes, Registry.remove_handle different]
        exact ⟨(List.mem_erase_of_ne different).mpr listed, own⟩
      · rw [nodes, handle]
        exact ⟨listed, own⟩

/-- As long as every new id is fresh, handles are unique and stay listed. -/
theorem CallRun.unique_live (run : CallRun trace registry) (fresh : FreshIds trace) :
    registry.Unique ∧ Live trace registry := by
  induction run with
  | start =>
      refine ⟨List.nodup_nil, ?_⟩
      intro tgid address contents count timeout barrierId later earlier same
      simp at same
  | next earlier _ served ih =>
      obtain ⟨unique, live⟩ := ih fun tgid address contents count timeout barrierId past registry
        suffix => fresh tgid address contents count timeout barrierId past registry
          (suffix.trans (List.suffix_cons _ _))
      have started := CallRun.started earlier
      refine ⟨?_, live.serve started served⟩
      rcases serve_cases started served with
        ⟨_, _, _, _, _, rfl, inserted, -⟩ | ⟨_, _, removed, -, -, -, rfl⟩ | ⟨-, nodes, handle, -⟩
      · refine inserted.unique_iff.mpr ⟨?_, unique⟩
        exact fresh _ _ _ _ _ _ _ _ (List.suffix_refl _) earlier.replay_eq
      · exact unique.remove removed
      · rwa [Registry.Unique, nodes, handle]

/-- Handles are unique and stable throughout a history exactly when every
`barrier_init` in it finds the next id of its process unused. -/
theorem handles_hold_iff (run : CallRun trace registry) :
    HandlesHold trace ↔ FreshIds trace := by
  constructor
  · intro holds tgid address contents count timeout barrierId earlier before suffix reached
    obtain ⟨earlierRun, -, after, served⟩ := run.step_of_reached suffix reached
    have started := CallRun.started earlierRun
    have unique := (holds _ after suffix (by simp [replay, reached, served])).1
    rcases serve_cases started served with
      ⟨_, _, _, _, _, same, inserted, -⟩ | ⟨_, _, _, same, -⟩ | ⟨notInit, -⟩
    · obtain ⟨rfl, rfl, rfl, rfl, rfl, rfl⟩ := Call.init.inj same
      exact (inserted.unique_iff.mp unique).1
    · cases same
    · exact (notInit _ _ _ _ _ _ rfl).elim
  · intro fresh earlier past suffix reached
    have earlierRun := run.of_reached suffix reached
    have freshEarlier : FreshIds earlier := fun tgid address contents count timeout barrierId
        before registry inside =>
      fresh tgid address contents count timeout barrierId before registry (inside.trans suffix)
    obtain ⟨unique, live⟩ := CallRun.unique_live earlierRun freshEarlier
    refine ⟨unique, ?_⟩
    intro tgid address contents count timeout barrierId later before same undestroyed
    obtain ⟨listed, own⟩ := live _ _ _ _ _ _ _ _ same undestroyed
    exact Registry.find_of_unique unique listed own

end Calls

/-- A process creates two barriers, destroys the first and creates another. -/
def reusedId : List (Call Nat Unit) :=
  [.init 7 2 .zeroed 5 0 2, .destroy 7 1 0, .init 7 1 .zeroed 5 0 2, .init 7 0 .zeroed 5 0 1]

theorem reused_id_collides :
    (∃ registry, CallRun reusedId registry) ∧ ¬ HandlesHold reusedId := by
  obtain ⟨registry, run⟩ : ∃ registry, CallRun reusedId registry :=
    exists_run_of_replay (fun _ _ => trivial) (by decide +kernel)
  refine ⟨⟨registry, run⟩, fun holds => ?_⟩
  have unique := (holds reusedId registry (List.suffix_refl _) run.replay_eq).1
  have collides : (replay serve Registry.boot reusedId).map (fun registry =>
      decide registry.Unique) = some false := by decide +kernel
  rw [run.replay_eq] at collides
  simp [unique] at collides

/-- Two processes create barriers, and one of them destroys its last one before it creates
another. -/
def freshIds : List (Call Nat Unit) :=
  [.init 7 1 .zeroed 5 0 2, .destroy 7 2 0, .init 8 2 .zeroed 3 0 1, .init 7 1 .zeroed 5 0 2,
    .init 7 0 .zeroed 5 0 1]

theorem handles_hold_fresh : (∃ registry, CallRun freshIds registry) ∧ HandlesHold freshIds := by
  obtain ⟨registry, run⟩ : ∃ registry, CallRun freshIds registry :=
    exists_run_of_replay (fun _ _ => trivial) (by decide +kernel)
  refine ⟨⟨registry, run⟩, (handles_hold_iff run).mpr ?_⟩
  intro tgid address contents count timeout barrierId earlier before suffix reached
  have unused : ∀ earlier ∈ freshIds.tails, ∀ registry ∈ replay serve Registry.boot earlier,
      ∀ tgid ∈ [7, 8], some (tgid, registry.nextId tgid) ∉ registry.nodes.map registry.handle := by
    decide +kernel
  have created := suffix.subset (List.mem_cons_self ..)
  refine unused earlier ?_ before reached tgid ?_
  · exact (List.mem_tails ..).mpr ((List.suffix_cons _ _).trans suffix)
  · simp only [freshIds, List.mem_cons, Call.init.injEq, reduceCtorEq, List.not_mem_nil, false_or,
      or_false] at created
    obtain ⟨rfl, -⟩ | ⟨rfl, -⟩ | ⟨rfl, -⟩ | ⟨rfl, -⟩ := created <;> simp

end BarrierSys

end KinuxKernel
