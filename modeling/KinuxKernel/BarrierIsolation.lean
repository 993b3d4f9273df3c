import Mathlib.Data.Set.Finite.Basic
import KinuxKernel.BarrierLookups
import KinuxKernel.Noninterference

/-!
# The barriers of different processes

All processes share one list.  Whole calls of any processes, in any order and
on any initialised list, give each process the replies and leave it the
barriers that its own calls alone would have given and left, ids that are in use
twice included.
-/

namespace KinuxKernel

namespace BarrierSys

open Noninterference

variable {Address Thread : Type*}

/-- A barrier without what `barrier_init` leaves as `kmalloc` returned it: the
timeout flag, and `ktime` of a barrier that has no timeout. -/
def Barrier.settled (barrier : Barrier Thread) : Barrier Thread :=
  { barrier with
    timeoutFlag := false
    ktime := if 0 < barrier.timeout then barrier.ktime else 0 }

@[simp]
theorem Barrier.settled_barrierId (barrier : Barrier Thread) :
    barrier.settled.barrierId = barrier.barrierId :=
  rfl

@[simp]
theorem Barrier.settled_myQueue (barrier : Barrier Thread) :
    barrier.settled.myQueue = barrier.myQueue :=
  rfl

/-- What `kmalloc` returned does not show. -/
theorem Barrier.settled_initialise (contents : Barrier Thread) (barrierId count : BitVec 32)
    (timeout tgid : Int) :
    (contents.initialise barrierId count timeout tgid).settled =
      (Barrier.zeroed.initialise barrierId count timeout tgid).settled := by
  by_cases positive : 0 < timeout <;> simp [Barrier.settled, Barrier.initialise, positive]

/-- A call of a process, or a change of its `position`-th barrier by its threads
and the timer, which may make the wait queue active or not. -/
inductive Request (Thread : Type*) where
  | init (count : BitVec 32) (timeout : Int)
  | lookup (barrierId : BitVec 32)
  | destroy (barrierId : BitVec 32)
  | change (position : Nat) (after : Barrier Thread)

/-- What a call returns; the barrier that a lookup finds is given by its place
among the barriers of the process. -/
inductive Reply where
  | barrierId (barrierId : BitVec 32)
  | code (code : Int)
  | found (position : Nat)
  | changed
deriving DecidableEq, Repr

namespace Registry

variable (registry : Registry Address Thread) (tgid : Int)

def ownEntry (address : Address) : Option (Barrier Thread) :=
  (registry.memory address).bind fun barrier =>
    if barrier.tgid = tgid then some barrier.settled else none

/-- The barriers of a process, in the order of the list. -/
def ownBarriers : List (Barrier Thread) :=
  registry.nodes.filterMap (registry.ownEntry tgid)

/-- The number of barriers of the process in front of a node. -/
def position [DecidableEq Address] (address : Address) : Nat :=
  ((registry.nodes.takeWhile (· ≠ address)).filterMap (registry.ownEntry tgid)).length

/-- `first_flag` is set and the list head is initialised. -/
def Initialised : Prop :=
  registry.firstFlag ≠ 0 ∧ registry.barrierList.isSome

end Registry

/-- A whole call of a process.  Address and contents of a new block are chosen
by `kmalloc`. -/
inductive Served [DecidableEq Address] (registry : Registry Address Thread) (tgid : Int) :
    Request Thread → Reply → Registry Address Thread → Prop
  | init {count barrierId : BitVec 32} {timeout : Int} {address : Address}
      {contents : Barrier Thread} {after : Registry Address Thread} :
      registry.barrierInit address contents count timeout tgid = some (after, barrierId) →
      Served registry tgid (.init count timeout) (.barrierId barrierId) after
  | lookup {barrierId : BitVec 32} {address : Address} {after : Registry Address Thread} :
      registry.waitLookup tgid barrierId = some (after, .ok address) →
      Served registry tgid (.lookup barrierId) (.found (registry.position tgid address)) after
  | missing {barrierId : BitVec 32} {code : Int} {after : Registry Address Thread} :
      registry.waitLookup tgid barrierId = some (after, .error code) →
      Served registry tgid (.lookup barrierId) (.code code) after
  | destroy {barrierId : BitVec 32} {code : Int} {after : Registry Address Thread} :
      registry.barrierDestroy barrierId tgid = some (after, code) →
      Served registry tgid (.destroy barrierId) (.code code) after
  | change {address : Address} {barrier changed : Barrier Thread} :
      address ∈ registry.nodes → registry.memory address = some barrier →
      barrier.tgid = tgid → changed.tgid = barrier.tgid →
      changed.barrierId = barrier.barrierId →
      Served registry tgid (.change (registry.position tgid address) changed) .changed
        (registry.writeBarrier address changed)

/-- The place of the barrier that a lookup by its process finds. -/
def ownFind (barriers : List (Barrier Thread)) (barrierId : BitVec 32) : Option Nat :=
  barriers.findIdx? fun barrier => barrier.barrierId = barrierId

/-- The calls of a process as if its barriers were the only ones. -/
def ownServe (tgid : Int) (barriers : List (Barrier Thread)) :
    Request Thread → Option (Reply × List (Barrier Thread))
  | .init count timeout =>
      let barrierId := BitVec.ofNat 32 barriers.length + 1
      some (.barrierId barrierId,
        (Barrier.zeroed.initialise barrierId count timeout tgid).settled :: barriers)
  | .lookup barrierId =>
      match ownFind barriers barrierId with
      | none => some (.code (-EINVAL), barriers)
      | some position => some (.found position, barriers)
  | .destroy barrierId =>
      match ownFind barriers barrierId with
      | none => some (.code (-EINVAL), barriers)
      | some position => barriers[position]?.map fun barrier =>
          if barrier.myQueue ≠ [] then (.code (-EBUSY), barriers)
          else (.code 0, barriers.eraseIdx position)
  | .change position changed =>
      barriers[position]?.bind fun barrier =>
        if changed.tgid = tgid ∧ changed.barrierId = barrier.barrierId then
          some (.changed, barriers.set position changed.settled)
        else none

/-- An entry of a selected sublist comes from a place in the list. -/
theorem exists_split_of_filterMap {Item Entry : Type*} {select : Item → Option Entry}
    (list : List Item) {place : Nat} {entry : Entry}
    (found : (list.filterMap select)[place]? = some entry) :
    ∃ front item back, list = front ++ item :: back ∧ select item = some entry ∧
      (front.filterMap select).length = place := by
  induction list generalizing place with
  | nil => simp at found
  | cons head list ih =>
      cases selected : select head with
      | none =>
          rw [List.filterMap_cons_none selected] at found
          obtain ⟨front, item, back, rfl, own, length⟩ := ih found
          exact ⟨head :: front, item, back, rfl, own, by simpa [selected] using length⟩
      | some first =>
          rw [List.filterMap_cons_some selected] at found
          cases place with
          | zero => exact ⟨[], head, list, rfl, by simpa [selected] using found, rfl⟩
          | succ place =>
              obtain ⟨front, item, back, rfl, own, length⟩ := ih (by simpa using found)
              exact ⟨head :: front, item, back, rfl, own, by simpa [selected] using length⟩

namespace Registry

variable {registry after : Registry Address Thread} {tgid : Int} {address : Address}
  {barrier : Barrier Thread} {barrierId : BitVec 32}

theorem ownEntry_own (block : registry.memory address = some barrier)
    (owner : barrier.tgid = tgid) : registry.ownEntry tgid address = some barrier.settled := by
  simp [ownEntry, block, owner]

theorem of_ownEntry {own : Barrier Thread} (entry : registry.ownEntry tgid address = some own) :
    ∃ barrier, registry.memory address = some barrier ∧ barrier.tgid = tgid ∧
      own = barrier.settled := by
  obtain ⟨barrier, block, kept⟩ := Option.bind_eq_some_iff.mp entry
  obtain ⟨owner, same⟩ := Option.ite_none_right_eq_some.mp kept
  exact ⟨barrier, block, owner, (Option.some.inj same).symm⟩

theorem ownEntry_other (block : registry.memory address = some barrier)
    (other : barrier.tgid ≠ tgid) : registry.ownEntry tgid address = none := by
  simp [ownEntry, block, other]

theorem ownEntry_congr {list : List Address}
    (same : ∀ other ∈ list, after.memory other = registry.memory other) :
    list.filterMap (after.ownEntry tgid) = list.filterMap (registry.ownEntry tgid) := by
  apply List.filterMap_congr
  intro other listed
  rw [ownEntry, ownEntry, same other listed]

theorem ownBarriers_length : (registry.ownBarriers tgid).length = registry.ownCount tgid := by
  unfold ownBarriers ownCount
  rw [List.length_filterMap_eq_countP]
  refine List.countP_congr fun other _ => ?_
  cases block : registry.memory other with
  | none => simp [ownEntry, ownedBy, block]
  | some barrier => by_cases owner : barrier.tgid = tgid <;> simp [ownEntry, ownedBy, block, owner]

/-- The list around one of its nodes. -/
theorem split_at (listed : address ∈ registry.nodes) :
    ∃ front back, registry.nodes = front ++ address :: back ∧ address ∉ front ∧
      address ∉ back := by
  obtain ⟨front, back, split⟩ := List.append_of_mem listed
  have distinct : (front ++ address :: back).Nodup := split ▸ registry.distinct
  have apart := List.nodup_middle.mp distinct
  have absent := (List.nodup_cons.mp apart).1
  simp only [List.mem_append, not_or] at absent
  exact ⟨front, back, split, absent.1, absent.2⟩

theorem position_eq [DecidableEq Address] {front back : List Address}
    (split : registry.nodes = front ++ address :: back) (absent : address ∉ front) :
    registry.position tgid address = (front.filterMap (registry.ownEntry tgid)).length := by
  have taken : (front ++ address :: back).takeWhile (· ≠ address) = front := by
    rw [List.takeWhile_append_of_pos]
    · simp
    · intro other member
      exact decide_eq_true fun same => absent (same ▸ member)
  rw [position, split, taken]

theorem ownBarriers_split {front back : List Address}
    (split : registry.nodes = front ++ address :: back) :
    registry.ownBarriers tgid = front.filterMap (registry.ownEntry tgid) ++
      ((registry.ownEntry tgid address).toList ++
        back.filterMap (registry.ownEntry tgid)) := by
  rw [ownBarriers, split, List.filterMap_append, List.filterMap_cons]
  cases registry.ownEntry tgid address <;> rfl

/-- A lookup finds a node exactly where the process alone would find it. -/
theorem ownFind_eq [DecidableEq Address]
    (found : registry.findBarrier tgid barrierId = some (some address)) :
    ownFind (registry.ownBarriers tgid) barrierId = some (registry.position tgid address) := by
  obtain ⟨list, listed, first⟩ := Option.map_eq_some_iff.mp found
  obtain ⟨wanted, front, back, split, passed⟩ := List.find?_eq_some_iff_append.mp first
  simp only [decide_eq_true_eq] at wanted
  have nodes : registry.nodes = front ++ address :: back := by simp [nodes, listed, split]
  have absent : address ∉ front := fun member => by simpa [wanted] using passed address member
  obtain ⟨barrier, block, key⟩ := Option.map_eq_some_iff.mp wanted
  obtain ⟨rfl, rfl⟩ := Prod.mk.inj key
  have missed : (front.filterMap (registry.ownEntry barrier.tgid)).findIdx?
      (fun own => own.barrierId = barrier.barrierId) = none := by
    rw [List.findIdx?_eq_none_iff]
    intro own member
    obtain ⟨other, before, entry⟩ := List.mem_filterMap.mp member
    obtain ⟨otherBarrier, otherBlock, owner, rfl⟩ := of_ownEntry entry
    have different := passed other before
    apply decide_eq_false
    simpa [handle, otherBlock, owner] using different
  rw [ownBarriers_split nodes, position_eq nodes absent, ownEntry_own block rfl, ownFind,
    List.findIdx?_append, missed]
  simp [List.findIdx?_cons]

theorem ownFind_none (missed : registry.findBarrier tgid barrierId = some none) :
    ownFind (registry.ownBarriers tgid) barrierId = none := by
  obtain ⟨list, listed, absent⟩ := Option.map_eq_some_iff.mp missed
  rw [ownFind, List.findIdx?_eq_none_iff]
  intro own member
  obtain ⟨other, inside, entry⟩ := List.mem_filterMap.mp member
  obtain ⟨barrier, block, owner, rfl⟩ := of_ownEntry entry
  have inside : other ∈ list := by simpa [nodes, listed] using inside
  have different := List.find?_eq_none.mp absent other inside
  apply decide_eq_false
  simpa [handle, block, owner] using different

/-- The barrier of a process at the place of a node. -/
theorem getElem?_position [DecidableEq Address] (listed : address ∈ registry.nodes)
    (block : registry.memory address = some barrier) (owner : barrier.tgid = tgid) :
    (registry.ownBarriers tgid)[registry.position tgid address]? = some barrier.settled := by
  obtain ⟨front, back, split, absent, -⟩ := split_at listed
  rw [ownBarriers_split split, position_eq split absent, ownEntry_own block owner]
  simp

section Operations

theorem Inserted.memory_listed (inserted : registry.Inserted address tgid barrierId after) :
    ∀ other ∈ registry.nodes, after.memory other = registry.memory other := by
  intro other listed
  apply inserted.others
  rintro rfl
  exact not_node_of_fresh inserted.fresh listed

theorem inserted_own (inserted : registry.Inserted address tgid barrierId after)
    (block : after.memory address = some barrier) (owner : barrier.tgid = tgid) :
    after.ownBarriers tgid = barrier.settled :: registry.ownBarriers tgid := by
  rw [ownBarriers, inserted.nodes, List.filterMap_cons, ownEntry_own block owner,
    ownEntry_congr inserted.memory_listed, ownBarriers]

theorem inserted_other (inserted : registry.Inserted address tgid barrierId after) {other : Int}
    (different : tgid ≠ other) : after.ownBarriers other = registry.ownBarriers other := by
  obtain ⟨barrier, block, key⟩ := Option.map_eq_some_iff.mp inserted.own
  obtain ⟨rfl, -⟩ := Prod.mk.inj key
  rw [ownBarriers, inserted.nodes, List.filterMap_cons, ownEntry_other block different,
    ownEntry_congr inserted.memory_listed, ownBarriers]

variable [DecidableEq Address]

/-- Freeing a node takes its entry out of the middle. -/
theorem removed_split {front back : List Address}
    (split : registry.nodes = front ++ address :: back)
    (inFront : address ∉ front) (inBack : address ∉ back) :
    (registry.removeBarrier address).nodes = front ++ back ∧
      (registry.removeBarrier address).ownBarriers tgid =
        front.filterMap (registry.ownEntry tgid) ++ back.filterMap (registry.ownEntry tgid) := by
  have nodes : (registry.removeBarrier address).nodes = front ++ back := by
    rw [remove_nodes, split, List.erase_append_right _ inFront, List.erase_cons_head]
  have others : ∀ other ∈ front ++ back,
      (registry.removeBarrier address).memory other = registry.memory other := by
    intro other listed
    have different : other ≠ address := by
      rintro rfl
      exact (List.mem_append.mp listed).elim inFront inBack
    simp [removeBarrier, different]
  refine ⟨nodes, ?_⟩
  rw [ownBarriers, nodes, ownEntry_congr others, List.filterMap_append]

theorem removed_own (listed : address ∈ registry.nodes)
    (block : registry.memory address = some barrier) (owner : barrier.tgid = tgid) :
    (registry.removeBarrier address).ownBarriers tgid =
      (registry.ownBarriers tgid).eraseIdx (registry.position tgid address) := by
  obtain ⟨front, back, split, inFront, inBack⟩ := split_at listed
  rw [(removed_split split inFront inBack).2, ownBarriers_split split, position_eq split inFront,
    ownEntry_own block owner, List.eraseIdx_append_of_length_le le_rfl]
  simp

theorem removed_other (listed : address ∈ registry.nodes)
    (block : registry.memory address = some barrier) (different : barrier.tgid ≠ tgid) :
    (registry.removeBarrier address).ownBarriers tgid = registry.ownBarriers tgid := by
  obtain ⟨front, back, split, inFront, inBack⟩ := split_at listed
  rw [(removed_split split inFront inBack).2, ownBarriers_split split,
    ownEntry_other block different]
  rfl

theorem written_split {front back : List Address} {changed : Barrier Thread}
    (split : registry.nodes = front ++ address :: back) (inFront : address ∉ front)
    (inBack : address ∉ back) :
    (registry.writeBarrier address changed).ownBarriers tgid =
      front.filterMap (registry.ownEntry tgid) ++
        (((registry.writeBarrier address changed).ownEntry tgid address).toList ++
          back.filterMap (registry.ownEntry tgid)) := by
  have others : ∀ other, other ≠ address →
      (registry.writeBarrier address changed).memory other = registry.memory other := by
    intro other different
    simp [writeBarrier, different]
  have nodes : (registry.writeBarrier address changed).nodes = front ++ address :: back := split
  rw [ownBarriers_split nodes,
    ownEntry_congr fun other inside => others other fun same => inFront (same ▸ inside),
    ownEntry_congr fun other inside => others other fun same => inBack (same ▸ inside)]

theorem written_own {changed : Barrier Thread} (listed : address ∈ registry.nodes)
    (block : registry.memory address = some barrier) (owner : barrier.tgid = tgid)
    (kept : changed.tgid = tgid) :
    (registry.writeBarrier address changed).ownBarriers tgid =
      (registry.ownBarriers tgid).set (registry.position tgid address) changed.settled := by
  obtain ⟨front, back, split, inFront, inBack⟩ := split_at listed
  have written : (registry.writeBarrier address changed).memory address = some changed := by
    simp [writeBarrier]
  rw [written_split split inFront inBack, ownEntry_own written kept, ownBarriers_split split,
    position_eq split inFront, ownEntry_own block owner, List.set_append_right _ _ le_rfl]
  simp

theorem written_other {changed : Barrier Thread} (listed : address ∈ registry.nodes)
    (block : registry.memory address = some barrier) (different : barrier.tgid ≠ tgid)
    (kept : changed.tgid = barrier.tgid) :
    (registry.writeBarrier address changed).ownBarriers tgid = registry.ownBarriers tgid := by
  obtain ⟨front, back, split, inFront, inBack⟩ := split_at listed
  have written : (registry.writeBarrier address changed).memory address = some changed := by
    simp [writeBarrier]
  rw [written_split split inFront inBack, ownEntry_other written (kept ▸ different),
    ownBarriers_split split, ownEntry_other block different]

end Operations

end Registry

section Calls

variable [DecidableEq Address] {registry after : Registry Address Thread} {tgid : Int}
  {request : Request Thread} {reply : Reply}

/-- On an initialised list `barrier_init` only inserts. -/
theorem inserted_of_init (initialised : registry.Initialised) {address : Address}
    {contents : Barrier Thread} {count barrierId : BitVec 32} {timeout : Int}
    (served : registry.barrierInit address contents count timeout tgid =
      some (after, barrierId)) :
    barrierId = registry.nextId tgid ∧ registry.Inserted address tgid barrierId after ∧
      after.firstFlag ≠ 0 ∧
      after.memory address = some (contents.initialise barrierId count timeout tgid) :=
  Registry.init_spec (fun clear => (initialised.1 clear).elim) served

omit [DecidableEq Address] in
/-- A lookup finds a barrier of the process. -/
theorem Registry.find_owner {address : Address} {barrier : Barrier Thread}
    {barrierId : BitVec 32} (found : registry.findBarrier tgid barrierId = some (some address))
    (block : registry.memory address = some barrier) :
    address ∈ registry.nodes ∧ barrier.tgid = tgid := by
  obtain ⟨listed, handle⟩ := Registry.find_spec found
  simp only [Registry.handle, block, Option.map_some, Option.some.injEq, Prod.mk.injEq] at handle
  exact ⟨listed, handle.1⟩

omit [DecidableEq Address] in
theorem Registry.lookup_cases {barrierId : BitVec 32} {result : Except Int Address}
    (served : registry.waitLookup tgid barrierId = some (after, result)) :
    after = registry ∧
      ((registry.findBarrier tgid barrierId = some none ∧ result = .error (-EINVAL)) ∨
        ∃ address, registry.findBarrier tgid barrierId = some (some address) ∧
          result = .ok address) := by
  obtain ⟨found, looked, same⟩ := Option.map_eq_some_iff.mp served
  cases found with
  | none =>
      obtain ⟨rfl, rfl⟩ := Prod.mk.inj same
      exact ⟨rfl, .inl ⟨looked, rfl⟩⟩
  | some address =>
      obtain ⟨rfl, rfl⟩ := Prod.mk.inj same
      exact ⟨rfl, .inr ⟨address, looked, rfl⟩⟩

theorem Served.initialised (initialised : registry.Initialised)
    (served : Served registry tgid request reply after) : after.Initialised := by
  cases served with
  | init served =>
      obtain ⟨-, inserted, flag, -⟩ := inserted_of_init initialised served
      exact ⟨flag, inserted.listed⟩
  | lookup served =>
      obtain ⟨rfl, -⟩ := Registry.lookup_cases served
      exact initialised
  | missing served =>
      obtain ⟨rfl, -⟩ := Registry.lookup_cases served
      exact initialised
  | destroy served =>
      rcases Registry.destroy_cases served with
        ⟨-, rfl, -⟩ | ⟨address, barrier, -, -, ⟨-, rfl, -⟩ | ⟨-, rfl, -⟩⟩
      · exact initialised
      · exact initialised
      · exact ⟨initialised.1, by simpa [Registry.removeBarrier] using initialised.2⟩
  | change => exact initialised

/-- A call by another process leaves the barriers of a process alone. -/
theorem Served.unseen (initialised : registry.Initialised)
    (served : Served registry tgid request reply after) {other : Int} (different : tgid ≠ other) :
    after.ownBarriers other = registry.ownBarriers other := by
  cases served with
  | init served =>
      obtain ⟨-, inserted, -, -⟩ := inserted_of_init initialised served
      exact Registry.inserted_other inserted different
  | lookup served =>
      obtain ⟨rfl, -⟩ := Registry.lookup_cases served
      rfl
  | missing served =>
      obtain ⟨rfl, -⟩ := Registry.lookup_cases served
      rfl
  | destroy served =>
      rcases Registry.destroy_cases served with
        ⟨-, rfl, -⟩ | ⟨address, barrier, found, block, ⟨-, rfl, -⟩ | ⟨-, rfl, -⟩⟩
      · rfl
      · rfl
      · obtain ⟨listed, owner⟩ := Registry.find_owner found block
        exact Registry.removed_other listed block (owner ▸ different)
  | change listed block owner kept =>
      exact Registry.written_other listed block (owner ▸ different) kept

/-- A call of a process is answered as on its own barriers alone. -/
theorem Served.answered (initialised : registry.Initialised)
    (served : Served registry tgid request reply after) :
    ownServe tgid (registry.ownBarriers tgid) request = some (reply, after.ownBarriers tgid) := by
  cases served with
  | init served =>
      obtain ⟨rfl, inserted, -, block⟩ := inserted_of_init initialised served
      rw [Registry.inserted_own inserted block rfl]
      rw [Barrier.settled_initialise]
      simp [ownServe, Registry.nextId, Registry.ownBarriers_length]
  | lookup served =>
      obtain ⟨rfl, ⟨-, wrong⟩ | ⟨address, found, same⟩⟩ := Registry.lookup_cases served
      · simp at wrong
      · obtain rfl := Except.ok.inj same
        simp [ownServe, Registry.ownFind_eq found]
  | missing served =>
      obtain ⟨rfl, ⟨missed, same⟩ | ⟨address, -, wrong⟩⟩ := Registry.lookup_cases served
      · obtain rfl := Except.error.inj same
        simp [ownServe, Registry.ownFind_none missed]
      · simp at wrong
  | destroy served =>
      rcases Registry.destroy_cases served with
        ⟨missed, rfl, rfl⟩ | ⟨address, barrier, found, block, removed⟩
      · simp [ownServe, Registry.ownFind_none missed]
      · obtain ⟨listed, owner⟩ := Registry.find_owner found block
        have place := Registry.getElem?_position listed block owner
        rcases removed with ⟨busy, rfl, rfl⟩ | ⟨empty, rfl, rfl⟩
        · simp [ownServe, Registry.ownFind_eq found, place, busy]
        · rw [Registry.removed_own listed block owner]
          simp [ownServe, Registry.ownFind_eq found, place, empty]
  | change listed block owner kept same =>
      rw [Registry.written_own listed block owner (kept.trans owner)]
      simp [ownServe, Registry.getElem?_position listed block owner, kept, owner, same]

/-- Every process is served on its own barriers. -/
theorem served_local :
    Local (Served : Registry Address Thread → _ → _ → _ → _ → Prop) Registry.Initialised
      (fun tgid registry => registry.ownBarriers tgid) ownServe where
  preserved := fun initialised served => served.initialised initialised
  answered := fun initialised served => served.answered initialised
  unseen := fun initialised served different => served.unseen initialised different

/-- Only finitely many blocks are allocated. -/
def Registry.Supplied (registry : Registry Address Thread) : Prop :=
  {address | registry.memory address ≠ none}.Finite

theorem Served.supplied (initialised : registry.Initialised) (supplied : registry.Supplied)
    (served : Served registry tgid request reply after) : after.Supplied := by
  cases served with
  | @init _ _ _ address _ _ served =>
      obtain ⟨-, inserted, -, -⟩ := inserted_of_init initialised served
      apply (supplied.insert address).subset
      intro other taken
      by_cases same : other = address
      · exact .inl same
      · have taken : after.memory other ≠ none := taken
        exact .inr (by simpa [inserted.others other same] using taken)
  | lookup served =>
      obtain ⟨rfl, -⟩ := Registry.lookup_cases served
      exact supplied
  | missing served =>
      obtain ⟨rfl, -⟩ := Registry.lookup_cases served
      exact supplied
  | destroy served =>
      rcases Registry.destroy_cases served with
        ⟨-, rfl, -⟩ | ⟨address, barrier, -, -, ⟨-, rfl, -⟩ | ⟨-, rfl, -⟩⟩
      · exact supplied
      · exact supplied
      · apply supplied.subset
        intro other taken
        by_cases same : other = address
        · simp [Registry.removeBarrier, same] at taken
        · simpa [Registry.removeBarrier, same] using taken
  | @change address barrier changed _ block =>
      apply supplied.subset
      intro other taken
      by_cases same : other = address
      · simp [same, block]
      · simpa [Registry.writeBarrier, same] using taken

/-- The barrier at some place among those of a process. -/
theorem Registry.exists_position {place : Nat} {entry : Barrier Thread}
    (found : (registry.ownBarriers tgid)[place]? = some entry) :
    ∃ address barrier, address ∈ registry.nodes ∧ registry.memory address = some barrier ∧
      barrier.tgid = tgid ∧ entry = barrier.settled ∧ registry.position tgid address = place := by
  obtain ⟨front, address, back, split, own, length⟩ :=
    exists_split_of_filterMap registry.nodes found
  obtain ⟨barrier, block, owner, rfl⟩ := Registry.of_ownEntry own
  have distinct : (front ++ address :: back).Nodup := split ▸ registry.distinct
  have absent : address ∉ front := fun member =>
    List.disjoint_of_nodup_append distinct member (by simp)
  exact ⟨address, barrier, by simp [split], block, owner, rfl,
    (Registry.position_eq split absent).trans length⟩

/-- With blocks to allocate, every call that makes sense for the process alone
can be made. -/
theorem exists_served [Infinite Address] (initialised : registry.Initialised)
    (supplied : registry.Supplied) {result : Reply × List (Barrier Thread)}
    (answer : ownServe tgid (registry.ownBarriers tgid) request = some result) :
    ∃ reply after, Served registry tgid request reply after := by
  obtain ⟨list, listed⟩ := Option.isSome_iff_exists.mp initialised.2
  have looked (barrierId : BitVec 32) :
      ∃ found, registry.findBarrier tgid barrierId = some found := by
    simp [Registry.findBarrier, listed]
  cases request with
  | init count timeout =>
      obtain ⟨address, fresh⟩ := supplied.infinite_compl.nonempty
      have fresh : registry.memory address = none := not_not.mp fresh
      have free : registry.barrierList.isSome ∧ registry.memory address = none :=
        ⟨initialised.2, fresh⟩
      have defined : (registry.barrierInit address .zeroed count timeout tgid).isSome := by
        simp [Registry.barrierInit, initialised.1, Registry.countBarriers, listed,
          Registry.insertBarrier, free]
      obtain ⟨⟨after, barrierId⟩, served⟩ := Option.isSome_iff_exists.mp defined
      exact ⟨_, after, .init served⟩
  | lookup barrierId =>
      obtain ⟨found, looked⟩ := looked barrierId
      cases found with
      | none =>
          have missed : registry.waitLookup tgid barrierId =
              some (registry, .error (-EINVAL)) := by simp [Registry.waitLookup, looked]
          exact ⟨_, _, .missing missed⟩
      | some address =>
          have resolved : registry.waitLookup tgid barrierId = some (registry, .ok address) := by
            simp [Registry.waitLookup, looked]
          exact ⟨_, _, .lookup resolved⟩
  | destroy barrierId =>
      obtain ⟨found, looked⟩ := looked barrierId
      have defined : (registry.barrierDestroy barrierId tgid).isSome := by
        cases found with
        | none => simp [Registry.barrierDestroy, looked]
        | some address =>
            obtain ⟨barrier, block⟩ := Option.isSome_iff_exists.mp
              (registry.allocated address (Registry.find_spec looked).1)
            simp [Registry.barrierDestroy, looked, block]
      obtain ⟨⟨after, code⟩, served⟩ := Option.isSome_iff_exists.mp defined
      exact ⟨_, after, .destroy served⟩
  | change place changed =>
      obtain ⟨entry, inside, answer⟩ := Option.bind_eq_some_iff.mp answer
      obtain ⟨⟨kept, same⟩, -⟩ := Option.ite_none_right_eq_some.mp answer
      obtain ⟨address, barrier, listed, block, rfl, rfl, rfl⟩ := Registry.exists_position inside
      exact ⟨_, _, .change listed block rfl kept same⟩

theorem supplied_local :
    Local (Served : Registry Address Thread → _ → _ → _ → _ → Prop)
      (fun registry => registry.Initialised ∧ registry.Supplied)
      (fun tgid registry => registry.ownBarriers tgid) ownServe where
  preserved := fun able served => ⟨served.initialised able.1, served.supplied able.1 able.2⟩
  answered := fun able served => served.answered able.1
  unseen := fun able served different => served.unseen able.1 different

/-- If blocks can be allocated, the calls of one process out of a run make a run
of their own. -/
theorem exists_own_run [Infinite Address] (initialised : registry.Initialised)
    (supplied : registry.Supplied) {requests : List (Int × Request Thread)}
    {replies : List (Int × Reply)} (run : Serves Served registry requests replies after) :
    ∃ ownAfter, Serves Served registry (own tgid requests) (own tgid replies) ownAfter := by
  apply Serves.realise supplied_local _ ⟨initialised, supplied⟩
    (fun item member => mem_own tgid requests member)
    (run.project supplied_local ⟨initialised, supplied⟩ tgid)
  intro start request reply barriers able answer
  obtain ⟨other, middle, served⟩ := exists_served able.1 able.2 answer
  obtain ⟨rfl, -⟩ := Prod.mk.inj
    (Option.some.inj ((served.answered able.1).symm.trans answer))
  exact ⟨middle, served⟩

/-- A destroy that succeeds takes away the barrier that `barrier_wait` with the
same id would have used, and nothing else. -/
theorem destroy_removes_one {barrierId : BitVec 32}
    (served : registry.barrierDestroy barrierId tgid = some (after, 0)) :
    ∃ address, registry.waitLookup tgid barrierId = some (registry, .ok address) ∧
      after.nodes = registry.nodes.filter (· ≠ address) ∧
      ∀ other, other ≠ address → after.memory other = registry.memory other := by
  rcases Registry.destroy_cases served with
    ⟨-, -, wrong⟩ | ⟨address, barrier, found, -, ⟨-, -, wrong⟩ | ⟨-, rfl, -⟩⟩
  · exact absurd wrong (by decide)
  · exact absurd wrong (by decide)
  · refine ⟨address, by simp [Registry.waitLookup, found], ?_, ?_⟩
    · have distinct : registry.nodes.Nodup := registry.distinct
      rw [Registry.remove_nodes, distinct.erase_eq_filter]
      apply List.filter_congr
      intro other _
      by_cases same : other = address <;> simp [same]
    · intro other different
      simp [Registry.removeBarrier, different]

/-- In any sequence of calls by any processes each process gets the replies, and
ends with the barriers, that its own calls alone give it; and a destroy that
succeeds takes away one barrier, the one that `barrier_wait` would have used. -/
theorem processes_are_isolated (initialised : registry.Initialised)
    {requests : List (Int × Request Thread)} {replies : List (Int × Reply)}
    (run : Serves Served registry requests replies after) (tgid : Int) :
    (∀ ownReplies ownAfter,
      Serves Served registry (own tgid requests) ownReplies ownAfter →
        own tgid replies = ownReplies ∧ after.ownBarriers tgid = ownAfter.ownBarriers tgid) ∧
    (Infinite Address → registry.Supplied →
      ∃ ownReplies ownAfter, Serves Served registry (own tgid requests) ownReplies ownAfter) ∧
    ∀ barrierId removed, after.barrierDestroy barrierId tgid = some (removed, 0) →
      ∃ address, after.waitLookup tgid barrierId = some (after, .ok address) ∧
        removed.nodes = after.nodes.filter (· ≠ address) ∧
        ∀ other, other ≠ address → removed.memory other = after.memory other := by
  refine ⟨?_, ?_, ?_⟩
  · intro ownReplies ownAfter ownRun
    have same := served_local.noninterference initialised initialised rfl run ownRun
      (own_own tgid requests).symm
    rwa [ownRun.own_replies fun item member => mem_own tgid requests member] at same
  · intro unbounded supplied
    obtain ⟨ownAfter, ownRun⟩ := exists_own_run initialised supplied run
    exact ⟨_, ownAfter, ownRun⟩
  · intro barrierId removed served
    exact destroy_removes_one served

end Calls

/-- The first barriers of two processes get the same id; one of them is destroyed and the other
one is still found. -/
def bothFirst : List (Int × Request Unit) :=
  [(7, .init 5 0), (8, .init 3 0), (7, .lookup 1), (7, .destroy 1), (8, .lookup 1)]

theorem processes_are_isolated_first :
    ∃ after : Registry Nat Unit,
      Serves Served Registry.boot.initialiseGlobals bothFirst
        [(7, .barrierId 1), (8, .barrierId 1), (7, .found 0), (7, .code 0), (8, .found 0)]
        after ∧
      ∀ ownReplies ownAfter,
        Serves Served (Registry.boot : Registry Nat Unit).initialiseGlobals
          [(8, .init 3 0), (8, .lookup 1)] ownReplies ownAfter →
        [(8, .barrierId 1), (8, .found 0)] = ownReplies ∧
          after.ownBarriers 8 = ownAfter.ownBarriers 8 := by
  obtain ⟨after, run⟩ : ∃ after : Registry Nat Unit,
      Serves Served Registry.boot.initialiseGlobals bothFirst
        [(7, .barrierId 1), (8, .barrierId 1), (7, .found 0), (7, .code 0), (8, .found 0)]
        after :=
    ⟨_, .cons (@Served.init _ _ _ _ _ _ _ _ 0 .zeroed _ rfl)
      (.cons (@Served.init _ _ _ _ _ _ _ _ 1 .zeroed _ rfl)
      (.cons (@Served.lookup _ _ _ _ _ 1 0 _ rfl)
      (.cons (.destroy rfl) (.cons (@Served.lookup _ _ _ _ _ 1 1 _ rfl) (.nil _)))))⟩
  have initialised : (Registry.boot : Registry Nat Unit).initialiseGlobals.Initialised :=
    ⟨by decide, rfl⟩
  exact ⟨after, run, (processes_are_isolated initialised run 8).1⟩

end BarrierSys

end KinuxKernel
