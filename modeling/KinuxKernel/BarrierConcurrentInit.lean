import KinuxKernel.BarrierRegistry

/-!
# Concurrent calls of `barrier_init`

Every interleaving of the steps of any number of `barrier_init` calls from boot:
reading `first_flag`, the one-time initialisation, counting the own barriers,
and the section under `init_dest_lock`.  The calls act as if made one after the
other in exactly the runs in which the initialisation never meets a barrier and
no count is out of date when it is used.
-/

namespace KinuxKernel

namespace BarrierSys

open TraceRun

/-- The arguments of a call and the process that makes it. -/
structure InitArgs where
  tgid : Int
  count : BitVec 32
  timeout : Int

/-- The next step of a call; a call that has returned knows its barrier. -/
inductive InitPoint (Address : Type*) where
  | readFlag
  | initialise
  | count
  | insert (numBarriers : BitVec 32)
  | ret (barrier : Address) (barrierId : BitVec 32)
deriving DecidableEq

/-- The registry and the next step of every call. -/
structure InitSystem (Caller Address Thread : Type*) where
  registry : Registry Address Thread
  point : Caller → InitPoint Address

/-- The steps; the last one with the block that `kmalloc` returns. -/
inductive InitEvent (Caller Address Thread : Type*) where
  | readFlag (caller : Caller)
  | initialise (caller : Caller)
  | count (caller : Caller)
  | insert (caller : Caller) (address : Address) (contents : Barrier Thread)

variable {Caller Address Thread : Type*}

/-- After boot no call has begun. -/
def InitSystem.boot : InitSystem Caller Address Thread :=
  ⟨Registry.boot, fun _ => .readFlag⟩

variable [DecidableEq Caller] [DecidableEq Address]

def initStep (args : Caller → InitArgs) (system : InitSystem Caller Address Thread) :
    InitEvent Caller Address Thread → Option (InitSystem Caller Address Thread)
  | .readFlag caller =>
      if system.point caller = .readFlag then
        some { system with
          point := Function.update system.point caller
            (if system.registry.firstFlag = 0 then .initialise else .count) }
      else none
  | .initialise caller =>
      if system.point caller = .initialise then
        some ⟨system.registry.initialiseGlobals, Function.update system.point caller .count⟩
      else none
  | .count caller =>
      if system.point caller = .count then
        (system.registry.countBarriers (args caller).tgid).map fun numBarriers =>
          { system with point := Function.update system.point caller (.insert numBarriers) }
      else none
  | .insert caller address contents =>
      match system.point caller with
      | .insert numBarriers =>
          (system.registry.insertBarrier address contents numBarriers (args caller).count
            (args caller).timeout (args caller).tgid).map fun result =>
              ⟨result.1, Function.update system.point caller (.ret address result.2)⟩
      | _ => none

/-- Runs from boot. -/
abbrev InitRun (args : Caller → InitArgs) :
    List (InitEvent Caller Address Thread) → InitSystem Caller Address Thread → Prop :=
  Run (initStep args) (each fun _ => True) InitSystem.boot

/-- The list holds one barrier for each call that has returned, and the calls of
one process have returned different ids. -/
structure Serialised (args : Caller → InitArgs) (system : InitSystem Caller Address Thread) :
    Prop where
  listed : ∀ caller barrier barrierId, system.point caller = .ret barrier barrierId →
    barrier ∈ system.registry.nodes
  own : ∀ first second barrier barrierId barrierId',
    system.point first = .ret barrier barrierId → system.point second = .ret barrier barrierId' →
      first = second
  only : ∀ barrier ∈ system.registry.nodes, ∃ caller barrierId,
    system.point caller = .ret barrier barrierId
  different : ∀ first second barrier barrier' barrierId barrierId',
    system.point first = .ret barrier barrierId →
    system.point second = .ret barrier' barrierId' →
    (args first).tgid = (args second).tgid → first ≠ second → barrierId ≠ barrierId'

/-- The call that inserts its barrier. -/
def InitEvent.inserter : InitEvent Caller Address Thread → Option Caller
  | .insert caller _ _ => some caller
  | _ => none

def InitEvent.countedBy (caller : Caller) : InitEvent Caller Address Thread → Bool
  | .count other => other = caller
  | _ => false

/-- The history since a call counted the barriers of its process. -/
def sinceCount (caller : Caller) (trace : List (InitEvent Caller Address Thread)) :
    List (InitEvent Caller Address Thread) :=
  trace.takeWhile fun event => !event.countedBy caller

/-- The number of barriers that calls of a process have inserted. -/
def insertions (args : Caller → InitArgs) (tgid : Int)
    (trace : List (InitEvent Caller Address Thread)) : Nat :=
  (trace.filterMap InitEvent.inserter).countP fun caller => (args caller).tgid = tgid

/-- The order of the steps of calls that do not disturb each other: the one-time
initialisation comes before all barriers, and from counting to inserting no
other barrier of the process appears.  A process has at most `2 ^ 32` ids. -/
def Orderly (args : Caller → InitArgs) (trace : List (InitEvent Caller Address Thread)) :
    InitEvent Caller Address Thread → Prop
  | .initialise _ => trace.filterMap InitEvent.inserter = []
  | .insert caller _ _ =>
      insertions args (args caller).tgid (sinceCount caller trace) = 0 ∧
        insertions args (args caller).tgid trace < 2 ^ 32
  | _ => True

/-- All steps of a history came in order. -/
def OrderlyTrace (args : Caller → InitArgs) (trace : List (InitEvent Caller Address Thread)) :
    Prop :=
  ∀ event earlier, event :: earlier <:+ trace → Orderly args earlier event

/-- What each step can do. -/
inductive InitEffect (args : Caller → InitArgs) (system : InitSystem Caller Address Thread) :
    InitEvent Caller Address Thread → InitSystem Caller Address Thread → Prop
  | readFlag (caller : Caller) (target : InitPoint Address) :
      system.point caller = .readFlag → target = .initialise ∨ target = .count →
      InitEffect args system (.readFlag caller)
        { system with point := Function.update system.point caller target }
  | initialise (caller : Caller) : system.point caller = .initialise →
      InitEffect args system (.initialise caller)
        ⟨system.registry.initialiseGlobals, Function.update system.point caller .count⟩
  | count (caller : Caller) : system.point caller = .count →
      InitEffect args system (.count caller)
        { system with
          point := Function.update system.point caller
            (.insert (BitVec.ofNat 32 (system.registry.ownCount (args caller).tgid))) }
  | insert (caller : Caller) (address : Address) (contents : Barrier Thread)
      (numBarriers : BitVec 32) (registry : Registry Address Thread) :
      system.point caller = .insert numBarriers →
      system.registry.Inserted address (args caller).tgid (numBarriers + 1) registry →
      InitEffect args system (.insert caller address contents)
        ⟨registry, Function.update system.point caller (.ret address (numBarriers + 1))⟩

section Steps

variable {args : Caller → InitArgs} {system after : InitSystem Caller Address Thread}
  {event : InitEvent Caller Address Thread}
  {trace : List (InitEvent Caller Address Thread)}

theorem initEffect_of_step (stepTo : initStep args system event = some after) :
    InitEffect args system event after := by
  cases event with
  | readFlag caller =>
      obtain ⟨atPoint, same⟩ := Option.ite_none_right_eq_some.mp stepTo
      obtain rfl := Option.some.inj same
      refine .readFlag caller _ atPoint ?_
      split
      · exact .inl rfl
      · exact .inr rfl
  | initialise caller =>
      obtain ⟨atPoint, same⟩ := Option.ite_none_right_eq_some.mp stepTo
      obtain rfl := Option.some.inj same
      exact .initialise caller atPoint
  | count caller =>
      obtain ⟨atPoint, counted⟩ := Option.ite_none_right_eq_some.mp stepTo
      obtain ⟨numBarriers, walked, rfl⟩ := Option.map_eq_some_iff.mp counted
      obtain ⟨list, listed, rfl⟩ := Option.map_eq_some_iff.mp walked
      have number : list.countP (system.registry.ownedBy (args caller).tgid) =
          system.registry.ownCount (args caller).tgid := by
        simp [Registry.ownCount, Registry.nodes, listed]
      rw [number]
      exact .count caller atPoint
  | insert caller address contents =>
      simp only [initStep] at stepTo
      split at stepTo
      · next numBarriers atPoint =>
          obtain ⟨⟨registry, barrierId⟩, inserted, rfl⟩ := Option.map_eq_some_iff.mp stepTo
          obtain ⟨rfl, put, -⟩ := Registry.insert_spec inserted
          exact .insert caller address contents numBarriers registry atPoint put
      · simp at stepTo

omit [DecidableEq Caller] [DecidableEq Address] in
theorem insertions_cons (tgid : Int) :
    insertions args tgid (event :: trace) = insertions args tgid trace +
      (event.inserter.any fun caller => (args caller).tgid = tgid).toNat := by
  unfold insertions
  cases inserter : event.inserter with
  | none => simp [inserter]
  | some caller =>
      by_cases same : (args caller).tgid = tgid <;>
        simp [inserter, same]

omit [DecidableEq Address] in
/-- The barriers that appear after a call has counted add to the difference. -/
theorem insertions_since {caller : Caller} {tgid : Int} {number : Nat}
    (other : event.countedBy caller = false)
    (counted :
      number + insertions args tgid (sinceCount caller trace) = insertions args tgid trace) :
    number + insertions args tgid (sinceCount caller (event :: trace)) =
      insertions args tgid (event :: trace) := by
  have since : sinceCount caller (event :: trace) = event :: sinceCount caller trace := by
    simp [sinceCount, other]
  rw [since, insertions_cons, insertions_cons, ← counted, Nat.add_assoc]

/-- The state of calls that have acted one after the other: besides being
serialised, every process has the ids from one on, in 32 bits, and a count that
a call has taken lacks the barriers inserted since. -/
structure Sequential (args : Caller → InitArgs) (trace : List (InitEvent Caller Address Thread))
    (system : InitSystem Caller Address Thread) : Prop where
  unique : system.registry.Unique
  placed : ∀ caller barrier barrierId, system.point caller = .ret barrier barrierId →
    barrier ∈ system.registry.nodes ∧
      system.registry.handle barrier = some ((args caller).tgid, barrierId)
  own : ∀ first second barrier barrierId barrierId',
    system.point first = .ret barrier barrierId → system.point second = .ret barrier barrierId' →
      first = second
  only : ∀ barrier ∈ system.registry.nodes, ∃ caller barrierId,
    system.point caller = .ret barrier barrierId
  ids : ∀ tgid barrierId, some (tgid, barrierId) ∈
      system.registry.nodes.map system.registry.handle ↔
    ∃ index < insertions args tgid trace, barrierId = BitVec.ofNat 32 (index + 1)
  bounded : ∀ tgid, insertions args tgid trace ≤ 2 ^ 32
  length : system.registry.nodes.length = (trace.filterMap InitEvent.inserter).length
  ownCount : ∀ tgid, system.registry.ownCount tgid = insertions args tgid trace
  taken : ∀ caller numBarriers, system.point caller = .insert numBarriers →
    ∃ number, numBarriers = BitVec.ofNat 32 number ∧
      number + insertions args (args caller).tgid (sinceCount caller trace) =
        insertions args (args caller).tgid trace

/-- A call whose barrier is gone, or two calls of one process with the same
id. -/
def Broken (args : Caller → InitArgs) (system : InitSystem Caller Address Thread) : Prop :=
  (∃ caller barrier barrierId, system.point caller = .ret barrier barrierId ∧
    barrier ∉ system.registry.nodes ∧ system.registry.memory barrier ≠ none) ∨
  (∃ first second barrier barrier' barrierId, first ≠ second ∧
    (args first).tgid = (args second).tgid ∧ system.point first = .ret barrier barrierId ∧
      system.point second = .ret barrier' barrierId)

omit [DecidableEq Address] in
theorem Sequential.serialised (sequential : Sequential args trace system) :
    Serialised args system := by
  refine ⟨fun caller barrier barrierId returned =>
    (sequential.placed caller barrier barrierId returned).1, sequential.own, sequential.only, ?_⟩
  intro first second barrier barrier' barrierId barrierId' returned returned' sameProcess
    different sameId
  obtain ⟨listed, handle⟩ := sequential.placed _ _ _ returned
  obtain ⟨listed', handle'⟩ := sequential.placed _ _ _ returned'
  have sameHandle : system.registry.handle barrier = system.registry.handle barrier' := by
    rw [handle, handle', sameProcess, sameId]
  obtain rfl := List.inj_on_of_nodup_map sequential.unique listed listed' sameHandle
  exact different (sequential.own _ _ _ _ _ returned returned')

omit [DecidableEq Caller] [DecidableEq Address] in
theorem Broken.not_serialised (broken : Broken args system) : ¬ Serialised args system := by
  intro serialised
  rcases broken with
    ⟨caller, barrier, barrierId, returned, gone, -⟩ |
    ⟨first, second, barrier, barrier', barrierId, different, sameProcess, returned, returned'⟩
  · exact gone (serialised.listed _ _ _ returned)
  · exact serialised.different _ _ _ _ _ _ returned returned' sameProcess different rfl

omit [DecidableEq Address] in
theorem InitEffect.returned (effect : InitEffect args system event after) {caller : Caller}
    {barrier : Address} {barrierId : BitVec 32}
    (returned : system.point caller = .ret barrier barrierId) :
    after.point caller = .ret barrier barrierId := by
  cases effect with
  | readFlag mover target atPoint =>
      have other : caller ≠ mover := by
        rintro rfl
        simp [atPoint] at returned
      simpa [other] using returned
  | initialise mover atPoint | count mover atPoint
  | insert mover address contents numBarriers registry atPoint =>
      have other : caller ≠ mover := by
        rintro rfl
        simp [atPoint] at returned
      simpa [other] using returned

omit [DecidableEq Address] in
theorem Broken.step (broken : Broken args system)
    (effect : InitEffect args system event after) : Broken args after := by
  rcases broken with
    ⟨caller, barrier, barrierId, returned, gone, taken⟩ |
    ⟨first, second, barrier, barrier', barrierId, different, sameProcess, returned, returned'⟩
  · refine .inl ⟨caller, barrier, barrierId, effect.returned returned, ?_⟩
    cases effect with
    | readFlag | count => exact ⟨gone, taken⟩
    | initialise => exact ⟨List.not_mem_nil, taken⟩
    | insert mover address contents numBarriers registry atPoint inserted =>
        have other : barrier ≠ address := by
          rintro rfl
          exact taken inserted.fresh
        refine ⟨?_, ?_⟩
        · rw [inserted.nodes]
          simp [other, gone]
        · rwa [inserted.others barrier other]
  · exact .inr ⟨first, second, barrier, barrier', barrierId, different, sameProcess,
      effect.returned returned, effect.returned returned'⟩

omit [DecidableEq Address] in
/-- Every id of a process that is in use belongs to a call that has returned. -/
theorem Sequential.caller_of_id (sequential : Sequential args trace system) {tgid : Int}
    {index : Nat} (used : index < insertions args tgid trace) :
    ∃ caller barrier, (args caller).tgid = tgid ∧
      system.point caller = .ret barrier (BitVec.ofNat 32 (index + 1)) := by
  obtain ⟨barrier, listed, handle⟩ :=
    List.mem_map.mp ((sequential.ids tgid _).mpr ⟨index, used, rfl⟩)
  obtain ⟨caller, barrierId, returned⟩ := sequential.only barrier listed
  have placed := (sequential.placed _ _ _ returned).2
  obtain ⟨rfl, rfl⟩ := Prod.mk.inj (Option.some.inj (placed.symm.trans handle))
  exact ⟨caller, barrier, rfl, returned⟩

omit [DecidableEq Address] in
/-- A step that is not in order breaks the order of the calls. -/
theorem Sequential.break (sequential : Sequential args trace system)
    (effect : InitEffect args system event after) (disorderly : ¬ Orderly args trace event) :
    Broken args after := by
  cases effect with
  | readFlag | count => exact (disorderly trivial).elim
  | initialise mover atPoint =>
      -- the barriers in the list are lost
      have some : system.registry.nodes ≠ [] := by
        rw [← List.length_pos_iff_ne_nil, sequential.length, List.length_pos_iff_ne_nil]
        exact disorderly
      obtain ⟨barrier, listed⟩ := List.exists_mem_of_ne_nil _ some
      obtain ⟨caller, barrierId, returned⟩ := sequential.only barrier listed
      refine .inl ⟨caller, barrier, barrierId,
        (InitEffect.initialise mover atPoint : InitEffect args system _ _).returned returned,
        List.not_mem_nil, ?_⟩
      exact Option.isSome_iff_ne_none.mp (system.registry.allocated barrier listed)
  | insert mover address contents numBarriers registry atPoint inserted =>
      -- the id has been given to another call of the process
      obtain ⟨number, rfl, counted⟩ := sequential.taken mover numBarriers atPoint
      have bounded := sequential.bounded (args mover).tgid
      obtain ⟨index, used, sameId⟩ : ∃ index < insertions args (args mover).tgid trace,
          BitVec.ofNat 32 number + 1 = BitVec.ofNat 32 (index + 1) := by
        by_cases missed : insertions args (args mover).tgid (sinceCount mover trace) = 0
        · -- the process has all ids already, and counting starts again
          have many : ¬ insertions args (args mover).tgid trace < 2 ^ 32 :=
            fun few => disorderly ⟨missed, few⟩
          have full : number = 2 ^ 32 := by omega
          exact ⟨0, by omega, by rw [full]; rfl⟩
        · exact ⟨number, by omega, (BitVec.ofNat_add ..).symm⟩
      obtain ⟨caller, barrier, sameProcess, returned⟩ := sequential.caller_of_id used
      have other : caller ≠ mover := by
        rintro rfl
        simp [atPoint] at returned
      refine .inr ⟨caller, mover, barrier, address, BitVec.ofNat 32 (index + 1), other,
        sameProcess, ?_, ?_⟩
      · simpa [other] using returned
      · rw [← sameId]
        exact Function.update_self ..

omit [DecidableEq Address] in
theorem Sequential.of_empty (empty : system.registry.nodes = [])
    (none : trace.filterMap InitEvent.inserter = [])
    (running : ∀ caller barrier barrierId, system.point caller ≠ .ret barrier barrierId)
    (taken : ∀ caller numBarriers, system.point caller = .insert numBarriers →
      ∃ number, numBarriers = BitVec.ofNat 32 number ∧
        number + insertions args (args caller).tgid (sinceCount caller trace) =
          insertions args (args caller).tgid trace) :
    Sequential args trace system where
  unique := by simp [Registry.Unique, empty]
  placed := fun caller barrier barrierId returned => (running _ _ _ returned).elim
  own := fun first second barrier barrierId barrierId' returned => (running _ _ _ returned).elim
  only := by simp [empty]
  ids := by simp [insertions, none, empty]
  bounded := by simp [insertions, none]
  length := by simp [empty, none]
  ownCount := by simp [Registry.ownCount, empty, insertions, none]
  taken := taken

omit [DecidableEq Address] in
/-- A step that leaves the registry alone keeps the order of the calls. -/
theorem Sequential.move (sequential : Sequential args trace system) {mover : Caller}
    {target : InitPoint Address} (unlocked : event.inserter = none)
    (running : ∀ barrier barrierId, target ≠ .ret barrier barrierId)
    (unreturned : ∀ barrier barrierId, system.point mover ≠ .ret barrier barrierId)
    (others : ∀ caller, caller ≠ mover → event.countedBy caller = false)
    (taken : ∀ numBarriers, target = .insert numBarriers →
      ∃ number, numBarriers = BitVec.ofNat 32 number ∧
        number + insertions args (args mover).tgid (sinceCount mover (event :: trace)) =
          insertions args (args mover).tgid (event :: trace)) :
    Sequential args (event :: trace)
      { system with point := Function.update system.point mover target } := by
  have returned_iff : ∀ caller barrier barrierId,
      Function.update system.point mover target caller = .ret barrier barrierId ↔
        system.point caller = .ret barrier barrierId := by
    intro caller barrier barrierId
    by_cases same : caller = mover
    · subst same
      simp [running, unreturned]
    · simp [same]
  have same_insertions : ∀ tgid,
      insertions args tgid (event :: trace) = insertions args tgid trace := by
    intro tgid
    simp [insertions_cons, unlocked]
  refine ⟨sequential.unique, ?_, ?_, ?_, ?_, ?_, ?_, ?_, ?_⟩
  · intro caller barrier barrierId returned
    exact sequential.placed _ _ _ ((returned_iff _ _ _).mp returned)
  · intro first second barrier barrierId barrierId' returned returned'
    exact sequential.own _ _ _ _ _ ((returned_iff _ _ _).mp returned)
      ((returned_iff _ _ _).mp returned')
  · intro barrier listed
    obtain ⟨caller, barrierId, returned⟩ := sequential.only barrier listed
    exact ⟨caller, barrierId, (returned_iff _ _ _).mpr returned⟩
  · intro tgid barrierId
    rw [same_insertions]
    exact sequential.ids tgid barrierId
  · intro tgid
    rw [same_insertions]
    exact sequential.bounded tgid
  · rw [List.filterMap_cons_none unlocked]
    exact sequential.length
  · intro tgid
    rw [same_insertions]
    exact sequential.ownCount tgid
  · intro caller numBarriers atPoint
    by_cases same : caller = mover
    · subst same
      exact taken numBarriers (by simpa using atPoint)
    · obtain ⟨number, rfl, counted⟩ :=
        sequential.taken caller numBarriers (by simpa [same] using atPoint)
      exact ⟨number, rfl, insertions_since (others caller same) counted⟩

/-- Ids in the range of an `unsigned int` do not meet. -/
theorem id_ne {index number : Nat} (lt : index < number) (bounded : number < 2 ^ 32) :
    BitVec.ofNat 32 (index + 1) ≠ BitVec.ofNat 32 (number + 1) := by
  intro same
  have same := congrArg BitVec.toNat same
  simp only [BitVec.toNat_ofNat] at same
  omega

omit [DecidableEq Address] in
theorem returned_insert_iff {point : Caller → InitPoint Address} {mover caller : Caller}
    {address barrier : Address} {newId barrierId : BitVec 32} :
    Function.update point mover (.ret address newId) caller = .ret barrier barrierId ↔
      (caller = mover ∧ address = barrier ∧ newId = barrierId) ∨
        (caller ≠ mover ∧ point caller = .ret barrier barrierId) := by
  by_cases same : caller = mover
  · subst same
    simp
  · simp [same]

/-- With one more barrier a process has one more id. -/
theorem id_insert_iff {number : Nat} {barrierId : BitVec 32} :
    (∃ index < number + 1, barrierId = BitVec.ofNat 32 (index + 1)) ↔
      barrierId = BitVec.ofNat 32 (number + 1) ∨
        ∃ index < number, barrierId = BitVec.ofNat 32 (index + 1) := by
  constructor
  · rintro ⟨index, used, rfl⟩
    rcases Nat.lt_succ_iff_lt_or_eq.mp used with past | rfl
    · exact .inr ⟨index, past, rfl⟩
    · exact .inl rfl
  · rintro (rfl | ⟨index, used, rfl⟩)
    · exact ⟨number, Nat.lt_succ_self _, rfl⟩
    · exact ⟨index, Nat.lt_succ_of_lt used, rfl⟩

omit [DecidableEq Address] in
theorem Sequential.insert (sequential : Sequential args trace system) {mover : Caller}
    {address : Address} {contents : Barrier Thread} {numBarriers : BitVec 32}
    {registry : Registry Address Thread} (atPoint : system.point mover = .insert numBarriers)
    (inserted : system.registry.Inserted address (args mover).tgid (numBarriers + 1) registry)
    (current : insertions args (args mover).tgid (sinceCount mover trace) = 0)
    (inRange : insertions args (args mover).tgid trace < 2 ^ 32) :
    Sequential args (.insert mover address contents :: trace)
      ⟨registry, Function.update system.point mover (.ret address (numBarriers + 1))⟩ := by
  have newId : numBarriers + 1 =
      BitVec.ofNat 32 (insertions args (args mover).tgid trace + 1) := by
    obtain ⟨number, rfl, counted⟩ := sequential.taken mover numBarriers atPoint
    rw [← counted, current, Nat.add_zero, BitVec.ofNat_add]
    rfl
  have notListed := Registry.not_node_of_fresh inserted.fresh
  have more : ∀ tgid, insertions args tgid (.insert mover address contents :: trace) =
      insertions args tgid trace + (decide ((args mover).tgid = tgid)).toNat :=
    fun tgid => insertions_cons tgid
  refine ⟨?_, ?_, ?_, ?_, ?_, ?_, ?_, ?_, ?_⟩
  · refine inserted.unique_iff.mpr ⟨?_, sequential.unique⟩
    rw [sequential.ids]
    rintro ⟨index, used, same⟩
    exact id_ne used inRange (same.symm.trans newId)
  · intro caller barrier barrierId returned
    rcases returned_insert_iff.mp returned with ⟨rfl, rfl, rfl⟩ | ⟨-, before⟩
    · exact ⟨by simp [inserted.nodes], inserted.own⟩
    · obtain ⟨listed, own⟩ := sequential.placed _ _ _ before
      exact ⟨by simp [inserted.nodes, listed], (inserted.handle_others listed).trans own⟩
  · intro first second barrier barrierId barrierId' returned returned'
    rcases returned_insert_iff.mp returned with ⟨rfl, rfl, -⟩ | ⟨-, before⟩ <;>
      rcases returned_insert_iff.mp returned' with ⟨rfl, same, -⟩ | ⟨-, before'⟩
    · rfl
    · exact (notListed (sequential.placed _ _ _ before').1).elim
    · exact (notListed (same ▸ (sequential.placed _ _ _ before).1)).elim
    · exact sequential.own _ _ _ _ _ before before'
  · intro barrier listed
    rw [inserted.nodes, List.mem_cons] at listed
    rcases listed with rfl | listed
    · exact ⟨mover, numBarriers + 1, returned_insert_iff.mpr (.inl ⟨rfl, rfl, rfl⟩)⟩
    · obtain ⟨caller, barrierId, returned⟩ := sequential.only barrier listed
      refine ⟨caller, barrierId, returned_insert_iff.mpr (.inr ⟨?_, returned⟩)⟩
      rintro rfl
      simp [atPoint] at returned
  · intro tgid barrierId
    rw [inserted.handles, List.mem_cons, sequential.ids, more]
    by_cases same : (args mover).tgid = tgid
    · subst same
      simp only [decide_true, Bool.toNat_true, id_insert_iff, Option.some.injEq, Prod.mk.injEq,
        true_and, newId]
    · simp [same, Ne.symm same]
  · intro tgid
    have bounded := sequential.bounded tgid
    rw [more]
    by_cases same : (args mover).tgid = tgid
    · subst same
      simpa using Nat.succ_le_of_lt inRange
    · simpa [same] using bounded
  · rw [inserted.nodes, List.length_cons, sequential.length]
    rfl
  · intro tgid
    rw [inserted.ownCount, sequential.ownCount, more]
  · intro caller numBarriers' atPoint'
    have different : caller ≠ mover := by
      rintro rfl
      simp at atPoint'
    obtain ⟨number, rfl, counted⟩ := sequential.taken caller numBarriers'
      (by simpa [different] using atPoint')
    exact ⟨number, rfl, insertions_since rfl counted⟩

omit [DecidableEq Address] in
theorem Sequential.step (sequential : Sequential args trace system)
    (effect : InitEffect args system event after) (orderly : Orderly args trace event) :
    Sequential args (event :: trace) after := by
  cases effect with
  | readFlag mover target atPoint target_cases =>
      apply sequential.move rfl
      · rcases target_cases with rfl | rfl <;> simp
      · simp [atPoint]
      · exact fun _ _ => rfl
      · rcases target_cases with rfl | rfl <;> simp
  | initialise mover atPoint =>
      have empty : system.registry.nodes = [] := by
        rw [← List.length_eq_zero_iff, sequential.length, List.length_eq_zero_iff]
        exact orderly
      apply Sequential.of_empty
      · rfl
      · exact orderly
      · intro caller barrier barrierId
        by_cases same : caller = mover
        · simp [same]
        · intro returned
          have listed := (sequential.placed caller barrier barrierId
            (by simpa [same] using returned)).1
          simp [empty] at listed
      · intro caller numBarriers atPoint'
        have different : caller ≠ mover := by
          rintro rfl
          simp at atPoint'
        obtain ⟨number, rfl, counted⟩ := sequential.taken caller numBarriers
          (by simpa [different] using atPoint')
        exact ⟨number, rfl, insertions_since rfl counted⟩
  | count mover atPoint =>
      apply sequential.move rfl
      · simp
      · simp [atPoint]
      · intro caller different
        simp [InitEvent.countedBy, Ne.symm different]
      · intro numBarriers same
        refine ⟨_, (InitPoint.insert.inj same).symm, ?_⟩
        have since : sinceCount mover (.count mover :: trace) = [] := by
          simp [sinceCount, InitEvent.countedBy]
        rw [since, sequential.ownCount, insertions_cons]
        rfl
  | insert mover address contents numBarriers registry atPoint inserted =>
      exact sequential.insert atPoint inserted orderly.1 orderly.2

omit [DecidableEq Address] in
theorem orderlyTrace_cons :
    OrderlyTrace args (event :: trace) ↔ Orderly args trace event ∧ OrderlyTrace args trace :=
  forall_executed_cons_iff

/-- The calls are in order as long as their steps are, and broken ever after. -/
theorem InitRun.order (run : InitRun args trace system) :
    (OrderlyTrace args trace ∧ Sequential args trace system) ∨
      (¬ OrderlyTrace args trace ∧ Broken args system) := by
  induction run with
  | start =>
      refine .inl ⟨fun event earlier inside => ?_, Sequential.of_empty rfl rfl ?_ ?_⟩
      · simp at inside
      · simp [InitSystem.boot]
      · simp [InitSystem.boot]
  | @next trace before after event earlier _ stepTo ih =>
      have effect := initEffect_of_step stepTo
      rw [orderlyTrace_cons]
      rcases ih with ⟨orderly, sequential⟩ | ⟨disorderly, broken⟩
      · by_cases last : Orderly args trace event
        · exact .inl ⟨⟨last, orderly⟩, sequential.step effect last⟩
        · exact .inr ⟨fun both => last both.1, sequential.break effect last⟩
      · exact .inr ⟨fun both => disorderly both.2, broken.step effect⟩

/-- In every state of every run the calls that have returned look as if made one
after the other exactly when the steps of the run came in order. -/
theorem init_serialised_iff (run : InitRun args trace system) :
    Serialised args system ↔ OrderlyTrace args trace := by
  rcases InitRun.order run with ⟨orderly, sequential⟩ | ⟨disorderly, broken⟩
  · exact iff_of_true sequential.serialised orderly
  · exact iff_of_false broken.not_serialised disorderly

/-- A call whose steps are not interrupted does what `barrierInit` says. -/
theorem barrierInit_steps {caller : Caller} {address : Address} {contents : Barrier Thread}
    {registry : Registry Address Thread} {barrierId : BitVec 32}
    (ready : system.point caller = .readFlag)
    (served : system.registry.barrierInit address contents (args caller).count
      (args caller).timeout (args caller).tgid = some (registry, barrierId)) :
    ∃ trace : List (InitEvent Caller Address Thread),
      Run (initStep args) (each fun _ => True) system trace
        ⟨registry, Function.update system.point caller (.ret address barrierId)⟩ := by
  obtain ⟨numBarriers, counted, inserted⟩ := Option.bind_eq_some_iff.mp served
  by_cases first : system.registry.firstFlag = 0
  · refine ⟨[.insert caller address contents, .count caller, .initialise caller,
      .readFlag caller], run_of_replay (fun _ _ => trivial) ?_⟩
    rw [if_pos first] at counted inserted
    simp [replay, initStep, ready, first, counted, inserted]
  · refine ⟨[.insert caller address contents, .count caller, .readFlag caller],
      run_of_replay (fun _ _ => trivial) ?_⟩
    rw [if_neg first] at counted inserted
    simp [replay, initStep, ready, first, counted, inserted]

end Steps

/-- Two calls of one process. -/
def twoInits : Bool → InitArgs :=
  fun _ => ⟨7, 5, 0⟩

/-- Both calls count before either inserts its barrier. -/
def racingInits : List (InitEvent Bool Nat Unit) :=
  [.insert true 1 .zeroed, .insert false 0 .zeroed, .count true, .count false, .readFlag true,
    .initialise false, .readFlag false]

/-- Both calls return the id 1. -/
theorem racing_inits_collide :
    ∃ system, InitRun twoInits racingInits system ∧
      (∀ caller, ∃ barrier barrierId, system.point caller = .ret barrier barrierId) ∧
      ¬ Serialised twoInits system := by
  obtain ⟨system, run⟩ : ∃ system, InitRun twoInits racingInits system :=
    exists_run_of_replay (fun _ _ => trivial) (by decide +kernel)
  have points : (replay (initStep twoInits) InitSystem.boot racingInits).map
      (fun system => (system.point false, system.point true)) = some (.ret 0 1, .ret 1 1) := by
    decide +kernel
  rw [run.replay_eq] at points
  obtain ⟨first, second⟩ := Prod.mk.inj (Option.some.inj points)
  refine ⟨system, run, ?_, fun serialised => ?_⟩
  · rintro (_ | _)
    · exact ⟨_, _, first⟩
    · exact ⟨_, _, second⟩
  · exact serialised.different _ _ _ _ _ _ first second rfl (by decide) rfl

theorem init_serialised_two :
    ∃ system, InitRun twoInits
      [.insert true 1 .zeroed, .count true, .insert false 0 .zeroed, .count false, .readFlag true,
        .initialise false, .readFlag false] system ∧
      Serialised twoInits (system : InitSystem Bool Nat Unit) := by
  obtain ⟨system, run⟩ : ∃ system, InitRun twoInits
      [.insert true 1 .zeroed, .count true, .insert false 0 .zeroed, .count false, .readFlag true,
        .initialise false, .readFlag false] (system : InitSystem Bool Nat Unit) :=
    exists_run_of_replay (fun _ _ => trivial) (by decide +kernel)
  refine ⟨system, run, (init_serialised_iff run).mpr ?_⟩
  have none : OrderlyTrace twoInits ([] : List (InitEvent Bool Nat Unit)) := by
    intro event earlier inside
    simp at inside
  simp only [orderlyTrace_cons, none, Orderly, and_true, true_and]
  decide +kernel

end BarrierSys

end KinuxKernel
