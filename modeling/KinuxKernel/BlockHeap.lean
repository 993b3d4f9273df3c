import Mathlib.Data.List.Basic
import Mathlib.Logic.Function.Basic

/-!
# A heap of blocks

The live blocks of a heap with their contents.  Loads, stores and frees are
undefined on blocks that are not live, and outside a block.  Storing
consecutive cells replaces a segment of a block.
-/

namespace KinuxKernel

namespace BlockHeap

variable {Address Cell : Type*}

/-- The live blocks and their contents. -/
abbrev Heap (Address Cell : Type*) := Address → Option (List Cell)

def load (heap : Heap Address Cell) (address : Address) (offset : Nat) : Option Cell :=
  (heap address).bind fun block => block[offset]?

theorem load_eq {heap : Heap Address Cell} {address : Address} {block : List Cell}
    (live : heap address = some block) (offset : Nat) :
    load heap address offset = block[offset]? := by
  rw [load, live, Option.bind_some]

variable [DecidableEq Address]

/-- A new block at an address that the allocator has chosen; undefined if there is
a block already. -/
def alloc (heap : Heap Address Cell) (address : Address) (block : List Cell) :
    Option (Heap Address Cell) :=
  if (heap address).isNone then some (Function.update heap address (some block)) else none

def free (heap : Heap Address Cell) (address : Address) : Option (Heap Address Cell) :=
  (heap address).map fun _ => Function.update heap address none

def store (heap : Heap Address Cell) (address : Address) (offset : Nat) (cell : Cell) :
    Option (Heap Address Cell) :=
  (heap address).bind fun block =>
    if offset < block.length then some (Function.update heap address (some (block.set offset cell)))
    else none

/-- Stores to one block, the first one first. -/
def storeAll (heap : Heap Address Cell) (address : Address) :
    List (Nat × Cell) → Option (Heap Address Cell)
  | [] => some heap
  | (offset, cell) :: rest =>
      (store heap address offset cell).bind fun heap => storeAll heap address rest

/-- A heap with the stores that have been made in it, the first one first. -/
structure Logged (Address Cell : Type*) where
  heap : Heap Address Cell
  stores : List (Address × Nat × Cell)

namespace Logged

def store (logged : Logged Address Cell) (address : Address) (offset : Nat) (cell : Cell) :
    Option (Logged Address Cell) :=
  (BlockHeap.store logged.heap address offset cell).map fun heap =>
    ⟨heap, logged.stores ++ [(address, offset, cell)]⟩

def storeAll (logged : Logged Address Cell) (address : Address) :
    List (Nat × Cell) → Option (Logged Address Cell)
  | [] => some logged
  | (offset, cell) :: rest =>
      (logged.store address offset cell).bind fun logged => logged.storeAll address rest

end Logged

/-- The stores of some cells at consecutive offsets. -/
def consecutive (start : Nat) : List Cell → List (Nat × Cell)
  | [] => []
  | cell :: rest => (start, cell) :: consecutive (start + 1) rest

@[simp]
theorem consecutive_nil (start : Nat) : consecutive start ([] : List Cell) = [] :=
  rfl

theorem consecutive_append (start : Nat) (first second : List Cell) :
    consecutive start (first ++ second) =
      consecutive start first ++ consecutive (start + first.length) second := by
  induction first generalizing start with
  | nil => rfl
  | cons cell first ih =>
      simp only [List.cons_append, consecutive, ih, List.length_cons]
      rw [Nat.add_assoc, Nat.add_comm 1]

theorem consecutive_offsets (start : Nat) (cells : List Cell) :
    (consecutive start cells).map Prod.fst = List.range' start cells.length := by
  induction cells generalizing start with
  | nil => rfl
  | cons cell cells ih =>
      rw [consecutive, List.map_cons, ih, List.length_cons, List.range'_succ]

variable {heap : Heap Address Cell} {address other : Address} {block : List Cell} {start : Nat}
  {cells : List Cell}

theorem store_eq (live : heap address = some block) {offset : Nat} (inside : offset < block.length)
    (cell : Cell) :
    store heap address offset cell =
      some (Function.update heap address (some (block.set offset cell))) := by
  simp [store, live, inside]

theorem alloc_eq_some {after : Heap Address Cell} :
    alloc heap address block = some after ↔
      heap address = none ∧ after = Function.update heap address (some block) := by
  rw [alloc, Option.ite_none_right_eq_some, Option.isNone_iff_eq_none, Option.some.injEq]
  exact and_congr_right' eq_comm

theorem isSome_update_some (other : Address) :
    (Function.update heap address (some block) other).isSome =
      (decide (other = address) || (heap other).isSome) := by
  by_cases same : other = address
  · simp [same]
  · simp [same]

theorem isSome_update_none (other : Address) :
    (Function.update heap address none other).isSome =
      (decide (other ≠ address) && (heap other).isSome) := by
  by_cases same : other = address
  · simp [same]
  · simp [same]

/-- Stores change the contents of one block that is and stays live. -/
theorem storeAll_frame {stores : List (Nat × Cell)} {after : Heap Address Cell}
    (stored : storeAll heap address stores = some after) :
    (∀ other, other ≠ address → after other = heap other) ∧
      (after address).isSome = (heap address).isSome := by
  induction stores generalizing heap with
  | nil =>
      obtain rfl := Option.some.inj stored
      exact ⟨fun _ _ => rfl, rfl⟩
  | cons first rest ih =>
      obtain ⟨middle, written, remaining⟩ := Option.bind_eq_some_iff.mp stored
      obtain ⟨block, live, inside⟩ := Option.bind_eq_some_iff.mp written
      obtain ⟨-, same⟩ := Option.ite_none_right_eq_some.mp inside
      obtain rfl := Option.some.inj same
      obtain ⟨others, stays⟩ := ih remaining
      constructor
      · intro other different
        rw [others other different, Function.update_of_ne different]
      · rw [stays, Function.update_self, live]
        rfl

theorem Logged.storeAll_append (logged : Logged Address Cell) (first second : List (Nat × Cell)) :
    logged.storeAll address (first ++ second) =
      (logged.storeAll address first).bind fun logged => logged.storeAll address second := by
  induction first generalizing logged with
  | nil => rfl
  | cons stored first ih =>
      rw [List.cons_append, storeAll, storeAll, Option.bind_assoc]
      exact Option.bind_congr fun logged _ => ih logged

/-- The log is the list of the stores. -/
theorem Logged.storeAll_eq (logged : Logged Address Cell) (stores : List (Nat × Cell)) :
    logged.storeAll address stores = (BlockHeap.storeAll logged.heap address stores).map
      fun heap => ⟨heap, logged.stores ++ stores.map (Prod.mk address)⟩ := by
  induction stores generalizing logged with
  | nil => simp [storeAll, BlockHeap.storeAll]
  | cons first rest ih =>
      rw [storeAll, store, BlockHeap.storeAll, Option.bind_map, Option.map_bind]
      refine Option.bind_congr fun heap _ => ?_
      simp [ih]

/-- Consecutive stores inside a block replace a segment. -/
theorem storeAll_consecutive (live : heap address = some block)
    (fits : start + cells.length ≤ block.length) :
    storeAll heap address (consecutive start cells) =
      some (Function.update heap address
        (some (block.take start ++ cells ++ block.drop (start + cells.length)))) := by
  induction cells generalizing heap block start with
  | nil =>
      have whole : block.take start ++ [] ++ block.drop (start + 0) = block := by simp
      rw [consecutive_nil, storeAll, List.length_nil, whole, ← live, Function.update_eq_self]
  | cons cell rest ih =>
      rw [List.length_cons] at fits ⊢
      have inside : start < block.length := by omega
      have stored := ih (Function.update_self address (some (block.set start cell)) heap)
        (show start + 1 + rest.length ≤ (block.set start cell).length by
          rw [List.length_set]
          omega)
      rw [consecutive, storeAll, store_eq live inside, Option.bind_some, stored,
        Function.update_idem]
      congr 3
      have taken : (block.set start cell).take (start + 1) = block.take start ++ [cell] := by
        rw [List.take_set, List.take_succ_eq_append_getElem inside, List.set_append_right _ _
          (List.length_take_le start block)]
        simp [Nat.min_eq_left (Nat.le_of_lt inside)]
      have dropped : (block.set start cell).drop (start + 1 + rest.length) =
          block.drop (start + (rest.length + 1)) := by
        rw [List.drop_set_of_lt (by omega), Nat.add_assoc, Nat.add_comm 1]
      rw [taken, dropped]
      simp

/-- Consecutive stores beyond the end of a block are undefined. -/
theorem storeAll_beyond (live : heap address = some block)
    (beyond : block.length < start + cells.length) (below : start ≤ block.length) :
    storeAll heap address (consecutive start cells) = none := by
  induction cells generalizing heap block start with
  | nil =>
      rw [List.length_nil] at beyond
      omega
  | cons cell rest ih =>
      rw [consecutive, storeAll]
      by_cases inside : start < block.length
      · rw [store_eq live inside, Option.bind_some]
        rw [List.length_cons] at beyond
        apply ih (Function.update_self ..)
        · rw [List.length_set]
          omega
        · rw [List.length_set]
          omega
      · simp [store, live, inside]

end BlockHeap

end KinuxKernel
