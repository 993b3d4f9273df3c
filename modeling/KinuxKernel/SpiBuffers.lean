import Mathlib.Data.Finset.Basic
import KinuxKernel.ResourceLedger
import KinuxKernel.SpiFrames
import KinuxKernel.TraceRun

/-!
# Owners of the SPI buffers

Files of the device are opened, written and closed.  Each open allocates two
buffers and overwrites the pointers in the one structure; a close frees the
current `tx_buffer` and never an encode buffer.
-/

namespace KinuxKernel

namespace SpiRing

open TraceRun ResourceLedger

/-- What happens to the files of the device; `kzalloc` chooses the addresses. -/
inductive BufferEvent (File Address : Type*) where
  | opens (file : File) (tx encode : Address)
  | writes (file : File)
  | closes (file : File)

/-- The open files, the pointers and what has been allocated and freed. -/
structure Buffers (File Address : Type*) where
  handles : Finset File
  txBuffer : Option Address
  encodeBuffer : Option Address
  ledger : List (Action Address Empty)

variable {File Address : Type*} [DecidableEq File] [DecidableEq Address]

/-- No file has been opened. -/
def Buffers.start : Buffers File Address :=
  ⟨∅, none, none, []⟩

/-- `ws2812_open`, `ws2812_write` and `ws2812_close` on the set of live buffers. -/
def useBuffers (state : Buffers File Address) :
    BufferEvent File Address → Option (Buffers File Address)
  | .opens file tx encode =>
      if file ∉ state.handles ∧ holds state.ledger tx = false ∧
          holds (.request tx :: state.ledger) encode = false then
        some ⟨insert file state.handles, some tx, some encode,
          .request encode :: .request tx :: state.ledger⟩
      else none
  | .writes file => if file ∈ state.handles then some state else none
  | .closes file =>
      if file ∈ state.handles then
        some { state with
          handles := state.handles.erase file
          ledger := state.txBuffer.toList.map .free ++ state.ledger }
      else none

abbrev BufferRun : List (BufferEvent File Address) → Buffers File Address → Prop :=
  Run useBuffers (each fun _ => True) .start

def UsesLive (state : Buffers File Address) : Prop :=
  ∃ tx encode, state.txBuffer = some tx ∧ state.encodeBuffer = some encode ∧
    holds state.ledger tx = true ∧ holds state.ledger encode = true

/-- Writes use live buffers, nothing is freed that is not live, and all is freed when
all files are closed. -/
structure OneOwner (trace : List (BufferEvent File Address)) : Prop where
  writes : ∀ file earlier before, .writes file :: earlier <:+ trace →
    replay useBuffers .start earlier = some before → UsesLive before
  states : ∀ earlier before, earlier <:+ trace → replay useBuffers .start earlier = some before →
    Proper before.ledger ∧ (before.handles = ∅ → ∀ address, holds before.ledger address = false)

def openFiles : List (BufferEvent File Address) → Finset File
  | [] => ∅
  | .opens file _ _ :: trace => insert file (openFiles trace)
  | .writes _ :: trace => openFiles trace
  | .closes file :: trace => (openFiles trace).erase file

/-- The last open comes after the last close. -/
def reopened : List (BufferEvent File Address) → Bool
  | [] => false
  | .opens _ _ _ :: _ => true
  | .writes _ :: trace => reopened trace
  | .closes _ :: _ => false

/-- Between a close and the next write or close there is an open, and no close
closes the last open file. -/
structure Orderly (trace : List (BufferEvent File Address)) : Prop where
  writes : ∀ file earlier, .writes file :: earlier <:+ trace → reopened earlier = true
  closes : ∀ file earlier, .closes file :: earlier <:+ trace →
    reopened earlier = true ∧ (openFiles earlier).erase file ≠ ∅

omit [DecidableEq Address] in
theorem Orderly.of_suffix {trace earlier : List (BufferEvent File Address)}
    (orderly : Orderly trace) (suffix : earlier <:+ trace) : Orderly earlier :=
  ⟨fun file past inside => orderly.writes file past (inside.trans suffix),
    fun file past inside => orderly.closes file past (inside.trans suffix)⟩

/-- What holds in every run: the pointers are those of the last open, the encode
buffer stays live, and `tx_buffer` is live as long as nothing has been closed
since. -/
structure BufferInvariant (trace : List (BufferEvent File Address))
    (state : Buffers File Address) : Prop where
  handles : state.handles = openFiles trace
  pointers : trace ≠ [] → ∃ tx encode, state.txBuffer = some tx ∧
    state.encodeBuffer = some encode ∧ tx ≠ encode ∧ holds state.ledger encode = true ∧
    holds state.ledger tx = reopened trace

section Runs

variable {trace earlier : List (BufferEvent File Address)}
  {state before after : Buffers File Address} {event : BufferEvent File Address}

/-- A file is open only after an event. -/
theorem BufferInvariant.ne_nil (holds : BufferInvariant trace state) {file : File}
    (member : file ∈ state.handles) : trace ≠ [] := by
  rintro rfl
  rw [holds.handles] at member
  exact absurd member (Finset.notMem_empty file)

theorem BufferInvariant.step (invariant : BufferInvariant trace state)
    (stepTo : useBuffers state event = some after) : BufferInvariant (event :: trace) after := by
  cases event with
  | opens file tx encode =>
      obtain ⟨⟨-, -, unused⟩, same⟩ := Option.ite_none_right_eq_some.mp stepTo
      obtain rfl := Option.some.inj same
      have distinct : tx ≠ encode := by
        rintro rfl
        simp at unused
      refine ⟨?_, fun _ => ⟨tx, encode, rfl, rfl, distinct, by simp, by simp [reopened]⟩⟩
      rw [openFiles, ← invariant.handles]
  | writes file =>
      obtain ⟨member, same⟩ := Option.ite_none_right_eq_some.mp stepTo
      obtain rfl := Option.some.inj same
      exact ⟨invariant.handles, fun _ => invariant.pointers (invariant.ne_nil member)⟩
  | closes file =>
      obtain ⟨member, same⟩ := Option.ite_none_right_eq_some.mp stepTo
      obtain rfl := Option.some.inj same
      obtain ⟨tx, encode, txBuffer, encodeBuffer, distinct, live, -⟩ :=
        invariant.pointers (invariant.ne_nil member)
      refine ⟨?_, fun _ => ⟨tx, encode, txBuffer, encodeBuffer, distinct, ?_, ?_⟩⟩
      · rw [openFiles, ← invariant.handles]
      · simp [txBuffer, live, distinct.symm]
      · simp [txBuffer, reopened]

theorem BufferRun.invariant (run : BufferRun trace state) : BufferInvariant trace state := by
  induction run with
  | start => exact ⟨rfl, fun nonempty => (nonempty rfl).elim⟩
  | next _ _ stepTo ih => exact ih.step stepTo

/-- What a close does to the ledger. -/
theorem BufferInvariant.closed (invariant : BufferInvariant trace state) {file : File}
    (stepTo : useBuffers state (.closes file) = some after) :
    Proper after.ledger ↔ reopened trace = true ∧ Proper state.ledger := by
  obtain ⟨member, same⟩ := Option.ite_none_right_eq_some.mp stepTo
  obtain rfl := Option.some.inj same
  obtain ⟨tx, encode, txBuffer, -, -, -, live⟩ := invariant.pointers (invariant.ne_nil member)
  simp [txBuffer, live]

theorem Orderly.proper (run : BufferRun trace state) (orderly : Orderly trace) :
    Proper state.ledger := by
  induction run with
  | start => trivial
  | @next trace before after event earlier _ stepTo ih =>
      have properBefore := ih (orderly.of_suffix (List.suffix_cons event trace))
      cases event with
      | opens file tx encode =>
          obtain ⟨⟨-, unusedTx, unused⟩, same⟩ := Option.ite_none_right_eq_some.mp stepTo
          obtain rfl := Option.some.inj same
          exact ⟨unused, unusedTx, properBefore⟩
      | writes file =>
          obtain ⟨-, same⟩ := Option.ite_none_right_eq_some.mp stepTo
          obtain rfl := Option.some.inj same
          exact properBefore
      | closes file =>
          have invariant := BufferRun.invariant earlier
          exact (invariant.closed stepTo).mpr
            ⟨(orderly.closes file trace (List.suffix_refl _)).1, properBefore⟩

/-- In an orderly run there is always an open file, except at the start. -/
theorem Orderly.nil_of_closed (run : BufferRun trace state) (orderly : Orderly trace)
    (closed : state.handles = ∅) : trace = [] := by
  cases run with
  | start => rfl
  | @next trace before after event earlier _ stepTo =>
      have handles := (BufferRun.invariant earlier).handles
      cases event with
      | opens file tx encode =>
          obtain ⟨-, same⟩ := Option.ite_none_right_eq_some.mp stepTo
          obtain rfl := Option.some.inj same
          exact absurd closed (Finset.insert_ne_empty _ _)
      | writes file =>
          obtain ⟨member, same⟩ := Option.ite_none_right_eq_some.mp stepTo
          obtain rfl := Option.some.inj same
          rw [closed] at member
          exact absurd member (Finset.notMem_empty file)
      | closes file =>
          obtain ⟨-, same⟩ := Option.ite_none_right_eq_some.mp stepTo
          obtain rfl := Option.some.inj same
          rw [handles] at closed
          exact ((orderly.closes file trace (List.suffix_refl _)).2 closed).elim

/-- The buffers have one owner in a run of opens, writes and closes if and only if
every write and every close comes after an open that no close has followed, and
no close leaves the device without an open file. -/
theorem one_owner_iff (run : BufferRun trace state) : OneOwner trace ↔ Orderly trace := by
  constructor
  · intro owner
    constructor
    · intro file earlier inside
      obtain ⟨before, after, earlierRun, -, stepTo⟩ := run.of_executed inside
      obtain ⟨member, -⟩ := Option.ite_none_right_eq_some.mp stepTo
      have invariant := BufferRun.invariant earlierRun
      obtain ⟨tx, encode, txBuffer, -, -, -, live⟩ := invariant.pointers (invariant.ne_nil member)
      obtain ⟨used, -, same, -, usedLive, -⟩ :=
        owner.writes file earlier before inside earlierRun.replay_eq
      obtain rfl := Option.some.inj (same.symm.trans txBuffer)
      exact live.symm.trans usedLive
    · intro file earlier inside
      obtain ⟨before, after, earlierRun, allowed, stepTo⟩ := run.of_executed inside
      have afterRun : BufferRun (.closes file :: earlier) after := .next earlierRun allowed stepTo
      have invariant := BufferRun.invariant afterRun
      obtain ⟨proper, released⟩ := owner.states _ after inside afterRun.replay_eq
      refine ⟨(((BufferRun.invariant earlierRun).closed stepTo).mp proper).1, fun closed => ?_⟩
      -- the encode buffer of the last open is never freed
      obtain ⟨tx, encode, -, -, -, live, -⟩ := invariant.pointers (List.cons_ne_nil _ _)
      have free := released (invariant.handles.trans closed) encode
      simp [free] at live
  · intro orderly
    constructor
    · intro file earlier before inside reached
      obtain ⟨earlierRun, -, after, stepTo⟩ := run.step_of_reached inside reached
      obtain ⟨member, -⟩ := Option.ite_none_right_eq_some.mp stepTo
      have invariant := BufferRun.invariant earlierRun
      obtain ⟨tx, encode, txBuffer, encodeBuffer, -, encodeLive, txLive⟩ :=
        invariant.pointers (invariant.ne_nil member)
      exact ⟨tx, encode, txBuffer, encodeBuffer,
        txLive.trans (orderly.writes file earlier inside), encodeLive⟩
    · intro earlier before inside reached
      have earlierRun := run.of_reached inside reached
      have holdsHere := orderly.of_suffix inside
      refine ⟨holdsHere.proper earlierRun, fun closed address => ?_⟩
      obtain rfl := holdsHere.nil_of_closed earlierRun closed
      obtain rfl := Option.some.inj earlierRun.replay_eq
      rfl

end Runs

/-- A device opened and closed once leaves its encode buffer; of a device opened
twice, the second close frees a buffer that the first has freed. -/
theorem buffers_outlive_files :
    (∃ state : Buffers Nat Nat, BufferRun [.closes 0, .opens 0 0 1] state) ∧
      ¬ OneOwner [.closes 0, .opens (0 : Nat) (0 : Nat) 1] ∧
      (∃ state : Buffers Nat Nat,
        BufferRun [.closes 1, .closes 0, .opens 1 2 3, .opens 0 0 1] state) ∧
      ¬ OneOwner [.closes 1, .closes 0, .opens 1 2 3, .opens (0 : Nat) (0 : Nat) 1] := by
  refine ⟨⟨_, run_of_replay (fun _ _ => trivial) rfl⟩, fun owner => ?_,
    ⟨_, run_of_replay (fun _ _ => trivial) rfl⟩, fun owner => ?_⟩
  · have free := (owner.states _ _ (List.suffix_refl _) rfl).2 rfl 1
    exact absurd free (by decide)
  · have proper := (owner.states _ _ (List.suffix_refl _) rfl).1
    exact absurd proper.1 (by decide)

theorem one_owner_writing :
    ∃ state : Buffers Nat Nat, BufferRun [.writes 0, .opens 0 0 1] state ∧
      OneOwner [.writes 0, .opens (0 : Nat) (0 : Nat) 1] := by
  have run : BufferRun [.writes 0, .opens (0 : Nat) (0 : Nat) 1] _ :=
    run_of_replay (fun _ _ => trivial) rfl
  refine ⟨_, run, (one_owner_iff run).mpr ⟨?_, ?_⟩⟩
  · intro file earlier inside
    have same : file = 0 ∧ earlier = [.opens 0 0 1] := by
      simpa [executed_cons_iff] using inside
    rw [same.2]
    rfl
  · intro file earlier inside
    simp [executed_cons_iff] at inside

section Refinement

open BlockHeap

/-- A driver whose live buffers are the ones in the ledger. -/
structure Abstracts (ring : Ring Address) (state : Buffers File Address) : Prop where
  txBuffer : ring.ws2812.txBuffer = state.txBuffer
  encodeBuffer : ring.ws2812.encodeBuffer = state.encodeBuffer
  live : ∀ address, (ring.heap address).isSome = holds state.ledger address

variable {ring after : Ring Address} {state : Buffers File Address} {file : File}

/-- `ws2812_open` is the step that opens a file. -/
theorem Abstracts.opens (abstracts : Abstracts ring state) (closed : file ∉ state.handles)
    {tx encoded : Address} (opening : ws2812Open ring tx encoded = some after) :
    ∃ next, useBuffers state (.opens file tx encoded) = some next ∧ Abstracts after next := by
  obtain ⟨heap, first, opening⟩ := Option.bind_eq_some_iff.mp opening
  obtain ⟨both, second, rfl⟩ := Option.map_eq_some_iff.mp opening
  obtain ⟨unusedTx, rfl⟩ := alloc_eq_some.mp first
  obtain ⟨unused, rfl⟩ := alloc_eq_some.mp second
  have distinct : encoded ≠ tx := by
    rintro rfl
    simp at unused
  rw [Function.update_of_ne distinct] at unused
  have freeTx : holds state.ledger tx = false := by rw [← abstracts.live, unusedTx]; rfl
  have free : holds (.request tx :: state.ledger) encoded = false := by
    rw [holds_request, ← abstracts.live, unused]
    simpa using distinct
  refine ⟨_, if_pos ⟨closed, freeTx, free⟩, rfl, rfl, fun address => ?_⟩
  rw [isSome_update_some, isSome_update_some, abstracts.live, holds_request, holds_request]

/-- `ws2812_close` is the step that closes a file, as long as `tx_buffer` is live. -/
theorem Abstracts.closes (abstracts : Abstracts ring state) (opened : file ∈ state.handles)
    (closing : ws2812Close ring = some after) :
    ∃ next, useBuffers state (.closes file) = some next ∧ Abstracts after next := by
  refine ⟨_, if_pos opened, ?_⟩
  obtain ⟨heap, freeing, rfl⟩ := Option.map_eq_some_iff.mp closing
  refine ⟨abstracts.txBuffer, abstracts.encodeBuffer, fun address => ?_⟩
  rw [abstracts.txBuffer] at freeing
  cases pointer : state.txBuffer with
  | none =>
      rw [pointer] at freeing
      obtain rfl := Option.some.inj freeing
      exact abstracts.live address
  | some tx =>
      rw [pointer] at freeing
      obtain ⟨block, -, rfl⟩ := Option.map_eq_some_iff.mp freeing
      rw [isSome_update_none, abstracts.live]
      rfl

/-- The loop of `bits_encode` frees nothing, and uses both buffers if there is
anything to encode. -/
theorem encodeLoop_live {tx encoded : Address} {remaining i : Nat}
    {logged result : Logged Address Byte}
    (looped : encodeLoop tx encoded remaining i logged = some result) :
    (∀ address, (result.heap address).isSome = (logged.heap address).isSome) ∧
      (0 < remaining → (logged.heap tx).isSome ∧ (logged.heap encoded).isSome) := by
  induction remaining generalizing i logged with
  | zero =>
      obtain rfl := Option.some.inj looped
      exact ⟨fun _ => rfl, fun none => absurd none (Nat.lt_irrefl 0)⟩
  | succ remaining ih =>
      obtain ⟨num, loaded, looped⟩ := Option.bind_eq_some_iff.mp looped
      obtain ⟨middle, stored, continued⟩ := Option.bind_eq_some_iff.mp looped
      obtain ⟨block, live, -⟩ := Option.bind_eq_some_iff.mp loaded
      rw [bitLoop_byte, Logged.storeAll_eq] at stored
      obtain ⟨heap, filled, rfl⟩ := Option.map_eq_some_iff.mp stored
      obtain ⟨others, stays⟩ := storeAll_frame filled
      refine ⟨fun address => ?_, fun _ => ⟨by simp [live], ?_⟩⟩
      · rw [(ih continued).1]
        by_cases same : address = encoded
        · rw [same]
          exact stays
        · exact congrArg Option.isSome (others address same)
      · obtain ⟨first, written, -⟩ := Option.bind_eq_some_iff.mp filled
        obtain ⟨target, liveTarget, -⟩ := Option.bind_eq_some_iff.mp written
        simp [liveTarget]

omit [DecidableEq File] [DecidableEq Address] in
/-- The last part of a write keeps the driver as it is after encoding. -/
theorem writing_ring {next : Ring Address} {data : UserData} {result : Int}
    {written : Written Address}
    (writing : (if data.uncopied ≠ 0 then some ⟨-EFAULT, next, none⟩
      else (ws2812WriteSync next result).map fun sent => ⟨sent.1, next, sent.2⟩) = some written) :
    written.ring = next := by
  by_cases partly : data.uncopied ≠ 0
  · rw [if_pos partly] at writing
    rw [← Option.some.inj writing]
  · rw [if_neg partly] at writing
    obtain ⟨sent, -, rfl⟩ := Option.map_eq_some_iff.mp writing
    rfl

omit [DecidableEq File] in
/-- A write of an opened device uses live buffers and keeps what is live. -/
theorem Abstracts.writes (abstracts : Abstracts ring state) {data : UserData} {result : Int}
    {written : Written Address} (sized : 0 < ring.ws2812.dataBuffSize)
    (writing : ws2812Write ring data result = some written) :
    UsesLive state ∧ Abstracts written.ring state ∧ written.ring.ws2812 = ring.ws2812 := by
  obtain ⟨copied, copying, writing⟩ := Option.bind_eq_some_iff.mp writing
  obtain ⟨tx, txBuffer, copying⟩ := Option.bind_eq_some_iff.mp copying
  obtain ⟨next, encoding, writing⟩ := Option.bind_eq_some_iff.mp writing
  obtain ⟨logged, loops, rfl⟩ := Option.map_eq_some_iff.mp encoding
  obtain ⟨source, sourceIs, loops⟩ := Option.bind_eq_some_iff.mp loops
  obtain rfl : tx = source := Option.some.inj (txBuffer.symm.trans sourceIs)
  obtain ⟨encoded, encodeBuffer, looped⟩ := Option.bind_eq_some_iff.mp loops
  obtain ⟨others, stays⟩ := storeAll_frame copying
  obtain ⟨kept, used⟩ := encodeLoop_live looped
  have same : ∀ address, (copied address).isSome = (ring.heap address).isSome := by
    intro address
    by_cases equal : address = tx
    · rw [equal, stays]
    · rw [others address equal]
  obtain ⟨txLive, encodeLive⟩ := used sized
  rw [same, abstracts.live] at txLive encodeLive
  constructor
  · exact ⟨tx, encoded, abstracts.txBuffer.symm.trans txBuffer,
      abstracts.encodeBuffer.symm.trans encodeBuffer, txLive, encodeLive⟩
  · rw [writing_ring writing]
    refine ⟨⟨abstracts.txBuffer, abstracts.encodeBuffer, fun address => ?_⟩, rfl⟩
    rw [kept, same, abstracts.live]

/-- The operations on files with the data of the writes. -/
inductive FileEvent (File Address : Type*) where
  | opens (file : File) (tx encode : Address)
  | writes (file : File) (data : UserData) (result : Int)
  | closes (file : File)

def FileEvent.buffer : FileEvent File Address → BufferEvent File Address
  | .opens file tx encode => .opens file tx encode
  | .writes file _ _ => .writes file
  | .closes file => .closes file

/-- The driver with its open files. -/
def useDriver (device : Finset File × Ring Address) :
    FileEvent File Address → Option (Finset File × Ring Address)
  | .opens file tx encode =>
      if file ∉ device.1 then
        (ws2812Open device.2 tx encode).map fun ring => (insert file device.1, ring)
      else none
  | .writes file data result =>
      if file ∈ device.1 then
        (ws2812Write device.2 data result).map fun written => (device.1, written.ring)
      else none
  | .closes file =>
      if file ∈ device.1 then (ws2812Close device.2).map fun ring => (device.1.erase file, ring)
      else none

/-- The driver and the state of its buffers. -/
structure Simulates (device : Finset File × Ring Address) (state : Buffers File Address) :
    Prop where
  handles : device.1 = state.handles
  abstracts : Abstracts device.2 state
  sized : state.handles.Nonempty → device.2.ws2812.dataBuffSize = 48

theorem Simulates.step {device next : Finset File × Ring Address}
    (simulates : Simulates device state) {event : FileEvent File Address}
    (stepTo : useDriver device event = some next) :
    ∃ after, useBuffers state event.buffer = some after ∧ Simulates next after := by
  obtain ⟨handles, abstracts, sized⟩ := simulates
  cases event with
  | opens file tx encoded =>
      obtain ⟨closed, stepTo⟩ := Option.ite_none_right_eq_some.mp stepTo
      obtain ⟨ring, opening, rfl⟩ := Option.map_eq_some_iff.mp stepTo
      rw [handles] at closed
      obtain ⟨after, step, holdsAfter⟩ := abstracts.opens closed opening
      obtain ⟨-, same⟩ := Option.ite_none_right_eq_some.mp step
      obtain rfl := Option.some.inj same
      refine ⟨_, step, congrArg (insert file) handles, holdsAfter, fun _ => ?_⟩
      exact (opened_of_open opening).dataBuffSize
  | writes file data result =>
      obtain ⟨opened, stepTo⟩ := Option.ite_none_right_eq_some.mp stepTo
      obtain ⟨written, writing, rfl⟩ := Option.map_eq_some_iff.mp stepTo
      rw [handles] at opened
      have size := sized ⟨file, opened⟩
      obtain ⟨-, holdsAfter, keeps⟩ := abstracts.writes (by rw [size]; decide) writing
      refine ⟨state, if_pos opened, handles, holdsAfter, fun _ => ?_⟩
      rw [keeps, size]
  | closes file =>
      obtain ⟨opened, stepTo⟩ := Option.ite_none_right_eq_some.mp stepTo
      obtain ⟨ring, closing, rfl⟩ := Option.map_eq_some_iff.mp stepTo
      rw [handles] at opened
      obtain ⟨after, step, holdsAfter⟩ := abstracts.closes opened closing
      obtain ⟨-, same⟩ := Option.ite_none_right_eq_some.mp step
      obtain rfl := Option.some.inj same
      refine ⟨_, step, congrArg (fun files => files.erase file) handles, holdsAfter, fun _ => ?_⟩
      obtain ⟨heap, -, rfl⟩ := Option.map_eq_some_iff.mp closing
      exact sized ⟨file, opened⟩

/-- Every run of the driver on a probed device is a run on its buffers. -/
theorem driver_run_simulates {spi : SpiDevice} {trace : List (FileEvent File Address)}
    {device : Finset File × Ring Address}
    (run : Run useDriver (each fun _ => True) (∅, probed spi) trace device) :
    ∃ state, BufferRun (trace.map FileEvent.buffer) state ∧ Simulates device state := by
  induction run with
  | start => exact ⟨.start, .start, rfl, ⟨rfl, rfl, fun _ => rfl⟩, by simp [Buffers.start]⟩
  | next _ _ stepTo ih =>
      obtain ⟨state, run, simulates⟩ := ih
      obtain ⟨after, step, holdsAfter⟩ := simulates.step stepTo
      exact ⟨after, .next run trivial step, holdsAfter⟩

end Refinement

end SpiRing

end KinuxKernel
