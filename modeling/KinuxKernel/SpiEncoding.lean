import Mathlib.Data.List.Nodup
import KinuxKernel.SpiRing

/-!
# The bit encoding

`bits_encode` writes eight cells for each byte, each of them once; the cells can be read
back to the bytes.
-/

namespace KinuxKernel

namespace SpiRing

open BlockHeap

/-- A cell for each bit, read back most significant bit first. -/
def decodeByte (cells : List Byte) : Byte :=
  cells.foldl (fun byte cell => byte <<< 1 ||| if cell = 0xF0 then 1 else 0) 0

/-- Read back a number of bytes. -/
def decode : Nat → List Byte → List Byte
  | 0, _ => []
  | remaining + 1, cells => decodeByte (cells.take 8) :: decode remaining (cells.drop 8)

section Reading

theorem decodeByte_encodeByte (byte : Byte) : decodeByte (encodeByte byte) = byte := by
  revert byte
  decide +kernel

theorem encode_cons (byte : Byte) (bytes : List Byte) :
    encode (byte :: bytes) = encodeByte byte ++ encode bytes :=
  List.flatMap_cons

/-- Reading the cells back recovers the bytes. -/
theorem decode_encode (bytes : List Byte) : decode bytes.length (encode bytes) = bytes := by
  induction bytes with
  | nil => rfl
  | cons byte bytes ih =>
      rw [encode_cons, List.length_cons, decode, List.take_left' (encodeByte_length byte),
        List.drop_left' (encodeByte_length byte), decodeByte_encodeByte, ih]

theorem encode_injective : Function.Injective encode := by
  intro first second same
  have sameLength : first.length = second.length := by
    have lengths := congrArg List.length same
    rw [encode_length, encode_length] at lengths
    omega
  calc
    first = decode first.length (encode first) := (decode_encode first).symm
    _ = decode second.length (encode second) := by rw [same, sameLength]
    _ = second := decode_encode second

/-- Bit `7 - k` of a byte is in its cell `k`. -/
theorem encodeByte_getElem? (byte : Byte) {k : Nat} (bit : k < 8) :
    (encodeByte byte)[k]? = some (if byte.getLsbD (7 - k) then 0xF0 else 0xC0) := by
  rw [encodeByte, List.getElem?_map, List.getElem?_range bit, Option.map_some,
    BitVec.getMsbD_eq_getLsbD]
  simp [bit]

theorem encode_getElem? {bytes : List Byte} {i k : Nat} {byte : Byte}
    (here : bytes[i]? = some byte) (bit : k < 8) :
    (encode bytes)[8 * i + k]? = some (if byte.getLsbD (7 - k) then 0xF0 else 0xC0) := by
  induction bytes generalizing i with
  | nil => simp at here
  | cons head bytes ih =>
      rw [encode_cons]
      cases i with
      | zero =>
          obtain rfl := Option.some.inj here
          rw [List.getElem?_append_left (by rw [encodeByte_length]; omega), Nat.mul_zero,
            Nat.zero_add, encodeByte_getElem? head bit]
      | succ i =>
          rw [List.getElem?_cons_succ] at here
          rw [List.getElem?_append_right (by rw [encodeByte_length]; omega), encodeByte_length,
            ← ih here]
          congr 1
          omega

end Reading

section Driver

variable {Address : Type*} [DecidableEq Address] {ring : Ring Address} {tx encoded : Address}
  {bytes cells : List Byte}

/-- What `bits_encode` does to a ring whose `tx_buffer` holds `bytes`: of all the stores it
makes there is one for each cell of the other buffer, and none elsewhere; the cells are
the bits, most significant first, and can be read back. -/
structure EncodesExactly (ring : Ring Address) (tx encoded : Address) (bytes : List Byte) :
    Prop where
  once : ∃ logged, bitsEncodeLogged ring = some logged ∧
    bitsEncode ring = some { ring with heap := logged.heap } ∧
    (∀ place, (logged.stores.map fun stored => (stored.1, stored.2.1)).count place =
      if place.1 = encoded ∧ place.2 < 8 * bytes.length then 1 else 0)
  encodes : ∃ after, bitsEncode ring = some after ∧ after.ws2812 = ring.ws2812 ∧
    after.heap encoded = some (encode bytes) ∧
    (∀ other, other ≠ encoded → after.heap other = ring.heap other) ∧
    after.heap tx = some bytes
  cell : ∀ i k byte, bytes[i]? = some byte → k < 8 →
    (encode bytes)[8 * i + k]? = some (if byte.getLsbD (7 - k) then 0xF0 else 0xC0)
  readBack : decode bytes.length (encode bytes) = bytes

/-- Blocks of these sizes are different, unless both are empty. -/
theorem buffers_differ (source : ring.heap tx = some bytes)
    (target : ring.heap encoded = some cells) (room : cells.length = 8 * bytes.length) :
    tx ≠ encoded ∨ bytes = [] := by
  by_cases same : tx = encoded
  · right
    subst same
    obtain rfl := Option.some.inj (source.symm.trans target)
    apply List.eq_nil_of_length_eq_zero
    omega
  · exact .inl same

/-- All that `bits_encode` does. -/
theorem bitsEncodeLogged_eq (txBuffer : ring.ws2812.txBuffer = some tx)
    (encodeBuffer : ring.ws2812.encodeBuffer = some encoded)
    (size : ring.ws2812.dataBuffSize = bytes.length) (source : ring.heap tx = some bytes)
    (target : ring.heap encoded = some cells) (room : cells.length = 8 * bytes.length) :
    bitsEncodeLogged ring = some ⟨Function.update ring.heap encoded (some (encode bytes)),
      (consecutive 0 (encode bytes)).map (Prod.mk encoded)⟩ := by
  rw [bitsEncodeLogged, txBuffer, encodeBuffer, Option.bind_some, Option.bind_some, size]
  rcases buffers_differ source target room with distinct | rfl
  · rw [encodeLoop_whole distinct source target (by omega), ← room, List.drop_length,
      List.append_nil]
  · obtain rfl : cells = [] := List.eq_nil_of_length_eq_zero room
    have unchanged : Function.update ring.heap encoded (some (encode [])) = ring.heap :=
      Function.update_eq_self_iff.mpr target.symm
    rw [unchanged]
    rfl

/-- Stores to consecutive offsets hit each of them once. -/
theorem count_consecutive (place : Address × Nat) (cells : List Byte) :
    (((consecutive 0 cells).map (Prod.mk encoded)).map
      fun stored => (stored.1, stored.2.1)).count place =
      if place.1 = encoded ∧ place.2 < cells.length then 1 else 0 := by
  have places : ((consecutive 0 cells).map (Prod.mk encoded)).map
      (fun stored => (stored.1, stored.2.1)) =
      (List.range cells.length).map (Prod.mk encoded) := by
    rw [List.range_eq_range', ← consecutive_offsets, List.map_map, List.map_map]
    rfl
  have distinct : ((List.range cells.length).map (Prod.mk encoded)).Nodup :=
    List.Nodup.map (fun _ _ same => (Prod.mk.inj same).2) List.nodup_range
  have member : place ∈ (List.range cells.length).map (Prod.mk encoded) ↔
      place.1 = encoded ∧ place.2 < cells.length := by
    obtain ⟨address, offset⟩ := place
    simp [eq_comm, and_comm]
  rw [places]
  split_ifs with inside
  · exact List.count_eq_one_of_mem distinct (member.mpr inside)
  · exact List.count_eq_zero.mpr fun found => inside (member.mp found)

/-- For every size, `bits_encode` is exact and loses nothing. -/
theorem bits_encode_exact (txBuffer : ring.ws2812.txBuffer = some tx)
    (encodeBuffer : ring.ws2812.encodeBuffer = some encoded)
    (size : ring.ws2812.dataBuffSize = bytes.length) (source : ring.heap tx = some bytes)
    (target : ring.heap encoded = some cells) (room : cells.length = 8 * bytes.length) :
    EncodesExactly ring tx encoded bytes ∧
      (∀ first second, encode (first ++ second) = encode first ++ encode second) ∧
      Function.Injective encode := by
  have logged := bitsEncodeLogged_eq txBuffer encodeBuffer size source target room
  have result : bitsEncode ring = some { ring with
      heap := Function.update ring.heap encoded (some (encode bytes)) } := by
    rw [bitsEncode, logged, Option.map_some]
  refine ⟨?_, encode_append, encode_injective⟩
  constructor
  case once =>
    refine ⟨_, logged, result, fun place => ?_⟩
    rw [count_consecutive, encode_length]
  case encodes =>
    refine ⟨_, result, rfl, Function.update_self .., fun other different => ?_, ?_⟩
    · exact Function.update_of_ne different ..
    · rcases buffers_differ source target room with distinct | rfl
      · exact (Function.update_of_ne distinct ..).trans source
      · by_cases same : tx = encoded
        · subst same
          exact Function.update_self ..
        · exact (Function.update_of_ne same ..).trans source
  case cell => exact fun i k byte here bit => encode_getElem? here bit
  case readBack => exact decode_encode bytes

/-- A ring with buffers for some bytes. -/
def ringOf (bytes : List Byte) : Ring Nat where
  ws2812 := ⟨none, 0, some 0, some 1, 8 * bytes.length, bytes.length⟩
  heap address :=
    if address = 0 then some bytes
    else if address = 1 then some (List.replicate (8 * bytes.length) 0)
    else none

theorem bits_encode_three : EncodesExactly (ringOf [0xA5, 0, 0xFF]) 0 1 [0xA5, 0, 0xFF] :=
  (bits_encode_exact rfl rfl rfl rfl rfl rfl).1

end Driver

end SpiRing

end KinuxKernel
