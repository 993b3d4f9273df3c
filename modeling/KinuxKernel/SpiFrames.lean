import KinuxKernel.SpiRing

/-!
# Frames of the SPI driver

What `ws2812_write` does on an opened device.  Up to 48 bytes replace the first
bytes of `tx_buffer`, and the encoding of the whole buffer is transmitted; more
bytes are stored behind the buffer.
-/

namespace KinuxKernel

namespace SpiRing

open BlockHeap

variable {Address : Type*} [DecidableEq Address]

/-- An opened device with the contents of its two buffers. -/
structure Opened (ring : Ring Address) (tx encoded : Address) (bytes cells : List Byte) : Prop where
  txBuffer : ring.ws2812.txBuffer = some tx
  encodeBuffer : ring.ws2812.encodeBuffer = some encoded
  dataBuffSize : ring.ws2812.dataBuffSize = 48
  bytesTransfer : ring.ws2812.bytesTransfer = 48 * 8
  distinct : tx ≠ encoded
  source : ring.heap tx = some bytes
  target : ring.heap encoded = some cells
  bytesLength : bytes.length = 48
  cellsLength : cells.length = 48 * 8

variable {ring after : Ring Address} {tx encoded : Address} {bytes cells : List Byte}

theorem kzalloc_unused {heap : Heap Address Byte} {address : Address}
    (unused : heap address = none) (size : Nat) :
    kzalloc heap address size =
      some (Function.update heap address (some (List.replicate size 0))) :=
  alloc_eq_some.mpr ⟨unused, rfl⟩

theorem opened_of_open (opening : ws2812Open ring tx encoded = some after) :
    Opened after tx encoded (List.replicate 48 0) (List.replicate (48 * 8) 0) := by
  obtain ⟨heap, first, opening⟩ := Option.bind_eq_some_iff.mp opening
  obtain ⟨both, second, rfl⟩ := Option.map_eq_some_iff.mp opening
  obtain ⟨-, rfl⟩ := alloc_eq_some.mp first
  obtain ⟨unused, rfl⟩ := alloc_eq_some.mp second
  have distinct : tx ≠ encoded := by
    rintro rfl
    simp at unused
  constructor
  case source => exact (Function.update_of_ne distinct ..).trans (Function.update_self ..)
  case target => exact Function.update_self ..
  case distinct => exact distinct
  case bytesLength => exact List.length_replicate
  case cellsLength => exact List.length_replicate
  all_goals rfl

theorem open_spi (opening : ws2812Open ring tx encoded = some after) :
    after.ws2812.spi = ring.ws2812.spi := by
  obtain ⟨heap, -, opening⟩ := Option.bind_eq_some_iff.mp opening
  obtain ⟨both, -, rfl⟩ := Option.map_eq_some_iff.mp opening
  rfl

theorem exists_open (unusedTx : ring.heap tx = none) (unusedEncoded : ring.heap encoded = none)
    (distinct : tx ≠ encoded) : ∃ after, ws2812Open ring tx encoded = some after := by
  have unused : Function.update ring.heap tx (some (List.replicate 48 0)) encoded = none := by
    rw [Function.update_of_ne distinct.symm, unusedEncoded]
  rw [ws2812Open, kzalloc_unused unusedTx, Option.bind_some, kzalloc_unused unused,
    Option.map_some]
  exact ⟨_, rfl⟩

/-- What `tx_buffer` holds after a write of some data. -/
def sent (bytes : List Byte) (data : UserData) : List Byte :=
  data.received ++ bytes.drop data.bytes.length

theorem UserData.received_length (data : UserData) : data.received.length = data.bytes.length := by
  have bound := data.uncopied_le
  simp only [received, List.length_append, List.length_take, List.length_replicate]
  omega

theorem sent_length {data : UserData} (fits : data.bytes.length ≤ bytes.length) :
    (sent bytes data).length = bytes.length := by
  rw [sent, List.length_append, data.received_length, List.length_drop]
  omega

/-- Copying and encoding, whatever becomes of the transfer. -/
theorem Opened.encode (opened : Opened ring tx encoded bytes cells) (data : UserData)
    (fits : data.bytes.length ≤ 48) :
    ∃ copied next, copyFromUser ring.heap tx data = some copied ∧
      bitsEncode { ring with heap := copied } = some next ∧ next.ws2812 = ring.ws2812 ∧
      Opened next tx encoded (sent bytes data) (SpiRing.encode (sent bytes data)) := by
  have bounded : data.bytes.length ≤ bytes.length := by rw [opened.bytesLength]; exact fits
  have length : (sent bytes data).length = 48 := (sent_length bounded).trans opened.bytesLength
  have copied := @storeAll_consecutive _ _ _ ring.heap tx bytes 0 data.received opened.source
    (by rw [data.received_length]; omega)
  rw [List.take_zero, List.nil_append, Nat.zero_add, data.received_length] at copied
  have target : Function.update ring.heap tx (some (sent bytes data)) encoded = some cells := by
    rw [Function.update_of_ne opened.distinct.symm, opened.target]
  have encoding := encodeLoop_whole opened.distinct (Function.update_self ..) target
    (Nat.le_of_eq (by rw [length, opened.cellsLength]))
  have filled : cells.drop (8 * (sent bytes data).length) = [] :=
    List.drop_eq_nil_of_le (Nat.le_of_eq (by rw [length, opened.cellsLength]))
  rw [filled, List.append_nil, length] at encoding
  refine ⟨_, ⟨ring.ws2812, Function.update (Function.update ring.heap tx (some (sent bytes data)))
    encoded (some (SpiRing.encode (sent bytes data)))⟩, copied, ?_, rfl, ?_⟩
  · simp only [bitsEncode, bitsEncodeLogged, opened.txBuffer, opened.encodeBuffer,
      opened.dataBuffSize, Option.bind_some]
    exact congrArg (Option.map _) encoding
  · constructor
    case txBuffer => exact opened.txBuffer
    case encodeBuffer => exact opened.encodeBuffer
    case dataBuffSize => exact opened.dataBuffSize
    case bytesTransfer => exact opened.bytesTransfer
    case distinct => exact opened.distinct
    case source =>
      exact (Function.update_of_ne opened.distinct ..).trans (Function.update_self ..)
    case target => exact Function.update_self ..
    case bytesLength => exact length
    case cellsLength => rw [encode_length, length]

/-- The transfer of a frame, if there is a device. -/
def submitted (ws2812 : Ws2812Struct Address) (frame : List Byte) : Option Transfer :=
  ws2812.spi.map fun _ => ⟨frame, ws2812.speedHz, 32⟩

/-- A write that fits sends the encoded buffer, if all of it could be copied. -/
theorem Opened.write (opened : Opened ring tx encoded bytes cells) (data : UserData)
    (fits : data.bytes.length ≤ 48) (result : Int) :
    ∃ written, ws2812Write ring data result = some written ∧
      written.ring.ws2812 = ring.ws2812 ∧
      Opened written.ring tx encoded (sent bytes data) (SpiRing.encode (sent bytes data)) ∧
      written.ret = (if data.uncopied ≠ 0 then -EFAULT
        else if ring.ws2812.spi.isSome then 0 else -ESHUTDOWN) ∧
      written.transfer = if data.uncopied ≠ 0 then none
        else submitted ring.ws2812 (SpiRing.encode (sent bytes data)) := by
  obtain ⟨copied, next, copying, encoding, same, holds⟩ := opened.encode data fits
  have started : ws2812Write ring data result =
      if data.uncopied ≠ 0 then some ⟨-EFAULT, next, none⟩
      else (ws2812WriteSync next result).map fun sent => ⟨sent.1, next, sent.2⟩ := by
    rw [ws2812Write, opened.txBuffer, Option.bind_some, copying, Option.bind_some, encoding,
      Option.bind_some]
  by_cases partly : data.uncopied ≠ 0
  · refine ⟨_, started.trans (if_pos partly), same, holds, ?_, ?_⟩
    · rw [if_pos partly]
    · rw [if_pos partly]
  · rw [if_neg partly] at started
    have complete : ¬ next.ws2812.bytesTransfer > (SpiRing.encode (sent bytes data)).length := by
      rw [holds.bytesTransfer, holds.cellsLength]
      omega
    cases device : ring.ws2812.spi with
    | none =>
        have syncing : ws2812WriteSync next result = some (-ESHUTDOWN, none) := by
          rw [ws2812WriteSync, same, device]
        refine ⟨_, started.trans (congrArg _ syncing), same, holds, ?_, ?_⟩
        · simp [partly]
        · simp [partly, submitted, device]
    | some spi =>
        have syncing : ws2812WriteSync next result =
            some (0, some ⟨SpiRing.encode (sent bytes data), ring.ws2812.speedHz, 32⟩) := by
          rw [ws2812WriteSync, same, device]
          simp only
          rw [← same, holds.encodeBuffer, Option.bind_some, holds.target, Option.bind_some,
            if_pos (Nat.le_of_not_gt complete),
            List.take_of_length_le (Nat.le_of_eq (by rw [holds.bytesTransfer, holds.cellsLength]))]
          simp
        refine ⟨_, started.trans (congrArg _ syncing), same, holds, ?_, ?_⟩
        · simp [partly]
        · simp [partly, submitted, device]

/-- A longer write is copied behind the end of `tx_buffer`. -/
theorem Opened.write_beyond (opened : Opened ring tx encoded bytes cells) {data : UserData}
    (beyond : 48 < data.bytes.length) (result : Int) : ws2812Write ring data result = none := by
  have copying : copyFromUser ring.heap tx data = none := by
    apply storeAll_beyond opened.source
    · rw [data.received_length, opened.bytesLength]
      omega
    · exact Nat.zero_le _
  rw [ws2812Write, opened.txBuffer, Option.bind_some, copying, Option.bind_none]

/-- A write of `data` that is copied and transferred successfully: it stores inside the
two buffers, transmits the new bytes followed by the rest of the old ones, and is
refused or cut when it is longer than the buffer. -/
def WritesFrame (ring : Ring Address) (tx : Address) (bytes data : List Byte) : Prop :=
  ∃ written, ws2812Write ring (.whole data) 0 = some written ∧
    (data.length ≤ 48 → written.transfer.map Transfer.txBuf =
      some (encode (data ++ bytes.drop data.length))) ∧
    (48 < data.length → written.ret < 0 ∨ written.ring.heap tx = some (data.take 48))

/-- On an opened device a write stays inside the buffers and transmits its frame if
and only if it is no longer than the buffer. -/
theorem writes_frame_iff (opened : Opened ring tx encoded bytes cells) {spi : SpiDevice}
    (device : ring.ws2812.spi = some spi) (data : List Byte) :
    WritesFrame ring tx bytes data ↔ data.length ≤ 48 := by
  constructor
  · rintro ⟨written, writing, -⟩
    by_contra beyond
    have undefined : ws2812Write ring (.whole data) 0 = none :=
      opened.write_beyond (Nat.lt_of_not_le beyond) 0
    simp [undefined] at writing
  · intro fits
    obtain ⟨written, writing, -, -, -, transfer⟩ := opened.write (.whole data) fits 0
    refine ⟨written, writing, fun _ => ?_, fun beyond => absurd fits (Nat.not_le_of_gt beyond)⟩
    simp [transfer, UserData.whole, submitted, device, sent, UserData.received]

/-- The driver with a device and no buffers. -/
def probed (spi : SpiDevice) : Ring Address :=
  ⟨ws2812Probe id spi, fun _ => none⟩

/-- Forty-nine zeros for the device as the board registers it. -/
theorem long_write_overruns :
    ∃ ring : Ring Nat, ws2812Open (probed ⟨6400000, 1, 3, 24⟩) 0 1 = some ring ∧
      ¬ WritesFrame ring 0 (List.replicate 48 0) (List.replicate 49 0) := by
  obtain ⟨ring, opening⟩ := @exists_open Nat _ (probed ⟨6400000, 1, 3, 24⟩) 0 1 rfl rfl (by decide)
  refine ⟨ring, opening, ?_⟩
  rintro ⟨written, writing, -⟩
  have undefined := @Opened.write_beyond Nat _ _ _ _ _ _ (opened_of_open opening)
    (.whole (List.replicate 49 0)) (by simp [UserData.whole]) 0
  exact Option.some_ne_none _ (writing.symm.trans undefined)

theorem writes_frame_full :
    ∃ ring : Ring Nat, ws2812Open (probed ⟨6400000, 1, 3, 24⟩) 0 1 = some ring ∧
      WritesFrame ring 0 (List.replicate 48 0) (List.replicate 48 200) := by
  obtain ⟨ring, opening⟩ := @exists_open Nat _ (probed ⟨6400000, 1, 3, 24⟩) 0 1 rfl rfl (by decide)
  have fits : (List.replicate 48 200 : List Byte).length ≤ 48 := by simp
  exact ⟨ring, opening, (writes_frame_iff (opened_of_open opening) (open_spi opening) _).mpr fits⟩

end SpiRing

end KinuxKernel
