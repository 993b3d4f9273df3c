import Mathlib.Data.List.Flatten
import KinuxKernel.BlockHeap

/-!
# The SPI driver of the LED ring

`spi_ring_driver.c`: a write copies the colours of the LEDs to `tx_buffer`,
encodes each bit as one byte in `encode_buffer` and submits this buffer as a
transfer.  `kzalloc` and the SPI core choose addresses and results.
-/

namespace KinuxKernel

namespace SpiRing

open BlockHeap

abbrev Byte := BitVec 8

def EACCES : Int := 13

def EFAULT : Int := 14

def ESHUTDOWN : Int := 108

/-- The settings in `struct spi_device`. -/
@[ext]
structure SpiDevice where
  maxSpeedHz : BitVec 32
  chipSelect : Byte
  mode : BitVec 16
  bitsPerWord : Byte
deriving DecidableEq

/-- `setup`, the argument of `RESET`. -/
structure Setup where
  speed : BitVec 32
  cs : Byte
  mode : Byte
  bitsWord : Byte
deriving DecidableEq

/-- `struct ws2812_struct`; a null pointer is `none`. -/
structure Ws2812Struct (Address : Type*) where
  spi : Option SpiDevice
  speedHz : BitVec 32
  txBuffer : Option Address
  encodeBuffer : Option Address
  bytesTransfer : Nat
  dataBuffSize : Nat

/-- The structure that every file of the device refers to, with the heap of its
buffers. -/
structure Ring (Address : Type*) where
  ws2812 : Ws2812Struct Address
  heap : Heap Address Byte

/-- The data of a write; `copy_from_user` leaves the last `uncopied` bytes. -/
structure UserData where
  bytes : List Byte
  uncopied : Nat
  uncopied_le : uncopied ≤ bytes.length

/-- What `copy_from_user` stores: zeros where it did not copy. -/
def UserData.received (data : UserData) : List Byte :=
  data.bytes.take (data.bytes.length - data.uncopied) ++ List.replicate data.uncopied 0

/-- Data that is copied completely. -/
def UserData.whole (bytes : List Byte) : UserData :=
  ⟨bytes, 0, Nat.zero_le _⟩

/-- `struct spi_transfer`, with the bytes behind `tx_buf`. -/
structure Transfer where
  txBuf : List Byte
  speedHz : BitVec 32
  bitsPerWord : Byte
deriving DecidableEq

/-- The result of a write and the transfer it has submitted. -/
structure Written (Address : Type*) where
  ret : Int
  ring : Ring Address
  transfer : Option Transfer

/-- The command and argument of an ioctl; there is no argument when
`copy_from_user` fails. -/
inductive Ioctl where
  | reset (arg : Option Setup)
  | other

/-- `SPI_MODE_0` to `SPI_MODE_3`. -/
def spiMode (mode : Byte) : Option (BitVec 16) :=
  if mode = 0 then some 0
  else if mode = 1 then some 1
  else if mode = 2 then some 2
  else if mode = 3 then some 3
  else none

section Driver

variable {Address : Type*}

/-- `ws2812_probe`, as far as the structure goes.  `spi_setup` may change the device. -/
def ws2812Probe (spiSetup : SpiDevice → SpiDevice) (spi : SpiDevice) : Ws2812Struct Address where
  spi := some (spiSetup spi)
  speedHz := spi.maxSpeedHz
  txBuffer := none
  encodeBuffer := none
  bytesTransfer := 0
  dataBuffSize := 0

/-- `ws2812_ioctl`; undefined without a device. -/
def ws2812Ioctl (spiSetup : SpiDevice → SpiDevice) (ring : Ring Address) :
    Ioctl → Option (Ring Address × Int)
  | .reset none => some (ring, -EACCES)
  | .reset (some set) => ring.ws2812.spi.map fun spi =>
      let spi := { spi with
        maxSpeedHz := set.speed, chipSelect := set.cs, bitsPerWord := set.bitsWord }
      match spiMode set.mode with
      | some mode =>
          ({ ring with
            ws2812 := { ring.ws2812 with spi := some (spiSetup { spi with mode := mode }) } }, 0)
      | none => ({ ring with ws2812 := { ring.ws2812 with spi := some spi } }, -1)
  | .other => some (ring, -1)

/-- `ws2812_write_sync`, where `spi_sync_locked` returns `result`. -/
def ws2812WriteSync (ring : Ring Address) (result : Int) : Option (Int × Option Transfer) :=
  match ring.ws2812.spi with
  | none => some (-ESHUTDOWN, none)
  | some _ =>
      (ring.ws2812.encodeBuffer.bind ring.heap).bind fun cells =>
        if ring.ws2812.bytesTransfer ≤ cells.length then
          some (if result = 0 then result else 0,
            some ⟨cells.take ring.ws2812.bytesTransfer, ring.ws2812.speedHz, 32⟩)
        else none

variable [DecidableEq Address]

def kfree (heap : Heap Address Byte) : Option Address → Option (Heap Address Byte)
  | none => some heap
  | some address => free heap address

/-- `kzalloc`, where the allocator chooses the address. -/
def kzalloc (heap : Heap Address Byte) (address : Address) (size : Nat) :
    Option (Heap Address Byte) :=
  alloc heap address (List.replicate size 0)

/-- `ws2812_open`; `kzalloc` returns the two addresses. -/
def ws2812Open (ring : Ring Address) (tx encode : Address) : Option (Ring Address) :=
  (kzalloc ring.heap tx 48).bind fun heap =>
    (kzalloc heap encode (48 * 8)).map fun heap =>
      ⟨{ ring.ws2812 with
        dataBuffSize := 48, bytesTransfer := 48 * 8
        txBuffer := some tx, encodeBuffer := some encode }, heap⟩

/-- `ws2812_close`. -/
def ws2812Close (ring : Ring Address) : Option (Ring Address) :=
  (kfree ring.heap ring.ws2812.txBuffer).map fun heap => { ring with heap := heap }

/-- The inner loop of `bits_encode`: bit `k` of byte `i`, and then `remaining - 1`
more. -/
def bitLoop (encode : Address) (i : Nat) :
    Nat → Nat → Byte → Logged Address Byte → Option (Logged Address Byte)
  | 0, _, _, logged => some logged
  | remaining + 1, k, num, logged =>
      (logged.store encode (i * 8 + k) (if num &&& 128 ≠ 0 then 0xF0 else 0xC0)).bind
        (bitLoop encode i remaining (k + 1) (num <<< 1))

/-- The outer loop of `bits_encode` from byte `i` on. -/
def encodeLoop (tx encode : Address) :
    Nat → Nat → Logged Address Byte → Option (Logged Address Byte)
  | 0, _, logged => some logged
  | remaining + 1, i, logged =>
      (load logged.heap tx i).bind fun num =>
        (bitLoop encode i 8 0 num logged).bind (encodeLoop tx encode remaining (i + 1))

/-- `bits_encode`, with every store it makes. -/
def bitsEncodeLogged (ring : Ring Address) : Option (Logged Address Byte) :=
  ring.ws2812.txBuffer.bind fun tx =>
    ring.ws2812.encodeBuffer.bind fun encode =>
      encodeLoop tx encode ring.ws2812.dataBuffSize 0 ⟨ring.heap, []⟩

/-- `bits_encode`. -/
def bitsEncode (ring : Ring Address) : Option (Ring Address) :=
  (bitsEncodeLogged ring).map fun logged => { ring with heap := logged.heap }

def copyFromUser (heap : Heap Address Byte) (buffer : Address) (data : UserData) :
    Option (Heap Address Byte) :=
  storeAll heap buffer (consecutive 0 data.received)

/-- `ws2812_write`; `result` is what `spi_sync_locked` returns. -/
def ws2812Write (ring : Ring Address) (data : UserData) (result : Int) : Option (Written Address) :=
  (ring.ws2812.txBuffer.bind fun tx => copyFromUser ring.heap tx data).bind fun heap =>
    (bitsEncode { ring with heap := heap }).bind fun ring =>
      if data.uncopied ≠ 0 then some ⟨-EFAULT, ring, none⟩
      else (ws2812WriteSync ring result).map fun sent => ⟨sent.1, ring, sent.2⟩

end Driver

/-- The cells for a byte, most significant bit first: `0xF0` for a one and `0xC0` for
a zero. -/
def encodeByte (byte : Byte) : List Byte :=
  (List.range 8).map fun k => if byte.getMsbD k then 0xF0 else 0xC0

def encode (bytes : List Byte) : List Byte :=
  bytes.flatMap encodeByte

@[simp]
theorem encodeByte_length (byte : Byte) : (encodeByte byte).length = 8 := by
  simp [encodeByte]

@[simp]
theorem encode_length (bytes : List Byte) : (encode bytes).length = 8 * bytes.length := by
  induction bytes with
  | nil => rfl
  | cons byte bytes ih =>
      rw [encode, List.flatMap_cons, List.length_append, encodeByte_length, ← encode, ih,
        List.length_cons]
      omega

@[simp]
theorem encode_append (first second : List Byte) :
    encode (first ++ second) = encode first ++ encode second :=
  List.flatMap_append

theorem topBit (num : Byte) : num &&& 128 ≠ 0 ↔ num.getMsbD 0 = true := by
  revert num
  decide

section Encoding

variable {Address : Type*} [DecidableEq Address] {tx encoded : Address}
  {heap : Heap Address Byte} {logged : Logged Address Byte} {bytes : List Byte}

/-- The inner loop stores the remaining bits at consecutive offsets. -/
theorem bitLoop_eq (i remaining k : Nat) (num : Byte) (logged : Logged Address Byte) :
    bitLoop encoded i remaining k num logged = logged.storeAll encoded (consecutive (i * 8 + k)
      ((List.range remaining).map fun place => if num.getMsbD place then 0xF0 else 0xC0)) := by
  induction remaining generalizing k num logged with
  | zero => rfl
  | succ remaining ih =>
      rw [bitLoop, List.range_succ_eq_map, List.map_cons, List.map_map, consecutive,
        Logged.storeAll]
      simp only [topBit]
      refine Option.bind_congr fun middle _ => ?_
      rw [ih]
      simp only [BitVec.getMsbD_shiftLeft, Nat.add_assoc]
      rfl

theorem bitLoop_byte (i : Nat) (num : Byte) (logged : Logged Address Byte) :
    bitLoop encoded i 8 0 num logged =
      logged.storeAll encoded (consecutive (i * 8) (encodeByte num)) :=
  bitLoop_eq i 8 0 num logged

/-- The outer loop stores the encoding of the bytes from `i` on, one cell after the
other. -/
theorem encodeLoop_eq (distinct : tx ≠ encoded) {remaining i : Nat}
    (source : logged.heap tx = some bytes) (inside : i + remaining ≤ bytes.length) :
    encodeLoop tx encoded remaining i logged = logged.storeAll encoded
      (consecutive (i * 8) (encode ((bytes.drop i).take remaining))) := by
  induction remaining generalizing i logged with
  | zero => rfl
  | succ remaining ih =>
      have byteInside : i < bytes.length := by omega
      have loaded : load logged.heap tx i = some bytes[i] := by
        rw [load_eq source, List.getElem?_eq_getElem byteInside]
      have next : i * 8 + (encodeByte bytes[i]).length = (i + 1) * 8 := by
        rw [encodeByte_length]
        omega
      rw [encodeLoop, loaded, Option.bind_some, bitLoop_byte,
        List.drop_eq_getElem_cons byteInside, List.take_succ_cons, encode, List.flatMap_cons,
        consecutive_append, Logged.storeAll_append, next]
      refine Option.bind_congr fun middle stored => ih ?_ (by omega)
      rw [Logged.storeAll_eq] at stored
      obtain ⟨after, written, rfl⟩ := Option.map_eq_some_iff.mp stored
      exact ((storeAll_frame written).1 tx distinct).trans source

/-- `bits_encode` fills the first cells of the encode buffer with the encoding of the
bytes to be sent, one store for each cell. -/
theorem encodeLoop_whole (distinct : tx ≠ encoded) {cells : List Byte}
    (source : heap tx = some bytes) (target : heap encoded = some cells)
    (fits : 8 * bytes.length ≤ cells.length) :
    encodeLoop tx encoded bytes.length 0 ⟨heap, []⟩ = some ⟨Function.update heap encoded
        (some (encode bytes ++ cells.drop (8 * bytes.length))),
      (consecutive 0 (encode bytes)).map (Prod.mk encoded)⟩ := by
  rw [encodeLoop_eq distinct source (by omega), List.drop_zero, List.take_length,
    Logged.storeAll_eq]
  have stored := @storeAll_consecutive _ _ _ heap encoded cells 0 (encode bytes) target
    (by rw [encode_length]; omega)
  rw [Nat.zero_mul, stored]
  simp

end Encoding

end SpiRing

end KinuxKernel
