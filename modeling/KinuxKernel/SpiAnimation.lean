import Mathlib.Data.List.Rotate
import KinuxKernel.SpiSettings

/-!
# The animation of the LED ring

`user.c` of the SPI driver opens the device, sets its parameters and writes a
pattern twenty times, each time rotated by the three bytes of one LED, and then
a dark frame.  Seen from the wire every LED takes over the colour of its
successor once a second.
-/

namespace KinuxKernel

namespace SpiRing

open BlockHeap

section Rotation

/-- `buffer[i] = buffer[i+1]` for `remaining` values of `i`; undefined beyond the
buffer. -/
def shiftLoop : Nat → Nat → List Byte → Option (List Byte)
  | 0, _, buffer => some buffer
  | remaining + 1, i, buffer =>
      buffer[i + 1]?.bind fun byte => shiftLoop remaining (i + 1) (buffer.set i byte)

/-- The body of the loop over `j`. -/
def shiftByte (buffer : List Byte) : Option (List Byte) :=
  buffer[0]?.bind fun temp =>
    (shiftLoop 47 0 buffer).bind fun shifted =>
      if 47 < shifted.length then some (shifted.set 47 temp) else none

/-- The loop over `j`. -/
def shiftBytes : Nat → List Byte → Option (List Byte)
  | 0, buffer => some buffer
  | remaining + 1, buffer => (shiftByte buffer).bind (shiftBytes remaining)

/-- The bytes before `i` have been replaced, the next ones move up. -/
theorem shiftLoop_eq (done rest : List Byte) (first : Byte) :
    shiftLoop rest.length done.length (done ++ first :: rest) =
      some (done ++ rest ++ [(first :: rest).getLast (List.cons_ne_nil _ _)]) := by
  induction rest generalizing done first with
  | nil => simp [shiftLoop]
  | cons second rest ih =>
      have loaded : (done ++ first :: second :: rest)[done.length + 1]? = some second := by simp
      have stored : (done ++ first :: second :: rest).set done.length second =
          (done ++ [second]) ++ second :: rest := by simp
      have length : done.length + 1 = (done ++ [second]).length := by simp
      rw [List.length_cons, shiftLoop, loaded, Option.bind_some, stored, length, ih]
      simp

/-- One round of the loop over `j` rotates the buffer by one byte. -/
theorem shiftByte_eq {buffer : List Byte} (length : buffer.length = 48) :
    shiftByte buffer = some (buffer.rotate 1) := by
  cases buffer with
  | nil => simp at length
  | cons temp rest =>
      have tail : rest.length = 47 := by simpa using length
      have shifted := shiftLoop_eq [] rest temp
      rw [tail, List.length_nil, List.nil_append, List.nil_append] at shifted
      rw [shiftByte, List.getElem?_cons_zero, Option.bind_some, shifted, Option.bind_some,
        if_pos (by simp [tail]), List.rotate_cons_succ, List.rotate_zero]
      have stored : (rest ++ [(temp :: rest).getLast (List.cons_ne_nil _ _)]).set 47 temp =
          rest ++ [temp] := by
        rw [← tail, List.set_append_right (h := le_rfl)]
        simp
      rw [stored]

theorem shiftBytes_eq (count : Nat) {buffer : List Byte} (length : buffer.length = 48) :
    shiftBytes count buffer = some (buffer.rotate count) := by
  induction count generalizing buffer with
  | zero => rw [shiftBytes, List.rotate_zero]
  | succ count ih =>
      rw [shiftBytes, shiftByte_eq length, Option.bind_some,
        ih (by rw [List.length_rotate, length]), List.rotate_rotate, Nat.add_comm]

/-- The colours of the LEDs in a frame. -/
def leds (frame : List Byte) (led : Fin 16) : List Byte :=
  (frame.drop (3 * led)).take 3

/-- Rotating by three bytes passes each colour on to the LED before. -/
theorem leds_rotate {frame : List Byte} (length : frame.length = 48) (count : Nat) (led : Fin 16) :
    leds (frame.rotate (3 * count)) led = leds frame (led + Fin.ofNat 16 count) := by
  apply List.ext_getElem?
  intro place
  by_cases inside : place < 3
  · have position : (3 * led + place + 3 * count) % 48 =
        3 * (led + Fin.ofNat 16 count : Fin 16).val + place := by
      rw [Fin.val_add, Fin.val_ofNat]
      omega
    have bound : 3 * led + place < frame.length := by omega
    simp only [leds, List.getElem?_take_of_lt inside, List.getElem?_drop]
    rw [List.getElem?_rotate bound, length, position]
  · simp [leds, List.getElem?_take_eq_none (Nat.le_of_not_lt inside)]

end Rotation

/-- What the loop over `k` leaves: the device, the buffer and the transfers of the
writes. -/
structure Shown (Address : Type*) where
  ring : Ring Address
  buffer : List Byte
  transfers : List (Option Transfer)

section Program

variable {Address : Type*} [DecidableEq Address]

/-- The loop over `k`; `results` are what `spi_sync_locked` returns.  The results of
`write` are ignored. -/
def frameLoop (results : Nat → Int) : Nat → Nat → Ring Address → List Byte → Option (Shown Address)
  | 0, _, ring, buffer => some ⟨ring, buffer, []⟩
  | remaining + 1, k, ring, buffer =>
      (shiftBytes 3 buffer).bind fun buffer =>
        (ws2812Write ring (.whole buffer) (results k)).bind fun written =>
          (frameLoop results remaining (k + 1) written.ring buffer).map fun shown =>
            { shown with transfers := written.transfer :: shown.transfers }

/-- The last loop, `buffer[i] = 0`. -/
def clearLoop : Nat → Nat → List Byte → Option (List Byte)
  | 0, _, buffer => some buffer
  | remaining + 1, i, buffer =>
      if i < buffer.length then clearLoop remaining (i + 1) (buffer.set i 0) else none

/-- `main` of `user.c` with some pattern, and the transfers it makes; `kzalloc`
returns the two addresses. -/
def userMain (spiSetup : SpiDevice → SpiDevice) (results : Nat → Int) (ring : Ring Address)
    (tx encode : Address) (buffer : List Byte) : Option (Shown Address) :=
  (ws2812Open ring tx encode).bind fun ring =>
    (ws2812Ioctl spiSetup ring (.reset (some ⟨6400000, 1, 3, 32⟩))).bind fun reset =>
      (frameLoop results 20 0 reset.1 buffer).bind fun shown =>
        (clearLoop 48 0 shown.buffer).bind fun buffer =>
          (ws2812Write shown.ring (.whole buffer) (results 20)).bind fun written =>
            (ws2812Close written.ring).map fun ring =>
              ⟨ring, buffer, shown.transfers ++ [written.transfer]⟩

/-- The transfer of some colours, with the speed of the probed device. -/
def frameOf (speedHz : BitVec 32) (frame : List Byte) : Transfer :=
  ⟨encode frame, speedHz, 32⟩

omit [DecidableEq Address] in
theorem clearLoop_eq (done rest : List Byte) :
    clearLoop rest.length done.length (done ++ rest) =
      some (done ++ List.replicate rest.length 0) := by
  induction rest generalizing done with
  | nil => simp [clearLoop]
  | cons byte rest ih =>
      have inside : done.length < (done ++ byte :: rest).length := by simp
      have stored : (done ++ byte :: rest).set done.length 0 = (done ++ [0]) ++ rest := by simp
      have length : done.length + 1 = (done ++ [(0 : Byte)]).length := by simp
      rw [List.length_cons, clearLoop, if_pos inside, stored, length, ih, List.append_assoc,
        List.singleton_append, List.replicate_succ]

variable {spiSetup : SpiDevice → SpiDevice} {results : Nat → Int} {spi device : SpiDevice}
  {ring after : Ring Address} {tx encoded : Address} {bytes cells buffer : List Byte}

/-- A full frame is transmitted as it is, whatever the last one was. -/
theorem Opened.write_frame (opened : Opened ring tx encoded bytes cells)
    (present : ring.ws2812.spi = some device) (length : buffer.length = 48) (result : Int) :
    ∃ written, ws2812Write ring (.whole buffer) result = some written ∧
      written.ring.ws2812 = ring.ws2812 ∧
      Opened written.ring tx encoded buffer (SpiRing.encode buffer) ∧
      written.transfer = some (frameOf ring.ws2812.speedHz buffer) := by
  obtain ⟨written, writing, same, holds, -, transfer⟩ :=
    opened.write (.whole buffer) length.le result
  have whole : sent bytes (.whole buffer) = buffer := by
    have covered : bytes.drop buffer.length = [] :=
      List.drop_eq_nil_of_le (by rw [opened.bytesLength, length])
    simp [sent, UserData.received, UserData.whole, covered]
  rw [whole] at holds transfer
  refine ⟨written, writing, same, holds, ?_⟩
  simp [transfer, UserData.whole, submitted, present, frameOf]

/-- The loop over `k` shows the pattern, each time rotated by one more LED. -/
theorem frameLoop_eq (opened : Opened ring tx encoded bytes cells)
    (present : ring.ws2812.spi = some device) (length : buffer.length = 48) (remaining k : Nat) :
    ∃ shown bytes cells, frameLoop results remaining k ring buffer = some shown ∧
      shown.ring.ws2812 = ring.ws2812 ∧ Opened shown.ring tx encoded bytes cells ∧
      shown.buffer.length = 48 ∧
      shown.transfers = (List.range remaining).map fun frame =>
        some (frameOf ring.ws2812.speedHz (buffer.rotate (3 * (frame + 1)))) := by
  induction remaining generalizing k ring buffer bytes cells with
  | zero => exact ⟨⟨ring, buffer, []⟩, bytes, cells, rfl, rfl, opened, length, rfl⟩
  | succ remaining ih =>
      have rotated : (buffer.rotate 3).length = 48 := by rw [List.length_rotate, length]
      obtain ⟨written, writing, same, holds, transfer⟩ :=
        opened.write_frame present rotated (results k)
      obtain ⟨shown, bytes, cells, loop, kept, open', final, transfers⟩ :=
        ih holds (by rw [same, present]) rotated (k + 1)
      refine ⟨{ shown with transfers := written.transfer :: shown.transfers }, bytes, cells, ?_,
        kept.trans same, open', final, ?_⟩
      · rw [frameLoop, shiftBytes_eq 3 length, Option.bind_some, writing, Option.bind_some, loop,
          Option.map_some]
      · rw [transfers, transfer, same, List.range_succ_eq_map, List.map_cons, List.map_map]
        simp [List.rotate_rotate, Function.comp_def, Nat.mul_add, Nat.add_comm]

omit [DecidableEq Address] in
/-- A `RESET` does not touch the buffers. -/
theorem Opened.withSpi (opened : Opened ring tx encoded bytes cells) (device : SpiDevice) :
    Opened (ring.withSpi device) tx encoded bytes cells :=
  ⟨opened.txBuffer, opened.encodeBuffer, opened.dataBuffSize, opened.bytesTransfer,
    opened.distinct, opened.source, opened.target, opened.bytesLength, opened.cellsLength⟩

theorem open_speedHz (opening : ws2812Open ring tx encoded = some after) :
    after.ws2812.speedHz = ring.ws2812.speedHz := by
  obtain ⟨first, -, opening⟩ := Option.bind_eq_some_iff.mp opening
  obtain ⟨second, -, rfl⟩ := Option.map_eq_some_iff.mp opening
  rfl

/-- A close frees `tx_buffer` and nothing else. -/
theorem Opened.close (opened : Opened ring tx encoded bytes cells) :
    ∃ after, ws2812Close ring = some after ∧ after.heap tx = none ∧
      after.heap encoded = some cells := by
  refine ⟨{ ring with heap := Function.update ring.heap tx none }, ?_, Function.update_self ..,
    (Function.update_of_ne opened.distinct.symm ..).trans opened.target⟩
  simp [ws2812Close, opened.txBuffer, kfree, BlockHeap.free, opened.source]

/-- The transfers of the program: the rotations of the pattern and a dark frame. -/
theorem userMain_transfers (present : ring.ws2812.spi = some spi)
    (unusedTx : ring.heap tx = none) (unusedEncoded : ring.heap encoded = none)
    (distinct : tx ≠ encoded) (length : buffer.length = 48) :
    ∃ shown, userMain spiSetup results ring tx encoded buffer = some shown ∧
      shown.transfers = ((List.range 20).map fun frame =>
        some (frameOf ring.ws2812.speedHz (buffer.rotate (3 * (frame + 1))))) ++
          [some (frameOf ring.ws2812.speedHz (List.replicate 48 0))] ∧
      shown.ring.heap tx = none ∧
      shown.ring.heap encoded = some (encode (List.replicate 48 0)) := by
  obtain ⟨started, opening⟩ := exists_open unusedTx unusedEncoded distinct
  have device : started.ws2812.spi = some spi := (open_spi opening).trans present
  have accepted := @ioctl_accepted _ spiSetup _ _ device ⟨6400000, 1, 3, 32⟩ _ rfl
  obtain ⟨shown, bytes, cells, loop, kept, opened, final, transfers⟩ :=
    frameLoop_eq ((opened_of_open opening).withSpi _) rfl length 20 0
  have cleared := clearLoop_eq [] shown.buffer
  rw [final, List.length_nil, List.nil_append, List.nil_append] at cleared
  obtain ⟨written, writing, -, holds, transfer⟩ :=
    opened.write_frame (by rw [kept]; rfl) List.length_replicate (results 20)
  obtain ⟨closed, closing, freed, left⟩ := holds.close
  have speed := open_speedHz opening
  refine ⟨⟨closed, List.replicate 48 0, shown.transfers ++ [written.transfer]⟩, ?_, ?_, freed,
    left⟩
  · rw [userMain, opening, Option.bind_some, accepted, Option.bind_some, loop, Option.bind_some,
      cleared, Option.bind_some, writing, Option.bind_some, closing, Option.map_some]
  · rw [transfers, transfer, kept]
    simp only [Ring.withSpi, speed]

/-- The user program never leaves its buffer or the driver's, whatever the SPI core
answers.  Frame `k` shows on each LED the colour of the LED `k + 1` places further
in the pattern, so that the frames repeat after sixteen; the last frame is dark,
and its encoding stays allocated when the device is closed. -/
theorem ring_animation (present : ring.ws2812.spi = some spi) (unusedTx : ring.heap tx = none)
    (unusedEncoded : ring.heap encoded = none) (distinct : tx ≠ encoded)
    (length : buffer.length = 48) :
    ∃ shown, userMain spiSetup results ring tx encoded buffer = some shown ∧
      shown.transfers.length = 21 ∧
      (∀ k < 20, ∃ frame, frame.length = 48 ∧
        shown.transfers[k]? = some (some (frameOf ring.ws2812.speedHz frame)) ∧
        ∀ led, leds frame led = leds buffer (led + Fin.ofNat 16 (k + 1))) ∧
      (∀ k < 4, shown.transfers[k + 16]? = shown.transfers[k]?) ∧
      shown.transfers[20]? =
        some (some (frameOf ring.ws2812.speedHz (List.replicate 48 0))) ∧
      shown.ring.heap tx = none ∧
      shown.ring.heap encoded = some (encode (List.replicate 48 0)) := by
  obtain ⟨shown, running, transfers, freed, left⟩ :=
    userMain_transfers present unusedTx unusedEncoded distinct length
  have frames (k : Nat) (inside : k < 20) : shown.transfers[k]? =
      some (some (frameOf ring.ws2812.speedHz (buffer.rotate (3 * (k + 1))))) := by
    rw [transfers, List.getElem?_append_left (by simpa using inside)]
    simp [inside]
  refine ⟨shown, running, by simp [transfers], fun k inside => ?_, fun k inside => ?_,
    by simp [transfers], freed, left⟩
  · exact ⟨_, (List.length_rotate ..).trans length, frames k inside, leds_rotate length (k + 1)⟩
  · have round : 3 * (k + 16 + 1) = 3 * (k + 1) + buffer.length := by
      rw [length]
      omega
    rw [frames k (by omega), frames (k + 16) (by omega), round, ← List.rotate_rotate,
      ← List.length_rotate buffer (3 * (k + 1)), List.rotate_length]

/-- `buffer` as `main` initialises it. -/
def pattern : List Byte :=
  [200, 0, 0, 0, 200, 0, 0, 0, 200, 200, 200, 0, 200, 0, 200, 0, 200, 200, 200, 200, 200,
    200, 0, 0, 0, 200, 0, 0, 0, 200, 200, 200, 0, 200, 0, 200, 0, 200, 200, 200, 200, 200,
    50, 150, 200, 200, 50, 150]

omit [DecidableEq Address] in
/-- The pattern of the program: its first frame ends with the colour it begins
with. -/
theorem ring_animation_pattern :
    ∃ shown, userMain id (fun _ => 0) (probed ⟨6400000, 1, 3, 24⟩) 0 1 pattern = some shown ∧
      ∃ frame, shown.transfers[0]? = some (some (frameOf 6400000 frame)) ∧
        leds frame 15 = [200, 0, 0] := by
  obtain ⟨shown, running, -, frames, -⟩ := @ring_animation Nat _ id (fun _ => 0) _
    (probed ⟨6400000, 1, 3, 24⟩) 0 1 pattern rfl rfl rfl Nat.zero_ne_one (by decide)
  obtain ⟨frame, -, transfer, colours⟩ := frames 0 (by decide)
  exact ⟨shown, running, frame, transfer, (colours 15).trans (by decide)⟩

end Program

end SpiRing

end KinuxKernel
