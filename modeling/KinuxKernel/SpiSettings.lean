import KinuxKernel.SpiFrames
import KinuxKernel.TraceRun

/-!
# Settings of the SPI device

`RESET` ioctls and writes on an opened device.  `RESET` assigns speed, chip
select and word size before it looks at the mode.  Transfers take their speed
from a copy that is made when the device is probed, and their word size is
fixed.
-/

namespace KinuxKernel

namespace SpiRing

open BlockHeap TraceRun

inductive SettingsEvent where
  | reset (arg : Option Setup)
  | write (data : UserData) (result : Int)

/-- The setup of a `RESET` that names a mode. -/
def SettingsEvent.accepted : SettingsEvent → Option Setup
  | .reset (some set) => if (spiMode set.mode).isSome then some set else none
  | .reset none | .write _ _ => none

/-- Speed and word size of the last accepted `RESET`, else of the device that was
probed. -/
def configured (spi : SpiDevice) (trace : List SettingsEvent) : BitVec 32 × Byte :=
  match trace.findSome? SettingsEvent.accepted with
  | some set => (set.speed, set.bitsWord)
  | none => (spi.maxSpeedHz, spi.bitsPerWord)

section Ioctls

variable {Address : Type*} {spiSetup : SpiDevice → SpiDevice} {spi device : SpiDevice}
  {ring after : Ring Address} {tx encoded : Address}

def Ring.withSpi (ring : Ring Address) (spi : SpiDevice) : Ring Address :=
  { ring with ws2812 := { ring.ws2812 with spi := some spi } }

/-- The device after a `RESET` without a valid mode. -/
def Setup.assign (set : Setup) (spi : SpiDevice) : SpiDevice :=
  { spi with maxSpeedHz := set.speed, chipSelect := set.cs, bitsPerWord := set.bitsWord }

theorem ioctl_accepted (present : ring.ws2812.spi = some device) {set : Setup} {mode : BitVec 16}
    (valid : spiMode set.mode = some mode) :
    ws2812Ioctl spiSetup ring (.reset (some set)) =
      some (ring.withSpi (spiSetup { set.assign device with mode := mode }), 0) := by
  simp only [ws2812Ioctl, present, Option.map_some, valid]
  rfl

theorem ioctl_invalid (present : ring.ws2812.spi = some device) {set : Setup}
    (invalid : spiMode set.mode = none) :
    ws2812Ioctl spiSetup ring (.reset (some set)) =
      some (ring.withSpi (set.assign device), -1) := by
  simp only [ws2812Ioctl, present, Option.map_some, invalid]
  rfl

/-- The `RESET`s that return zero are the accepted ones. -/
theorem ioctl_code (present : ring.ws2812.spi = some device) {arg : Option Setup} {code : Int}
    (executed : ws2812Ioctl spiSetup ring (.reset arg) = some (after, code)) :
    code = 0 ↔ (SettingsEvent.reset arg).accepted.isSome := by
  cases arg with
  | none =>
      obtain ⟨-, rfl⟩ := Prod.mk.inj (Option.some.inj executed)
      simp [SettingsEvent.accepted, EACCES]
  | some set =>
      cases valid : spiMode set.mode with
      | none =>
          rw [ioctl_invalid present valid] at executed
          obtain ⟨-, rfl⟩ := Prod.mk.inj (Option.some.inj executed)
          simp [SettingsEvent.accepted, valid]
      | some mode =>
          rw [ioctl_accepted present valid] at executed
          obtain ⟨-, rfl⟩ := Prod.mk.inj (Option.some.inj executed)
          simp [SettingsEvent.accepted, valid]

theorem Setup.assign_eq_self (set : Setup) (device : SpiDevice) :
    set.assign device = device ↔ set.speed = device.maxSpeedHz ∧ set.cs = device.chipSelect ∧
      set.bitsWord = device.bitsPerWord := by
  rw [SpiDevice.ext_iff]
  simp [Setup.assign]

/-- What an open device keeps: its buffers, the probed speed and the device. -/
structure StaysOpen (spi : SpiDevice) (tx encoded : Address) (ring : Ring Address) : Prop where
  opened : ∃ bytes cells, Opened ring tx encoded bytes cells
  speedHz : ring.ws2812.speedHz = spi.maxSpeedHz
  present : ∃ device, ring.ws2812.spi = some device

theorem StaysOpen.withSpi (holds : StaysOpen spi tx encoded ring) (device : SpiDevice) :
    StaysOpen spi tx encoded (ring.withSpi device) := by
  obtain ⟨⟨bytes, cells, opened⟩, speedHz, -⟩ := holds
  refine ⟨⟨bytes, cells, ?_⟩, speedHz, device, rfl⟩
  exact ⟨opened.txBuffer, opened.encodeBuffer, opened.dataBuffSize, opened.bytesTransfer,
    opened.distinct, opened.source, opened.target, opened.bytesLength, opened.cellsLength⟩

end Ioctls

variable {Address : Type*} [DecidableEq Address]

def applySettings (spiSetup : SpiDevice → SpiDevice) (ring : Ring Address) :
    SettingsEvent → Option (Ring Address)
  | .reset arg => (ws2812Ioctl spiSetup ring (.reset arg)).map Prod.fst
  | .write data result => (ws2812Write ring data result).map Written.ring

abbrev SettingsRun (spiSetup : SpiDevice → SpiDevice) (start : Ring Address) :
    List SettingsEvent → Ring Address → Prop :=
  Run (applySettings spiSetup) (each fun _ => True) start

/-- A `RESET` that fails leaves the device as it was, and transfers use the speed and
the word size of the last `RESET` that has not failed. -/
structure FollowsResets (spiSetup : SpiDevice → SpiDevice) (spi : SpiDevice)
    (start : Ring Address) (trace : List SettingsEvent) : Prop where
  refused : ∀ arg earlier before after code, .reset arg :: earlier <:+ trace →
    replay (applySettings spiSetup) start earlier = some before →
    ws2812Ioctl spiSetup before (.reset arg) = some (after, code) → code ≠ 0 →
    after.ws2812.spi = before.ws2812.spi
  transfers : ∀ data result earlier before written transfer,
    .write data result :: earlier <:+ trace →
    replay (applySettings spiSetup) start earlier = some before →
    ws2812Write before data result = some written → written.transfer = some transfer →
    (transfer.speedHz, transfer.bitsPerWord) = configured spi earlier

/-- Each `RESET` without a valid mode names what the device has, and what is written
is to be sent with the speed of the probed device in words of 32 bits. -/
structure ResetsAgree (spiSetup : SpiDevice → SpiDevice) (spi : SpiDevice)
    (start : Ring Address) (trace : List SettingsEvent) : Prop where
  invalid : ∀ set earlier before device, .reset (some set) :: earlier <:+ trace →
    replay (applySettings spiSetup) start earlier = some before → spiMode set.mode = none →
    before.ws2812.spi = some device →
    set.speed = device.maxSpeedHz ∧ set.cs = device.chipSelect ∧
      set.bitsWord = device.bitsPerWord
  written : ∀ data result earlier, .write data result :: earlier <:+ trace → data.uncopied = 0 →
    configured spi earlier = (spi.maxSpeedHz, 32)

variable {spiSetup : SpiDevice → SpiDevice} {spi device : SpiDevice}
  {ring start after : Ring Address} {tx encoded : Address} {bytes cells : List Byte}
  {trace : List SettingsEvent}

theorem Opened.write_fits (opened : Opened ring tx encoded bytes cells) {data : UserData}
    {result : Int} {written : Written Address}
    (writing : ws2812Write ring data result = some written) : data.bytes.length ≤ 48 := by
  by_contra beyond
  rw [opened.write_beyond (Nat.lt_of_not_le beyond)] at writing
  contradiction

theorem StaysOpen.step (holds : StaysOpen spi tx encoded ring) {event : SettingsEvent}
    (stepTo : applySettings spiSetup ring event = some after) :
    StaysOpen spi tx encoded after := by
  obtain ⟨device, present⟩ := holds.present
  cases event with
  | reset arg =>
      obtain ⟨⟨result, code⟩, executed, rfl⟩ := Option.map_eq_some_iff.mp stepTo
      cases arg with
      | none =>
          obtain ⟨rfl, -⟩ := Prod.mk.inj (Option.some.inj executed)
          exact holds
      | some set =>
          cases valid : spiMode set.mode with
          | none =>
              rw [ioctl_invalid present valid] at executed
              obtain ⟨rfl, -⟩ := Prod.mk.inj (Option.some.inj executed)
              exact holds.withSpi _
          | some mode =>
              rw [ioctl_accepted present valid] at executed
              obtain ⟨rfl, -⟩ := Prod.mk.inj (Option.some.inj executed)
              exact holds.withSpi _
  | write data result =>
      obtain ⟨written, writing, rfl⟩ := Option.map_eq_some_iff.mp stepTo
      obtain ⟨bytes, cells, opened⟩ := holds.opened
      obtain ⟨same, executed, keeps, openedAfter, -⟩ :=
        opened.write data (opened.write_fits writing) result
      obtain rfl := Option.some.inj (writing.symm.trans executed)
      refine ⟨⟨_, _, openedAfter⟩, ?_, ?_⟩
      · rw [keeps]
        exact holds.speedHz
      · rw [keeps]
        exact holds.present

/-- The device when it has been probed and opened. -/
theorem stays_open_of_open {heap : Heap Address Byte}
    (opening : ws2812Open ⟨ws2812Probe spiSetup spi, heap⟩ tx encoded = some start) :
    StaysOpen spi tx encoded start := by
  have opened := opened_of_open opening
  obtain ⟨first, -, opening⟩ := Option.bind_eq_some_iff.mp opening
  obtain ⟨second, -, rfl⟩ := Option.map_eq_some_iff.mp opening
  exact ⟨⟨_, _, opened⟩, rfl, _, rfl⟩

theorem SettingsRun.staysOpen (initially : StaysOpen spi tx encoded start)
    (run : SettingsRun spiSetup start trace ring) : StaysOpen spi tx encoded ring := by
  induction run with
  | start => exact initially
  | next _ _ stepTo ih => exact ih.step stepTo

/-- A transfer of an open device has the probed speed and 32 bits. -/
theorem StaysOpen.transfer (holds : StaysOpen spi tx encoded ring) {data : UserData} {result : Int}
    {written : Written Address} (writing : ws2812Write ring data result = some written) :
    (data.uncopied = 0 ↔ written.transfer.isSome) ∧
      ∀ transfer ∈ written.transfer,
        (transfer.speedHz, transfer.bitsPerWord) = (spi.maxSpeedHz, 32) := by
  obtain ⟨bytes, cells, opened⟩ := holds.opened
  obtain ⟨device, present⟩ := holds.present
  obtain ⟨same, executed, -, -, -, sending⟩ :=
    opened.write data (opened.write_fits writing) result
  obtain rfl := Option.some.inj (writing.symm.trans executed)
  rw [sending]
  by_cases partly : data.uncopied = 0
  · simp [partly, submitted, present, holds.speedHz]
  · simp [partly]

/-- In a run of `RESET`s and writes on an opened device, failed `RESET`s leave the
device alone and transfers follow the others if and only if the `RESET`s agree with
what the device has and the transfers use. -/
theorem follows_resets_iff {heap : Heap Address Byte}
    (opening : ws2812Open ⟨ws2812Probe spiSetup spi, heap⟩ tx encoded = some start)
    (run : SettingsRun spiSetup start trace ring) :
    FollowsResets spiSetup spi start trace ↔ ResetsAgree spiSetup spi start trace := by
  have initially := stays_open_of_open opening
  constructor
  · intro follows
    constructor
    · intro set earlier before device inside reached invalid present
      have unchanged := follows.refused (some set) earlier before _ _ inside reached
        (ioctl_invalid present invalid) (by decide)
      have same : set.assign device = device := Option.some.inj (unchanged.trans present)
      exact (set.assign_eq_self device).mp same
    · intro data result earlier inside complete
      obtain ⟨before, after, earlierRun, -, stepTo⟩ := run.of_executed inside
      obtain ⟨written, writing, -⟩ := Option.map_eq_some_iff.mp stepTo
      obtain ⟨sends, settings⟩ := (SettingsRun.staysOpen initially earlierRun).transfer writing
      obtain ⟨transfer, sending⟩ := Option.isSome_iff_exists.mp (sends.mp complete)
      have asked := follows.transfers data result earlier before written transfer inside
        earlierRun.replay_eq writing sending
      exact asked.symm.trans (settings transfer sending)
  · intro agree
    constructor
    · intro arg earlier before after code inside reached executed failed
      obtain ⟨earlierRun, -⟩ := run.step_of_reached inside reached
      obtain ⟨device, present⟩ := (SettingsRun.staysOpen initially earlierRun).present
      cases arg with
      | none =>
          obtain ⟨rfl, -⟩ := Prod.mk.inj (Option.some.inj executed)
          rfl
      | some set =>
          have refused := mt (ioctl_code present executed).mpr failed
          have invalid : spiMode set.mode = none := by
            simpa [SettingsEvent.accepted] using refused
          have same := agree.invalid set earlier before device inside reached invalid present
          rw [ioctl_invalid present invalid] at executed
          obtain ⟨rfl, -⟩ := Prod.mk.inj (Option.some.inj executed)
          rw [Ring.withSpi, (set.assign_eq_self device).mpr same, present]
    · intro data result earlier before written transfer inside reached writing sending
      obtain ⟨earlierRun, -⟩ := run.step_of_reached inside reached
      obtain ⟨sends, settings⟩ := (SettingsRun.staysOpen initially earlierRun).transfer writing
      have complete : data.uncopied = 0 := sends.mpr (by simp [sending])
      rw [settings transfer sending, agree.written data result earlier inside complete]

/-- The device as the board registers it. -/
def boardDevice : SpiDevice :=
  ⟨6400000, 1, 3, 24⟩

/-- `RESET`s are never undefined on an open device, and neither is an empty write. -/
theorem StaysOpen.exists_reset (holds : StaysOpen spi tx encoded ring) (arg : Option Setup) :
    ∃ after, applySettings spiSetup ring (.reset arg) = some after := by
  obtain ⟨device, present⟩ := holds.present
  cases arg with
  | none => exact ⟨ring, rfl⟩
  | some set => simp [applySettings, ws2812Ioctl, present]

theorem StaysOpen.exists_write (holds : StaysOpen spi tx encoded ring) {data : UserData}
    (fits : data.bytes.length ≤ 48) (result : Int) :
    ∃ written, ws2812Write ring data result = some written := by
  obtain ⟨bytes, cells, opened⟩ := holds.opened
  obtain ⟨written, writing, -⟩ := opened.write data fits result
  exact ⟨written, writing⟩

/-- A write after a `RESET`. -/
theorem StaysOpen.exists_run (holds : StaysOpen spi tx encoded start) (set : Setup)
    {data : UserData} (fits : data.bytes.length ≤ 48) (result : Int) :
    ∃ before written, SettingsRun spiSetup start [.reset (some set)] before ∧
      ws2812Write before data result = some written ∧
      SettingsRun spiSetup start [.write data result, .reset (some set)] written.ring := by
  have resets : ∃ before, applySettings spiSetup start (.reset (some set)) = some before :=
    holds.exists_reset (some set)
  obtain ⟨before, resetting⟩ := resets
  have run : SettingsRun spiSetup start [.reset (some set)] before := .next .start trivial resetting
  obtain ⟨written, writing⟩ := (run.staysOpen holds).exists_write fits result
  exact ⟨before, written, run, writing, .next run trivial (by rw [applySettings, writing]; rfl)⟩

/-- A `RESET` to a mode that does not exist changes the speed and fails.  A `RESET` to
another speed succeeds, and the next write is sent with the old one. -/
theorem resets_not_followed :
    ∃ start : Ring Nat, ws2812Open (probed boardDevice) 0 1 = some start ∧
      (∃ ring, SettingsRun id start [.reset (some ⟨800000, 1, 4, 32⟩)] ring ∧
        ¬ FollowsResets id boardDevice start [.reset (some ⟨800000, 1, 4, 32⟩)]) ∧
      ∃ ring, SettingsRun id start
          [.write (.whole []) 0, .reset (some ⟨800000, 1, 3, 32⟩)] ring ∧
        ¬ FollowsResets id boardDevice start
          [.write (.whole []) 0, .reset (some ⟨800000, 1, 3, 32⟩)] := by
  obtain ⟨start, opening⟩ := @exists_open Nat _ (probed boardDevice) 0 1 rfl rfl (by decide)
  have holds := stays_open_of_open opening
  have present : start.ws2812.spi = some boardDevice := open_spi opening
  refine ⟨start, opening, ?_, ?_⟩
  · have executed := @ioctl_invalid _ id _ _ present ⟨800000, 1, 4, 32⟩ rfl
    refine ⟨_, .next .start trivial (by rw [applySettings, executed]; rfl), fun follows => ?_⟩
    have unchanged := follows.refused _ [] start _ _ (List.suffix_refl _) rfl executed (by decide)
    rw [present, Ring.withSpi, Option.some.injEq, Setup.assign_eq_self] at unchanged
    exact absurd unchanged.1 (by decide)
  · obtain ⟨before, written, earlier, writing, run⟩ :=
      @StaysOpen.exists_run _ _ id _ _ _ _ holds ⟨800000, 1, 3, 32⟩ (.whole []) (by decide) 0
    refine ⟨_, run, fun follows => ?_⟩
    obtain ⟨sends, settings⟩ := (SettingsRun.staysOpen holds earlier).transfer writing
    obtain ⟨transfer, sending⟩ := Option.isSome_iff_exists.mp (sends.mp rfl)
    have asked :=
      follows.transfers _ _ _ _ _ _ (List.suffix_refl _) earlier.replay_eq writing sending
    rw [settings transfer sending] at asked
    exact absurd asked (by decide)

/-- What the user program does: it sets the speed that the device has, and 32 bits. -/
theorem resets_followed_by_user :
    ∃ start : Ring Nat, ws2812Open (probed boardDevice) 0 1 = some start ∧
      FollowsResets id boardDevice start
        [.write (.whole (List.replicate 48 200)) 0, .reset (some ⟨6400000, 1, 3, 32⟩)] := by
  obtain ⟨start, opening⟩ := @exists_open Nat _ (probed boardDevice) 0 1 rfl rfl (by decide)
  obtain ⟨before, written, -, -, run⟩ := @StaysOpen.exists_run _ _ id _ _ _ _
    (stays_open_of_open opening) ⟨6400000, 1, 3, 32⟩ (.whole (List.replicate 48 200)) (by decide) 0
  refine ⟨start, opening, (follows_resets_iff opening run).mpr ?_⟩
  constructor
  · intro set earlier before device inside _ invalid _
    have same : set = ⟨6400000, 1, 3, 32⟩ ∧ earlier = [] := by
      simpa [executed_cons_iff] using inside
    obtain ⟨rfl, -⟩ := same
    exact absurd invalid (by decide)
  · intro data result earlier inside _
    have same : (data = .whole (List.replicate 48 200) ∧ result = 0) ∧
        earlier = [.reset (some ⟨6400000, 1, 3, 32⟩)] := by
      simpa [executed_cons_iff] using inside
    rw [same.2]
    rfl

end SpiRing

end KinuxKernel
