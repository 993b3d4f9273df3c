import KinuxKernel.LedFrames
import KinuxKernel.OutputTurns

/-!
# The hrtimer bit-bang driver

One callback of the timer writes one half of a pulse.  After 768 callbacks the
16 LEDs have had 24 pulses each, but the callback moves on to a 17th LED instead
of completing the transfer.  `hrt_write` sets up everything the callbacks read
except `done` and `bit`.
-/

namespace KinuxKernel

namespace LedRing

namespace Hrtimer

open OutputTurns

/-- The fields of `devp` that callbacks read and write.  The completion `biw` is
represented by its count. -/
@[ext]
structure Devp where
  ledCount : Nat
  msg : Vector (BitVec 32) 16
  c : Int
  done : Bool
  bit : Bool
  biw : Nat
  oneOn : Int
  oneOff : Int
  zeroOn : Int
  zeroOff : Int

/-- What a callback does to the outside: it writes the data register and forwards
the timer, or completes the transfer. -/
inductive Output where
  | write (value : BitVec 32) (interval : Int)
  | complete
deriving DecidableEq

/-- Memory whose every byte is zero. -/
def Devp.zeroed : Devp where
  ledCount := 0
  msg := Vector.replicate 16 0
  c := 0
  done := false
  bit := false
  biw := 0
  oneOn := 0
  oneOff := 0
  zeroOn := 0
  zeroOff := 0

namespace Devp

variable (devp : Devp)

/-- Shift `msg[led_count]` and take the next bit; undefined behind the array. -/
def shiftMsg : Option Devp :=
  if inside : devp.ledCount < 16 then
    let word := devp.msg[devp.ledCount] <<< 1
    some { devp with msg := devp.msg.set devp.ledCount word inside, bit := testBit word }
  else none

/-- `if ((c == 0) && (led_count < 16))`. -/
def nextLed : Devp :=
  if devp.c = 0 ∧ devp.ledCount < 16 then { devp with ledCount := devp.ledCount + 1, c := 48 }
  else devp

end Devp

/-- `my_hrtimer_callback`.  The timer is restarted as long as the turns continue. -/
def myHrtimerCallback (devp : Devp) : Option (Turn Output Devp) :=
  if devp.c ≠ 0 then
    let devp := { devp with c := devp.c - 1 }
    let onInterval := if devp.bit then devp.oneOn else devp.zeroOn
    let offInterval := if devp.bit then devp.oneOff else devp.zeroOff
    if devp.done = false then some ⟨.write 149 onInterval, true, { devp with done := true }⟩
    else devp.shiftMsg.map fun devp =>
      ⟨.write 21 offInterval, true, { devp with done := false }.nextLed⟩
  else some ⟨.complete, false, { devp with c := devp.c - 1, biw := devp.biw + 1 }⟩

/-- `hrt_write` up to the start of the timer, for the colour that the source fixes
to white. -/
def hrtWrite (g r b : BitVec 8) (devp : Devp) : Devp :=
  { devp with
    biw := 0
    oneOn := 650
    oneOff := 600
    zeroOn := 500
    zeroOff := 850
    ledCount := 0
    c := 48
    msg := packMsg g r b }

/-- The writes that send a bit. -/
def pulse (one : Bool) : List Output :=
  if one then [.write 149 650, .write 21 600] else [.write 149 500, .write 21 850]

/-- The callbacks of a transfer send the whole frame, and then complete it. -/
def SendsFrame (g r b : BitVec 8) (devp : Devp) : Prop :=
  ∃ final, Finishes myHrtimerCallback (hrtWrite g r b devp)
    ((frameBits g r b).flatMap pulse ++ [.complete]) final

/-- The counters after some callbacks. -/
structure Progress (count : Nat) (devp : Devp) : Prop where
  ledCount : devp.ledCount = count / 48
  c : devp.c = 48 - (count % 48 : Nat)
  done : devp.done = decide (count % 2 = 1)

theorem callback_high {devp : Devp} (running : devp.c ≠ 0) (low : devp.done = false) :
    myHrtimerCallback devp = some ⟨.write 149 (if devp.bit then devp.oneOn else devp.zeroOn), true,
      { devp with c := devp.c - 1, done := true }⟩ := by
  simp [myHrtimerCallback, running, low]

theorem callback_low {devp : Devp} (running : devp.c ≠ 0) (high : devp.done = true)
    (inside : devp.ledCount < 16) :
    myHrtimerCallback devp =
      some ⟨.write 21 (if devp.bit then devp.oneOff else devp.zeroOff), true,
        { devp with
          c := devp.c - 1
          msg := devp.msg.set devp.ledCount (devp.msg[devp.ledCount] <<< 1) inside
          bit := testBit (devp.msg[devp.ledCount] <<< 1)
          done := false }.nextLed⟩ := by
  simp [myHrtimerCallback, running, high, Devp.shiftMsg, inside]

/-- What a callback that restarts the timer has done: it has begun a pulse, or ended one
and shifted the word. -/
theorem callback_continues {devp next : Devp} {output : Output}
    (taken : myHrtimerCallback devp = some ⟨output, true, next⟩) :
    devp.c ≠ 0 ∧
      ((devp.done = false ∧
        output = .write 149 (if devp.bit then devp.oneOn else devp.zeroOn) ∧
        next = { devp with c := devp.c - 1, done := true }) ∨
      (devp.done = true ∧ ∃ inside : devp.ledCount < 16,
        output = .write 21 (if devp.bit then devp.oneOff else devp.zeroOff) ∧
        next = { devp with
          c := devp.c - 1
          msg := devp.msg.set devp.ledCount (devp.msg[devp.ledCount] <<< 1) inside
          bit := testBit (devp.msg[devp.ledCount] <<< 1)
          done := false }.nextLed)) := by
  have running : devp.c ≠ 0 := by
    intro zero
    simp [myHrtimerCallback, zero] at taken
  refine ⟨running, ?_⟩
  cases phase : devp.done with
  | false =>
      rw [callback_high running phase] at taken
      obtain ⟨rfl, -, rfl⟩ := Turn.mk.inj (Option.some.inj taken)
      exact .inl ⟨rfl, rfl, rfl⟩
  | true =>
      by_cases inside : devp.ledCount < 16
      · rw [callback_low running phase inside] at taken
        obtain ⟨rfl, -, rfl⟩ := Turn.mk.inj (Option.some.inj taken)
        exact .inr ⟨rfl, inside, rfl, rfl⟩
      · simp [myHrtimerCallback, running, phase, Devp.shiftMsg, inside] at taken

/-- A callback that does not restart the timer has found the counter at zero. -/
theorem callback_stops {devp next : Devp} {output : Output}
    (taken : myHrtimerCallback devp = some ⟨output, false, next⟩) :
    devp.c = 0 ∧ next.ledCount = devp.ledCount := by
  by_cases running : devp.c = 0
  · simp only [myHrtimerCallback, running, ne_eq, not_true_eq_false, if_false] at taken
    obtain ⟨-, -, rfl⟩ := Turn.mk.inj (Option.some.inj taken)
    exact ⟨running, rfl⟩
  · cases phase : devp.done with
    | false =>
        rw [callback_high running phase] at taken
        simp at taken
    | true =>
        simp [myHrtimerCallback, running, phase] at taken

theorem Progress.high {count : Nat} {devp : Devp} (progress : Progress count devp)
    (even : count % 2 = 0) :
    ∃ interval next, myHrtimerCallback devp = some ⟨.write 149 interval, true, next⟩ ∧
      Progress (count + 1) next := by
  obtain ⟨ledCount, c, done⟩ := progress
  have low : devp.done = false := by simp [done, even]
  refine ⟨_, _, callback_high (by omega) low, ?_⟩
  constructor
  · simp only
    omega
  · simp only
    omega
  · simp only [true_eq_decide_iff]
    omega

theorem Progress.low {count : Nat} {devp : Devp} (progress : Progress count devp)
    (odd : count % 2 = 1) (within : count < 768) :
    ∃ interval next, myHrtimerCallback devp = some ⟨.write 21 interval, true, next⟩ ∧
      Progress (count + 1) next := by
  obtain ⟨ledCount, c, done⟩ := progress
  have high : devp.done = true := by simp [done, odd]
  have inside : devp.ledCount < 16 := by omega
  have even : (count + 1) % 2 = 0 := by omega
  refine ⟨_, _, callback_low (by omega) high inside, ?_⟩
  by_cases last : devp.c - 1 = 0
  · rw [Devp.nextLed, if_pos ⟨last, inside⟩]
    constructor
    · simp only
      omega
    · simp only
      omega
    · simp [even]
  · rw [Devp.nextLed, if_neg fun both => last both.1]
    constructor
    · simp only
      omega
    · simp only
      omega
    · simp [even]

theorem Progress.advance {count : Nat} {devp : Devp} (within : count < 768)
    (progress : Progress count devp) :
    ∃ output next, myHrtimerCallback devp = some ⟨output, true, next⟩ ∧
      Progress (count + 1) next := by
  rcases Nat.mod_two_eq_zero_or_one count with even | odd
  · obtain ⟨interval, next, taken, reached⟩ := progress.high even
    exact ⟨_, next, taken, reached⟩
  · obtain ⟨interval, next, taken, reached⟩ := progress.low odd within
    exact ⟨_, next, taken, reached⟩

theorem pulses_length (bits : List Bool) : (bits.flatMap pulse).length = 2 * bits.length := by
  induction bits with
  | nil => rfl
  | cons bit bits ih =>
      rw [List.flatMap_cons, List.length_append, ih, List.length_cons]
      cases bit <;> simp [pulse] <;> omega

/-- A transfer that starts in the low phase has not completed after 768
callbacks. -/
theorem overruns {g r b : BitVec 8} {devp : Devp} (low : devp.done = false) :
    ¬ SendsFrame g r b devp := by
  rintro ⟨final, finishes⟩
  have initially : Progress 0 (hrtWrite g r b devp) := ⟨rfl, rfl, low⟩
  obtain ⟨produced, state, turns, length, progress⟩ :=
    exists_turns (fun _ _ within progress => Progress.advance within progress) initially
      (Nat.le_refl 768)
  obtain ⟨rest, split, continued⟩ := finishes.after turns
  have frame : ((frameBits g r b).flatMap pulse).length = 768 := by
    rw [pulses_length, frameBits_length]
  obtain ⟨-, rfl⟩ := List.append_inj split.symm (length.trans frame.symm)
  -- the next callback would have to complete the transfer, but it starts a 17th LED
  obtain ⟨interval, next, taken, -⟩ := progress.high rfl
  cases continued with
  | last completed => simp [taken] at completed
  | cons _ others => cases others

/-- No transfer sends its frame, whatever the colour and the state it starts
in. -/
theorem never_sends_frame (g r b : BitVec 8) (devp : Devp) : ¬ SendsFrame g r b devp := by
  cases phase : devp.done with
  | false => exact overruns phase
  | true =>
      -- the first write is the one that ends a pulse
      rintro ⟨final, finishes⟩
      have taken :=
        @callback_low (hrtWrite g r b devp) (by simp [hrtWrite]) phase (by simp [hrtWrite])
      obtain ⟨rest, split, -⟩ := finishes.after (.cons taken (.nil _))
      cases bits : frameBits g r b with
      | nil =>
          have length := frameBits_length g r b
          simp [bits] at length
      | cons first others => cases first <;> simp [bits, pulse] at split

/-- White, as in the source, on a device with all fields zero. -/
theorem white_frame_overruns : ¬ SendsFrame 255 255 255 .zeroed :=
  overruns rfl

/-- The words have nothing in the byte where the callback looks for the next bit. -/
def Dark (devp : Devp) : Prop :=
  ∀ led (_ : led < 16), LowByteEmpty devp.msg[led]

theorem Dark.shift {devp : Devp} (dark : Dark devp) (inside : devp.ledCount < 16) :
    testBit (devp.msg[devp.ledCount] <<< 1) = false ∧ ∀ led (_ : led < 16),
      LowByteEmpty (devp.msg.set devp.ledCount (devp.msg[devp.ledCount] <<< 1) inside)[led] := by
  have empty := (dark devp.ledCount inside).shift
  refine ⟨empty.testBit, fun led within => ?_⟩
  rw [Vector.getElem_set]
  split_ifs
  · exact empty
  · exact dark led within

theorem Dark.callback {devp next : Devp} {output : Output} (dark : Dark devp)
    (taken : myHrtimerCallback devp = some ⟨output, true, next⟩) :
    Dark next ∧ next.done = !devp.done ∧
      (devp.done = true ∨ devp.bit = false → next.bit = false) := by
  obtain ⟨-, ⟨phase, -, rfl⟩ | ⟨phase, inside, -, rfl⟩⟩ := callback_continues taken
  · exact ⟨dark, by simp [phase], by simp [phase]⟩
  · obtain ⟨clear, darkAfter⟩ := dark.shift inside
    rw [phase]
    unfold Devp.nextLed
    split_ifs
    · exact ⟨darkAfter, rfl, fun _ => clear⟩
    · exact ⟨darkAfter, rfl, fun _ => clear⟩

theorem Dark.turns {devp state : Devp} {produced : List Output} (dark : Dark devp)
    (clear : devp.bit = false) (turns : Turns myHrtimerCallback devp produced state) :
    state.bit = false := by
  induction turns with
  | nil => exact clear
  | cons first _ ih =>
      obtain ⟨darkAfter, -, clearAfter⟩ := dark.callback first
      exact ih darkAfter (clearAfter (.inr clear))

theorem hrtWrite_dark (g r b : BitVec 8) (devp : Devp) : Dark (hrtWrite g r b devp) := by
  intro led within
  simpa [hrtWrite, packMsg] using packGrb_low_byte g r b

/-- After its first pulse a transfer sends zeros only, whatever the colour. -/
theorem colour_is_lost {g r b : BitVec 8} {devp state : Devp} {produced : List Output}
    (low : devp.done = false)
    (turns : Turns myHrtimerCallback (hrtWrite g r b devp) produced state)
    (begun : 2 ≤ produced.length) : state.bit = false := by
  cases turns with
  | nil => simp at begun
  | cons first rest =>
      cases rest with
      | nil => simp at begun
      | cons second others =>
          obtain ⟨dark, phase, -⟩ := (hrtWrite_dark g r b devp).callback first
          have high := phase.trans (congrArg not low)
          obtain ⟨darkAfter, -, clear⟩ := dark.callback second
          exact darkAfter.turns (clear (.inl high)) others

/-- What a transfer does first depends on the fields that `hrt_write` does not set. -/
theorem first_output (g r b : BitVec 8) (devp : Devp) :
    outputs myHrtimerCallback 1 (hrtWrite g r b devp) =
      [if devp.done then .write 21 (if devp.bit then 600 else 850)
        else .write 149 (if devp.bit then 650 else 500)] := by
  have running : (hrtWrite g r b devp).c ≠ 0 := by simp [hrtWrite]
  cases phase : devp.done with
  | false =>
      rw [outputs, callback_high running phase]
      cases bit : devp.bit <;> simp [hrtWrite, bit, outputs]
  | true =>
      have inside : (hrtWrite g r b devp).ledCount < 16 := by simp [hrtWrite]
      rw [outputs, callback_low running phase inside]
      cases bit : devp.bit <;> simp [hrtWrite, bit, outputs]

/-- Two transfers of a colour write and wait alike if and only if they start with
the same `done` and the same `bit`. -/
theorem frames_alike_iff (g r b : BitVec 8) (devp other : Devp) :
    (∀ count, outputs myHrtimerCallback count (hrtWrite g r b devp) =
      outputs myHrtimerCallback count (hrtWrite g r b other)) ↔
      devp.done = other.done ∧ devp.bit = other.bit := by
  constructor
  · intro alike
    have first := alike 1
    rw [first_output, first_output] at first
    cases done : devp.done <;> cases otherDone : other.done <;> cases bit : devp.bit <;>
      cases otherBit : other.bit <;> simp [done, otherDone, bit, otherBit] at first ⊢
  · rintro ⟨done, bit⟩ count
    have same : hrtWrite g r b devp = hrtWrite g r b other := by
      ext <;> simp [hrtWrite, done, bit]
    rw [same]

/-- A bit left over in fresh memory stretches the first pulse. -/
theorem leftover_bit_shows :
    outputs myHrtimerCallback 2 (hrtWrite 0 0 0 { Devp.zeroed with bit := true }) ≠
      outputs myHrtimerCallback 2 (hrtWrite 0 0 0 .zeroed) := by
  decide +kernel

end Hrtimer

end LedRing

end KinuxKernel
