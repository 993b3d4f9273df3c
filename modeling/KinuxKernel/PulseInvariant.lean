import KinuxKernel.LedIndices

/-!
# What the callbacks keep

Between two callbacks of a transfer that has begun in the low phase, the counter tells
how far the word of the current LED has been shifted, how many pulses have begun and
whether the output is high.
-/

namespace KinuxKernel

namespace LedRing

open OutputTurns

namespace Hrtimer

/-- `iowrite32(149, reg_data)`, which raises the output. -/
def Output.isHigh : Output → Bool
  | .write value _ => value = 149
  | .complete => false

/-- The level of the output, which only a write changes. -/
def Output.level (before : Bool) : Output → Bool
  | .write value _ => value = 149
  | .complete => before

def highWrites (produced : List Output) : Nat :=
  produced.countP Output.isHigh

/-- The level after some callbacks; it is low before the first. -/
def outputLevel (produced : List Output) : Bool :=
  produced.foldl Output.level false

/-- Where a transfer of these words has got to with an LED: every second callback shifts
its word and begins with the next bit. -/
structure PulseInvariant (words : Vector (BitVec 32) 16) (produced : List Output) (devp : Devp)
    (inside : devp.ledCount < 16) : Prop where
  counter : 1 ≤ devp.c ∧ devp.c ≤ 48
  phase : devp.c % 2 = 0 ↔ devp.done = false
  current : devp.msg[devp.ledCount] = words[devp.ledCount] <<< ((48 - devp.c) / 2).toNat
  sent : ∀ led (_ : led < devp.ledCount), devp.msg[led] = words[led] <<< 24
  waiting : ∀ led (_ : led < 16), devp.ledCount < led → devp.msg[led] = words[led]
  pulses : (highWrites produced : Int) = 24 * devp.ledCount + (48 - devp.c + 1) / 2
  output : outputLevel produced = devp.done

section Outputs

variable (produced : List Output) (interval : Int)

@[simp]
theorem highWrites_high :
    highWrites (produced ++ [.write 149 interval]) = highWrites produced + 1 := by
  simp [highWrites, List.countP_append, Output.isHigh]

@[simp]
theorem highWrites_low :
    highWrites (produced ++ [.write 21 interval]) = highWrites produced := by
  simp [highWrites, List.countP_append, Output.isHigh]

@[simp]
theorem outputLevel_high : outputLevel (produced ++ [.write 149 interval]) = true := by
  simp [outputLevel, Output.level]

@[simp]
theorem outputLevel_low : outputLevel (produced ++ [.write 21 interval]) = false := by
  simp [outputLevel, Output.level]

end Outputs

variable {words : Vector (BitVec 32) 16} {produced : List Output} {devp next state : Devp}
  {output : Output} {interval : Int} {bit : Bool} {inside : devp.ledCount < 16}

/-- `hrt_write` starts with the words as they are. -/
theorem PulseInvariant.start (words : Vector (BitVec 32) 16) (low : devp.done = false)
    (inside : (hrtWriteMsg words devp).ledCount < 16) :
    PulseInvariant words [] (hrtWriteMsg words devp) inside := by
  constructor
  · simp [hrtWriteMsg, hrtWrite]
  · simp [hrtWriteMsg, hrtWrite, low]
  · simp [hrtWriteMsg, hrtWrite]
  · exact fun led before => absurd before (Nat.not_lt_zero led)
  · exact fun led _ _ => rfl
  · rfl
  · exact low.symm

/-- A write that begins a pulse leaves the words alone. -/
theorem PulseInvariant.rise (holds : PulseInvariant words produced devp inside)
    (low : devp.done = false) :
    PulseInvariant words (produced ++ [.write 149 interval])
      { devp with c := devp.c - 1, done := true } inside := by
  have even := holds.phase.mpr low
  have counter := holds.counter
  have halves : (48 - (devp.c - 1)) / 2 = (48 - devp.c) / 2 := by omega
  constructor
  · simp only
    omega
  · simp only [Bool.true_eq_false, iff_false]
    omega
  · simp only [halves]
    exact holds.current
  · exact holds.sent
  · exact holds.waiting
  · have pulses := holds.pulses
    simp only [highWrites_high]
    omega
  · exact outputLevel_high ..

/-- The write that ends a pulse completes a shift. -/
theorem PulseInvariant.shifted (holds : PulseInvariant words produced devp inside)
    (high : devp.done = true) :
    devp.msg[devp.ledCount] <<< 1 =
      words[devp.ledCount] <<< ((48 - (devp.c - 1)) / 2).toNat := by
  have odd : ¬ devp.c % 2 = 0 := by simp [holds.phase, high]
  have counter := holds.counter
  have once : ((48 - (devp.c - 1)) / 2).toNat = ((48 - devp.c) / 2).toNat + 1 := by omega
  rw [holds.current, once, BitVec.shiftLeft_add]

/-- Before the 24th pulse of an LED has ended, the callbacks stay with it. -/
theorem PulseInvariant.fall (holds : PulseInvariant words produced devp inside)
    (high : devp.done = true) (more : devp.c - 1 ≠ 0) :
    PulseInvariant words (produced ++ [.write 21 interval])
      { devp with
        c := devp.c - 1
        msg := devp.msg.set devp.ledCount (devp.msg[devp.ledCount] <<< 1) inside
        bit := bit
        done := false } inside := by
  have odd : ¬ devp.c % 2 = 0 := by simp [holds.phase, high]
  have counter := holds.counter
  constructor
  · simp only
    omega
  · simp only [iff_true]
    omega
  · rw [Vector.getElem_set_self, holds.shifted high]
  · intro led before
    simp only at before
    rw [Vector.getElem_set_ne _ _ (by omega)]
    exact holds.sent led before
  · intro led within later
    simp only at later
    rw [Vector.getElem_set_ne _ _ (by omega)]
    exact holds.waiting led within later
  · have pulses := holds.pulses
    simp only [highWrites_low]
    omega
  · exact outputLevel_low ..

/-- With the end of its 24th pulse the callbacks hand over to the next LED. -/
theorem PulseInvariant.fall_last (holds : PulseInvariant words produced devp inside)
    (high : devp.done = true) (last : devp.c - 1 = 0) (nextInside : devp.ledCount + 1 < 16) :
    PulseInvariant words (produced ++ [.write 21 interval])
      { devp with
        ledCount := devp.ledCount + 1
        c := 48
        msg := devp.msg.set devp.ledCount (devp.msg[devp.ledCount] <<< 1) inside
        bit := bit
        done := false } nextInside := by
  constructor
  · simp
  · simp
  · rw [Vector.getElem_set_ne _ _ (by simp)]
    simpa using holds.waiting _ nextInside (Nat.lt_succ_self _)
  · intro led before
    rcases Nat.lt_succ_iff_lt_or_eq.mp before with earlier | rfl
    · rw [Vector.getElem_set_ne _ _ (by omega)]
      exact holds.sent led earlier
    · have shifted := holds.shifted high
      rw [last] at shifted
      rw [Vector.getElem_set_self, shifted]
      rfl
  · intro led within later
    simp only at later
    rw [Vector.getElem_set_ne _ _ (by omega)]
    exact holds.waiting led within (by omega)
  · have pulses := holds.pulses
    simp only [highWrites_low]
    omega
  · exact outputLevel_low ..

/-- Every callback keeps the invariant, as long as it does not hand over to the word behind
the array. -/
theorem PulseInvariant.callback
    (holds : ∀ inside : devp.ledCount < 16, PulseInvariant words produced devp inside)
    (taken : myHrtimerCallback devp = some ⟨output, true, next⟩)
    (nextInside : next.ledCount < 16) :
    PulseInvariant words (produced ++ [output]) next nextInside := by
  obtain ⟨-, ⟨low, rfl, rfl⟩ | ⟨high, inside, rfl, rfl⟩⟩ := callback_continues taken
  · exact (holds nextInside).rise low
  · by_cases last : devp.c - 1 = 0
    · simp only [Devp.nextLed, last, inside, and_self, if_true] at nextInside ⊢
      exact (holds inside).fall_last high last nextInside
    · simp only [Devp.nextLed, last, false_and, if_false]
      exact (holds inside).fall high last

theorem PulseInvariant.turns (low : devp.done = false)
    (turns : Turns myHrtimerCallback (hrtWriteMsg words devp) produced state)
    (inside : state.ledCount < 16) : PulseInvariant words produced state inside := by
  have tracked := @Turns.tracked _ _ _ (fun produced state =>
    ∀ inside : state.ledCount < 16, PulseInvariant words produced state inside)
    (fun holds taken => PulseInvariant.callback holds taken) _ _ [] _ (.start words low) turns
  exact tracked inside

/-- In every state that the callbacks of a transfer reach from the low phase, the counter,
the phase, the words, the number of pulses and the output fit together, as long as
`led_count` is below 16. -/
theorem pulse_invariant (words : Vector (BitVec 32) 16) (low : devp.done = false)
    (reached : Turns myHrtimerCallback (hrtWriteMsg words devp) produced state ∨
      Finishes myHrtimerCallback (hrtWriteMsg words devp) produced state)
    (inside : state.ledCount < 16) : PulseInvariant words produced state inside := by
  rcases reached with turns | finishes
  · exact PulseInvariant.turns low turns inside
  · obtain ⟨earlier, middle, output, rfl, turns, stopped⟩ := finishes.last_turn
    obtain ⟨zero, same⟩ := callback_stops stopped
    have counter := (PulseInvariant.turns low turns (same ▸ inside)).counter
    omega

/-- The first pulse of white. -/
theorem pulse_invariant_white :
    ∃ state, Turns myHrtimerCallback (hrtWriteMsg (packMsg 255 255 255) .zeroed)
        [.write 149 500, .write 21 850] state ∧
      ∃ inside : state.ledCount < 16,
        PulseInvariant (packMsg 255 255 255) [.write 149 500, .write 21 850] state inside := by
  have turns : Turns myHrtimerCallback (hrtWriteMsg (packMsg 255 255 255) .zeroed)
      [.write 149 500, .write 21 850] _ := .cons rfl (.cons rfl (.nil _))
  exact ⟨_, turns, by decide, pulse_invariant _ rfl (.inl turns) (by decide)⟩

end Hrtimer

end LedRing

end KinuxKernel
