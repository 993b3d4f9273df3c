import KinuxKernel.HrtimerBitbang
import KinuxKernel.NdelayBitbang

/-!
# The words that a transfer uses

Both drivers go on to the next LED when the index they had was below 16, so a
transfer comes to use the word behind `msg`: after 769 callbacks in one driver,
after 369 iterations in the other.  A callback that starts in the high phase
ends the first LED with an odd counter; then the transfer stops there.
-/

namespace KinuxKernel

namespace LedRing

open OutputTurns

namespace Hrtimer

/-- The `led_count` with which the next callback reads and writes `msg`. -/
def Devp.wordIndex (devp : Devp) : Option Nat :=
  if devp.c ≠ 0 ∧ devp.done = true then some devp.ledCount else none

theorem Devp.wordIndex_eq_some {devp : Devp} {index : Nat} :
    devp.wordIndex = some index ↔ (devp.c ≠ 0 ∧ devp.done = true) ∧ devp.ledCount = index := by
  rw [Devp.wordIndex, Option.ite_none_right_eq_some, Option.some.injEq]

def Devp.InRange (devp : Devp) : Prop :=
  ∀ index ∈ devp.wordIndex, index < 16

/-- `hrt_write` with any content of `msg`. -/
def hrtWriteMsg (words : Vector (BitVec 32) 16) (devp : Devp) : Devp :=
  { hrtWrite 255 255 255 devp with msg := words }

/-- A callback is undefined exactly if it uses a word behind `msg`. -/
theorem callback_isSome_iff (devp : Devp) :
    (myHrtimerCallback devp).isSome ↔ devp.InRange := by
  unfold Devp.InRange Devp.wordIndex
  by_cases running : devp.c = 0
  · simp [myHrtimerCallback, running]
  · cases phase : devp.done with
    | false => simp [callback_high running phase]
    | true =>
        by_cases inside : devp.ledCount < 16
        · simp [callback_low running phase inside, inside]
        · simp [myHrtimerCallback, running, phase, Devp.shiftMsg, inside]

/-- The callbacks of a transfer that starts in the low phase leave the array with the
770th. -/
theorem low_transfer_in_range (words : Vector (BitVec 32) 16) {devp : Devp}
    (low : devp.done = false) (count : Nat) :
    SafeTurns myHrtimerCallback Devp.InRange count (hrtWriteMsg words devp) ↔ count < 770 := by
  have initially : Progress 0 (hrtWriteMsg words devp) := ⟨rfl, rfl, low⟩
  have bound : count < 770 ↔ count ≤ 769 := by omega
  rw [bound]
  apply safeTurns_iff _ _ _ initially
  · intro count state within progress
    by_cases last : count = 768
    · subst last
      obtain ⟨interval, next, taken, reached⟩ := progress.high rfl
      exact ⟨_, next, taken, reached⟩
    · exact progress.advance (by omega)
  · intro count state within progress index used
    obtain ⟨⟨-, high⟩, rfl⟩ := Devp.wordIndex_eq_some.mp used
    rw [progress.done, decide_eq_true_iff] at high
    rw [progress.ledCount]
    omega
  · intro state progress inRange
    have running : state.c ≠ 0 := by
      rw [progress.c]
      decide
    have used : state.wordIndex = some 16 := by
      simp [Devp.wordIndex, running, progress.done, progress.ledCount]
    exact absurd (inRange 16 used) (by decide)

/-- Still in the first LED, with a counter that is odd when the output is low. -/
def FirstLed (devp : Devp) : Prop :=
  devp.ledCount = 0 ∧ (devp.done = true ↔ devp.c % 2 = 0)

theorem FirstLed.callback {devp next : Devp} {output : Output} (first : FirstLed devp)
    (taken : myHrtimerCallback devp = some ⟨output, true, next⟩) : FirstLed next := by
  obtain ⟨led, phase⟩ := first
  obtain ⟨running, ⟨low, -, rfl⟩ | ⟨high, inside, -, rfl⟩⟩ := callback_continues taken
  · have odd : devp.c % 2 ≠ 0 := by simpa [low] using phase
    refine ⟨led, ?_⟩
    simp only [true_iff]
    omega
  · have even : devp.c % 2 = 0 := phase.mp high
    -- the counter cannot become zero here, so the callback stays with the LED
    have odd : devp.c - 1 ≠ 0 := by omega
    rw [Devp.nextLed, if_neg fun both => odd both.1]
    refine ⟨led, ?_⟩
    simp only [Bool.false_eq_true, false_iff]
    omega

/-- A transfer that starts in the high phase never leaves the first LED. -/
theorem high_transfer_in_range (words : Vector (BitVec 32) 16) {devp : Devp}
    (high : devp.done = true) (count : Nat) :
    SafeTurns myHrtimerCallback Devp.InRange count (hrtWriteMsg words devp) := by
  intro produced state turns _ index used
  have initially : FirstLed (hrtWriteMsg words devp) :=
    ⟨rfl, by simp [hrtWriteMsg, hrtWrite, high]⟩
  have first := turns.invariant FirstLed.callback initially
  obtain ⟨-, rfl⟩ := Devp.wordIndex_eq_some.mp used
  rw [first.1]
  decide

end Hrtimer

namespace Ndelay

/-- Every iteration reads and writes `msg[led_count]`. -/
def Loop.InRange (loop : Loop) : Prop :=
  loop.ledCount < 16

/-- `hrt_write` up to its loop, with any content of `msg`. -/
def hrtWriteMsg (words : Vector (BitVec 32) 16) (bit : Bool) : Loop :=
  { hrtWrite 255 255 255 with msg := words, bit := bit }

theorem iteration_isSome_iff (loop : Loop) : (iteration loop).isSome ↔ loop.InRange := by
  unfold iteration Loop.InRange
  split <;> simp_all

theorem loop_in_range (words : Vector (BitVec 32) 16) (bit : Bool) (count : Nat) :
    SafeTurns iteration Loop.InRange count (hrtWriteMsg words bit) ↔ count < 370 := by
  have initially : Progress 0 (hrtWriteMsg words bit) :=
    ⟨rfl, by simp [hrtWriteMsg, hrtWrite], by simp [hrtWriteMsg, hrtWrite]⟩
  have bound : count < 370 ↔ count ≤ 369 := by omega
  rw [bound]
  apply safeTurns_iff _ _ _ initially
  · exact fun _ _ within progress => progress.advance within
  · rintro count state within ⟨total, bounded, restarted⟩
    unfold Loop.InRange
    omega
  · rintro state ⟨total, bounded, restarted⟩ inRange
    unfold Loop.InRange at inRange
    omega

end Ndelay

/-- In a transfer of any words, `msg` is used inside its bounds by exactly the
first 769 callbacks or, if the transfer starts in the high phase, by all; and by
the first 369 iterations of the loop. -/
theorem word_indices_in_range_iff (words : Vector (BitVec 32) 16) (devp : Hrtimer.Devp)
    (bit : Bool) (count : Nat) :
    (SafeTurns Hrtimer.myHrtimerCallback Hrtimer.Devp.InRange count
        (Hrtimer.hrtWriteMsg words devp) ↔ devp.done = true ∨ count < 770) ∧
      (SafeTurns Ndelay.iteration Ndelay.Loop.InRange count (Ndelay.hrtWriteMsg words bit) ↔
        count < 370) := by
  refine ⟨?_, Ndelay.loop_in_range words bit count⟩
  cases phase : devp.done with
  | false => simpa using Hrtimer.low_transfer_in_range words phase count
  | true => simpa using Hrtimer.high_transfer_in_range words phase count

/-- White on a device with all fields zero, as far as the word behind the array. -/
theorem seventeenth_word_used :
    ¬ SafeTurns Hrtimer.myHrtimerCallback Hrtimer.Devp.InRange 770
        (Hrtimer.hrtWriteMsg (packMsg 255 255 255) .zeroed) ∧
      ¬ SafeTurns Ndelay.iteration Ndelay.Loop.InRange 370
        (Ndelay.hrtWriteMsg (packMsg 255 255 255) false) := by
  rw [Hrtimer.low_transfer_in_range _ rfl, Ndelay.loop_in_range]
  decide

end LedRing

end KinuxKernel
