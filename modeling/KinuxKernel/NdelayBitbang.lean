import KinuxKernel.LedFrames
import KinuxKernel.OutputTurns

/-!
# The ndelay bit-bang driver

One iteration of the loop in `hrt_write` sends one pulse.  The counter is reset
to zero at the end of an LED and incremented at once, so all LEDs but the first
get 23 pulses, and the loop goes on behind the array.
-/

namespace KinuxKernel

namespace LedRing

namespace Ndelay

open OutputTurns

/-- The words of the device with the local variables of `hrt_write`. -/
structure Loop where
  msg : Vector (BitVec 32) 16
  i : Nat
  ledCount : Nat
  bit : Bool

/-- A write of 149, a delay, a write of 21 and another delay. -/
structure Pulse where
  high : Nat
  low : Nat
deriving DecidableEq

def pulse (bit : Bool) : Pulse :=
  if bit then ⟨700, 600⟩ else ⟨400, 800⟩

/-- `i++` and the loop's test, with `n = 24`. -/
def Loop.next (loop : Loop) (output : Pulse) : Turn Pulse Loop :=
  ⟨output, loop.i + 1 < 24, { loop with i := loop.i + 1 }⟩

/-- An iteration of the loop; undefined when it shifts a word behind `msg`. -/
def iteration (loop : Loop) : Option (Turn Pulse Loop) :=
  if inside : loop.ledCount < 16 then
    let word := loop.msg[loop.ledCount] <<< 1
    let shifted := { loop with
      msg := loop.msg.set loop.ledCount word inside, bit := testBit word }
    some <|
      if shifted.i = 23 then
        if shifted.ledCount < 16 then
          { shifted with ledCount := shifted.ledCount + 1, i := 0 }.next (pulse loop.bit)
        else ⟨pulse loop.bit, false, shifted⟩
      else shifted.next (pulse loop.bit)
  else none

/-- `hrt_write` up to its loop, for the colour that the source fixes to white. -/
def hrtWrite (g r b : BitVec 8) : Loop where
  msg := packMsg g r b
  i := 0
  ledCount := 0
  bit := testBit (packMsg g r b)[0]

/-- The loop ends and has sent the whole frame. -/
def SendsFrame (g r b : BitVec 8) : Prop :=
  ∃ final, Finishes iteration (hrtWrite g r b) ((frameBits g r b).map pulse) final

/-- The counters after some iterations: every LED but the first starts at one. -/
structure Progress (count : Nat) (loop : Loop) : Prop where
  total : 23 * loop.ledCount + loop.i = count
  bounded : loop.i ≤ 23
  restarted : 1 ≤ loop.ledCount → 1 ≤ loop.i

theorem Progress.advance {count : Nat} {loop : Loop} (within : count < 369)
    (progress : Progress count loop) :
    ∃ output next, iteration loop = some ⟨output, true, next⟩ ∧ Progress (count + 1) next := by
  obtain ⟨total, bounded, restarted⟩ := progress
  have inside : loop.ledCount < 16 := by omega
  rw [iteration, dif_pos inside]
  by_cases last : loop.i = 23
  · simp only [if_pos last, if_pos inside, Loop.next]
    refine ⟨_, _, rfl, ?_, ?_, ?_⟩
    · simp only
      omega
    · simp
    · simp
  · have more : loop.i + 1 < 24 := by omega
    simp only [if_neg last, Loop.next, more, decide_true]
    refine ⟨_, _, rfl, ?_, ?_, ?_⟩
    · simp only
      omega
    · simp only
      omega
    · simp

/-- All LEDs have been passed after 369 pulses, 15 too few. -/
theorem leds_passed (g r b : BitVec 8) :
    ∃ produced loop, Turns iteration (hrtWrite g r b) produced loop ∧ produced.length = 369 ∧
      loop.ledCount = 16 := by
  have initially : Progress 0 (hrtWrite g r b) := ⟨rfl, by simp [hrtWrite], by simp [hrtWrite]⟩
  obtain ⟨produced, loop, turns, length, progress⟩ :=
    exists_turns (fun _ _ within progress => Progress.advance within progress) initially
      (Nat.le_refl 369)
  obtain ⟨total, bounded, restarted⟩ := progress
  exact ⟨produced, loop, turns, length, by omega⟩

/-- The next iteration uses the word behind the array. -/
theorem runs_behind {g r b : BitVec 8} {final : Loop} {sent : List Pulse} :
    ¬ Finishes iteration (hrtWrite g r b) sent final := by
  intro finishes
  obtain ⟨produced, loop, turns, -, passed⟩ := leds_passed g r b
  obtain ⟨rest, -, continued⟩ := finishes.after turns
  have undefined : iteration loop = none := by simp [iteration, passed]
  cases continued with
  | last stopped => simp [undefined] at stopped
  | cons taken _ => simp [undefined] at taken

/-- The loop does not send the frame of any colour. -/
theorem loop_never_sends_frame (g r b : BitVec 8) : ¬ SendsFrame g r b := by
  rintro ⟨final, finishes⟩
  exact runs_behind finishes

theorem white_loop_runs_behind : ¬ SendsFrame 255 255 255 := by
  rintro ⟨final, finishes⟩
  exact runs_behind finishes

end Ndelay

end LedRing

end KinuxKernel
