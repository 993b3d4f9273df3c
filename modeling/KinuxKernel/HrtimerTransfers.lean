import KinuxKernel.HrtimerMemory

/-!
# One transfer after another

`hrt_write` starts a transfer and waits for it; a signal ends the wait, and `hrt_close`
cuts the transfer off.  Only `done` says whether a transfer completes, and
only transfers that are cut off between the two writes of a pulse change it.
-/

namespace KinuxKernel

namespace LedRing

open OutputTurns

namespace Hrtimer

/-- `hrt_close`: `c = 0` and `hrtimer_cancel`, perhaps with a callback between them. -/
inductive Closes (memory : Memory) : Memory → Prop
  | cancelled : Closes memory (memory.setC 0)
  | expired {after : Memory} {output : Output} {continues : Bool} :
      (memory.setC 0).myHrtimerCallback = some ⟨output, continues, after⟩ → Closes memory after

/-- The words of a transfer, what its callbacks have done, and whether it has completed. -/
structure Transfer where
  words : Vector (BitVec 32) 16
  sent : List Output
  completed : Bool

/-- Transfers that are started when no timer is pending. -/
inductive Transfers : Memory → List Transfer → Memory → Prop
  | nil (memory : Memory) : Transfers memory [] memory
  | completed {memory middle final : Memory} {words : Vector (BitVec 32) 16}
      {sent : List Output} {rest : List Transfer} :
      Finishes Memory.myHrtimerCallback (memory.hrtWrite words) sent middle →
      Transfers middle rest final → Transfers memory (⟨words, sent, true⟩ :: rest) final
  | cutOff {memory middle closed final : Memory} {words : Vector (BitVec 32) 16}
      {sent : List Output} {rest : List Transfer} :
      Turns Memory.myHrtimerCallback (memory.hrtWrite words) sent middle →
      Closes middle closed → Transfers closed rest final →
      Transfers memory (⟨words, sent, false⟩ :: rest) final
  | closed {memory closed final : Memory} {transfers : List Transfer} :
      Closes memory closed → Transfers closed transfers final → Transfers memory transfers final

/-- The phase after transfers; those that were cut off have changed it with each callback. -/
def phaseAfter (phase : Bool) : List Transfer → Bool
  | [] => phase
  | transfer :: rest =>
      phaseAfter (if transfer.completed then phase
        else phase ^^ decide (transfer.sent.length % 2 = 1)) rest

section Phases

variable {memory next final : Memory} {words : Vector (BitVec 32) 16} {sent : List Output}
  {output : Output}

/-- A callback that restarts the timer changes the phase. -/
theorem callback_phase (taken : memory.myHrtimerCallback = some ⟨output, true, next⟩) :
    next.done = !memory.done := by
  have running : memory.c ≠ 0 := by
    intro zero
    simp [Memory.callback_zero zero] at taken
  cases phase : memory.done with
  | false =>
      rw [Memory.callback_high running phase] at taken
      obtain ⟨-, -, rfl⟩ := Turn.mk.inj (Option.some.inj taken)
      rfl
  | true =>
      by_cases inside : memory.ledCount < 17
      · rw [Memory.callback_low running phase inside] at taken
        obtain ⟨-, -, rfl⟩ := Turn.mk.inj (Option.some.inj taken)
        unfold Memory.nextLed
        split_ifs <;> rfl
      · simp [Memory.myHrtimerCallback, phase, Memory.shiftMsg, Memory.setC, inside] at taken

theorem turns_phase (turns : Turns Memory.myHrtimerCallback memory sent final) :
    final.done = (memory.done ^^ decide (sent.length % 2 = 1)) := by
  induction turns with
  | nil => simp
  | cons taken _ ih =>
      rw [ih, callback_phase taken, List.length_cons, Bool.not_xor, ← Bool.xor_not]
      congr 1
      rw [← decide_not, decide_eq_decide]
      omega

theorem Closes.phase {closed : Memory} (closes : Closes memory closed) :
    closed.done = memory.done := by
  cases closes with
  | cancelled => rfl
  | expired taken =>
      rw [Memory.callback_zero (memory.c_setC 0)] at taken
      obtain ⟨-, -, rfl⟩ := Turn.mk.inj (Option.some.inj taken)
      rfl

/-- A transfer that has completed has begun in the high phase, with 49 callbacks. -/
theorem finishes_phase
    (finishes : Finishes Memory.myHrtimerCallback (memory.hrtWrite words) sent final) :
    memory.done = true ∧ sent.length = 49 ∧ final.done = memory.done := by
  cases phase : memory.done with
  | false => exact absurd finishes (low_never_completes words phase sent final)
  | true =>
      obtain ⟨last, completed, high, -⟩ := high_completes words phase
      obtain ⟨rfl, rfl⟩ := finishes.deterministic completed
      exact ⟨rfl, highOutputs_length, high⟩

/-- What a transfer can have done that has begun in a phase, with a bit that was left over. -/
def Described (phase leftover : Bool) (transfer : Transfer) : Prop :=
  if phase then
    transfer.sent <+: highOutputs transfer.words leftover ∧
      (transfer.completed = true ↔ transfer.sent.length = 49)
  else
    transfer.completed = false ∧
      transfer.sent <+: sentPulses transfer.words leftover transfer.sent.length

theorem described_completed
    (finishes : Finishes Memory.myHrtimerCallback (memory.hrtWrite words) sent final) :
    Described memory.done memory.bit ⟨words, sent, true⟩ := by
  obtain ⟨phase, length, -⟩ := finishes_phase finishes
  obtain ⟨last, completed, -⟩ := high_completes words phase
  obtain ⟨rfl, -⟩ := finishes.deterministic completed
  rw [Described, if_pos phase]
  exact ⟨List.prefix_refl _, by simp [length]⟩

theorem described_cutOff
    (turns : Turns Memory.myHrtimerCallback (memory.hrtWrite words) sent final) :
    Described memory.done memory.bit ⟨words, sent, false⟩ := by
  cases phase : memory.done with
  | true =>
      obtain ⟨last, completed, -⟩ := high_completes words phase
      obtain ⟨rest, all, continued⟩ := completed.after turns
      have length : sent.length + rest.length = 49 := by
        rw [← List.length_append, ← all, highOutputs_length]
      have more : 0 < rest.length := by
        cases continued with
        | last => exact Nat.one_pos
        | cons => exact Nat.succ_pos _
      refine ⟨⟨rest, all.symm⟩, ?_⟩
      simp only [Bool.false_eq_true, false_iff]
      omega
  | false =>
      obtain ⟨state, sending⟩ := @low_turns words memory phase sent.length
      refine ⟨rfl, turns.prefix_of_le sending ?_⟩
      rw [sentPulses_length]
      exact Nat.le_mul_of_pos_left _ Nat.two_pos

/-- Every transfer of a history is described by its words, by the phase that the transfers
before it have left, and by one bit. -/
theorem transfers_described {earlier later : List Transfer} {transfer : Transfer}
    (transfers : Transfers memory (earlier ++ transfer :: later) final) :
    ∃ leftover, Described (phaseAfter memory.done earlier) leftover transfer := by
  generalize list : earlier ++ transfer :: later = history at transfers
  induction transfers generalizing earlier with
  | nil => simp at list
  | completed finishes _ ih =>
      cases earlier with
      | nil =>
          obtain ⟨rfl, -⟩ := List.cons.inj list
          exact ⟨_, described_completed finishes⟩
      | cons first earlier =>
          obtain ⟨rfl, others⟩ := List.cons.inj list
          rw [phaseAfter, if_pos rfl, ← (finishes_phase finishes).2.2]
          exact ih others
  | cutOff turns closes _ ih =>
      cases earlier with
      | nil =>
          obtain ⟨rfl, -⟩ := List.cons.inj list
          exact ⟨_, described_cutOff turns⟩
      | cons first earlier =>
          obtain ⟨rfl, others⟩ := List.cons.inj list
          have phase := closes.phase.trans (turns_phase turns)
          rw [phaseAfter, if_neg Bool.false_ne_true]
          exact phase ▸ ih others
  | closed closes _ ih =>
      rw [← closes.phase]
      exact ih list

/-- On zeroed memory the first transfer is cut off in its first pulse, and the second one
completes. -/
theorem transfers_described_two :
    ∃ final, Transfers .zeroed
        [⟨packMsg 255 255 255, [.write 149 500], false⟩,
          ⟨packMsg 255 255 255, highOutputs (packMsg 255 255 255) false, true⟩] final ∧
      ∃ leftover, Described true leftover
        ⟨packMsg 255 255 255, highOutputs (packMsg 255 255 255) false, true⟩ := by
  have begun : Turns Memory.myHrtimerCallback (Memory.zeroed.hrtWrite (packMsg 255 255 255))
      [.write 149 500] _ := .cons rfl (.nil _)
  obtain ⟨final, completed, -⟩ :=
    @high_completes ((Memory.zeroed.hrtWrite (packMsg 255 255 255)).raised.setC 0)
      (packMsg 255 255 255) rfl
  have transfers := Transfers.cutOff begun .cancelled (.completed completed (.nil final))
  exact ⟨final, transfers, @transfers_described _ _
    [⟨packMsg 255 255 255, [.write 149 500], false⟩] [] _ transfers⟩

end Phases

end Hrtimer

end LedRing

end KinuxKernel
