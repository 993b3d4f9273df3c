import KinuxKernel.LedIndices

/-!
# The ndelay driver behind its array

In memory the name of the device lies behind `msg`.  The loop of `hrt_write` shifts its
first four characters as a 17th word and then ends, so the first write after the
driver has been loaded sends bits of the name, and the later ones find it empty.
-/

namespace KinuxKernel

namespace LedRing

open OutputTurns

namespace Ndelay

/-- The words of the device from `msg[0]` on, the last of them the first four characters of
`name`, with the local variables of `hrt_write`. -/
structure Memory where
  words : Vector (BitVec 32) 17
  i : Nat
  ledCount : Nat
  bit : Bool

namespace Memory

variable (memory : Memory)

def name : BitVec 32 :=
  lastWord memory.words

/-- `i++` and the loop's test, with `n = 24`. -/
def next (output : Pulse) : Turn Pulse Memory :=
  ⟨output, memory.i + 1 < 24, { memory with i := memory.i + 1 }⟩

/-- An iteration of the loop, which may shift the name. -/
def iteration (memory : Memory) : Option (Turn Pulse Memory) :=
  if inside : memory.ledCount < 17 then
    let word := memory.words[memory.ledCount] <<< 1
    let shifted := { memory with
      words := memory.words.set memory.ledCount word inside, bit := testBit word }
    some <|
      if shifted.i = 23 then
        if shifted.ledCount < 16 then
          { shifted with ledCount := shifted.ledCount + 1, i := 0 }.next (pulse memory.bit)
        else ⟨pulse memory.bit, false, shifted⟩
      else shifted.next (pulse memory.bit)
  else none

/-- The loop, where the name is not a part of the array. -/
def loop : Loop where
  msg := ledWords memory.words
  i := memory.i
  ledCount := memory.ledCount
  bit := memory.bit

/-- A word of the array is shifted as in the array. -/
theorem loop_shift (inside : memory.ledCount < 16) (i ledCount : Nat) :
    (⟨memory.words.set memory.ledCount (memory.words[memory.ledCount] <<< 1), i, ledCount,
      testBit (memory.words[memory.ledCount] <<< 1)⟩ : Memory).loop =
    ⟨memory.loop.msg.set memory.ledCount (memory.loop.msg[memory.ledCount] <<< 1) inside, i,
      ledCount, testBit (memory.loop.msg[memory.ledCount] <<< 1)⟩ := by
  have word : memory.loop.msg[memory.ledCount] = memory.words[memory.ledCount] := by
    simp [loop]
  rw [word, loop]
  congr 1
  ext led within
  simp [loop, Vector.getElem_set]

/-- As long as an iteration uses a word of the array, the memory shows what it does. -/
theorem iteration_shows {turn : Turn Pulse Loop}
    (taken : Ndelay.iteration memory.loop = some turn) :
    ∃ next, memory.iteration = some ⟨turn.output, turn.continues, next⟩ ∧
      next.loop = turn.state := by
  have inside : memory.loop.ledCount < 16 := by
    by_contra behind
    simp [Ndelay.iteration, behind] at taken
  have within : memory.ledCount < 16 := inside
  rw [Ndelay.iteration, dif_pos inside] at taken
  rw [iteration, dif_pos (by omega)]
  obtain rfl := Option.some.inj taken
  by_cases last : memory.i = 23
  · have ends : memory.loop.i = 23 := last
    simp only [if_pos last, if_pos ends, if_pos inside, if_pos within, next, Loop.next]
    exact ⟨_, rfl, memory.loop_shift within ..⟩
  · have more : memory.loop.i ≠ 23 := last
    simp only [if_neg last, if_neg more, next, Loop.next]
    exact ⟨_, rfl, memory.loop_shift within ..⟩

theorem iteration_last (i : memory.i = 23) (last : memory.ledCount = 16)
    (inside : memory.ledCount < 17) :
    memory.iteration = some ⟨pulse memory.bit, false, { memory with
      words := memory.words.set memory.ledCount (memory.words[memory.ledCount] <<< 1)
      bit := testBit (memory.words[memory.ledCount] <<< 1) }⟩ := by
  have leds : ¬memory.ledCount < 16 := by omega
  rw [iteration, dif_pos inside]
  simp only [if_pos i, if_neg leds]

end Memory

/-- `hrt_write` up to its loop, with any content of `msg`. -/
def writeMemory (words : Vector (BitVec 32) 16) (name : BitVec 32) : Memory where
  words := words.push name
  i := 0
  ledCount := 0
  bit := testBit (firstWord words)

/-- The LED of a pulse. -/
def ledOf (place : Nat) : Nat :=
  (place - 1) / 23

/-- How often the word of an LED has been shifted before a pulse. -/
def shifts (led place : Nat) : Nat :=
  if led = 0 then min place 24 else min (place - (23 * led + 1)) 23

/-- The bit of a pulse, which is taken at the end of the pulse before. -/
def sentBit (words : Vector (BitVec 32) 17) : Nat → Bool
  | 0 => testBit (firstWord words)
  | place + 1 =>
      if _inside : ledOf place < 17 then
        testBit (words[ledOf place] <<< shifts (ledOf place) (place + 1))
      else false

section Words

variable {words : Vector (BitVec 32) 17} {msg : Vector (BitVec 32) 16} {name : BitVec 32}
  {place count : Nat} {memory : Memory}

/-- Between two pulses. -/
structure Sending (words : Vector (BitVec 32) 17) (place : Nat) (memory : Memory) : Prop where
  ledCount : memory.ledCount = ledOf place
  i : memory.i = place - 23 * ledOf place
  shifted : ∀ led (_ : led < 17), memory.words[led] = words[led] <<< shifts led place
  bit : memory.bit = sentBit words place

theorem Sending.start : Sending (msg.push name) 0 (writeMemory msg name) where
  ledCount := rfl
  i := rfl
  shifted led _ := by simp [writeMemory, shifts]
  bit := by simp [writeMemory, sentBit]

theorem shifts_next (inside : place < 392) (led : Nat) : shifts led (place + 1) =
    if led = ledOf place then shifts led place + 1 else shifts led place := by
  unfold shifts ledOf
  split_ifs <;> omega

/-- An iteration shifts the word of its LED. -/
theorem Sending.shift (sending : Sending words place memory) (inside : place < 392)
    (led : memory.ledCount < 17) : ∀ other (_ : other < 17),
      (memory.words.set memory.ledCount (memory.words[memory.ledCount] <<< 1))[other] =
        words[other] <<< shifts other (place + 1) := by
  intro other within
  rw [shifts_next inside, Vector.getElem_set]
  split_ifs with same other_ other_
  · subst same
    rw [sending.shifted _ within, ← BitVec.shiftLeft_add]
  · exact absurd (same.symm.trans sending.ledCount) other_
  · exact absurd (sending.ledCount.trans other_.symm) same
  · exact sending.shifted other within

theorem Sending.next_bit (sending : Sending words place memory) (inside : place < 392)
    (led : memory.ledCount < 17) :
    testBit (memory.words[memory.ledCount] <<< 1) = sentBit words (place + 1) := by
  have word := sending.shift inside led memory.ledCount led
  rw [Vector.getElem_set_self] at word
  have within : ledOf place < 17 := by
    rw [← sending.ledCount]
    exact led
  rw [word, sentBit, dif_pos within]
  simp only [sending.ledCount]

/-- An iteration before the last one goes on. -/
theorem Sending.advance (sending : Sending words place memory) (more : place < 391) :
    ∃ next, memory.iteration = some ⟨pulse memory.bit, true, next⟩ ∧
      Sending words (place + 1) next := by
  have ledCount := sending.ledCount
  have i := sending.i
  unfold ledOf at ledCount i
  have inside : memory.ledCount < 17 := by omega
  have shifted := sending.shift (by omega) inside
  have bit := sending.next_bit (by omega) inside
  rw [Memory.iteration, dif_pos inside]
  by_cases last : memory.i = 23
  · have leds : memory.ledCount < 16 := by omega
    simp only [if_pos last, if_pos leds, Memory.next]
    refine ⟨_, rfl, ?_, ?_, shifted, bit⟩
    · simp only [ledOf]
      omega
    · simp only [ledOf]
      omega
  · have under : memory.i + 1 < 24 := by omega
    simp only [if_neg last, Memory.next, under, decide_true]
    refine ⟨_, rfl, ?_, ?_, shifted, bit⟩
    · simp only [ledOf]
      omega
    · simp only [ledOf]
      omega

/-- The pulses of a write. -/
def sentPulses (words : Vector (BitVec 32) 17) (count : Nat) : List Pulse :=
  (List.range count).map fun place => pulse (sentBit words place)

theorem sentPulses_succ :
    sentPulses words (count + 1) = sentPulses words count ++ [pulse (sentBit words count)] := by
  simp [sentPulses, List.range_succ]

theorem Sending.turns (within : count ≤ 391) :
    ∃ state, Turns Memory.iteration (writeMemory msg name)
        (sentPulses (msg.push name) count) state ∧
      Sending (msg.push name) count state := by
  induction count with
  | zero => exact ⟨_, .nil _, .start⟩
  | succ count ih =>
      obtain ⟨state, turns, sending⟩ := ih (by omega)
      obtain ⟨next, taken, sent⟩ := sending.advance (by omega)
      rw [sentPulses_succ, ← sending.bit]
      exact ⟨next, turns.snoc taken, sent⟩

/-- The loop ends with the 392nd pulse, when the name has been shifted 23 times. -/
theorem write_finishes (msg : Vector (BitVec 32) 16) (name : BitVec 32) :
    ∃ final, Finishes Memory.iteration (writeMemory msg name)
        (sentPulses (msg.push name) 392) final ∧
      ∀ led (_ : led < 17), final.words[led] =
        (msg.push name)[led] <<< (if led = 0 then 24 else 23) := by
  obtain ⟨state, turns, sending⟩ := @Sending.turns msg name 391 (Nat.le_refl 391)
  have ledCount : state.ledCount = 16 := sending.ledCount
  have i : state.i = 23 := sending.i
  have inside : state.ledCount < 17 := by omega
  have shifted := sending.shift (by omega) inside
  have last := state.iteration_last i ledCount inside
  rw [sentPulses_succ, ← sending.bit]
  refine ⟨_, turns.finishes (.last last), fun led within => ?_⟩
  have all : shifts led 392 = if led = 0 then 24 else 23 := by
    unfold shifts
    split_ifs <;> omega
  rw [← all]
  exact shifted led within

/-- A write whose words have nothing in the low byte sends seven bits of the first character of
the name. -/
theorem sentBit_packMsg (g r b : BitVec 8) (inside : place < 392) :
    sentBit ((packMsg g r b).push name) place =
      (decide (370 ≤ place ∧ place ≤ 376) && name.getLsbD (376 - place)) := by
  have dark := packGrb_low_byte g r b
  cases place with
  | zero => simp [sentBit, packMsg, dark.testBit]
  | succ place =>
      have led : ledOf place < 17 := by
        unfold ledOf
        omega
      rw [sentBit, dif_pos led, Vector.getElem_push]
      split_ifs with array
      · have early : ¬(370 ≤ place + 1 ∧ place + 1 ≤ 376) := by
          unfold ledOf at array
          omega
        rw [decide_eq_false early, Bool.false_and]
        simp [packMsg, (LowByteEmpty.shiftLeft dark _).testBit]
      · have last : 369 ≤ place := by
          unfold ledOf at array
          omega
        have count : shifts (ledOf place) (place + 1) = place + 1 - 369 := by
          unfold shifts ledOf
          split_ifs <;> omega
        have index : 7 - (place + 1 - 369) = 376 - (place + 1) := by omega
        have early : decide (370 ≤ place + 1 ∧ place + 1 ≤ 376) =
            !decide (7 < place + 1 - 369) := by
          rw [← decide_not, decide_eq_decide]
          omega
        rw [testBit_eq, BitVec.getLsbD_shiftLeft, count, index, early]
        simp

/-- The pulses of a write of any colour, which spell the name. -/
def spelled (name : BitVec 32) : List Pulse :=
  (List.range 392).map fun place =>
    pulse (decide (370 ≤ place ∧ place ≤ 376) && name.getLsbD (376 - place))

theorem write_spells (g r b : BitVec 8) (name : BitVec 32) :
    ∃ final, Finishes Memory.iteration (writeMemory (packMsg g r b) name) (spelled name) final ∧
      final.name = name <<< 23 := by
  obtain ⟨final, finishes, shifted⟩ := write_finishes (packMsg g r b) name
  have pulses : sentPulses ((packMsg g r b).push name) 392 = spelled name := by
    refine List.map_congr_left fun place inside => ?_
    rw [sentBit_packMsg g r b (List.mem_range.mp inside)]
  rw [pulses] at finishes
  have behind := shifted 16 (by decide)
  rw [Vector.getElem_push_eq] at behind
  exact ⟨final, finishes, behind⟩

/-- Nothing of a name that has been shifted is sent. -/
theorem spelled_shifted (name : BitVec 32) :
    spelled (name <<< 23) = List.replicate 392 (pulse false) := by
  rw [List.eq_replicate_iff]
  refine ⟨by simp [spelled], fun sent member => ?_⟩
  obtain ⟨place, -, rfl⟩ := List.mem_map.mp member
  have empty : (decide (370 ≤ place ∧ place ≤ 376) && (name <<< 23).getLsbD (376 - place)) =
      false := by
    by_cases behind : 370 ≤ place
    · have low : 376 - place < 23 := by omega
      simp [BitVec.getLsbD_shiftLeft, low]
    · simp [behind]
  rw [empty]

example : (List.range 392).filter (fun place => (spelled 0x5f747268)[place]? = some (pulse true)) =
    [370, 371, 373] := by decide +kernel

end Words

/-- The colours of writes to a device, and what they send. -/
inductive Writes : BitVec 32 → List (BitVec 8 × BitVec 8 × BitVec 8) → List (List Pulse) →
    BitVec 32 → Prop
  | nil (name : BitVec 32) : Writes name [] [] name
  | cons {name last : BitVec 32} {g r b : BitVec 8} {final : Memory} {sent : List Pulse}
      {colours : List (BitVec 8 × BitVec 8 × BitVec 8)} {sents : List (List Pulse)} :
      Finishes Memory.iteration (writeMemory (packMsg g r b) name) sent final →
      Writes final.name colours sents last →
      Writes name ((g, r, b) :: colours) (sent :: sents) last

section Runs

variable {name last : BitVec 32} {colour : BitVec 8 × BitVec 8 × BitVec 8}
  {colours : List (BitVec 8 × BitVec 8 × BitVec 8)} {sents : List (List Pulse)}

/-- What writes spell that find a name. -/
def spelledFrom (name : BitVec 32) : Nat → List (List Pulse)
  | 0 => []
  | writes + 1 => spelled name :: spelledFrom (name <<< 23) writes

theorem writes_iff_spelledFrom : Writes name colours sents last ↔
    sents = spelledFrom name colours.length ∧ last = name <<< (23 * colours.length) := by
  induction colours generalizing name sents with
  | nil =>
      constructor
      · intro writes
        cases writes
        exact ⟨rfl, by simp⟩
      · rintro ⟨rfl, rfl⟩
        simpa [spelledFrom] using Writes.nil name
  | cons colour colours ih =>
      obtain ⟨final, finishes, shifted⟩ := write_spells colour.1 colour.2.1 colour.2.2 name
      have places : name <<< (23 * (colour :: colours).length) =
          (name <<< 23) <<< (23 * colours.length) := by
        rw [← BitVec.shiftLeft_add, List.length_cons, Nat.mul_succ, Nat.add_comm]
      rw [places, List.length_cons, spelledFrom, ← shifted]
      constructor
      · intro writes
        cases writes with
        | cons again rest =>
            obtain ⟨rfl, rfl⟩ := finishes.deterministic again
            obtain ⟨rfl, rfl⟩ := ih.mp rest
            exact ⟨rfl, rfl⟩
      · rintro ⟨rfl, rfl⟩
        exact .cons finishes (ih.mpr ⟨rfl, rfl⟩)

theorem spelledFrom_shifted (name : BitVec 32) (writes : Nat) :
    spelledFrom (name <<< 23) writes =
      List.replicate writes (List.replicate 392 (pulse false)) := by
  induction writes generalizing name with
  | zero => rfl
  | succ writes ih =>
      rw [spelledFrom, spelled_shifted, ih]
      exact List.replicate_succ.symm

/-- Whatever the colours, the first write to a device spells the first character of its name and
the others send zeros only; each shifts the name further. -/
theorem writes_iff :
    Writes name (colour :: colours) sents last ↔
      sents = spelled name ::
        List.replicate colours.length (List.replicate 392 (pulse false)) ∧
      last = name <<< (23 * (colours.length + 1)) := by
  rw [writes_iff_spelledFrom, List.length_cons, spelledFrom, spelledFrom_shifted]

end Runs

end Ndelay

end LedRing

end KinuxKernel
