import KinuxKernel.LedIndices

/-!
# The hrtimer driver behind its array

In memory the counter `c` is the word behind `msg`.  The callbacks of a transfer that
starts in the low phase come to shift it, and it never reaches zero again: they send
its bits and then zeros for ever.  A transfer that starts in the high phase
stays inside the first word and completes.
-/

namespace KinuxKernel

namespace LedRing

open OutputTurns

namespace Hrtimer

theorem Devp.nextLed_counter {devp : Devp} (counter : 0 ≤ devp.c) : 0 ≤ devp.nextLed.c := by
  unfold Devp.nextLed
  split_ifs
  · simp
  · exact counter

/-- The fields of `devp` with the words from `msg[0]` on; the last of them is `c`. -/
@[ext]
structure Memory where
  ledCount : Nat
  words : Vector (BitVec 32) 17
  done : Bool
  bit : Bool
  biw : Nat
  oneOn : Int
  oneOff : Int
  zeroOn : Int
  zeroOff : Int

/-- Memory whose every byte is zero. -/
def Memory.zeroed : Memory where
  ledCount := 0
  words := .replicate 17 0
  done := false
  bit := false
  biw := 0
  oneOn := 0
  oneOff := 0
  zeroOn := 0
  zeroOff := 0

namespace Memory

variable (memory : Memory)

def c : BitVec 32 :=
  lastWord memory.words

def setC (c : BitVec 32) : Memory :=
  { memory with words := memory.words.set 16 c behind_leds }

/-- Shift the word at `led_count`, which may be `c`, and take the next bit. -/
def shiftMsg : Option Memory :=
  if inside : memory.ledCount < 17 then
    let word := memory.words[memory.ledCount] <<< 1
    some { memory with
      words := memory.words.set memory.ledCount word inside, bit := testBit word }
  else none

/-- `if ((c == 0) && (led_count < 16))`. -/
def nextLed : Memory :=
  if memory.c = 0 ∧ memory.ledCount < 16 then
    { memory.setC 48 with ledCount := memory.ledCount + 1 }
  else memory

/-- `my_hrtimer_callback`. -/
def myHrtimerCallback (memory : Memory) : Option (Turn Output Memory) :=
  if memory.c ≠ 0 then
    let memory := memory.setC (memory.c - 1)
    let onInterval := if memory.bit then memory.oneOn else memory.zeroOn
    let offInterval := if memory.bit then memory.oneOff else memory.zeroOff
    if memory.done = false then some ⟨.write 149 onInterval, true, { memory with done := true }⟩
    else memory.shiftMsg.map fun memory =>
      ⟨.write 21 offInterval, true, { memory with done := false }.nextLed⟩
  else some ⟨.complete, false, { memory.setC (memory.c - 1) with biw := memory.biw + 1 }⟩

/-- `hrt_write` up to the start of the timer, with any content of `msg`. -/
def hrtWrite (words : Vector (BitVec 32) 16) (memory : Memory) : Memory :=
  { memory with
    biw := 0
    oneOn := 650
    oneOff := 600
    zeroOn := 500
    zeroOff := 850
    ledCount := 0
    words := words.push 48 }

/-- The fields, where `c` is not a part of the array. -/
def devp : Devp where
  ledCount := memory.ledCount
  msg := ledWords memory.words
  c := memory.c.toInt
  done := memory.done
  bit := memory.bit
  biw := memory.biw
  oneOn := memory.oneOn
  oneOff := memory.oneOff
  zeroOn := memory.zeroOn
  zeroOff := memory.zeroOff

/-- A pulse has begun. -/
def raised : Memory :=
  { memory.setC (memory.c - 1) with done := true }

@[simp]
theorem c_setC (value : BitVec 32) : (memory.setC value).c = value := by
  simp [c, setC]

@[simp]
theorem c_raised : memory.raised.c = memory.c - 1 := by
  simp [c, raised, setC]

theorem devp_hrtWrite (words : Vector (BitVec 32) 16) :
    (memory.hrtWrite words).devp = hrtWriteMsg words memory.devp := by
  have msg : (memory.hrtWrite words).devp.msg = words := by
    ext led inside
    simp [devp, hrtWrite, Vector.getElem_push_lt inside]
  have c : (memory.hrtWrite words).devp.c = 48 := by
    simp [devp, hrtWrite, Memory.c]
  exact Devp.ext rfl msg c rfl rfl rfl rfl rfl rfl rfl

theorem devp_setC (value : BitVec 32) :
    (memory.setC value).devp = { memory.devp with c := value.toInt } := by
  have msg : (memory.setC value).devp.msg = memory.devp.msg := by
    ext led inside
    simp [devp, setC, show 16 ≠ led by omega]
  have c : (memory.setC value).devp.c = value.toInt := by
    simp [devp]
  exact Devp.ext rfl msg c rfl rfl rfl rfl rfl rfl rfl

/-- A word of the array is shifted as in the array. -/
theorem devp_shift (inside : memory.ledCount < 16) :
    ({ memory with
      words := memory.words.set memory.ledCount (memory.words[memory.ledCount] <<< 1)
      bit := testBit (memory.words[memory.ledCount] <<< 1)
      done := false } : Memory).devp =
    { memory.devp with
      msg := memory.devp.msg.set memory.ledCount (memory.devp.msg[memory.ledCount] <<< 1) inside
      bit := testBit (memory.devp.msg[memory.ledCount] <<< 1)
      done := false } := by
  have word : memory.devp.msg[memory.ledCount] = memory.words[memory.ledCount] := by
    simp [devp]
  rw [word]
  refine Devp.ext rfl ?_ ?_ rfl rfl rfl rfl rfl rfl rfl
  · ext led within
    simp [devp, Vector.getElem_set]
  · simp [devp, c, show memory.ledCount ≠ 16 by omega]

theorem devp_nextLed : memory.nextLed.devp = memory.devp.nextLed := by
  have zero : memory.devp.c = 0 ↔ memory.c = 0 :=
    ⟨fun none => BitVec.toInt_inj.mp none, fun none => congrArg BitVec.toInt none⟩
  by_cases last : memory.c = 0 ∧ memory.ledCount < 16
  · rw [nextLed, if_pos last, Devp.nextLed, if_pos ⟨zero.mpr last.1, last.2⟩]
    exact congrArg (fun devp : Devp => { devp with ledCount := memory.ledCount + 1 })
      (memory.devp_setC 48)
  · have more : ¬(memory.devp.c = 0 ∧ memory.devp.ledCount < 16) :=
      fun both => last ⟨zero.mp both.1, both.2⟩
    rw [nextLed, if_neg last, Devp.nextLed, if_neg more]

section Callback

variable {memory}

theorem callback_high (running : memory.c ≠ 0) (low : memory.done = false) :
    memory.myHrtimerCallback =
      some ⟨.write 149 (if memory.bit then memory.oneOn else memory.zeroOn), true,
        memory.raised⟩ := by
  rw [myHrtimerCallback, if_pos running]
  simp [low, raised, setC]

theorem callback_low (running : memory.c ≠ 0) (high : memory.done = true)
    (inside : memory.ledCount < 17) :
    memory.myHrtimerCallback =
      some ⟨.write 21 (if memory.bit then memory.oneOff else memory.zeroOff), true,
        { memory with
          words := (memory.setC (memory.c - 1)).words.set memory.ledCount
            ((memory.setC (memory.c - 1)).words[memory.ledCount] <<< 1) inside
          bit := testBit ((memory.setC (memory.c - 1)).words[memory.ledCount] <<< 1)
          done := false }.nextLed⟩ := by
  rw [myHrtimerCallback, if_pos running]
  simp [high, setC, shiftMsg, inside]

/-- Behind the array a pulse shifts the counter. -/
theorem callback_stray (running : memory.c ≠ 0) (high : memory.done = true)
    (behind : memory.ledCount = 16) :
    memory.myHrtimerCallback =
      some ⟨.write 21 (if memory.bit then memory.oneOff else memory.zeroOff), true,
        { memory.setC ((memory.c - 1) <<< 1) with
          bit := testBit ((memory.c - 1) <<< 1)
          done := false }⟩ := by
  rw [callback_low running high (by omega), nextLed]
  simp [behind, setC]

theorem callback_zero (zero : memory.c = 0) :
    memory.myHrtimerCallback =
      some ⟨.complete, false, { memory.setC (memory.c - 1) with biw := memory.biw + 1 }⟩ := by
  simp [myHrtimerCallback, zero]

/-- The array and the counter are what the fields say. -/
def Shows (devp : Devp) (memory : Memory) : Prop :=
  memory.devp = devp ∧ 0 ≤ memory.devp.c

/-- As long as the callbacks use words of the array only, the memory shows what they
do. -/
theorem Shows.callback {devp next : Devp} {output : Output} (shows_ : Shows devp memory)
    (taken : Hrtimer.myHrtimerCallback devp = some ⟨output, true, next⟩) :
    ∃ nextMemory, memory.myHrtimerCallback = some ⟨output, true, nextMemory⟩ ∧
      Shows next nextMemory := by
  obtain ⟨rfl, counter⟩ := shows_
  obtain ⟨running, effect⟩ := callback_continues taken
  have counts : (memory.c - 1).toInt = memory.devp.c - 1 := by
    have upper := memory.c.toInt_lt
    have lower : 0 ≤ memory.c.toInt := counter
    have one : (1 : BitVec 32).toInt = 1 := by decide
    rw [BitVec.toInt_sub, one]
    apply Int.bmod_eq_of_le
    · omega
    · omega
  have nonzero : memory.c ≠ 0 := fun zero => running (congrArg BitVec.toInt zero)
  have counted := memory.devp_setC (memory.c - 1)
  rw [counts] at counted
  rcases effect with ⟨low, rfl, rfl⟩ | ⟨high, inside, rfl, rfl⟩
  · refine ⟨_, callback_high nonzero low, ?_⟩
    have after := congrArg (fun devp : Devp => { devp with done := true }) counted
    exact ⟨after, le_of_le_of_eq (by simp only; omega) (congrArg Devp.c after).symm⟩
  · have within : memory.ledCount < 16 := inside
    refine ⟨_, callback_low nonzero high (by omega), ?_⟩
    rw [Shows, devp_nextLed]
    have shifted := (memory.setC (memory.c - 1)).devp_shift within
    simp only [counted] at shifted
    have after := congrArg Devp.nextLed shifted
    refine ⟨after, le_of_le_of_eq (Devp.nextLed_counter ?_) (congrArg Devp.c after).symm⟩
    simp only
    omega

end Callback

end Memory

/-- The counter after pulses that have shifted it. -/
def strayWord : Nat → BitVec 32
  | 0 => 48
  | pulses + 1 => (strayWord pulses - 1 - 1) <<< 1

/-- The bit of a pulse; `leftover` is `bit` when the transfer begins. -/
def sentBit (words : Vector (BitVec 32) 16) (leftover : Bool) : Nat → Bool
  | 0 => leftover
  | place + 1 =>
      if _inside : place < 384 then testBit (words[place / 24] <<< (place % 24 + 1))
      else testBit (strayWord (place - 383))

/-- The pulses of a transfer. -/
def sentPulses (words : Vector (BitVec 32) 16) (leftover : Bool) (count : Nat) : List Output :=
  (List.range count).flatMap fun place => pulse (sentBit words leftover place)

section Words

variable {words : Vector (BitVec 32) 16} {leftover : Bool} {place count : Nat} {devp : Devp}

theorem sentPulses_length : (sentPulses words leftover count).length = 2 * count := by
  have pulses := pulses_length ((List.range count).map (sentBit words leftover))
  rwa [List.flatMap_map, List.length_map, List.length_range] at pulses

theorem sentPulses_succ : sentPulses words leftover (count + 1) =
    sentPulses words leftover count ++ pulse (sentBit words leftover count) := by
  simp [sentPulses, List.range_succ]

/-- The intervals that `hrt_write` sets. -/
def Timed (oneOn oneOff zeroOn zeroOff : Int) : Prop :=
  oneOn = 650 ∧ oneOff = 600 ∧ zeroOn = 500 ∧ zeroOff = 850

theorem Timed.pulse {oneOn oneOff zeroOn zeroOff : Int} (bit : Bool)
    (timed : Timed oneOn oneOff zeroOn zeroOff) :
    pulse bit = [.write 149 (if bit then oneOn else zeroOn),
      .write 21 (if bit then oneOff else zeroOff)] := by
  obtain ⟨rfl, rfl, rfl, rfl⟩ := timed
  cases bit <;> rfl

/-- Between two pulses that are sent from the array. -/
structure Sending (words : Vector (BitVec 32) 16) (leftover : Bool) (place : Nat) (devp : Devp) :
    Prop where
  timed : Timed devp.oneOn devp.oneOff devp.zeroOn devp.zeroOff
  done : devp.done = false
  ledCount : devp.ledCount = place / 24
  c : devp.c = 48 - 2 * (place % 24 : Nat)
  msg : ∀ led (_ : led < 16), devp.msg[led] = words[led] <<< min (place - 24 * led) 24
  bit : devp.bit = sentBit words leftover place

theorem Sending.start (low : devp.done = false) :
    Sending words devp.bit 0 (hrtWriteMsg words devp) where
  timed := ⟨rfl, rfl, rfl, rfl⟩
  done := low
  ledCount := rfl
  c := rfl
  msg led _ := by simp [hrtWriteMsg]
  bit := rfl

theorem Sending.word (sending : Sending words leftover place devp) (inside : place < 384)
    (led : devp.ledCount < 16) :
    devp.msg[devp.ledCount] <<< 1 = words[place / 24] <<< (place % 24 + 1) := by
  have shifts : min (place - 24 * (place / 24)) 24 = place % 24 := by omega
  simp only [sending.ledCount, sending.msg (place / 24) (by omega), shifts, BitVec.shiftLeft_add]

/-- The end of a pulse shifts its word. -/
theorem Sending.shifted (sending : Sending words leftover place devp) (inside : place < 384)
    (led : devp.ledCount < 16) : ∀ other (_ : other < 16),
      (devp.msg.set devp.ledCount (devp.msg[devp.ledCount] <<< 1))[other] =
        words[other] <<< min (place + 1 - 24 * other) 24 := by
  have ledCount := sending.ledCount
  intro other within
  rw [sending.word inside led, Vector.getElem_set]
  split_ifs with same
  · obtain rfl : other = place / 24 := by omega
    have shifts : min (place + 1 - 24 * (place / 24)) 24 = place % 24 + 1 := by omega
    rw [shifts]
  · have shifts : min (place + 1 - 24 * other) 24 = min (place - 24 * other) 24 := by omega
    rw [shifts, sending.msg other within]

/-- Two callbacks send a pulse. -/
theorem Sending.pulse (sending : Sending words leftover place devp) (inside : place < 384) :
    ∃ next, Turns myHrtimerCallback devp (Hrtimer.pulse devp.bit) next ∧
      Sending words leftover (place + 1) next := by
  obtain ⟨timed, done, ledCount, c, -, -⟩ := id sending
  have led : devp.ledCount < 16 := by omega
  have high : devp.c - 1 ≠ 0 := by omega
  have first := @callback_high devp (by omega) done
  have second := @callback_low { devp with c := devp.c - 1, done := true } high rfl led
  have next : testBit (devp.msg[devp.ledCount] <<< 1) = sentBit words leftover (place + 1) := by
    rw [sending.word inside led, sentBit, dif_pos inside]
  rw [timed.pulse]
  refine ⟨_, .cons first (.cons second (.nil _)), ?_⟩
  by_cases last : devp.c - 1 - 1 = 0
  · rw [Devp.nextLed, if_pos ⟨last, led⟩]
    refine ⟨timed, rfl, ?_, ?_, sending.shifted inside led, next⟩
    · simp only
      omega
    · simp only
      omega
  · rw [Devp.nextLed, if_neg fun both => last both.1]
    refine ⟨timed, rfl, ?_, ?_, sending.shifted inside led, next⟩
    · simp only
      omega
    · simp only
      omega

/-- The array is sent word by word. -/
theorem Sending.turns (low : devp.done = false) (within : count ≤ 384) :
    ∃ state, Turns myHrtimerCallback (hrtWriteMsg words devp)
      (sentPulses words devp.bit count) state ∧ Sending words devp.bit count state := by
  induction count with
  | zero => exact ⟨_, .nil _, .start low⟩
  | succ count ih =>
      obtain ⟨state, turns, sending⟩ := ih (by omega)
      obtain ⟨next, more, sent⟩ := sending.pulse (by omega)
      rw [sentPulses_succ, ← sending.bit]
      exact ⟨next, turns.trans more, sent⟩

theorem strayWord_ne_zero (pulses : Nat) : strayWord pulses ≠ 0 ∧ strayWord pulses - 1 ≠ 0 := by
  cases pulses with
  | zero => decide
  | succ pulses =>
      have low : (strayWord (pulses + 1)).toNat % 8 = 4 := by
        induction pulses with
        | zero => decide
        | succ pulses ih =>
            rw [strayWord]
            bv_omega
      constructor
      · intro zero
        simp [zero] at low
      · intro one
        rw [BitVec.sub_eq_iff_eq_add.mp one] at low
        simp at low

/-- Between two pulses that are sent from the counter. -/
structure Astray (words : Vector (BitVec 32) 16) (leftover : Bool) (pulses : Nat)
    (memory : Memory) : Prop where
  timed : Timed memory.oneOn memory.oneOff memory.zeroOn memory.zeroOff
  done : memory.done = false
  ledCount : memory.ledCount = 16
  c : memory.c = strayWord pulses
  bit : memory.bit = sentBit words leftover (384 + pulses)

variable {memory : Memory}

/-- The counter stays above zero, because its shifts make up for the pulses counted. -/
theorem Astray.pulse {pulses : Nat} (astray : Astray words leftover pulses memory) :
    ∃ next, Turns Memory.myHrtimerCallback memory (Hrtimer.pulse memory.bit) next ∧
      Astray words leftover (pulses + 1) next := by
  obtain ⟨timed, done, ledCount, c, -⟩ := astray
  have running := strayWord_ne_zero pulses
  rw [← c] at running
  have first := Memory.callback_high running.1 done
  have second := @Memory.callback_stray memory.raised
    (memory.c_raised.trans_ne running.2) rfl ledCount
  rw [timed.pulse]
  have shifted : (memory.raised.c - 1) <<< 1 = strayWord (pulses + 1) := by
    rw [memory.c_raised, c, strayWord]
  refine ⟨_, .cons first (.cons second (.nil _)), timed, rfl, ledCount, ?_, ?_⟩
  · exact (memory.raised.c_setC _).trans shifted
  · have behind : ¬384 + pulses < 384 := by omega
    have place : 384 + pulses - 383 = pulses + 1 := by omega
    rw [← Nat.add_assoc, sentBit, dif_neg behind, place, ← shifted]

/-- What the callbacks do with the array, they do in memory. -/
theorem turns_in_memory {state : Devp} {produced : List Output}
    (turns : Turns myHrtimerCallback (hrtWriteMsg words memory.devp) produced state) :
    ∃ reached, Turns Memory.myHrtimerCallback (memory.hrtWrite words) produced reached ∧
      Memory.Shows state reached := by
  have initially : Memory.Shows (hrtWriteMsg words memory.devp) (memory.hrtWrite words) := by
    rw [← memory.devp_hrtWrite]
    exact ⟨rfl, by simp [Memory.devp_hrtWrite, hrtWriteMsg, hrtWrite]⟩
  exact turns.simulated Memory.Shows.callback initially

theorem Astray.turns (low : memory.done = false) (pulses : Nat) :
    ∃ state, Turns Memory.myHrtimerCallback (memory.hrtWrite words)
      (sentPulses words memory.bit (384 + pulses)) state ∧
      Astray words memory.bit pulses state := by
  induction pulses with
  | zero =>
      obtain ⟨state, turns, sent⟩ :=
        @Sending.turns words 384 memory.devp low (Nat.le_refl 384)
      obtain ⟨reached, written, rfl, -⟩ := turns_in_memory turns
      exact ⟨reached, written, sent.timed, sent.done, sent.ledCount, BitVec.toInt_inj.mp sent.c,
        sent.bit⟩
  | succ pulses ih =>
      obtain ⟨state, turns, astray⟩ := ih
      obtain ⟨next, more, onward⟩ := astray.pulse
      rw [← Nat.add_assoc, sentPulses_succ, ← astray.bit]
      exact ⟨next, turns.trans more, onward⟩

/-- A transfer that starts in the low phase makes any number of pulses. -/
theorem low_turns (low : memory.done = false) (count : Nat) :
    ∃ state, Turns Memory.myHrtimerCallback (memory.hrtWrite words)
      (sentPulses words memory.bit count) state := by
  rcases Nat.le_total count 384 with within | beyond
  · obtain ⟨state, turns, -⟩ := @Sending.turns words count memory.devp low within
    obtain ⟨reached, turns, -⟩ := turns_in_memory turns
    exact ⟨reached, turns⟩
  · obtain ⟨pulses, rfl⟩ := Nat.exists_eq_add_of_le beyond
    obtain ⟨state, turns, -⟩ := @Astray.turns words memory low pulses
    exact ⟨state, turns⟩

theorem low_outputs (low : memory.done = false) (count : Nat) :
    outputs Memory.myHrtimerCallback (2 * count) (memory.hrtWrite words) =
      sentPulses words memory.bit count := by
  obtain ⟨state, turns⟩ := @low_turns words memory low count
  rw [← @sentPulses_length words memory.bit count]
  exact turns.outputs_eq

theorem low_never_completes (words : Vector (BitVec 32) 16) (low : memory.done = false)
    (sent : List Output) (final : Memory) :
    ¬ Finishes Memory.myHrtimerCallback (memory.hrtWrite words) sent final := by
  refine not_finishes fun count => ?_
  obtain ⟨state, turns⟩ := @low_turns words memory low count
  refine ⟨_, state, turns, ?_⟩
  rw [sentPulses_length]
  omega

/-- A transfer that starts in the low phase sends the words, then the counter, and never
completes. -/
theorem low_transfer_is_endless (words : Vector (BitVec 32) 16) (low : memory.done = false) :
    (∀ count, outputs Memory.myHrtimerCallback (2 * count) (memory.hrtWrite words) =
      sentPulses words memory.bit count) ∧
    ∀ sent final, ¬ Finishes Memory.myHrtimerCallback (memory.hrtWrite words) sent final :=
  ⟨low_outputs low, low_never_completes words low⟩

/-- White on zeroed memory. -/
theorem low_transfer_is_endless_white :
    (∀ count, outputs Memory.myHrtimerCallback (2 * count)
        (Memory.zeroed.hrtWrite (packMsg 255 255 255)) =
      sentPulses (packMsg 255 255 255) false count) ∧
    ∀ sent final, ¬ Finishes Memory.myHrtimerCallback
      (Memory.zeroed.hrtWrite (packMsg 255 255 255)) sent final :=
  low_transfer_is_endless (packMsg 255 255 255) rfl

/-- In the end the counter is shifted to its value of two callbacks before. -/
theorem strayWord_low_byte (pulses : Nat) : (strayWord (pulses + 6)).toNat % 256 = 4 := by
  induction pulses with
  | zero => decide
  | succ pulses ih =>
      rw [Nat.add_right_comm, strayWord]
      bv_omega

/-- Bits of the counter come out in three pulses. -/
theorem testBit_strayWord (pulses : Nat) :
    testBit (strayWord pulses) = decide (pulses = 2 ∨ pulses = 4 ∨ pulses = 5) := by
  match pulses with
  | 0 | 1 | 2 | 3 | 4 | 5 => decide
  | later + 6 =>
      have low := strayWord_low_byte later
      rw [testBit_eq, BitVec.getLsbD, Nat.testBit_eq_decide_div_mod_eq, decide_eq_decide]
      omega

/-- The colour does not matter. -/
theorem sentBit_packMsg (g r b : BitVec 8) (leftover : Bool) (place : Nat) :
    sentBit (packMsg g r b) leftover place =
      if place = 0 then leftover else decide (place = 386 ∨ place = 388 ∨ place = 389) := by
  cases place with
  | zero => rfl
  | succ place =>
      rw [sentBit, if_neg (Nat.succ_ne_zero place)]
      split_ifs with inside
      · have empty := LowByteEmpty.shiftLeft (packGrb_low_byte g r b) (place % 24 + 1)
        simp only [packMsg, Vector.getElem_replicate, empty.testBit, false_eq_decide_iff]
        omega
      · rw [testBit_strayWord, decide_eq_decide]
        omega

/-- Whatever the colour, a transfer that starts in the low phase sends the bit that was left
over, zeros for the rest of the ring, three ones behind it and then zeros for ever. -/
theorem colours_sent_alike (g r b : BitVec 8) (low : memory.done = false) (count : Nat) :
    outputs Memory.myHrtimerCallback (2 * count) (memory.hrtWrite (packMsg g r b)) =
      (List.range count).flatMap fun place => Hrtimer.pulse
        (if place = 0 then memory.bit else decide (place = 386 ∨ place = 388 ∨ place = 389)) := by
  rw [low_outputs low, sentPulses]
  simp only [sentBit_packMsg]

/-- White and black on zeroed memory. -/
theorem colours_sent_alike_white :
    outputs Memory.myHrtimerCallback (2 * 400) (Memory.zeroed.hrtWrite (packMsg 255 255 255)) =
      outputs Memory.myHrtimerCallback (2 * 400) (Memory.zeroed.hrtWrite (packMsg 0 0 0)) := by
  rw [colours_sent_alike 255 255 255 rfl 400, colours_sent_alike 0 0 0 rfl 400]

/-- In the first word, after the pulse that the transfer has found begun and others. -/
structure InFirst (words : Vector (BitVec 32) 16) (pulses : Nat) (devp : Devp) : Prop where
  timed : Timed devp.oneOn devp.oneOff devp.zeroOn devp.zeroOff
  done : devp.done = false
  ledCount : devp.ledCount = 0
  c : devp.c = 47 - 2 * pulses
  msg : devp.msg = words.set 0 (firstWord words <<< (pulses + 1)) first_led
  bit : devp.bit = testBit (firstWord words <<< (pulses + 1))
  biw : devp.biw = 0

/-- The transfer ends the pulse that it has found begun. -/
theorem InFirst.start (high : devp.done = true) :
    ∃ next, Turns myHrtimerCallback (hrtWriteMsg words devp)
      [.write 21 (if devp.bit then 600 else 850)] next ∧ InFirst words 0 next := by
  have first := @callback_low (hrtWriteMsg words devp) (by simp [hrtWriteMsg, hrtWrite]) high
    (by simp [hrtWriteMsg, hrtWrite])
  refine ⟨_, .cons first (.nil _), ?_⟩
  rw [Devp.nextLed, if_neg (by simp [hrtWriteMsg, hrtWrite])]
  exact ⟨⟨rfl, rfl, rfl, rfl⟩, rfl, rfl, rfl, rfl, rfl, rfl⟩

theorem InFirst.pulse {pulses : Nat} (first : InFirst words pulses devp) (more : pulses < 23) :
    ∃ next, Turns myHrtimerCallback devp
      (Hrtimer.pulse (testBit (firstWord words <<< (pulses + 1)))) next ∧
      InFirst words (pulses + 1) next := by
  obtain ⟨timed, done, ledCount, c, msg, bit, biw⟩ := first
  have led : devp.ledCount < 16 := by omega
  have high : devp.c - 1 ≠ 0 := by omega
  have stays : ¬(devp.c - 1 - 1 = 0 ∧ devp.ledCount < 16) := by omega
  have rise := @callback_high devp (by omega) done
  have fall := @callback_low { devp with c := devp.c - 1, done := true } high rfl led
  rw [Devp.nextLed, if_neg stays] at fall
  have word : devp.msg[devp.ledCount] <<< 1 = firstWord words <<< (pulses + 2) := by
    simp only [ledCount, msg, Vector.getElem_set_self, ← BitVec.shiftLeft_add]
  rw [← bit, timed.pulse]
  refine ⟨_, .cons rise (.cons fall (.nil _)), timed, rfl, ledCount, ?_, ?_, ?_, biw⟩
  · simp only
    omega
  · simp only [word]
    simp only [ledCount, msg, Vector.set_set]
  · simp only [word]

/-- The callbacks that end the first pulse and send the rest of the first word. -/
def firstPulses (words : Vector (BitVec 32) 16) (leftover : Bool) (pulses : Nat) : List Output :=
  .write 21 (if leftover then 600 else 850) ::
    (List.range pulses).flatMap fun place => pulse (testBit (firstWord words <<< (place + 1)))

theorem InFirst.turns {pulses : Nat} (high : devp.done = true) (within : pulses ≤ 23) :
    ∃ state, Turns myHrtimerCallback (hrtWriteMsg words devp)
      (firstPulses words devp.bit pulses) state ∧ InFirst words pulses state := by
  induction pulses with
  | zero => exact InFirst.start high
  | succ pulses ih =>
      obtain ⟨state, turns, first⟩ := ih (by omega)
      obtain ⟨next, more, onward⟩ := first.pulse within
      have split : firstPulses words devp.bit (pulses + 1) = firstPulses words devp.bit pulses ++
          Hrtimer.pulse (testBit (firstWord words <<< (pulses + 1))) := by
        simp [firstPulses, List.range_succ]
      rw [split]
      exact ⟨next, turns.trans more, onward⟩

/-- What the first word makes of a transfer that starts in the high phase. -/
def highOutputs (words : Vector (BitVec 32) 16) (leftover : Bool) : List Output :=
  firstPulses words leftover 23 ++
    [.write 149 (if testBit (firstWord words <<< 24) then 650 else 500), .complete]

theorem highOutputs_length : (highOutputs words leftover).length = 49 := by
  have pulses := pulses_length
    ((List.range 23).map fun place => testBit (firstWord words <<< (place + 1)))
  rw [List.flatMap_map, List.length_map, List.length_range] at pulses
  rw [highOutputs, firstPulses, List.length_append, List.length_cons, pulses]
  rfl

theorem high_completes (words : Vector (BitVec 32) 16) (high : memory.done = true) :
    ∃ final, Finishes Memory.myHrtimerCallback (memory.hrtWrite words)
        (highOutputs words memory.bit) final ∧
      final.done = true ∧ final.biw = 1 ∧
      final.devp.msg = words.set 0 (firstWord words <<< 24) first_led := by
  obtain ⟨state, turns, first⟩ :=
    @InFirst.turns words memory.devp 23 high (Nat.le_refl 23)
  obtain ⟨timed, done, ledCount, c, msg, bit, biw⟩ := first
  have running : state.c ≠ 0 := by omega
  obtain ⟨reached, written, shown, -⟩ :=
    turns_in_memory (turns.snoc (callback_high running done))
  have zero : reached.c = 0 := by
    have counter : reached.devp.c = 0 := by
      rw [shown]
      simp only
      omega
    exact BitVec.toInt_inj.mp counter
  have last := written.finishes (.last (Memory.callback_zero zero))
  rw [timed.1, timed.2.2.1, bit, List.append_assoc] at last
  refine ⟨_, last, congrArg Devp.done shown, ?_, ?_⟩
  · have signalled : reached.biw = 0 := (congrArg Devp.biw shown).trans biw
    simp [signalled]
  · have unchanged : (reached.setC (reached.c - 1)).devp.msg = reached.devp.msg := by
      rw [reached.devp_setC]
    exact unchanged.trans ((congrArg Devp.msg shown).trans msg)

end Words

end Hrtimer

end LedRing

end KinuxKernel
