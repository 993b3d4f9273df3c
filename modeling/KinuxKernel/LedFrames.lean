import Mathlib.Data.List.Flatten

/-!
# Frames of the LED ring

Sixteen LEDs in a chain take 24 bits each, green first, most significant bit
first.  The bit-bang drivers keep the colour of an LED in the upper three bytes
of a word.
-/

namespace KinuxKernel

namespace LedRing

/-- `g << 24 | r << 16 | b << 8`. -/
def packGrb (g r b : BitVec 8) : BitVec 32 :=
  g.setWidth 32 <<< 24 ||| r.setWidth 32 <<< 16 ||| b.setWidth 32 <<< 8

/-- `msg[i] = ( g << 24 | r << 16 | b << 8 )` for all `i`. -/
def packMsg (g r b : BitVec 8) : Vector (BitVec 32) 16 :=
  Vector.replicate 16 (packGrb g r b)

/-- The bits of a colour, most significant first. -/
def colourBits (g r b : BitVec 8) : List Bool :=
  (List.range 24).map (g ++ r ++ b).getMsbD

/-- The bits of a frame in which all LEDs have one colour. -/
def frameBits (g r b : BitVec 8) : List Bool :=
  (List.replicate 16 (colourBits g r b)).flatten

section Words

variable {leds : Nat}

/-- The word of the first LED. -/
def firstWord (words : Vector (BitVec 32) (leds + 1)) : BitVec 32 :=
  words.get 0

/-- The word behind those of the LEDs. -/
def lastWord (words : Vector (BitVec 32) (leds + 1)) : BitVec 32 :=
  words.get (Fin.last leds)

/-- The words of the LEDs alone. -/
def ledWords (words : Vector (BitVec 32) (leds + 1)) : Vector (BitVec 32) leds :=
  .ofFn fun led => words.get led.castSucc

variable (words : Vector (BitVec 32) (leds + 1))

@[simp]
theorem firstWord_eq : firstWord words = words[0] :=
  rfl

@[simp]
theorem lastWord_eq : lastWord words = words[leds] :=
  rfl

@[simp]
theorem ledWords_getElem {led : Nat} (inside : led < leds) :
    (ledWords words)[led] = words[led] := by
  simp [ledWords, Vector.get]

end Words

theorem first_led : 0 < 16 := by decide

theorem behind_leds : 16 < 17 := by decide

/-- `msg[led_count] & 0x80`. -/
def testBit (word : BitVec 32) : Bool :=
  word &&& 0x80 ≠ 0

/-- The byte below the colour. -/
def LowByteEmpty (word : BitVec 32) : Prop :=
  ∀ place < 8, word.getLsbD place = false

theorem packGrb_low_byte (g r b : BitVec 8) : LowByteEmpty (packGrb g r b) := by
  intro place low
  have below : place < 16 ∧ place < 24 := by omega
  simp [packGrb, BitVec.getLsbD_or, BitVec.getLsbD_shiftLeft, low, below]

theorem LowByteEmpty.shift {word : BitVec 32} (empty : LowByteEmpty word) :
    LowByteEmpty (word <<< 1) := by
  intro place low
  have before := empty (place - 1) (by omega)
  simp [BitVec.getLsbD_shiftLeft, before]

/-- The bit that the drivers test is in the low byte. -/
theorem LowByteEmpty.testBit {word : BitVec 32} (empty : LowByteEmpty word) :
    testBit word = false := by
  have mask : ∀ place < 32, (0x80 : BitVec 32).getLsbD place = decide (place = 7) := by decide
  have masked : word &&& 0x80 = 0 := by
    apply BitVec.eq_of_getLsbD_eq
    intro place inside
    rw [BitVec.getLsbD_and, mask place inside]
    by_cases seventh : place = 7
    · simpa [seventh] using empty 7 (by omega)
    · simp [seventh]
  rw [LedRing.testBit, masked]
  rfl

theorem LowByteEmpty.shiftLeft {word : BitVec 32} (empty : LowByteEmpty word) (places : Nat) :
    LowByteEmpty (word <<< places) := by
  induction places with
  | zero => simpa using empty
  | succ places ih =>
      rw [BitVec.shiftLeft_add]
      exact ih.shift

theorem testBit_eq (word : BitVec 32) : testBit word = word.getLsbD 7 := by
  have mask : (0x80 : BitVec 32) = BitVec.twoPow 32 7 := by decide
  rw [testBit, mask, BitVec.and_twoPow]
  cases word.getLsbD 7 <;> decide

@[simp]
theorem frameBits_length (g r b : BitVec 8) : (frameBits g r b).length = 16 * 24 := by
  simp [frameBits, colourBits]

example : frameBits 0x80 0 1 =
    (List.replicate 16 (true :: List.replicate 22 false ++ [true])).flatten := by decide +kernel

end LedRing

end KinuxKernel
