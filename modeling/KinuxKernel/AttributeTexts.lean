import KinuxKernel.SensorAttributes

/-!
# The texts of attributes

The stores read a number from a text by `sscanf`, do not look at its result, and check
a local variable that is not initialised.  What `sscanf` of the kernel does with a
number that is no `int` is left open.
-/

namespace KinuxKernel

namespace Sensor

open ResourceLedger

/-- `isspace` of the kernel. -/
def isspace (c : Char) : Bool :=
  c ∈ [' ', '\t', '\n', '\x0b', '\x0c', '\r', '\xa0']

/-- The number that a text starts with. -/
def leadingNumber (text : List Char) : Option Nat :=
  match text.takeWhile Char.isDigit with
  | [] => none
  | digits => some (digits.foldl (fun number digit => 10 * number + (digit.toNat - 48)) 0)

/-- The integer that a text starts with, after white space. -/
def leadingInteger (text : List Char) : Option Int :=
  match text.dropWhile isspace with
  | '-' :: rest => (leadingNumber rest).map fun number => -(number : Int)
  | rest => (leadingNumber rest).map fun number => (number : Int)

/-- The integer is a value of the type `int`. -/
def FitsInt (value : Int) : Prop :=
  -2 ^ 31 ≤ value ∧ value < 2 ^ 31

instance (value : Int) : Decidable (FitsInt value) :=
  inferInstanceAs (Decidable (_ ∧ _))

/-- `sscanf(buf, "%d", &tmp)`, as a function of the text and of the value that `tmp` has
had before. -/
structure Sscanf where
  scan : List Char → BitVec 32 → BitVec 32
  reads : ∀ text stack value, leadingInteger text = some value → FitsInt value →
    (scan text stack).toInt = value
  leaves : ∀ text stack, leadingInteger text = none → scan text stack = stack

namespace Attribute

/-- The values that an attribute accepts. -/
def Accepts : Attribute → Int → Prop
  | .trigger, value | .echo, value => 1 ≤ value ∧ value ≤ 13
  | .numberSamples, value => 1 ≤ value
  | .samplePeriod, value => 50 ≤ value
  | .enable, value => value = 0 ∨ value = 1

instance : (attr : Attribute) → (value : Int) → Decidable (attr.Accepts value)
  | .trigger, _ | .echo, _ => inferInstanceAs (Decidable (_ ∧ _))
  | .numberSamples, _ | .samplePeriod, _ => inferInstanceAs (Decidable (_ ≤ _))
  | .enable, _ => inferInstanceAs (Decidable (_ ∨ _))

/-- The field of an attribute. -/
def field : Attribute → HSCStruct → Int
  | .trigger, structp => structp.trigger
  | .echo, structp => structp.echo
  | .numberSamples, structp => structp.samples
  | .samplePeriod, structp => structp.interval
  | .enable, structp => structp.enable.toInt

end Attribute

section Stores

variable (sscanf : Sscanf) (grant : Grant) (gpioToIrq : BitVec 32 → Int) (text : List Char)
  (stack : BitVec 32) (session : Session) (attr : Attribute)

/-- A store of a text, where the local variable is `stack` at first. -/
def storeText : Option (Session × Int) :=
  store grant gpioToIrq (sscanf.scan text stack) session attr

/-- The text starts with an integer that the attribute accepts, and the store takes
this value; or it is refused and has changed nothing. -/
def RejectsMalformed : Prop :=
  (∃ value tmp, leadingInteger text = some value ∧ attr.Accepts value ∧ tmp.toInt = value ∧
    storeText sscanf grant gpioToIrq text stack session attr =
      store grant gpioToIrq tmp session attr ∧
    ∀ after code, storeText sscanf grant gpioToIrq text stack session attr = some (after, code) →
      code = PAGE_SIZE ∧ attr.field after.structp = value) ∨
  storeText sscanf grant gpioToIrq text stack session attr = some (session, -EINVAL)

end Stores

section Numbers

variable {grant : Grant} {gpioToIrq : BitVec 32 → Int} {tmp : BitVec 32} {session : Session}
  {attr : Attribute}

theorem store_refused (refused : ¬ attr.Accepts tmp.toInt) :
    store grant gpioToIrq tmp session attr = some (session, -EINVAL) := by
  cases attr with
  | trigger =>
      rw [store, triggerStore, if_pos (by simp [Attribute.Accepts] at refused; omega)]
  | echo =>
      rw [store, echoStore, if_pos (by simp [Attribute.Accepts] at refused; omega)]
  | numberSamples =>
      rw [store, HSCStruct.samplesStore, if_pos (by simpa [Attribute.Accepts] using refused)]
      rfl
  | samplePeriod =>
      rw [store, HSCStruct.speriodStore, if_pos (by simpa [Attribute.Accepts] using refused)]
      rfl
  | enable =>
      obtain ⟨notZero, notOne⟩ := not_or.mp refused
      rw [store, HSCStruct.enableStore, if_neg notZero, if_neg notOne]
      rfl

theorem store_accepted {after : Session} {code : Int} (accepted : attr.Accepts tmp.toInt)
    (stored : store grant gpioToIrq tmp session attr = some (after, code)) :
    code = PAGE_SIZE ∧ attr.field after.structp = tmp.toInt := by
  cases attr with
  | trigger =>
      rw [store, triggerStore, if_neg (by simp [Attribute.Accepts] at accepted; omega)] at stored
      obtain ⟨released, -, stored⟩ := Option.bind_eq_some_iff.mp stored
      obtain ⟨configured, -, same⟩ := Option.map_eq_some_iff.mp stored
      obtain ⟨rfl, rfl⟩ := Prod.mk.inj same
      exact ⟨rfl, rfl⟩
  | echo =>
      rw [store, echoStore, if_neg (by simp [Attribute.Accepts] at accepted; omega)] at stored
      obtain ⟨released, -, stored⟩ := Option.bind_eq_some_iff.mp stored
      obtain ⟨configured, -, stored⟩ := Option.bind_eq_some_iff.mp stored
      obtain ⟨row, -, same⟩ := Option.map_eq_some_iff.mp stored
      obtain ⟨rfl, rfl⟩ := Prod.mk.inj same
      exact ⟨rfl, rfl⟩
  | numberSamples =>
      rw [store, HSCStruct.samplesStore, if_neg (not_lt_of_ge accepted)] at stored
      obtain ⟨rfl, rfl⟩ := Prod.mk.inj (Option.some.inj stored)
      exact ⟨rfl, rfl⟩
  | samplePeriod =>
      rw [store, HSCStruct.speriodStore, if_neg (not_lt_of_ge accepted)] at stored
      obtain ⟨rfl, rfl⟩ := Prod.mk.inj (Option.some.inj stored)
      exact ⟨rfl, rfl⟩
  | enable =>
      rcases accepted with zero | one
      · rw [store, HSCStruct.enableStore, if_pos zero] at stored
        obtain ⟨rfl, rfl⟩ := Prod.mk.inj (Option.some.inj stored)
        exact ⟨rfl, zero.symm⟩
      · rw [store, HSCStruct.enableStore, if_neg (by omega), if_pos one] at stored
        obtain ⟨rfl, rfl⟩ := Prod.mk.inj (Option.some.inj stored)
        exact ⟨rfl, one.symm⟩

end Numbers

section Texts

variable {sscanf : Sscanf} {grant : Grant} {gpioToIrq : BitVec 32 → Int} {text : List Char}
  {stack : BitVec 32} {session : Session} {attr : Attribute}

/-- An accepted number is not refused. -/
theorem store_ne_refused {tmp : BitVec 32} (accepted : attr.Accepts tmp.toInt) :
    store grant gpioToIrq tmp session attr ≠ some (session, -EINVAL) := by
  intro refused
  have code := (store_accepted accepted refused).1
  simp [EINVAL, PAGE_SIZE] at code

theorem fitsInt_toInt (tmp : BitVec 32) : FitsInt tmp.toInt :=
  ⟨BitVec.le_toInt tmp, BitVec.toInt_lt⟩

/-- A store rejects malformed text, whatever its variable holds at first, if and only if
the text starts with an `int` or the value after `sscanf` is not accepted. -/
theorem rejects_malformed_iff :
    RejectsMalformed sscanf grant gpioToIrq text stack session attr ↔
      (∃ value, leadingInteger text = some value ∧ FitsInt value) ∨
        ¬ attr.Accepts (sscanf.scan text stack).toInt := by
  constructor
  · rintro (⟨value, tmp, starts, -, same, -⟩ | refused)
    · left
      exact ⟨value, starts, same ▸ fitsInt_toInt tmp⟩
    · right
      exact fun accepted => store_ne_refused accepted refused
  · intro either
    by_cases accepted : attr.Accepts (sscanf.scan text stack).toInt
    · obtain ⟨value, starts, fits⟩ := either.resolve_right (not_not.mpr accepted)
      have read := sscanf.reads text stack value starts fits
      refine .inl ⟨value, sscanf.scan text stack, starts, read ▸ accepted, read, rfl, ?_⟩
      intro after code stored
      rw [← read]
      exact store_accepted accepted stored
    · exact .inr (store_refused accepted)

end Texts

/-- A `sscanf` that stores numbers modulo the size of an `int`. -/
def wrappingSscanf : Sscanf where
  scan text stack := ((leadingInteger text).map (BitVec.ofInt 32)).getD stack
  reads text stack value starts fits := by
    rw [starts, Option.map_some, Option.getD_some, BitVec.toInt_ofInt]
    obtain ⟨low, high⟩ := fits
    apply Int.bmod_eq_of_le <;> omega
  leaves text stack starts := by
    rw [starts, Option.map_none, Option.getD_none]

/-- The text `7`. -/
theorem rejects_malformed_seven :
    RejectsMalformed wrappingSscanf (grantFree fun _ => false) BitVec.toInt ['7', '\n'] 3
      ⟨.zeroed, []⟩ .trigger :=
  rejects_malformed_iff.mpr (.inl ⟨7, rfl, by decide⟩)

/-- A text without a number, where the variable holds a pin at first. -/
theorem malformed_text_stored :
    leadingInteger ['x', '\n'] = none ∧
      ¬ RejectsMalformed wrappingSscanf (grantFree fun _ => false) BitVec.toInt ['x', '\n'] 3
        ⟨.zeroed, []⟩ .trigger := by
  refine ⟨rfl, ?_⟩
  rintro (⟨value, -, starts, -⟩ | refused)
  · simp [show leadingInteger ['x', '\n'] = none from rfl] at starts
  · have kept : wrappingSscanf.scan ['x', '\n'] 3 = 3 := wrappingSscanf.leaves _ 3 rfl
    rw [storeText, kept] at refused
    exact store_ne_refused (by decide) refused

end Sensor

end KinuxKernel
