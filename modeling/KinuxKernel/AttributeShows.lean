import KinuxKernel.AttributeTexts
import KinuxKernel.SensorRequests

/-!
# What attributes show

The functions that print the attributes of a sensor.  Along every run of file
operations, interrupts and stores an attribute shows the number it was given
last.  The number can be read back from the text, but not by a store of the
whole text, which begins with a label.
-/

namespace KinuxKernel

namespace Sensor

open TraceRun

section Decimals

/-- The number that `%d` prints. -/
def formatInt : Int → List Char
  | .ofNat number => Nat.toDigits 10 number
  | .negSucc number => '-' :: Nat.toDigits 10 (number + 1)

variable {rest : List Char}

theorem takeWhile_toDigits (number : Nat) (ends : ∀ c ∈ rest.head?, c.isDigit = false) :
    (Nat.toDigits 10 number ++ rest).takeWhile Char.isDigit = Nat.toDigits 10 number := by
  have digits : ∀ c ∈ Nat.toDigits 10 number, c.isDigit = true := fun c member =>
    Nat.isDigit_of_mem_toDigits (by decide) le_rfl member
  rw [List.takeWhile_append_of_pos digits]
  cases rest with
  | nil => simp
  | cons c rest => simp [ends c rfl]

theorem leadingNumber_toDigits (number : Nat) (ends : ∀ c ∈ rest.head?, c.isDigit = false) :
    leadingNumber (Nat.toDigits 10 number ++ rest) = some number := by
  have value := @Nat.ofDigitChars_ten_toDigits number
  rw [Nat.ofDigitChars_eq_foldl] at value
  rw [leadingNumber, takeWhile_toDigits number ends]
  cases digits : Nat.toDigits 10 number with
  | nil => exact absurd digits Nat.toDigits_ne_nil
  | cons digit others =>
      rw [digits] at value
      exact congrArg some value

theorem isspace_of_isDigit {c : Char} (digit : c.isDigit = true) : isspace c = false := by
  by_contra space
  have member := of_decide_eq_true (Bool.not_eq_false _ ▸ space)
  simp only [List.mem_cons, List.not_mem_nil, or_false] at member
  rcases member with rfl | rfl | rfl | rfl | rfl | rfl | rfl <;> exact absurd digit (by decide)

/-- A printed number is read back, whatever follows it but digits. -/
theorem leadingInteger_formatInt (value : Int) (ends : ∀ c ∈ rest.head?, c.isDigit = false) :
    leadingInteger (formatInt value ++ rest) = some value := by
  cases value with
  | ofNat number =>
      have read := leadingNumber_toDigits number ends
      cases digits : Nat.toDigits 10 number with
      | nil => exact absurd digits Nat.toDigits_ne_nil
      | cons digit others =>
          have isDigit : digit.isDigit = true :=
            Nat.isDigit_of_mem_toDigits (b := 10) (n := number) (by decide) le_rfl
              (by simp [digits])
          have notMinus : digit ≠ '-' := by
            rintro rfl
            exact absurd isDigit (by decide)
          rw [digits] at read
          simp only [formatInt, digits, leadingInteger, List.cons_append]
          rw [List.dropWhile_cons_of_neg (by simp [isspace_of_isDigit isDigit])]
          split
          · next minus => exact absurd (List.cons.inj minus).1 notMinus
          · rw [← List.cons_append, read]
            rfl
  | negSucc number =>
      have read := leadingNumber_toDigits (number + 1) ends
      have minus : ¬ isspace '-' = true := by decide
      simp only [formatInt, leadingInteger, List.cons_append]
      rw [List.dropWhile_cons_of_neg minus]
      simp only [read]
      rfl

end Decimals

section Shows

/-- The texts of the attributes that show a number. -/
def sprintf (label : List Char) (number : Int) : List Char :=
  label ++ formatInt number ++ ['\n']

theorem third_sample : 2 < 20 := by decide

namespace HSCStruct

variable (structp : HSCStruct)

/-- `trigger_show`. -/
def triggerShow : List Char :=
  sprintf ['I', 'O'] structp.trigger

/-- `echo_show`. -/
def echoShow : List Char :=
  sprintf ['I', 'O'] structp.echo

/-- `samples_show`. -/
def samplesShow : List Char :=
  sprintf "number_samples:".toList structp.samples

/-- `speriod_show`. -/
def speriodShow : List Char :=
  sprintf "sample period:".toList structp.interval

/-- `distance_show`: the third distance, whatever `read_common` would return. -/
def distanceShow : List Char :=
  sprintf "distance:".toList (structp.distance.get ⟨2, third_sample⟩).toInt

end HSCStruct

namespace Attribute

/-- What the attribute shows; `ENABLE` can only be written. -/
def shown : Attribute → HSCStruct → Option (List Char)
  | .trigger, structp => some structp.triggerShow
  | .echo, structp => some structp.echoShow
  | .numberSamples, structp => some structp.samplesShow
  | .samplePeriod, structp => some structp.speriodShow
  | .enable, _ => none

/-- The text before the number. -/
def label : Attribute → List Char
  | .trigger | .echo => ['I', 'O']
  | .numberSamples => "number_samples:".toList
  | .samplePeriod => "sample period:".toList
  | .enable => []

theorem shown_eq {attr : Attribute} (readable : attr ≠ .enable) (structp : HSCStruct) :
    attr.shown structp = some (sprintf attr.label (attr.field structp)) := by
  cases attr with
  | enable => exact absurd rfl readable
  | trigger | echo | numberSamples | samplePeriod => rfl

/-- No label starts like a number. -/
theorem leadingInteger_label {attr : Attribute} (readable : attr ≠ .enable) (rest : List Char) :
    leadingInteger (attr.label ++ rest) = none := by
  cases attr with
  | enable => exact absurd rfl readable
  | trigger | echo | numberSamples | samplePeriod => rfl

end Attribute

variable {sscanf : Sscanf} {grant : Grant} {gpioToIrq : BitVec 32 → Int} {session : Session}
  {attr : Attribute}

theorem leadingInteger_line (value : Int) :
    leadingInteger (formatInt value ++ ['\n']) = some value :=
  leadingInteger_formatInt value (by simp)

/-- A store of a number as it is printed takes the number. -/
theorem storeText_line {value : Int} (fits : FitsInt value) (stack : BitVec 32) :
    storeText sscanf grant gpioToIrq (formatInt value ++ ['\n']) stack session attr =
      store grant gpioToIrq (BitVec.ofInt 32 value) session attr := by
  have read := sscanf.reads _ stack value (leadingInteger_line value) fits
  have scanned : sscanf.scan (formatInt value ++ ['\n']) stack = BitVec.ofInt 32 value := by
    rw [← read, BitVec.ofInt_toInt, read]
  rw [storeText, scanned]

/-- A store of what an attribute shows takes what its variable has held before. -/
theorem storeText_shown (readable : attr ≠ .enable) (number : Int) (stack : BitVec 32) :
    storeText sscanf grant gpioToIrq (sprintf attr.label number) stack session attr =
      store grant gpioToIrq stack session attr := by
  have none : leadingInteger (sprintf attr.label number) = none := by
    rw [sprintf, List.append_assoc]
    exact Attribute.leadingInteger_label readable _
  rw [storeText, sscanf.leaves _ stack none]

end Shows

section Runs

variable {File : Type*}

/-- The number that an event gives to an attribute. -/
def assigned (attr : Attribute) : SensorRequest File → Option Int
  | .ioctl _ (.configPins (some p)) =>
      match attr with
      | .trigger => some p.trigger.toInt
      | .echo => some p.echo.toInt
      | .numberSamples | .samplePeriod | .enable => none
  | .ioctl _ (.setParams (some c)) =>
      match attr with
      | .numberSamples => some (c.samples + 2).toInt
      | .samplePeriod => some c.interval.toInt
      | .trigger | .echo | .enable => none
  | .store stored tmp => if stored = attr ∧ attr.Accepts tmp.toInt then some tmp.toInt else none
  | .opens _ | .ioctl _ _ | .poll _ _ _ | .expire | .echo _ _ => none

/-- One event, with what the kernel grants during it. -/
def useSession (board : Board File) (session : Session) (event : Grant × SensorRequest File) :
    Option Session :=
  (perform board event.1 session event.2).map Prod.fst

/-- An echo writes inside the sample arrays. -/
def EchoInside (_ : List (Grant × SensorRequest File)) (session : Session)
    (event : Grant × SensorRequest File) : Prop :=
  ∀ now jiffies, event.2 = .echo now jiffies → session.structp.sampleIndex.isSome

abbrev SettingRun (board : Board File) (start : Session) :
    List (Grant × SensorRequest File) → Session → Prop :=
  Run (useSession board) EchoInside start

/-- The number that an attribute has been given last, or else had at the start. -/
def setting (attr : Attribute) (start : Session) (trace : List (Grant × SensorRequest File)) :
    Int :=
  (trace.findSome? fun event => assigned attr event.2).getD (attr.field start.structp)

variable {board : Board File} {grant : Grant} {session start after : Session} {attr : Attribute}
  {request : SensorRequest File} {trace : List (Grant × SensorRequest File)}

/-- Fields of attributes are only changed by configuration. -/
theorem SameSettings.field {before after : HSCStruct} (same : SameSettings before after)
    (attr : Attribute) : attr.field after = attr.field before := by
  cases attr with
  | trigger => exact same.trigger
  | echo => exact same.echo
  | numberSamples => exact same.samples
  | samplePeriod => exact same.interval
  | enable => exact congrArg Bool.toInt same.enable

theorem ioctl_field {file : File} {command : Ioctl} {code : Int}
    (answered : sensorIoctl grant board.gpioToIrq session command = some (after, code)) :
    attr.field after.structp =
      (assigned attr (.ioctl file command)).getD (attr.field session.structp) := by
  cases command with
  | other =>
      obtain ⟨rfl, -⟩ := Prod.mk.inj (Option.some.inj answered)
      rfl
  | configPins arg =>
      cases arg with
      | none =>
          obtain ⟨rfl, -⟩ := Prod.mk.inj (Option.some.inj answered)
          rfl
      | some p =>
          obtain ⟨_, _, same, changed⟩ | ⟨_, impossible, -⟩ | ⟨other, -⟩ :=
            sensorIoctl_cases answered
          · obtain rfl := Option.some.inj (Ioctl.configPins.inj same)
            rw [changed]
            cases attr <;> rfl
          · cases impossible
          · exact absurd rfl (other p)
  | setParams arg =>
      cases arg with
      | none =>
          obtain ⟨rfl, -⟩ := Prod.mk.inj (Option.some.inj answered)
          rfl
      | some c =>
          obtain ⟨rfl, -⟩ := Prod.mk.inj (Option.some.inj answered)
          cases attr <;> rfl

/-- A store changes the field of its own attribute only. -/
theorem store_other {stored : Attribute} {tmp : BitVec 32} {code : Int}
    (result : store grant board.gpioToIrq tmp session stored = some (after, code))
    (different : stored ≠ attr) : attr.field after.structp = attr.field session.structp := by
  cases stored with
  | trigger =>
      obtain ⟨-, rfl⟩ | ⟨-, changed⟩ := triggerStore_cases result
      · rfl
      · rw [changed]
        cases attr <;> first | rfl | exact absurd rfl different
  | echo =>
      obtain ⟨-, rfl⟩ | ⟨-, irqnum, changed⟩ := echoStore_cases result
      · rfl
      · rw [changed]
        cases attr <;> first | rfl | exact absurd rfl different
  | numberSamples =>
      obtain ⟨rfl, -⟩ := Prod.mk.inj (Option.some.inj result)
      unfold HSCStruct.samplesStore
      split_ifs
      · rfl
      · cases attr <;> first | rfl | exact absurd rfl different
  | samplePeriod =>
      obtain ⟨rfl, -⟩ := Prod.mk.inj (Option.some.inj result)
      unfold HSCStruct.speriodStore
      split_ifs
      · rfl
      · cases attr <;> first | rfl | exact absurd rfl different
  | enable =>
      obtain ⟨rfl, -⟩ := Prod.mk.inj (Option.some.inj result)
      unfold HSCStruct.enableStore
      split_ifs <;> cases attr <;> first | rfl | exact absurd rfl different

theorem store_field {stored : Attribute} {tmp : BitVec 32} {code : Int}
    (result : store grant board.gpioToIrq tmp session stored = some (after, code)) :
    attr.field after.structp =
      (assigned attr (.store stored tmp : SensorRequest File)).getD
        (attr.field session.structp) := by
  by_cases same : stored = attr
  · subst same
    by_cases accepted : stored.Accepts tmp.toInt
    · rw [(store_accepted accepted result).2, assigned, if_pos ⟨rfl, accepted⟩]
      rfl
    · obtain ⟨rfl, -⟩ := Prod.mk.inj (Option.some.inj ((store_refused accepted).symm.trans result))
      rw [assigned, if_neg (by simp [accepted])]
      rfl
  · rw [store_other result same, assigned, if_neg (by simp [same])]
    rfl

/-- What one event does to the field of an attribute. -/
theorem useSession_field (used : useSession board session (grant, request) = some after)
    (inside : ∀ now jiffies, request = .echo now jiffies → session.structp.sampleIndex.isSome) :
    attr.field after.structp = (assigned attr request).getD (attr.field session.structp) := by
  obtain ⟨⟨result, reply⟩, performed, rfl⟩ := Option.map_eq_some_iff.mp used
  cases request with
  | opens file =>
      obtain ⟨rfl, -⟩ := Prod.mk.inj (Option.some.inj performed)
      rfl
  | expire =>
      obtain ⟨rfl, -⟩ := Prod.mk.inj (Option.some.inj performed)
      exact (SameSettings.callback session.structp).field attr
  | poll file point now =>
      obtain ⟨result, executed, same⟩ := Option.map_eq_some_iff.mp performed
      obtain ⟨rfl, -⟩ := Prod.mk.inj same
      exact (executes_of_execute executed).settings.field attr
  | echo now jiffies =>
      obtain ⟨structp, written, same⟩ := Option.map_eq_some_iff.mp performed
      obtain ⟨rfl, -⟩ := Prod.mk.inj same
      have index := HSCStruct.sampleIndex_isSome.mp (inside now jiffies rfl)
      have within : session.structp.Within := ⟨by omega, index.2⟩
      obtain ⟨_, stored, onlyData, -⟩ := within.handler board.driver now jiffies
      obtain rfl := Option.some.inj (stored.symm.trans written)
      obtain ⟨_, _, _, _, rfl⟩ := onlyData
      cases attr <;> rfl
  | ioctl file command =>
      obtain ⟨result, answered, same⟩ := Option.map_eq_some_iff.mp performed
      obtain ⟨rfl, -⟩ := Prod.mk.inj same
      exact ioctl_field answered
  | store stored tmp =>
      obtain ⟨result, answered, same⟩ := Option.map_eq_some_iff.mp performed
      obtain ⟨rfl, -⟩ := Prod.mk.inj same
      exact store_field answered

theorem SettingRun.field (run : SettingRun board start trace session) (attr : Attribute) :
    attr.field session.structp = setting attr start trace := by
  induction run with
  | start => rfl
  | @next trace before after event _ inside stepTo ih =>
      obtain ⟨grant, request⟩ := event
      rw [useSession_field stepTo inside, ih, setting, setting, List.findSome?_cons]
      cases assigned attr request <;> rfl

/-- Along every run that stays inside the sample arrays, a readable attribute shows
its label and the number that it was given last.  The number is read back from the
text after the label, and a store of that part takes it; a store of the whole text
takes whatever its variable has held before. -/
theorem attributes_show_settings (run : SettingRun board start trace session)
    (readable : attr ≠ .enable) :
    ∃ text, attr.shown session.structp = some (attr.label ++ text) ∧
      leadingInteger text = some (setting attr start trace) ∧
      ∀ (sscanf : Sscanf) (grant : Grant) (stack : BitVec 32),
        (FitsInt (setting attr start trace) →
          storeText sscanf grant board.gpioToIrq text stack session attr =
            store grant board.gpioToIrq (BitVec.ofInt 32 (setting attr start trace)) session
              attr) ∧
        storeText sscanf grant board.gpioToIrq (attr.label ++ text) stack session attr =
          store grant board.gpioToIrq stack session attr := by
  refine ⟨formatInt (setting attr start trace) ++ ['\n'], ?_, leadingInteger_line _,
    fun sscanf grant stack => ⟨fun fits => storeText_line fits stack, ?_⟩⟩
  · rw [Attribute.shown_eq readable, SettingRun.field run attr, sprintf, List.append_assoc]
  · rw [← List.append_assoc]
    exact storeText_shown readable _ stack

/-- After `SET_PARAMS` with five samples `NUMBER_SAMPLES` shows seven. -/
theorem attributes_show_settings_seven :
    ∃ session, SettingRun twoFiles ⟨.zeroed, []⟩
        [(fun _ _ => true, .ioctl 1 (.setParams (some ⟨5, 5⟩)))] session ∧
      ∃ text, Attribute.numberSamples.shown session.structp =
        some ("number_samples:".toList ++ text) ∧ leadingInteger text = some 7 := by
  have run : SettingRun twoFiles ⟨.zeroed, []⟩
      [(fun _ _ => true, .ioctl 1 (.setParams (some ⟨5, 5⟩)))]
      ⟨HSCStruct.zeroed.setParams ⟨5, 5⟩, []⟩ :=
    .next .start nofun rfl
  obtain ⟨text, shown, read, -⟩ := @attributes_show_settings Nat _ _ _ .numberSamples _ run nofun
  exact ⟨_, run, text, shown, read⟩

end Runs

end Sensor

end KinuxKernel
