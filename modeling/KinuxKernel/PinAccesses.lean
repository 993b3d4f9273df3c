import KinuxKernel.SensorAttributes
import KinuxKernel.Ultrasonic

/-!
# The rows of the pin table that are read

Both sensor drivers index the pin table with the arguments of `CONFIG_PINS` and of
stores, and with the two fields that keep them.  No pin is ever refused by
`CONFIG_PINS`, and a field that has not been written contains what its memory
contained.
-/

namespace KinuxKernel

namespace Sensor

open TraceRun ResourceLedger

/-- The driver `ultrasonic.c` and the driver `platform_driver.c`. -/
inductive Version where
  | part1
  | part2
deriving DecidableEq

/-- What happens to a sensor.  A write is executed statement by statement; an
interrupt may leave anything but the pins and the ledger different. -/
inductive PinEvent where
  | opens
  | ioctl (grant : Grant) (command : Ioctl)
  | poll (point : PollPoint) (now : Timeval)
  | expire
  | interrupt (written : HSCStruct)
  | store (grant : Grant) (attr : Attribute) (tmp : BitVec 32)
  | close
  | remove

/-- What `P_driver_remove` does to the structure of the device. -/
def removeSensor (session : Session) : Option Session :=
  (hrtimerCancel session.structp.hrTimer).bind fun _ =>
    (releaseTrigger
      { session with ledger := .free (.irq session.structp.irqnum) :: session.ledger }).bind
        fun ledger =>
          (if session.structp.echo ≥ 0 ∧ session.structp.echo ≤ 19 then
            gpioDeregisterIn session.structp.echo ledger
          else some ledger).map fun ledger =>
            ⟨{ session.structp with hrTimer := .idle, minorNum := -1 }, ledger⟩

variable (gpioToIrq : BitVec 32 → Int)

/-- One step of a driver; `ultrasonic.c` has no attributes and is not removed. -/
def useSensor (version : Version) (session : Session) : PinEvent → Option Session
  | .opens =>
      match version with
      | .part1 => Ultrasonic.sensorOpen gpioToIrq session
      | .part2 => some session
  | .ioctl grant command => (sensorIoctl grant gpioToIrq session command).map Prod.fst
  | .poll point now =>
      (execute now session.structp point).map fun result =>
        { session with structp := result.1 }
  | .expire => some { session with structp := session.structp.myHrtimerCallback }
  | .interrupt written =>
      if written.trigger = session.structp.trigger ∧ written.echo = session.structp.echo then
        some { session with structp := written }
      else none
  | .store grant attr tmp =>
      match version with
      | .part1 => none
      | .part2 => (store grant gpioToIrq tmp session attr).map Prod.fst
  | .close =>
      match version with
      | .part1 => Ultrasonic.sensorClose session
      | .part2 => sensorClose session
  | .remove =>
      match version with
      | .part1 => none
      | .part2 => removeSensor session

/-- The memory of the structure at first: `struct1` is zeroed, and `kmalloc` returns
some contents. -/
def firstContents (contents : HSCStruct) : Version → HSCStruct
  | .part1 => .zeroed
  | .part2 => contents

/-- How an event uses the row that a field names: not at all, as it is, or only
if it is from zero to a limit. -/
inductive Use where
  | unused
  | reads
  | tests (limit : Int)

namespace Use

/-- The rows that are accessed. -/
def rows (use : Use) (field : Int) : List Int :=
  match use with
  | .unused => []
  | .reads => [field]
  | .tests limit => if 0 ≤ field ∧ field ≤ limit then [field] else []

/-- The use of a field stays inside the initialised rows. -/
def Safe (use : Use) (field : Int) : Prop :=
  match use with
  | .unused => True
  | .reads => ValidPin field
  | .tests limit => ¬ (13 < field ∧ field ≤ limit)

theorem safe_iff (use : Use) (field : Int) :
    (∀ ioPin ∈ use.rows field, ValidPin ioPin) ↔ use.Safe field := by
  cases use with
  | unused => simp [rows, Safe]
  | reads => simp [rows, Safe]
  | tests limit =>
      by_cases inside : 0 ≤ field ∧ field ≤ limit
      · simp only [rows, Safe, ValidPin, if_pos inside, List.mem_singleton, forall_eq]
        omega
      · simp only [rows, Safe, if_neg inside, List.not_mem_nil, false_implies, implies_true,
          true_iff]
        omega

theorem safe_of_valid (use : Use) {field : Int} (valid : ValidPin field) : use.Safe field := by
  cases use with
  | unused => trivial
  | reads => exact valid
  | tests limit => exact fun outside => absurd valid.2 (by omega)

/-- A field that keeps the last pin given, if there is one, is used safely. -/
theorem safe_of_last (use : Use) {last : Option Int} {first : Int}
    (valid : ∀ ioPin ∈ last, ValidPin ioPin) (unset : last = none → use.Safe first) :
    use.Safe (last.getD first) := by
  cases last with
  | none => exact unset rfl
  | some ioPin => exact use.safe_of_valid (valid ioPin rfl)

end Use

/-- The stores that `trigger_store` and `echo_store` accept. -/
def acceptedPin (tmp : BitVec 32) : Option Int :=
  if tmp.toInt > 13 ∨ tmp.toInt < 1 then none else some tmp.toInt

/-- The pin that an event puts into the field `trigger`. -/
def givenTrigger : Version → PinEvent → Option Int
  | _, .ioctl _ (.configPins (some p)) => some p.trigger.toInt
  | .part2, .store _ .trigger tmp => acceptedPin tmp
  | _, _ => none

/-- The pin that an event puts into the field `echo`. -/
def givenEcho : Version → PinEvent → Option Int
  | _, .ioctl _ (.configPins (some p)) => some p.echo.toInt
  | .part2, .store _ .echo tmp => acceptedPin tmp
  | _, _ => none

/-- How an event uses the old value of `trigger`. -/
def triggerUse (timer : Timer) : Version → PinEvent → Use
  | _, .poll .raisePin _ | _, .poll .lowerPin _ => .reads
  | .part1, .close => if timer = .uninitialised then .unused else .reads
  | .part2, .close => if timer = .pending then .reads else .unused
  | .part2, .store _ .trigger tmp => if (acceptedPin tmp).isSome then .tests 19 else .unused
  | .part2, .remove => if timer = .uninitialised then .unused else .tests 19
  | _, _ => .unused

/-- How an event uses the old value of `echo`. -/
def echoUse (timer : Timer) : Version → PinEvent → Use
  | .part1, .opens => .reads
  | _, .close => if timer = .uninitialised then .unused else .reads
  | .part2, .store _ .echo tmp => if (acceptedPin tmp).isSome then .tests 13 else .unused
  | .part2, .remove => if timer = .uninitialised then .unused else .tests 19
  | _, _ => .unused

/-- All rows of the table that an event accesses. -/
def accesses (version : Version) (structp : HSCStruct) (event : PinEvent) : List Int :=
  (triggerUse structp.hrTimer version event).rows structp.trigger ++
    (echoUse structp.hrTimer version event).rows structp.echo ++
    (givenTrigger version event).toList ++ (givenEcho version event).toList

/-- Only initialised rows are accessed, and other pins are refused by `CONFIG_PINS`. -/
structure OnlyRealPins (version : Version) (contents : HSCStruct) (trace : List PinEvent) :
    Prop where
  accesses : ∀ event earlier session, event :: earlier <:+ trace →
    replay (useSensor gpioToIrq version) ⟨firstContents contents version, []⟩ earlier =
      some session →
    ∀ ioPin ∈ accesses version session.structp event, ValidPin ioPin
  refuses : ∀ grant p earlier session, .ioctl grant (.configPins (some p)) :: earlier <:+ trace →
    replay (useSensor gpioToIrq version) ⟨firstContents contents version, []⟩ earlier =
      some session →
    ¬ (ValidPin p.trigger.toInt ∧ ValidPin p.echo.toInt) →
    ∃ code < 0, sensorIoctl grant gpioToIrq session (.configPins (some p)) = some (session, code)

/-- `CONFIG_PINS` names real pins, and as long as nothing has been put into a field, the
contents of the memory are harmless for the events that use it. -/
structure RealPinsGiven (version : Version) (contents : HSCStruct) (trace : List PinEvent) :
    Prop where
  configured : ∀ grant p earlier session,
    .ioctl grant (.configPins (some p)) :: earlier <:+ trace →
    replay (useSensor gpioToIrq version) ⟨firstContents contents version, []⟩ earlier =
      some session →
    ValidPin p.trigger.toInt ∧ ValidPin p.echo.toInt
  trigger : ∀ event earlier session, event :: earlier <:+ trace →
    replay (useSensor gpioToIrq version) ⟨firstContents contents version, []⟩ earlier =
      some session →
    earlier.findSome? (givenTrigger version) = none →
    (triggerUse session.structp.hrTimer version event).Safe (firstContents contents version).trigger
  echo : ∀ event earlier session, event :: earlier <:+ trace →
    replay (useSensor gpioToIrq version) ⟨firstContents contents version, []⟩ earlier =
      some session →
    earlier.findSome? (givenEcho version) = none →
    (echoUse session.structp.hrTimer version event).Safe (firstContents contents version).echo

/-- What an event needs besides the pin table. -/
def Able (version : Version) (session : Session) : PinEvent → Prop
  | .poll point _ => point ≠ .done
  | .interrupt written =>
      written.trigger = session.structp.trigger ∧ written.echo = session.structp.echo
  | .store _ _ _ => version = .part2
  | .close => session.structp.hrTimer ≠ .uninitialised
  | .remove => version = .part2 ∧ session.structp.hrTimer ≠ .uninitialised
  | .opens | .ioctl _ _ | .expire => True

section Steps

variable {gpioToIrq} {version : Version} {session after : Session} {event : PinEvent}
  {structp : HSCStruct}

theorem forall_accesses {good : Int → Prop} :
    (∀ ioPin ∈ accesses version structp event, good ioPin) ↔
      ((∀ ioPin ∈ (triggerUse structp.hrTimer version event).rows structp.trigger, good ioPin) ∧
        ∀ ioPin ∈ (echoUse structp.hrTimer version event).rows structp.echo, good ioPin) ∧
      (∀ ioPin ∈ givenTrigger version event, good ioPin) ∧
        ∀ ioPin ∈ givenEcho version event, good ioPin := by
  simp only [accesses, List.forall_mem_append, Option.mem_toList, Option.mem_def, and_assoc]

/-- The rows accessed are real if both fields are used safely and the pins given are
real. -/
theorem accesses_valid_iff :
    (∀ ioPin ∈ accesses version structp event, ValidPin ioPin) ↔
      ((triggerUse structp.hrTimer version event).Safe structp.trigger ∧
        (echoUse structp.hrTimer version event).Safe structp.echo) ∧
      (∀ ioPin ∈ givenTrigger version event, ValidPin ioPin) ∧
        ∀ ioPin ∈ givenEcho version event, ValidPin ioPin := by
  rw [forall_accesses, Use.safe_iff, Use.safe_iff]

theorem configPins_isSome {grant : Grant} {p : Pins} :
    (configPins grant gpioToIrq p session).isSome ↔
      (pinRow p.trigger.toInt).isSome ∧ (pinRow p.echo.toInt).isSome := by
  cases trigger : pinRow p.trigger.toInt <;> cases echo : pinRow p.echo.toInt <;>
    simp [configPins, gpioConfig, trigger, echo]

/-- A release behind a range test goes on exactly if no row that passes the test is
outside the array. -/
theorem tested_isSome {limit field : Int} {released : Option Ledger} {ledger : Ledger}
    (row : released.isSome ↔ (pinRow field).isSome) :
    (if field ≥ 0 ∧ field ≤ limit then released else some ledger).isSome ↔
      ∀ ioPin ∈ (Use.tests limit).rows field, (pinRow ioPin).isSome := by
  unfold Use.rows
  by_cases looksLike : 0 ≤ field ∧ field ≤ limit
  · simp [looksLike, row]
  · simp [looksLike]

theorem gpioDeregisterIn_isSome {ioEcho : Int} {ledger : Ledger} :
    (gpioDeregisterIn ioEcho ledger).isSome ↔ (pinRow ioEcho).isSome := by
  simp [gpioDeregisterIn]

theorem releaseTrigger_isSome : (releaseTrigger session).isSome ↔
    ∀ ioPin ∈ (Use.tests 19).rows session.structp.trigger, (pinRow ioPin).isSome := by
  apply tested_isSome
  simp [gpioDeregisterOut]

theorem releaseEcho_isSome : (releaseEcho session).isSome ↔
    ∀ ioPin ∈ (Use.tests 13).rows session.structp.echo, (pinRow ioPin).isSome := by
  apply tested_isSome
  rw [Option.isSome_map, gpioDeregisterIn_isSome]

theorem triggerStore_isSome {grant : Grant} {tmp : BitVec 32} :
    (triggerStore grant tmp session).isSome ↔ ∀ ioPin ∈ acceptedPin tmp,
      (releaseTrigger session).isSome ∧ (pinRow ioPin).isSome := by
  unfold triggerStore acceptedPin
  split_ifs
  · simp
  · cases releaseTrigger session <;> cases row : pinRow tmp.toInt <;> simp [gpioConfig, row]

theorem echoStore_isSome {grant : Grant} {tmp : BitVec 32} :
    (echoStore grant gpioToIrq tmp session).isSome ↔ ∀ ioPin ∈ acceptedPin tmp,
      (releaseEcho session).isSome ∧ (pinRow ioPin).isSome := by
  unfold echoStore acceptedPin
  split_ifs
  · simp
  · cases releaseEcho session <;> cases row : pinRow tmp.toInt <;> simp [gpioConfig, row]

theorem sensorClose_isSome : (sensorClose session).isSome ↔
    session.structp.hrTimer ≠ .uninitialised ∧ (pinRow session.structp.echo).isSome ∧
      (session.structp.hrTimer = .pending → (pinRow session.structp.trigger).isSome) := by
  cases timer : session.structp.hrTimer <;> cases trigger : pinRow session.structp.trigger <;>
    cases echo : pinRow session.structp.echo <;>
    simp [sensorClose, hrtimerCancel, gpioDeregisterOut, gpioDeregisterIn, timer, trigger, echo]

theorem ultrasonicClose_isSome : (Ultrasonic.sensorClose session).isSome ↔
    session.structp.hrTimer ≠ .uninitialised ∧ (pinRow session.structp.trigger).isSome ∧
      (pinRow session.structp.echo).isSome := by
  cases timer : session.structp.hrTimer <;> cases trigger : pinRow session.structp.trigger <;>
    cases echo : pinRow session.structp.echo <;>
    simp [Ultrasonic.sensorClose, Ultrasonic.gpioDeregister, hrtimerCancel, timer, trigger, echo]

theorem hrtimerCancel_isSome {timer : Timer} :
    (hrtimerCancel timer).isSome ↔ timer ≠ .uninitialised := by
  cases timer <;> simp [hrtimerCancel]

theorem removeSensor_isSome : (removeSensor session).isSome ↔
    session.structp.hrTimer ≠ .uninitialised ∧
      (∀ ioPin ∈ (Use.tests 19).rows session.structp.trigger, (pinRow ioPin).isSome) ∧
      ∀ ioPin ∈ (Use.tests 19).rows session.structp.echo, (pinRow ioPin).isSome := by
  have trigger := @releaseTrigger_isSome
    { session with ledger := .free (.irq session.structp.irqnum) :: session.ledger }
  have echo (ledger : Ledger) := @tested_isSome 19 session.structp.echo _ ledger
    (@gpioDeregisterIn_isSome session.structp.echo ledger)
  rw [← hrtimerCancel_isSome, ← trigger, removeSensor]
  cases hrtimerCancel session.structp.hrTimer with
  | none => simp
  | some cancelled =>
      simp only [Option.bind_some]
      cases releaseTrigger _ with
      | none => simp
      | some ledger => simp [← echo ledger]

/-- The listed rows are the ones that the driver needs: it goes on exactly if all of
them are inside the array. -/
theorem useSensor_isSome_iff : (useSensor gpioToIrq version session event).isSome ↔
    Able version session event ∧
      ∀ ioPin ∈ accesses version session.structp event, (pinRow ioPin).isSome := by
  rw [forall_accesses]
  cases event with
  | opens =>
      cases version <;>
        simp [useSensor, Able, triggerUse, echoUse, givenTrigger, givenEcho, Use.rows,
          Ultrasonic.sensorOpen]
  | ioctl grant command =>
      rcases command with (_ | p) | (_ | c) | _
      case configPins.some =>
        simp [useSensor, Able, triggerUse, echoUse, givenTrigger, givenEcho, Use.rows,
          sensorIoctl, configPins_isSome]
      all_goals
        simp [useSensor, Able, triggerUse, echoUse, givenTrigger, givenEcho, Use.rows,
          sensorIoctl]
  | poll point now =>
      cases point <;>
        simp [useSensor, Able, triggerUse, echoUse, givenTrigger, givenEcho, Use.rows, execute]
  | expire | interrupt written =>
      simp [useSensor, Able, triggerUse, echoUse, givenTrigger, givenEcho, Use.rows]
  | store grant attr tmp =>
      cases version with
      | part1 => simp [useSensor, Able]
      | part2 =>
          cases attr with
          | trigger =>
              cases accepted : acceptedPin tmp <;>
                simp [useSensor, Able, triggerUse, echoUse, givenTrigger, givenEcho, store,
                  triggerStore_isSome, releaseTrigger_isSome, accepted, Use.rows]
          | echo =>
              cases accepted : acceptedPin tmp <;>
                simp [useSensor, Able, triggerUse, echoUse, givenTrigger, givenEcho, store,
                  echoStore_isSome, releaseEcho_isSome, accepted, Use.rows]
          | numberSamples | samplePeriod | enable =>
              simp [useSensor, Able, triggerUse, echoUse, givenTrigger, givenEcho, store,
                Use.rows]
  | close =>
      cases version <;> cases timer : session.structp.hrTimer <;>
        simp [useSensor, Able, triggerUse, echoUse, givenTrigger, givenEcho, Use.rows,
          sensorClose_isSome, ultrasonicClose_isSome, timer, and_comm]
  | remove =>
      cases version with
      | part1 => simp [useSensor, Able]
      | part2 =>
          cases timer : session.structp.hrTimer <;>
            simp [useSensor, Able, triggerUse, echoUse, givenTrigger, givenEcho,
              removeSensor_isSome, timer]

theorem given_of_unconfigured {grant : Grant} {command : Ioctl}
    (unconfigured : ∀ p, command ≠ .configPins (some p)) :
    givenTrigger version (.ioctl grant command) = none ∧
      givenEcho version (.ioctl grant command) = none := by
  rcases command with (_ | p) | (_ | c) | _
  case configPins.some => exact (unconfigured p rfl).elim
  all_goals simp [givenTrigger, givenEcho]

theorem ioctl_pins {grant : Grant} {command : Ioctl} {code : Int}
    (answered : sensorIoctl grant gpioToIrq session command = some (after, code)) :
    after.structp.trigger =
        (givenTrigger version (.ioctl grant command)).getD session.structp.trigger ∧
      after.structp.echo =
        (givenEcho version (.ioctl grant command)).getD session.structp.echo := by
  obtain ⟨p, irqnum, rfl, same⟩ | ⟨c, rfl, same⟩ | ⟨unconfigured, rfl⟩ := sensorIoctl_cases answered
  · simp [givenTrigger, givenEcho, same]
  · simp [givenTrigger, givenEcho, same, HSCStruct.setParams]
  · obtain ⟨trigger, echo⟩ := @given_of_unconfigured version grant command unconfigured
    rw [trigger, echo]
    exact ⟨rfl, rfl⟩

theorem store_pins {grant : Grant} {attr : Attribute} {tmp : BitVec 32} {code : Int}
    (stored : store grant gpioToIrq tmp session attr = some (after, code)) :
    after.structp.trigger =
        (givenTrigger .part2 (.store grant attr tmp)).getD session.structp.trigger ∧
      after.structp.echo =
        (givenEcho .part2 (.store grant attr tmp)).getD session.structp.echo := by
  cases attr with
  | trigger =>
      obtain ⟨refused, rfl⟩ | ⟨accepted, same⟩ := triggerStore_cases stored
      · simp [givenTrigger, givenEcho, acceptedPin, refused]
      · simp [givenTrigger, givenEcho, acceptedPin, accepted, same]
  | echo =>
      obtain ⟨refused, rfl⟩ | ⟨accepted, irqnum, same⟩ := echoStore_cases stored
      · simp [givenTrigger, givenEcho, acceptedPin, refused]
      · simp [givenTrigger, givenEcho, acceptedPin, accepted, same]
  | numberSamples =>
      obtain ⟨rfl, -⟩ := Prod.mk.inj (Option.some.inj stored)
      unfold HSCStruct.samplesStore
      split_ifs <;> exact ⟨rfl, rfl⟩
  | samplePeriod =>
      obtain ⟨rfl, -⟩ := Prod.mk.inj (Option.some.inj stored)
      unfold HSCStruct.speriodStore
      split_ifs <;> exact ⟨rfl, rfl⟩
  | enable =>
      obtain ⟨rfl, -⟩ := Prod.mk.inj (Option.some.inj stored)
      unfold HSCStruct.enableStore
      split_ifs <;> exact ⟨rfl, rfl⟩

theorem close_pins (closed : sensorClose session = some after) :
    after.structp.trigger = session.structp.trigger ∧
      after.structp.echo = session.structp.echo := by
  obtain ⟨ret, -, closed⟩ := Option.bind_eq_some_iff.mp closed
  obtain ⟨ledger, -, closed⟩ := Option.bind_eq_some_iff.mp closed
  obtain ⟨released, -, rfl⟩ := Option.map_eq_some_iff.mp closed
  exact ⟨rfl, rfl⟩

theorem ultrasonicClose_pins (closed : Ultrasonic.sensorClose session = some after) :
    after.structp.trigger = session.structp.trigger ∧
      after.structp.echo = session.structp.echo := by
  obtain ⟨ret, -, closed⟩ := Option.bind_eq_some_iff.mp closed
  obtain ⟨released, -, rfl⟩ := Option.map_eq_some_iff.mp closed
  exact ⟨rfl, rfl⟩

theorem remove_pins (removed : removeSensor session = some after) :
    after.structp.trigger = session.structp.trigger ∧
      after.structp.echo = session.structp.echo := by
  obtain ⟨ret, -, removed⟩ := Option.bind_eq_some_iff.mp removed
  obtain ⟨ledger, -, removed⟩ := Option.bind_eq_some_iff.mp removed
  obtain ⟨released, -, rfl⟩ := Option.map_eq_some_iff.mp removed
  exact ⟨rfl, rfl⟩

/-- The fields keep the pins that have been put into them. -/
theorem useSensor_pins (stepTo : useSensor gpioToIrq version session event = some after) :
    after.structp.trigger = (givenTrigger version event).getD session.structp.trigger ∧
      after.structp.echo = (givenEcho version event).getD session.structp.echo := by
  cases event with
  | opens =>
      cases version with
      | part1 =>
          obtain ⟨row, -, rfl⟩ := Option.map_eq_some_iff.mp stepTo
          exact ⟨rfl, rfl⟩
      | part2 =>
          obtain rfl := Option.some.inj stepTo
          exact ⟨rfl, rfl⟩
  | ioctl grant command =>
      obtain ⟨⟨result, code⟩, answered, rfl⟩ := Option.map_eq_some_iff.mp stepTo
      exact ioctl_pins answered
  | poll point now =>
      obtain ⟨⟨structp, target⟩, executed, rfl⟩ := Option.map_eq_some_iff.mp stepTo
      have settings := (executes_of_execute executed).settings
      cases version <;> exact ⟨settings.trigger, settings.echo⟩
  | expire =>
      obtain rfl := Option.some.inj stepTo
      have settings := SameSettings.callback session.structp
      cases version <;> exact ⟨settings.trigger, settings.echo⟩
  | interrupt written =>
      obtain ⟨⟨trigger, echo⟩, same⟩ := Option.ite_none_right_eq_some.mp stepTo
      obtain rfl := Option.some.inj same
      cases version <;> exact ⟨trigger, echo⟩
  | store grant attr tmp =>
      cases version with
      | part1 => cases stepTo
      | part2 =>
          obtain ⟨⟨result, code⟩, stored, rfl⟩ := Option.map_eq_some_iff.mp stepTo
          exact store_pins stored
  | close =>
      cases version with
      | part1 => exact ultrasonicClose_pins stepTo
      | part2 => exact close_pins stepTo
  | remove =>
      cases version with
      | part1 => cases stepTo
      | part2 => exact remove_pins stepTo

end Steps

section Traces

variable {gpioToIrq} {version : Version} {contents : HSCStruct} {trace earlier : List PinEvent}
  {session : Session} {event : PinEvent}

/-- The fields contain the last pins given, or what the memory contained. -/
theorem pins_of_replay
    (reached : replay (useSensor gpioToIrq version) ⟨firstContents contents version, []⟩ trace =
      some session) :
    session.structp.trigger = (trace.findSome? (givenTrigger version)).getD
        (firstContents contents version).trigger ∧
      session.structp.echo = (trace.findSome? (givenEcho version)).getD
        (firstContents contents version).echo := by
  induction trace generalizing session with
  | nil =>
      obtain rfl := Option.some.inj reached
      exact ⟨rfl, rfl⟩
  | cons event trace ih =>
      obtain ⟨before, reachedBefore, stepTo⟩ := Option.bind_eq_some_iff.mp reached
      obtain ⟨trigger, echo⟩ := useSensor_pins stepTo
      obtain ⟨triggerBefore, echoBefore⟩ := ih reachedBefore
      rw [trigger, echo, triggerBefore, echoBefore, List.findSome?_cons, List.findSome?_cons]
      constructor
      · cases givenTrigger version event <;> rfl
      · cases givenEcho version event <;> rfl

theorem valid_of_accepted {tmp : BitVec 32} {ioPin : Int}
    (accepted : acceptedPin tmp = some ioPin) : ValidPin ioPin := by
  obtain ⟨inRange, same⟩ := Option.ite_none_left_eq_some.mp accepted
  obtain rfl := Option.some.inj same
  simp only [not_or, not_lt] at inRange
  exact ⟨by omega, by omega⟩

/-- A given pin is real if those of `CONFIG_PINS` are. -/
theorem given_valid (configured : ∀ grant p, event = .ioctl grant (.configPins (some p)) →
      ValidPin p.trigger.toInt ∧ ValidPin p.echo.toInt) :
    (∀ ioPin ∈ givenTrigger version event, ValidPin ioPin) ∧
      ∀ ioPin ∈ givenEcho version event, ValidPin ioPin := by
  cases event with
  | ioctl grant command =>
      by_cases names : ∃ p, command = .configPins (some p)
      · obtain ⟨p, rfl⟩ := names
        obtain ⟨trigger, echo⟩ := configured grant p rfl
        simp [givenTrigger, givenEcho, trigger, echo]
      · obtain ⟨trigger, echo⟩ :=
          @given_of_unconfigured version grant command (not_exists.mp names)
        simp [trigger, echo]
  | store grant attr tmp =>
      cases version with
      | part1 => simp [givenTrigger, givenEcho]
      | part2 =>
          cases attr with
          | trigger => exact ⟨fun ioPin given => valid_of_accepted given, by simp [givenEcho]⟩
          | echo => exact ⟨by simp [givenTrigger], fun ioPin given => valid_of_accepted given⟩
          | numberSamples | samplePeriod | enable => simp [givenTrigger, givenEcho]
  | _ => cases version <;> simp [givenTrigger, givenEcho]

theorem forall_findSome?_cons {given : PinEvent → Option Int} {good : Int → Prop}
    (here : ∀ ioPin ∈ given event, good ioPin)
    (before : ∀ ioPin ∈ earlier.findSome? given, good ioPin) :
    ∀ ioPin ∈ (event :: earlier).findSome? given, good ioPin := by
  rw [List.findSome?_cons]
  cases now : given event with
  | none => exact before
  | some ioPin => simpa [now] using here

/-- Once given, a field keeps a real pin. -/
theorem RealPinsGiven.valid (given : RealPinsGiven gpioToIrq version contents trace)
    (inside : earlier <:+ trace)
    (reached : replay (useSensor gpioToIrq version) ⟨firstContents contents version, []⟩ earlier =
      some session) :
    (∀ ioPin ∈ earlier.findSome? (givenTrigger version), ValidPin ioPin) ∧
      ∀ ioPin ∈ earlier.findSome? (givenEcho version), ValidPin ioPin := by
  induction earlier generalizing session with
  | nil => simp
  | cons event earlier ih =>
      obtain ⟨before, reachedBefore, -⟩ := Option.bind_eq_some_iff.mp reached
      obtain ⟨triggerBefore, echoBefore⟩ :=
        ih ((List.suffix_cons event earlier).trans inside) reachedBefore
      have here := @given_valid version event fun grant p same =>
        given.configured grant p earlier before (same ▸ inside) reachedBefore
      exact ⟨forall_findSome?_cons here.1 triggerBefore, forall_findSome?_cons here.2 echoBefore⟩

/-- Accesses to the table stay inside the initialised rows, for both drivers, if and
only if every `CONFIG_PINS` names real pins and no field is used before a pin has
been put into it, unless its memory contained something harmless. -/
theorem only_real_pins_iff :
    OnlyRealPins gpioToIrq version contents trace ↔
      RealPinsGiven gpioToIrq version contents trace := by
  constructor
  · intro real
    have used {event : PinEvent} {earlier : List PinEvent} {session : Session}
        (inside : event :: earlier <:+ trace)
        (reached : replay (useSensor gpioToIrq version) ⟨firstContents contents version, []⟩
          earlier = some session) :=
      accesses_valid_iff.mp (real.accesses event earlier session inside reached)
    constructor
    · intro grant p earlier session inside reached
      obtain ⟨-, trigger, echo⟩ := used inside reached
      cases version <;> exact ⟨trigger _ rfl, echo _ rfl⟩
    · intro event earlier session inside reached unset
      have field := (pins_of_replay reached).1
      rw [unset, Option.getD_none] at field
      rw [← field]
      exact (used inside reached).1.1
    · intro event earlier session inside reached unset
      have field := (pins_of_replay reached).2
      rw [unset, Option.getD_none] at field
      rw [← field]
      exact (used inside reached).1.2
  · intro given
    constructor
    · intro event earlier session inside reached
      obtain ⟨trigger, echo⟩ := pins_of_replay reached
      obtain ⟨validTrigger, validEcho⟩ :=
        given.valid ((List.suffix_cons event earlier).trans inside) reached
      have here := @given_valid version event fun grant p same =>
        given.configured grant p earlier session (same ▸ inside) reached
      refine accesses_valid_iff.mpr ⟨⟨?_, ?_⟩, here⟩
      · rw [trigger]
        exact Use.safe_of_last _ validTrigger (given.trigger event earlier session inside reached)
      · rw [echo]
        exact Use.safe_of_last _ validEcho (given.echo event earlier session inside reached)
    · intro grant p earlier session inside reached unreal
      exact (unreal (given.configured grant p earlier session inside reached)).elim

/-- The zeroed structure of `ultrasonic.c` names pin 0, so that only `CONFIG_PINS`
matters. -/
theorem RealPinsGiven.part1_iff : RealPinsGiven gpioToIrq .part1 contents trace ↔
    ∀ grant p earlier session, .ioctl grant (.configPins (some p)) :: earlier <:+ trace →
      replay (useSensor gpioToIrq .part1) ⟨.zeroed, []⟩ earlier = some session →
      ValidPin p.trigger.toInt ∧ ValidPin p.echo.toInt := by
  constructor
  · exact fun given => given.configured
  · intro configured
    have zero : ValidPin 0 := by decide
    exact ⟨configured, fun _ _ _ _ _ _ => Use.safe_of_valid _ zero,
      fun _ _ _ _ _ _ => Use.safe_of_valid _ zero⟩

end Traces

/-- Both drivers take pin 14 from `CONFIG_PINS`, and a store to `TRIGGER` releases the
row that fresh memory happens to name. -/
theorem unreal_pins_accessed :
    (∀ version, ¬ OnlyRealPins shiftedIrq version .zeroed
      [.ioctl (fun _ _ => true) (.configPins (some ⟨2, 14⟩))]) ∧
      ¬ OnlyRealPins shiftedIrq .part2 { HSCStruct.zeroed with trigger := 15 }
        [.store (fun _ _ => true) .trigger 3] := by
  constructor
  · intro version real
    have rows := real.accesses _ [] _ (List.suffix_refl _) rfl 14
      (by cases version <;> decide)
    exact absurd rows (by decide)
  · intro real
    have rows := real.accesses _ [] _ (List.suffix_refl _) rfl 15 (by decide)
    exact absurd rows (by decide)

end Sensor

end KinuxKernel
