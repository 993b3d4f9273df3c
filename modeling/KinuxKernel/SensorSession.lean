import KinuxKernel.MeasurementRun

/-!
# A session on a sensor

The character device of the platform driver between open and close: pins are
claimed by `CONFIG_PINS`, and released by `sensor_close`.  After a completed
measurement the timer is off, so `sensor_close` keeps the gpios of the trigger,
and everything is released exactly when all configurations name one pin as both
trigger and echo.  A completed measurement is one whose echoes have all been stored
inside the sample arrays.
-/

namespace KinuxKernel

namespace Sensor

open TraceRun ResourceLedger

def EACCES : Int := 13

def ENOTTY : Int := 25

/-- `pins`, the argument of `CONFIG_PINS`. -/
structure Pins where
  echo : BitVec 32
  trigger : BitVec 32
deriving DecidableEq

/-- The command and argument of an ioctl; there is no argument when
`copy_from_user` fails. -/
inductive Ioctl where
  | configPins (arg : Option Pins)
  | setParams (arg : Option Conf)
  | other

/-- A sensor with what has been claimed for it. -/
structure Session where
  structp : HSCStruct
  ledger : Ledger

/-- `request_irq` and `gpio_request` differ in the resource only. -/
def requestIrq (grant : Grant) (irqnum : Int) (ledger : Ledger) : Ledger :=
  (requestAll grant ledger [.irq irqnum]).1

variable (grant : Grant) (gpioToIrq : BitVec 32 → Int)

/-- The branch of `sensor_ioctl` for `CONFIG_PINS`; undefined for a pin outside
the table. -/
def configPins (p : Pins) (session : Session) : Option Session :=
  let structp := { session.structp with trigger := p.trigger.toInt, echo := p.echo.toInt }
  (gpioConfig grant structp.trigger .output session.ledger).bind fun trigger =>
    (gpioConfig grant structp.echo .input trigger.1).bind fun echo =>
      (pinRow structp.echo).map fun row =>
        let irqnum := gpioToIrq (mainGpio row)
        ⟨{ structp with irqnum := irqnum }, requestIrq grant irqnum echo.1⟩

/-- `sensor_ioctl`. -/
def sensorIoctl (session : Session) : Ioctl → Option (Session × Int)
  | .configPins none | .setParams none => some (session, -EACCES)
  | .configPins (some p) => (configPins grant gpioToIrq p session).map fun after => (after, 0)
  | .setParams (some c) => some ({ session with structp := session.structp.setParams c }, 0)
  | .other => some (session, -ENOTTY)

/-- `hrtimer_cancel`, with its result; undefined for a timer that was never
initialised. -/
def hrtimerCancel : Timer → Option Bool
  | .uninitialised => none
  | .idle => some false
  | .pending => some true

/-- `sensor_close`.  The call of `gpio_deregister_out` is the body of the `if`. -/
def sensorClose (session : Session) : Option Session :=
  let ledger := Action.free (.irq session.structp.irqnum) :: session.ledger
  (hrtimerCancel session.structp.hrTimer).bind fun ret =>
    (if ret then gpioDeregisterOut session.structp.trigger ledger else some ledger).bind
      fun ledger => (gpioDeregisterIn session.structp.echo ledger).map fun ledger =>
        ⟨{ session.structp with hrTimer := .idle }, ledger⟩

/-- What a session does between open and close.  A write comes with the events
of its measurement run. -/
inductive Operation where
  | ioctl (command : Ioctl)
  | write (trace : List MeasurementEvent)

/-- An operation that completes.  A write completes when its run returns and none of its
echoes has been stored outside the sample arrays; what a session does after such an
echo is left out. -/
def operate (driver : Driver) (session : Session) : Operation → Option Session
  | .ioctl command => (sensorIoctl grant gpioToIrq session command).map Prod.fst
  | .write trace =>
      (replay (measure driver) (.start session.structp) trace).bind fun measurement =>
        if measurement.point = .done ∧ measurement.stray = false then
          some { session with structp := measurement.structp }
        else none

/-- The interrupt of a pin. -/
def pinIrq (ioPin : Int) : Option Int :=
  (pinRow ioPin).map fun row => gpioToIrq (mainGpio row)

/-- Configured pins are valid and not in use elsewhere; echoes come after a
trigger. -/
def Operation.Legal (inUse : Resource → Bool) : Operation → Prop
  | .ioctl (.configPins (some p)) =>
      ValidPin p.trigger.toInt ∧ ValidPin p.echo.toInt ∧
      (∀ resource ∈ pinGpios p.trigger.toInt, inUse resource = false) ∧
      (∀ resource ∈ pinGpios p.echo.toInt, inUse resource = false) ∧
      ∀ irqnum ∈ pinIrq gpioToIrq p.echo.toInt, inUse (.irq irqnum) = false
  | .ioctl _ => True
  | .write trace => ∀ now jiffies earlier, .echo now jiffies :: earlier <:+ trace →
      ∃ time, .poll .raisePin time ∈ earlier

/-- The operations of a session, newest first, on a sensor in any state for which
nothing is claimed. -/
abbrev SessionRun (driver : Driver) (inUse : Resource → Bool) (structp : HSCStruct) :
    List Operation → Session → Prop :=
  Run (operate (grantFree inUse) gpioToIrq driver) (each (Operation.Legal gpioToIrq inUse))
    ⟨structp, []⟩

def Operation.configured : Operation → Option Pins
  | .ioctl (.configPins arg) => arg
  | .ioctl _ | .write _ => none

/-- The configurations of a session, newest first. -/
def configurations (trace : List Operation) : List Pins :=
  trace.filterMap Operation.configured

def Operation.IsWrite : Operation → Prop
  | .write _ => True
  | .ioctl _ => False

/-- After `sensor_close` everything is released. -/
def ReleasesAll (session : Session) : Prop :=
  ∃ after, sensorClose session = some after ∧ Released after.ledger

/-- What a configuration wants to have claimed. -/
def Pins.claims (p : Pins) : List Resource :=
  pinGpios p.trigger.toInt ++ pinGpios p.echo.toInt ++
    (pinIrq gpioToIrq p.echo.toInt).toList.map .irq

/-- The gpios of a pin are claimed together. -/
def Whole (ledger : Ledger) (ioPin : Int) : Prop :=
  (∀ resource ∈ pinGpios ioPin, holds ledger resource = true) ∨
    ∀ resource ∈ pinGpios ioPin, holds ledger resource = false

section Claiming

variable {gpioToIrq} {inUse : Resource → Bool} {ledger after : Ledger} {ioPin other : Int}

theorem Whole.claim (whole : Whole ledger other) (valid : ValidPin ioPin)
    (otherValid : ValidPin other)
    (claimed : ∀ resource, holds after resource = true ↔
      resource ∈ pinGpios ioPin ∨ holds ledger resource = true) : Whole after other := by
  by_cases same : ioPin = other
  · subst same
    exact .inl fun resource member => (claimed resource).mpr (.inl member)
  · rcases whole with held | free
    · exact .inl fun resource member => (claimed resource).mpr (.inr (held resource member))
    · refine .inr fun resource member => ?_
      rw [Bool.eq_false_iff]
      intro held
      rcases (claimed resource).mp held with inside | before
      · exact same (pin_eq_of_mem valid otherValid inside member)
      · simp [free resource member] at before

/-- Configuring a pin claims its gpios, whether or not it is claimed already. -/
theorem gpioConfig_whole (dir : Direction) (valid : ValidPin ioPin) (whole : Whole ledger ioPin)
    (unused : ∀ resource ∈ pinGpios ioPin, inUse resource = false) (proper : Proper ledger) :
    ∃ result code, gpioConfig (grantFree inUse) ioPin dir ledger = some (result, code) ∧
      Proper result ∧ ∀ resource, holds result resource = true ↔
        resource ∈ pinGpios ioPin ∨ holds ledger resource = true := by
  rcases whole with held | free
  · refine ⟨ledger, _, gpioConfig_held valid held, proper, fun resource => ?_⟩
    exact (or_iff_right_of_imp (held resource)).symm
  · obtain ⟨result, configured, properResult, claimed⟩ :=
      gpioConfig_free dir valid unused free proper
    exact ⟨result, 0, configured, properResult, claimed⟩

theorem requestIrq_spec {irqnum : Int} (unused : inUse (.irq irqnum) = false)
    (proper : Proper ledger) :
    Proper (requestIrq (grantFree inUse) irqnum ledger) ∧
      ∀ resource, holds (requestIrq (grantFree inUse) irqnum ledger) resource = true ↔
        resource = .irq irqnum ∨ holds ledger resource = true := by
  cases held : holds ledger (.irq irqnum) with
  | true =>
      rw [requestIrq, requestAll_held held]
      refine ⟨proper, fun resource => (or_iff_right_of_imp ?_).symm⟩
      rintro rfl
      exact held
  | false =>
      have single : [Resource.irq irqnum].Nodup := by simp
      obtain ⟨-, properAfter, claimed⟩ := requestAll_free single (by simpa using unused)
        (by simpa using held) proper
      exact ⟨properAfter, fun resource => by rw [requestIrq, claimed, List.mem_singleton]⟩

end Claiming

/-- What holds throughout a session. -/
structure SessionInvariant (structp : HSCStruct) (trace : List Operation) (session : Session) :
    Prop where
  proper : Proper session.ledger
  valid : ∀ p ∈ configurations trace, ValidPin p.trigger.toInt ∧ ValidPin p.echo.toInt
  whole : ∀ ioPin, ValidPin ioPin → Whole session.ledger ioPin
  claimed : ∀ resource, holds session.ledger resource = true ↔
    ∃ p ∈ configurations trace, resource ∈ p.claims gpioToIrq
  last : ∀ p ∈ (configurations trace).head?, session.structp.echo = p.echo.toInt ∧
    pinIrq gpioToIrq p.echo.toInt = some session.structp.irqnum
  off : session.structp.hrTimer ≠ .pending
  timer : session.structp.hrTimer = .uninitialised ↔
    structp.hrTimer = .uninitialised ∧ ∀ operation ∈ trace, ¬ operation.IsWrite

section Invariant

variable {gpioToIrq} {driver : Driver} {inUse : Resource → Bool} {structp : HSCStruct}
  {trace : List Operation} {session after : Session}

theorem SessionInvariant.start (off : structp.hrTimer ≠ .pending) :
    SessionInvariant gpioToIrq structp [] ⟨structp, []⟩ where
  proper := trivial
  valid := by simp [configurations]
  whole := fun _ _ => .inr fun _ _ => rfl
  claimed := by simp [configurations]
  last := by simp [configurations]
  off := off
  timer := by simp

theorem configurations_config (p : Pins) :
    configurations (.ioctl (.configPins (some p)) :: trace) = p :: configurations trace :=
  rfl

/-- `CONFIG_PINS` claims what it names, in addition to what is claimed before. -/
theorem SessionInvariant.config (holds : SessionInvariant gpioToIrq structp trace session)
    {p : Pins}
    (legal : (Operation.ioctl (.configPins (some p))).Legal gpioToIrq inUse)
    (configured : configPins (grantFree inUse) gpioToIrq p session = some after) :
    SessionInvariant gpioToIrq structp (.ioctl (.configPins (some p)) :: trace) after := by
  obtain ⟨validTrigger, validEcho, unusedTrigger, unusedEcho, unusedIrq⟩ := legal
  obtain ⟨trigger, triggerCode, first, properTrigger, heldTrigger⟩ :=
    gpioConfig_whole .output validTrigger (holds.whole _ validTrigger) unusedTrigger
      holds.proper
  have wholeTrigger : ∀ ioPin, ValidPin ioPin → Whole trigger ioPin := fun ioPin valid =>
    (holds.whole ioPin valid).claim validTrigger valid heldTrigger
  obtain ⟨echo, echoCode, second, properEcho, heldEcho⟩ :=
    gpioConfig_whole .input validEcho (wholeTrigger _ validEcho) unusedEcho properTrigger
  obtain ⟨row, found⟩ := pinRow_of_valid validEcho
  have irq : pinIrq gpioToIrq p.echo.toInt = some (gpioToIrq (mainGpio row)) := by
    simp [pinIrq, found]
  obtain ⟨properIrq, heldIrq⟩ := requestIrq_spec (unusedIrq _ irq) properEcho
  have same : after = ⟨{ session.structp with
      trigger := p.trigger.toInt, echo := p.echo.toInt, irqnum := gpioToIrq (mainGpio row) },
      requestIrq (grantFree inUse) (gpioToIrq (mainGpio row)) echo⟩ := by
    simp only [configPins, first, second, found, Option.bind_some, Option.map_some,
      Option.some.injEq] at configured
    exact configured.symm
  subst same
  constructor
  · exact properIrq
  · rw [configurations_config]
    exact List.forall_mem_cons.mpr ⟨⟨validTrigger, validEcho⟩, holds.valid⟩
  · intro ioPin valid
    have wholeEcho := (wholeTrigger ioPin valid).claim validEcho valid heldEcho
    rcases wholeEcho with held | free
    · exact .inl fun resource member => (heldIrq resource).mpr (.inr (held resource member))
    · refine .inr fun resource member => ?_
      rw [Bool.eq_false_iff]
      intro held
      rcases (heldIrq resource).mp held with rfl | before
      · exact irq_not_mem _ member
      · simp [free resource member] at before
  · intro resource
    rw [heldIrq, heldEcho, heldTrigger, holds.claimed, configurations_config,
      List.exists_mem_cons_iff, Pins.claims, irq]
    simp only [List.mem_append, Option.toList_some, List.map_cons, List.map_nil,
      List.mem_singleton]
    tauto
  · rw [configurations_config]
    rintro q ⟨⟩
    exact ⟨rfl, irq⟩
  · exact holds.off
  · rw [holds.timer, List.forall_mem_cons]
    simp [Operation.IsWrite]

/-- An operation that claims nothing and keeps the sensor's echo pin. -/
theorem SessionInvariant.keep (holds : SessionInvariant gpioToIrq structp trace session)
    {operation : Operation} (unconfigured : operation.configured = none)
    (ledger : after.ledger = session.ledger) (echo : after.structp.echo = session.structp.echo)
    (irqnum : after.structp.irqnum = session.structp.irqnum)
    (off : after.structp.hrTimer ≠ .pending)
    (timer : after.structp.hrTimer = .uninitialised ↔
      session.structp.hrTimer = .uninitialised ∧ ¬ operation.IsWrite) :
    SessionInvariant gpioToIrq structp (operation :: trace) after := by
  have same : configurations (operation :: trace) = configurations trace :=
    List.filterMap_cons_none unconfigured
  constructor
  · rw [ledger]
    exact holds.proper
  · rw [same]
    exact holds.valid
  · rw [ledger]
    exact holds.whole
  · rw [ledger, same]
    exact holds.claimed
  · rw [same, echo, irqnum]
    exact holds.last
  · exact off
  · rw [timer, holds.timer, List.forall_mem_cons]
    tauto

/-- A refused `ioctl` changes nothing. -/
theorem SessionInvariant.refused (holds : SessionInvariant gpioToIrq structp trace session)
    {command : Ioctl} (unconfigured : (Operation.ioctl command).configured = none) :
    SessionInvariant gpioToIrq structp (.ioctl command :: trace) session :=
  holds.keep unconfigured rfl rfl rfl holds.off (by simp [Operation.IsWrite])

theorem SessionInvariant.write (holds : SessionInvariant gpioToIrq structp trace session)
    {events : List MeasurementEvent}
    (legal : (Operation.write events).Legal gpioToIrq inUse)
    (completed : operate (grantFree inUse) gpioToIrq driver session (.write events) =
      some after) :
    SessionInvariant gpioToIrq structp (.write events :: trace) after := by
  obtain ⟨measurement, replayed, kept⟩ := Option.bind_eq_some_iff.mp completed
  obtain ⟨⟨done, -⟩, same⟩ := Option.ite_none_right_eq_some.mp kept
  obtain rfl := Option.some.inj same
  have run : MeasurementRun driver session.structp events measurement := by
    refine run_of_replay_of_allowed (fun event earlier _ inside => ?_) replayed
    cases event with
    | poll | expire => trivial
    | echo now jiffies => exact legal now jiffies earlier inside
  have invariant := MeasurementRun.invariant holds.off run
  have idle : measurement.structp.hrTimer = .idle := by
    have flag := invariant.ended done
    rcases invariant.running (by simp [done, PollPoint.started]) with ⟨raised, -⟩ | ⟨-, idle⟩
    · simp [flag] at raised
    · exact idle
  exact holds.keep rfl rfl invariant.settings.echo invariant.settings.irqnum (by simp [idle])
    (by simp [idle, Operation.IsWrite])

/-- A timer that is off, and can be cancelled, has been initialised. -/
theorem idle_of_hrtimerCancel {timer : Timer} {ret : Bool} (off : timer ≠ .pending)
    (cancelled : hrtimerCancel timer = some ret) : timer = .idle := by
  cases timer with
  | uninitialised => cases cancelled
  | idle => rfl
  | pending => exact (off rfl).elim

/-- A write that completes leaves the settings, and the timer off. -/
theorem write_spec (off : session.structp.hrTimer ≠ .pending) {events : List MeasurementEvent}
    (legal : (Operation.write events).Legal gpioToIrq inUse)
    (completed : operate (grantFree inUse) gpioToIrq driver session (.write events) =
      some after) :
    after.ledger = session.ledger ∧ SameSettings session.structp after.structp ∧
      after.structp.hrTimer = .idle := by
  obtain ⟨measurement, replayed, kept⟩ := Option.bind_eq_some_iff.mp completed
  obtain ⟨⟨done, -⟩, same⟩ := Option.ite_none_right_eq_some.mp kept
  obtain rfl := Option.some.inj same
  have run : MeasurementRun driver session.structp events measurement := by
    refine run_of_replay_of_allowed (fun event earlier _ inside => ?_) replayed
    cases event with
    | poll | expire => trivial
    | echo now jiffies => exact legal now jiffies earlier inside
  have invariant := MeasurementRun.invariant off run
  have flag := invariant.ended done
  refine ⟨rfl, invariant.settings, ?_⟩
  rcases invariant.running (by simp [done, PollPoint.started]) with ⟨raised, -⟩ | ⟨-, idle⟩
  · simp [flag] at raised
  · exact idle

theorem SessionRun.invariant (off : structp.hrTimer ≠ .pending)
    (run : SessionRun gpioToIrq driver inUse structp trace session) :
    SessionInvariant gpioToIrq structp trace session := by
  induction run with
  | start => exact .start off
  | @next trace before after operation _ legal stepTo ih =>
      cases operation with
      | write events => exact ih.write legal stepTo
      | ioctl command =>
          obtain ⟨⟨result, code⟩, answered, rfl⟩ := Option.map_eq_some_iff.mp stepTo
          cases command with
          | configPins arg =>
              cases arg with
              | none =>
                  obtain ⟨rfl, -⟩ := Prod.mk.inj (Option.some.inj answered)
                  exact ih.refused rfl
              | some p =>
                  obtain ⟨configured, claimed, same⟩ := Option.map_eq_some_iff.mp answered
                  obtain ⟨rfl, -⟩ := Prod.mk.inj same
                  exact ih.config legal claimed
          | setParams arg =>
              cases arg with
              | none =>
                  obtain ⟨rfl, -⟩ := Prod.mk.inj (Option.some.inj answered)
                  exact ih.refused rfl
              | some c =>
                  obtain ⟨rfl, -⟩ := Prod.mk.inj (Option.some.inj answered)
                  exact ih.keep rfl rfl rfl rfl ih.off
                    (by simp [Operation.IsWrite, HSCStruct.setParams])
          | other =>
              obtain ⟨rfl, -⟩ := Prod.mk.inj (Option.some.inj answered)
              exact ih.refused rfl

/-- With the timer off, `sensor_close` frees the interrupt and the gpios of the echo
pin only. -/
theorem sensorClose_idle (idle : session.structp.hrTimer = .idle)
    (valid : ValidPin session.structp.echo) :
    ∃ result, sensorClose session = some result ∧ result.ledger =
      freeAll (.free (.irq session.structp.irqnum) :: session.ledger)
        (pinGpios session.structp.echo) := by
  refine ⟨⟨{ session.structp with hrTimer := .idle }, _⟩, ?_, rfl⟩
  simp [sensorClose, idle, hrtimerCancel, gpioDeregisterIn_eq valid]

/-- A configured pin is released by `sensor_close` exactly if it is the echo pin. -/
theorem SessionInvariant.released_iff (holds : SessionInvariant gpioToIrq structp trace session)
    (idle : session.structp.hrTimer = .idle) {p : Pins} {earlier : List Pins}
    (configured : configurations trace = p :: earlier) :
    ReleasesAll session ↔ ∀ q ∈ configurations trace, q.trigger = p.echo ∧ q.echo = p.echo := by
  obtain ⟨echo, irq⟩ := holds.last p (by simp [configured])
  have inside : p ∈ configurations trace := by simp [configured]
  have validEcho := (holds.valid p inside).2
  obtain ⟨result, closed, ledger⟩ := sensorClose_idle idle (echo ▸ validEcho)
  rw [echo] at ledger
  have releases : ReleasesAll session ↔ Released result.ledger := by
    simp [ReleasesAll, closed]
  have remaining (resource : Resource) : ResourceLedger.holds result.ledger resource = true ↔
      resource ∉ pinGpios p.echo.toInt ∧ resource ≠ .irq session.structp.irqnum ∧
        ∃ q ∈ configurations trace, resource ∈ q.claims gpioToIrq := by
    rw [ledger, holds_freeAll, ← holds.claimed resource]
    simp
  rw [releases, ResourceLedger.released_iff]
  constructor
  · -- a pin other than the echo pin would still be held
    rintro ⟨-, free⟩ q member
    have freed (ioPin : BitVec 32) (valid : ValidPin ioPin.toInt)
        (claimed : ∀ resource ∈ pinGpios ioPin.toInt, resource ∈ q.claims gpioToIrq) :
        ioPin = p.echo := by
      obtain ⟨resource, rest, gpios⟩ := List.exists_cons_of_ne_nil (pinGpios_ne_nil valid)
      have listed : resource ∈ pinGpios ioPin.toInt := by simp [gpios]
      apply BitVec.eq_of_toInt_eq
      apply pin_eq_of_mem valid validEcho listed
      by_contra absent
      have different : resource ≠ .irq session.structp.irqnum := by
        rintro rfl
        exact irq_not_mem _ listed
      have held := (remaining resource).mpr ⟨absent, different, q, member, claimed _ listed⟩
      simp [free resource] at held
    obtain ⟨validTrigger, validOther⟩ := holds.valid q member
    exact ⟨freed q.trigger validTrigger fun resource listed => by simp [Pins.claims, listed],
      freed q.echo validOther fun resource listed => by simp [Pins.claims, listed]⟩
  · intro same
    have claims : ∀ q ∈ configurations trace, ∀ resource ∈ q.claims gpioToIrq,
        resource ∈ pinGpios p.echo.toInt ∨ resource = .irq session.structp.irqnum := by
      intro q member resource claimed
      obtain ⟨sameTrigger, sameEcho⟩ := same q member
      simpa [Pins.claims, sameTrigger, sameEcho, irq] using claimed
    have ownClaims : ∀ resource ∈ p.claims gpioToIrq,
        ResourceLedger.holds session.ledger resource = true :=
      fun resource claimed => (holds.claimed resource).mpr ⟨p, inside, claimed⟩
    constructor
    · rw [ledger, proper_freeAll (pinGpios_nodup validEcho)]
      refine ⟨fun resource listed => ?_, ownClaims _ (by simp [Pins.claims, irq]), holds.proper⟩
      have different : resource ≠ .irq session.structp.irqnum := by
        rintro rfl
        exact irq_not_mem _ listed
      simpa [different] using ownClaims resource (by simp [Pins.claims, listed])
    · intro resource
      rw [Bool.eq_false_iff]
      intro held
      obtain ⟨notEcho, notIrq, q, member, claimed⟩ := (remaining resource).mp held
      rcases claims q member resource claimed with listed | same
      · exact notEcho listed
      · exact notIrq same

/-- Closing without a configuration frees an interrupt that is not held. -/
theorem SessionInvariant.not_released (holds : SessionInvariant gpioToIrq structp trace session)
    (unconfigured : configurations trace = []) : ¬ ReleasesAll session := by
  rintro ⟨result, closed, released⟩
  obtain ⟨ret, -, closed⟩ := Option.bind_eq_some_iff.mp closed
  obtain ⟨ledger, output, closed⟩ := Option.bind_eq_some_iff.mp closed
  obtain ⟨final, input, rfl⟩ := Option.map_eq_some_iff.mp closed
  obtain ⟨row, -, rfl⟩ := Option.map_eq_some_iff.mp input
  have proper : Proper ledger := released.onlyHeld.of_freeAll
  have freed : Proper (Action.free (.irq session.structp.irqnum) :: session.ledger) := by
    cases ret with
    | false =>
        obtain rfl := Option.some.inj output
        exact proper
    | true =>
        obtain ⟨triggerRow, -, rfl⟩ := Option.map_eq_some_iff.mp output
        exact proper.of_freeAll
  have held := (holds.claimed _).mp freed.1
  simp [unconfigured] at held

/-- A session releases all it claimed if and only if its configurations, at least
one, all name one and the same pin as trigger and as echo, and the timer has been
initialised by some write. -/
theorem session_releases_iff (off : structp.hrTimer ≠ .pending)
    (run : SessionRun gpioToIrq driver inUse structp trace session) :
    ReleasesAll session ↔
      (∃ ioPin, configurations trace ≠ [] ∧
        ∀ p ∈ configurations trace, p.trigger = ioPin ∧ p.echo = ioPin) ∧
      (structp.hrTimer = .idle ∨ ∃ operation ∈ trace, operation.IsWrite) := by
  have holds := SessionRun.invariant off run
  have initialised : session.structp.hrTimer = .idle ↔
      structp.hrTimer = .idle ∨ ∃ operation ∈ trace, operation.IsWrite := by
    have timer := holds.timer
    have offAfter := holds.off
    cases before : structp.hrTimer <;> cases now : session.structp.hrTimer <;>
      simp_all
  rw [← initialised]
  cases configured : configurations trace with
  | nil => simp [holds.not_released configured]
  | cons p earlier =>
      constructor
      · intro releases
        have idle : session.structp.hrTimer = .idle := by
          obtain ⟨result, closed, -⟩ := releases
          obtain ⟨ret, cancelled, -⟩ := Option.bind_eq_some_iff.mp closed
          cases timer : session.structp.hrTimer with
          | uninitialised => simp [timer, hrtimerCancel] at cancelled
          | pending => exact (holds.off timer).elim
          | idle => rfl
        have same := (holds.released_iff idle configured).mp releases
        rw [configured] at same
        exact ⟨⟨p.echo, by simp, same⟩, idle⟩
      · rintro ⟨⟨ioPin, -, same⟩, idle⟩
        have echo := (same p (List.mem_cons_self ..)).2
        apply (holds.released_iff idle configured).mpr
        rwa [configured, echo]

end Invariant

/-- A measurement of three samples without echoes. -/
def threeExpiries (now : Timeval) : List MeasurementEvent :=
  [.poll .testFlag1 now, .expire, .expire, .expire, .expire, .poll .clearFlag2 now,
    .poll .lowerPin now, .poll .clearTriggeropAgain now, .poll .setTrig now, .poll .getIni now] ++
    firstTrigger now

theorem threeExpiries_legal (time : Timeval) :
    (Operation.write (threeExpiries time)).Legal gpioToIrq fun _ => false := by
  intro now jiffies earlier inside
  have member := inside.subset (List.mem_cons_self ..)
  simp [threeExpiries, firstTrigger] at member

/-- Configure pins, set the number of samples and measure. -/
def measureOnce (p : Pins) (now : Timeval) : List Operation :=
  [.write (threeExpiries now), .ioctl (.setParams (some ⟨60, 1⟩)), .ioctl (.configPins (some p))]

/-- An interrupt for each gpio. -/
def shiftedIrq (gpio : BitVec 32) : Int :=
  gpio.toInt + 100

theorem measureOnce_run {p : Pins} {now : Timeval} (trigger : ValidPin p.trigger.toInt)
    (echo : ValidPin p.echo.toInt)
    (completes : (replay (operate (grantFree fun _ => false) shiftedIrq (part2 1000))
      ⟨.zeroed, []⟩ (measureOnce p now)).isSome) :
    ∃ session, SessionRun shiftedIrq (part2 1000) (fun _ => false) .zeroed (measureOnce p now)
      session := by
  apply exists_run_of_replay _ completes
  simp only [measureOnce, List.forall_mem_cons]
  exact ⟨threeExpiries_legal shiftedIrq now, trivial, ⟨trigger, echo, by simp, by simp, by simp⟩,
    by simp⟩

theorem trigger_stays_claimed :
    ∃ session, SessionRun shiftedIrq (part2 1000) (fun _ => false) .zeroed
      (measureOnce ⟨3, 2⟩ ⟨1, 0⟩) session ∧ ¬ ReleasesAll session := by
  have completes : (replay (operate (grantFree fun _ => false) shiftedIrq (part2 1000))
      ⟨.zeroed, []⟩ (measureOnce ⟨3, 2⟩ ⟨1, 0⟩)).isSome := by decide +kernel
  obtain ⟨session, run⟩ := measureOnce_run (by decide) (by decide) completes
  refine ⟨session, run, fun releases => ?_⟩
  have holds := SessionRun.invariant (by decide) run
  have idle : session.structp.hrTimer = .idle := by
    have timer := holds.timer
    have off := holds.off
    cases now : session.structp.hrTimer <;> simp_all [measureOnce, Operation.IsWrite]
  have same := (holds.released_iff idle (configurations_config _)).mp releases
  simp [measureOnce, configurations, Operation.configured] at same

theorem session_releases_shared :
    ∃ session, SessionRun shiftedIrq (part2 1000) (fun _ => false) .zeroed
      (measureOnce ⟨2, 2⟩ ⟨1, 0⟩) session ∧ ReleasesAll session := by
  have completes : (replay (operate (grantFree fun _ => false) shiftedIrq (part2 1000))
      ⟨.zeroed, []⟩ (measureOnce ⟨2, 2⟩ ⟨1, 0⟩)).isSome := by decide +kernel
  obtain ⟨session, run⟩ := measureOnce_run (by decide) (by decide) completes
  refine ⟨session, run, (session_releases_iff (by decide) run).mpr ⟨⟨2, ?_, ?_⟩, .inr ?_⟩⟩
  · simp [measureOnce, configurations, Operation.configured]
  · simp [measureOnce, configurations, Operation.configured]
  · exact ⟨_, List.mem_cons_self .., trivial⟩

end Sensor

end KinuxKernel
