import KinuxKernel.PinTables

/-!
# A configuration whose requests fail

`CONFIG_PINS` of both drivers looks neither at the result of `gpio_config` nor at that
of `request_irq`.  Each of its three groups of requests may be answered in its own way,
also when trigger and echo are the same pin.
-/

namespace KinuxKernel

namespace Sensor

open ResourceLedger

/-- The kernel's answers to the requests for the two rows and for the interrupt. -/
structure Answers where
  trigger : Grant
  echo : Grant
  irq : Grant

variable (answers : Answers) (gpioToIrq : BitVec 32 → Int) (p : Pins) (session : Session)

/-- The branch of `sensor_ioctl` for `CONFIG_PINS` with these answers, and its result. -/
def configPinsAnswered : Option (Session × Int) :=
  let structp := { session.structp with trigger := p.trigger.toInt, echo := p.echo.toInt }
  (gpioConfig answers.trigger structp.trigger .output session.ledger).bind fun trigger =>
    (gpioConfig answers.echo structp.echo .input trigger.1).bind fun echo =>
      (pinRow structp.echo).map fun row =>
        let irqnum := gpioToIrq (mainGpio row)
        (⟨{ structp with irqnum := irqnum }, requestIrq answers.irq irqnum echo.1⟩, 0)

/-- If all requests are answered alike, this is `sensor_ioctl`. -/
theorem sensorIoctl_eq_configPinsAnswered (grant : Grant) :
    sensorIoctl grant gpioToIrq session (.configPins (some p)) =
      configPinsAnswered ⟨grant, grant, grant⟩ gpioToIrq p session := by
  simp [sensorIoctl, configPins, configPinsAnswered, Option.map_bind, Function.comp_def]

/-- Every request of the configuration is granted. -/
structure EveryRequestGranted : Prop where
  trigger : GrantsAll answers.trigger session.ledger (pinGpios p.trigger.toInt)
  echo : ∀ trigger,
    gpioConfig answers.trigger p.trigger.toInt .output session.ledger = some trigger →
    GrantsAll answers.echo trigger.1 (pinGpios p.echo.toInt)
  irq : ∀ trigger echo,
    gpioConfig answers.trigger p.trigger.toInt .output session.ledger = some trigger →
    gpioConfig answers.echo p.echo.toInt .input trigger.1 = some echo →
    ∀ irqnum ∈ pinIrq gpioToIrq p.echo.toInt, GrantsAll answers.irq echo.1 [.irq irqnum]

/-- After a failed request the `ioctl` is refused, holds nothing that was not held
before, and keeps the fields; after the result 0 all is held. -/
structure LeavesNothingHalfDone (after : Session) (code : Int) : Prop where
  refused : ¬ EveryRequestGranted answers gpioToIrq p session → code < 0
  released : ¬ EveryRequestGranted answers gpioToIrq p session →
    ∀ resource, holds after.ledger resource = true → holds session.ledger resource = true
  kept : ¬ EveryRequestGranted answers gpioToIrq p session →
    after.structp.trigger = session.structp.trigger ∧
      after.structp.echo = session.structp.echo ∧
      after.structp.irqnum = session.structp.irqnum
  held : code = 0 → ∀ resource ∈ p.claims gpioToIrq, holds after.ledger resource = true

def ConfiguresCleanly : Prop :=
  ∃ after code, configPinsAnswered answers gpioToIrq p session = some (after, code) ∧
    LeavesNothingHalfDone answers gpioToIrq p session after code

section Pins

variable {grant : Grant} {ioPin : Int} {dir : Direction} {ledger : Ledger}

/-- `gpio_config` leaves behind what its requests have claimed, and tells its caller
whether all of them have been granted. -/
theorem gpioConfig_eq_some {configured : Ledger × Int}
    (config : gpioConfig grant ioPin dir ledger = some configured) :
    (∀ resource, holds configured.1 resource =
      holds (requestAll grant ledger (pinGpios ioPin)).1 resource) ∧
      (configured.2 = 0 ↔ GrantsAll grant ledger (pinGpios ioPin)) := by
  rw [← PinTable.gpioConfig_pinArray] at config
  obtain ⟨held, -, granted⟩ := PinTable.gpioConfig_eq_some config
  exact ⟨held, granted⟩

end Pins

section Clean

variable {answers gpioToIrq p session}

/-- With valid pins the `ioctl` returns 0, whatever has been granted. -/
theorem exists_configPinsAnswered (validTrigger : ValidPin p.trigger.toInt)
    (validEcho : ValidPin p.echo.toInt) :
    ∃ trigger echo irqnum,
      gpioConfig answers.trigger p.trigger.toInt .output session.ledger = some trigger ∧
      gpioConfig answers.echo p.echo.toInt .input trigger.1 = some echo ∧
      pinIrq gpioToIrq p.echo.toInt = some irqnum ∧
      configPinsAnswered answers gpioToIrq p session = some (⟨{ session.structp with
        trigger := p.trigger.toInt, echo := p.echo.toInt, irqnum := irqnum },
        requestIrq answers.irq irqnum echo.1⟩, 0) := by
  obtain ⟨row, found⟩ := pinRow_of_valid validTrigger
  obtain ⟨echoRow, echoFound⟩ := pinRow_of_valid validEcho
  refine ⟨_, _, _, by rw [gpioConfig, found, Option.map_some],
    by rw [gpioConfig, echoFound, Option.map_some],
    by rw [pinIrq, echoFound, Option.map_some], ?_⟩
  simp [configPinsAnswered, gpioConfig, found, echoFound]

/-- For valid pins a configuration leaves nothing half done if and only if every request
is granted. -/
theorem configures_cleanly_iff (validTrigger : ValidPin p.trigger.toInt)
    (validEcho : ValidPin p.echo.toInt) :
    ConfiguresCleanly answers gpioToIrq p session ↔
      EveryRequestGranted answers gpioToIrq p session := by
  obtain ⟨trigger, echo, irqnum, first, second, irq, configured⟩ :=
    @exists_configPinsAnswered answers gpioToIrq p session validTrigger validEcho
  constructor
  · rintro ⟨after, code, same, clean⟩
    by_contra failed
    have refused := clean.refused failed
    obtain ⟨-, rfl⟩ := Prod.mk.inj (Option.some.inj (configured.symm.trans same))
    omega
  · intro granted
    refine ⟨_, 0, configured, ?_⟩
    constructor
    · exact fun failed => (failed granted).elim
    · exact fun failed => (failed granted).elim
    · exact fun failed => (failed granted).elim
    · intro _ resource member
      rw [Pins.claims, irq, List.mem_append, List.mem_append] at member
      rcases member with (member | member) | member
      · apply holds_requestAll
        rw [(gpioConfig_eq_some second).1]
        apply holds_requestAll
        rw [(gpioConfig_eq_some first).1]
        exact granted.trigger.holds member
      · apply holds_requestAll
        rw [(gpioConfig_eq_some second).1]
        exact (granted.echo trigger first).holds member
      · exact (granted.irq trigger echo first second irqnum irq).holds (by simpa using member)

end Clean

/-- A kernel that has given away some gpios. -/
def freshAnswers (inUse : Resource → Bool) : Answers :=
  ⟨grantFree inUse, grantFree inUse, grantFree inUse⟩

theorem configures_cleanly_fresh :
    ConfiguresCleanly (freshAnswers fun _ => false) BitVec.toInt ⟨3, 2⟩ ⟨.zeroed, []⟩ := by
  apply (configures_cleanly_iff (by decide) (by decide)).mpr
  constructor
  · exact ⟨rfl, rfl, rfl, trivial⟩
  · intro trigger config
    obtain rfl := Option.some.inj config
    exact ⟨rfl, rfl, rfl, rfl, trivial⟩
  · intro trigger echo config again irqnum irq
    obtain rfl := Option.some.inj config
    obtain rfl := Option.some.inj again
    obtain rfl := Option.some.inj irq
    exact ⟨rfl, trivial⟩

/-- The first gpio of the trigger is in use elsewhere; the `ioctl` returns 0. -/
theorem failed_request_ignored :
    ¬ ConfiguresCleanly (freshAnswers fun resource => resource = .gpio 13) BitVec.toInt ⟨3, 2⟩
      ⟨.zeroed, []⟩ := by
  rintro ⟨after, code, same, clean⟩
  obtain ⟨trigger, echo, irqnum, -, -, -, configured⟩ :=
    @exists_configPinsAnswered (freshAnswers fun resource => resource = .gpio 13) BitVec.toInt
      ⟨3, 2⟩ ⟨.zeroed, []⟩ (by decide) (by decide)
  obtain ⟨-, rfl⟩ := Prod.mk.inj (Option.some.inj (configured.symm.trans same))
  have failed : ¬ EveryRequestGranted (freshAnswers fun resource => resource = .gpio 13)
      BitVec.toInt ⟨3, 2⟩ ⟨.zeroed, []⟩ := by
    intro granted
    have first := granted.trigger.1
    revert first
    decide
  have refused := clean.refused failed
  omega

end Sensor

end KinuxKernel
