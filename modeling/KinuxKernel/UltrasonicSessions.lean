import KinuxKernel.SensorAttributes
import KinuxKernel.Ultrasonic

/-!
# A session on the sensor without attributes

What stays claimed after `sensor_close` of `ultrasonic.c`, which frees the entries greater than
zero of the last trigger and echo pins.  So gpio 0 behind pin 5 is never freed, and an entry -1 is
freed without having been claimed.  The writes of a session are completed runs, without echoes
outside the sample arrays.
-/

namespace KinuxKernel

namespace Sensor

open TraceRun ResourceLedger

namespace Ultrasonic

/-- What `gpio_deregister` frees for a pin. -/
def freed (ioPin : Int) : List Resource :=
  ((pinRow ioPin).map freedGpios).getD []

section Table

variable {ioPin other : Int} {resource : Resource}

/-- Of the gpios of a pin, only gpio 0 is not freed. -/
theorem mem_freed_iff (member : resource ∈ pinGpios ioPin) :
    resource ∈ freed ioPin ↔ resource ≠ .gpio 0 := by
  cases found : pinRow ioPin with
  | none => simp [pinGpios, found] at member
  | some row =>
      simp only [pinGpios, found, Option.map_some, Option.getD_some, rowGpios, List.mem_map,
        List.mem_filter, Vector.mem_toList_iff] at member
      obtain ⟨gpio, ⟨entry, -⟩, rfl⟩ := member
      simp [freed, found, freedGpios, entry, BitVec.pos_iff_ne_zero]

/-- What is freed for a pin is one of its gpios, or -1. -/
theorem mem_pinGpios_of_freed (member : resource ∈ freed ioPin) (real : resource ≠ .gpio noGpio) :
    resource ∈ pinGpios ioPin := by
  cases found : pinRow ioPin with
  | none => simp [freed, found] at member
  | some row =>
      simp only [freed, found, Option.map_some, Option.getD_some, freedGpios,
        List.mem_map, List.mem_filter, Vector.mem_toList_iff] at member
      obtain ⟨gpio, ⟨entry, -⟩, rfl⟩ := member
      have isGpio : gpio ≠ noGpio := fun same => real (congrArg Resource.gpio same)
      simp [pinGpios, found, rowGpios, entry, isGpio]

theorem noGpio_not_mem : Resource.gpio noGpio ∉ pinGpios ioPin := by
  cases found : pinRow ioPin <;> simp [pinGpios, found, rowGpios]

theorem irq_not_freed (number : Int) : Resource.irq number ∉ freed ioPin := by
  cases found : pinRow ioPin <;> simp [freed, found, freedGpios]

theorem zero_mem_iff (valid : ValidPin ioPin) : Resource.gpio 0 ∈ pinGpios ioPin ↔ ioPin = 5 := by
  obtain ⟨low, high⟩ := valid
  interval_cases ioPin <;> decide

/-- Only two pins have four gpios. -/
theorem noGpio_freed_iff (valid : ValidPin ioPin) :
    Resource.gpio noGpio ∈ freed ioPin ↔ ¬ (ioPin = 3 ∨ ioPin = 11) := by
  obtain ⟨low, high⟩ := valid
  interval_cases ioPin <;> decide

theorem freed_nodup (four : ioPin = 3 ∨ ioPin = 11) : (freed ioPin).Nodup := by
  rcases four with rfl | rfl <;> decide

theorem exists_freed (valid : ValidPin ioPin) : ∃ resource, resource ∈ freed ioPin := by
  obtain ⟨low, high⟩ := valid
  interval_cases ioPin <;> exact ⟨_, List.mem_cons_self ..⟩

/-- The gpios of a pin are freed for one of two pins if and only if it is one of these, and not
the pin with gpio 0. -/
theorem covered_iff {trigger echo : Int} (valid : ValidPin ioPin) (triggerValid : ValidPin trigger)
    (echoValid : ValidPin echo) :
    (∀ resource ∈ pinGpios ioPin, resource ∈ freed trigger ∨ resource ∈ freed echo) ↔
      (ioPin = trigger ∨ ioPin = echo) ∧ ioPin ≠ 5 := by
  constructor
  · intro covered
    have same {pin : Int} (pinValid : ValidPin pin) {resource : Resource}
        (listed : resource ∈ pinGpios ioPin) (member : resource ∈ freed pin) : ioPin = pin := by
      have real : resource ≠ .gpio noGpio := by
        rintro rfl
        exact noGpio_not_mem listed
      exact pin_eq_of_mem valid pinValid listed (mem_pinGpios_of_freed member real)
    obtain ⟨resource, rest, gpios⟩ := List.exists_cons_of_ne_nil (pinGpios_ne_nil valid)
    have listed : resource ∈ pinGpios ioPin := by simp [gpios]
    constructor
    · exact (covered resource listed).imp (same triggerValid listed) (same echoValid listed)
    · intro five
      have zero := (zero_mem_iff valid).mpr five
      rcases covered _ zero with member | member
      · obtain rfl := same triggerValid zero member
        exact (mem_freed_iff zero).mp member rfl
      · obtain rfl := same echoValid zero member
        exact (mem_freed_iff zero).mp member rfl
  · rintro ⟨one, notFive⟩ resource listed
    have notZero : resource ≠ .gpio 0 := by
      rintro rfl
      exact notFive ((zero_mem_iff valid).mp listed)
    have member := (mem_freed_iff listed).mpr notZero
    rcases one with rfl | rfl
    · exact .inl member
    · exact .inr member

end Table

section Closing

variable {gpioToIrq : BitVec 32 → Int} {driver : Driver} {inUse : Resource → Bool}
  {structp : HSCStruct} {trace : List Operation} {session after : Session} {p : Pins}
  {earlier : List Pins}

/-- After `sensor_close` nothing is claimed. -/
def LeavesNothing (session : Session) : Prop :=
  ∃ after, sensorClose session = some after ∧ ∀ resource, holds after.ledger resource = false

/-- And `sensor_close` has freed nothing else. -/
def ClosesCleanly (session : Session) : Prop :=
  ∃ after, sensorClose session = some after ∧ Released after.ledger

theorem configured_eq_none {command : Ioctl} (unconfigured : ∀ p, command ≠ .configPins (some p)) :
    (Operation.ioctl command).configured = none := by
  rcases command with (_ | p) | c | _
  case configPins.some => exact (unconfigured p rfl).elim
  all_goals rfl

/-- The trigger pin is that of the last configuration. -/
theorem trigger_of_run (off : structp.hrTimer ≠ .pending)
    (run : SessionRun gpioToIrq driver inUse structp trace session) :
    ∀ p ∈ (configurations trace).head?, session.structp.trigger = p.trigger.toInt := by
  induction run with
  | start => simp [configurations]
  | @next trace before after operation previous legal stepTo ih =>
      cases operation with
      | write events =>
          have settings := (write_spec (SessionRun.invariant off previous).off legal stepTo).2.1
          rw [settings.trigger]
          exact ih
      | ioctl command =>
          obtain ⟨⟨result, code⟩, answered, rfl⟩ := Option.map_eq_some_iff.mp stepTo
          obtain ⟨p, irqnum, rfl, same⟩ | ⟨c, rfl, same⟩ | ⟨unconfigured, rfl⟩ :=
            sensorIoctl_cases answered
          · rw [configurations_config]
            rintro q ⟨⟩
            exact congrArg HSCStruct.trigger same
          · have kept : result.structp.trigger = before.structp.trigger := by
              rw [same]
              rfl
            rw [kept]
            exact ih
          · rw [configurations, List.filterMap_cons_none (configured_eq_none unconfigured)]
            exact ih

/-- What `sensor_close` frees. -/
theorem sensorClose_eq (idle : session.structp.hrTimer = .idle)
    (trigger : ValidPin session.structp.trigger) (echo : ValidPin session.structp.echo) :
    ∃ result, sensorClose session = some result ∧ ∃ gpio, result.ledger =
      freeAll (freeAll (setValue gpio false (.free (.irq session.structp.irqnum) :: session.ledger))
        (freed session.structp.trigger)) (freed session.structp.echo) := by
  obtain ⟨triggerRow, foundTrigger⟩ := pinRow_of_valid trigger
  obtain ⟨echoRow, foundEcho⟩ := pinRow_of_valid echo
  refine ⟨⟨{ session.structp with hrTimer := .idle }, _⟩, ?_, mainGpio triggerRow, rfl⟩
  simp [sensorClose, idle, hrtimerCancel, gpioDeregister, freed, foundTrigger, foundEcho]

/-- The timer is off in the end if some write has initialised it. -/
theorem idle_iff (off : structp.hrTimer ≠ .pending)
    (run : SessionRun gpioToIrq driver inUse structp trace session) :
    session.structp.hrTimer = .idle ↔
      structp.hrTimer = .idle ∨ ∃ operation ∈ trace, operation.IsWrite := by
  have invariant := SessionRun.invariant off run
  have timer := invariant.timer
  have offAfter := invariant.off
  cases before : structp.hrTimer <;> cases now : session.structp.hrTimer <;> simp_all

/-- `sensor_close` frees the interrupt and the pins of the last configuration. -/
theorem exists_closed (off : structp.hrTimer ≠ .pending)
    (run : SessionRun gpioToIrq driver inUse structp trace session)
    (configured : configurations trace = p :: earlier) (idle : session.structp.hrTimer = .idle) :
    ∃ result irqnum gpio, sensorClose session = some result ∧
      pinIrq gpioToIrq p.echo.toInt = some irqnum ∧ holds session.ledger (.irq irqnum) = true ∧
      result.ledger = freeAll (freeAll (setValue gpio false (.free (.irq irqnum) :: session.ledger))
        (freed p.trigger.toInt)) (freed p.echo.toInt) := by
  have invariant := SessionRun.invariant off run
  have inside : p ∈ configurations trace := by simp [configured]
  obtain ⟨validTrigger, validEcho⟩ := invariant.valid p inside
  obtain ⟨echo, irq⟩ := invariant.last p (by simp [configured])
  have trigger := trigger_of_run off run p (by simp [configured])
  obtain ⟨result, closed, gpio, ledger⟩ :=
    sensorClose_eq idle (trigger ▸ validTrigger) (echo ▸ validEcho)
  rw [trigger, echo] at ledger
  refine ⟨result, session.structp.irqnum, gpio, closed, irq, ?_, ledger⟩
  exact (invariant.claimed _).mpr ⟨p, inside, by simp [Pins.claims, irq]⟩

/-- When the last configuration is `p`, closing frees what `q` has claimed: its pins are those
of `p`, without gpio 0, and it has the same interrupt. -/
structure FreedWith (gpioToIrq : BitVec 32 → Int) (p q : Pins) : Prop where
  trigger : q.trigger = p.trigger ∨ q.trigger = p.echo
  echo : q.echo = p.trigger ∨ q.echo = p.echo
  notZero : q.trigger ≠ 5 ∧ q.echo ≠ 5
  irq : pinIrq gpioToIrq q.echo.toInt = pinIrq gpioToIrq p.echo.toInt

/-- The pins of a configuration in the table. -/
def ValidPins (p : Pins) : Prop :=
  ValidPin p.trigger.toInt ∧ ValidPin p.echo.toInt

theorem claimed_pin_iff {ioPin : BitVec 32} {irqnum : Int} (valid : ValidPin ioPin.toInt)
    (pins : ValidPins p) :
    (∀ resource ∈ pinGpios ioPin.toInt, resource ∈ freed p.trigger.toInt ∨
        resource ∈ freed p.echo.toInt ∨ resource = .irq irqnum) ↔
      (ioPin = p.trigger ∨ ioPin = p.echo) ∧ ioPin ≠ 5 := by
  have five : ioPin.toInt = 5 ↔ ioPin = 5 := BitVec.toInt_inj (y := 5)
  rw [← BitVec.toInt_inj (x := ioPin) (y := p.trigger), ← BitVec.toInt_inj (y := p.echo), ne_eq,
    ← five, ← covered_iff valid pins.1 pins.2]
  refine forall₂_congr fun resource listed => ?_
  have isGpio : resource ≠ .irq irqnum := by
    rintro rfl
    exact irq_not_mem _ listed
  simp [isGpio]

theorem freedWith_iff {q : Pins} {irqnum : Int} (pins : ValidPins p) (valid : ValidPins q)
    (irq : pinIrq gpioToIrq p.echo.toInt = some irqnum) :
    (∀ resource ∈ q.claims gpioToIrq, resource ∈ freed p.trigger.toInt ∨
        resource ∈ freed p.echo.toInt ∨ resource = .irq irqnum) ↔ FreedWith gpioToIrq p q := by
  obtain ⟨row, found⟩ := pinRow_of_valid valid.2
  have own : pinIrq gpioToIrq q.echo.toInt = some (gpioToIrq (mainGpio row)) := by
    simp [pinIrq, found]
  rw [Pins.claims, List.forall_mem_append, List.forall_mem_append, claimed_pin_iff valid.1 pins,
    claimed_pin_iff valid.2 pins]
  have interrupt : (∀ resource ∈ (pinIrq gpioToIrq q.echo.toInt).toList.map Resource.irq,
      resource ∈ freed p.trigger.toInt ∨ resource ∈ freed p.echo.toInt ∨ resource = .irq irqnum) ↔
      pinIrq gpioToIrq q.echo.toInt = pinIrq gpioToIrq p.echo.toInt := by
    simp [own, irq, irq_not_freed]
  rw [interrupt]
  constructor
  · rintro ⟨⟨⟨trigger, notTrigger⟩, echo, notEcho⟩, same⟩
    exact ⟨trigger, echo, ⟨notTrigger, notEcho⟩, same⟩
  · rintro ⟨trigger, echo, ⟨notTrigger, notEcho⟩, same⟩
    exact ⟨⟨⟨trigger, notTrigger⟩, echo, notEcho⟩, same⟩

/-- Everything that closing frees is held if and only if the two pins are different, and have
four gpios each. -/
theorem proper_closed_iff {ledger : Ledger} {trigger echo : Int} (triggerValid : ValidPin trigger)
    (echoValid : ValidPin echo) (proper : Proper ledger)
    (real : holds ledger (.gpio noGpio) = false)
    (claimed : ∀ resource ∈ pinGpios trigger ++ pinGpios echo, holds ledger resource = true) :
    Proper (freeAll (freeAll ledger (freed trigger)) (freed echo)) ↔
      trigger ≠ echo ∧ (trigger = 3 ∨ trigger = 11) ∧ (echo = 3 ∨ echo = 11) := by
  obtain ⟨triggerClaimed, echoClaimed⟩ := List.forall_mem_append.mp claimed
  constructor
  · intro properAfter
    obtain ⟨heldEcho, properTrigger⟩ :=
      (proper_freeAll properAfter.nodup_of_freeAll).mp properAfter
    obtain ⟨heldTrigger, -⟩ := (proper_freeAll properTrigger.nodup_of_freeAll).mp properTrigger
    refine ⟨?_, ?_, ?_⟩
    · rintro rfl
      obtain ⟨resource, member⟩ := exists_freed triggerValid
      exact ((holds_freeAll resource).mp (heldEcho resource member)).1 member
    · by_contra two
      have held := heldTrigger _ ((noGpio_freed_iff triggerValid).mpr two)
      exact Bool.false_ne_true (real.symm.trans held)
    · by_contra two
      have freedBefore := heldEcho _ ((noGpio_freed_iff echoValid).mpr two)
      have held := ((holds_freeAll _).mp freedBefore).2
      exact Bool.false_ne_true (real.symm.trans held)
  · rintro ⟨different, fourTrigger, fourEcho⟩
    have listed {pin : Int} (valid : ValidPin pin) (four : pin = 3 ∨ pin = 11)
        {resource : Resource} (member : resource ∈ freed pin) : resource ∈ pinGpios pin := by
      apply mem_pinGpios_of_freed member
      rintro rfl
      exact (noGpio_freed_iff valid).mp member four
    rw [proper_freeAll (freed_nodup fourEcho), proper_freeAll (freed_nodup fourTrigger)]
    refine ⟨fun resource member => ?_, fun resource member => ?_, proper⟩
    · have own := listed echoValid fourEcho member
      refine (holds_freeAll resource).mpr ⟨fun again => ?_, echoClaimed resource own⟩
      exact different (pin_eq_of_mem triggerValid echoValid
        (listed triggerValid fourTrigger again) own)
    · exact triggerClaimed resource (listed triggerValid fourTrigger member)

/-- What is held after frees that follow the ones of the interrupt and the two pins. -/
theorem nothing_held_iff {ledger : Ledger} {irqnum : Int} {gpio : BitVec 32} {trigger echo : Int}
    {claims : Resource → Prop} (claimed : ∀ resource, holds ledger resource = true ↔
      claims resource) :
    (∀ resource, holds (freeAll (freeAll (setValue gpio false (.free (.irq irqnum) :: ledger))
        (freed trigger)) (freed echo)) resource = false) ↔
      ∀ resource, claims resource →
        resource ∈ freed trigger ∨ resource ∈ freed echo ∨ resource = .irq irqnum := by
  refine forall_congr' fun resource => ?_
  rw [← claimed, Bool.eq_false_iff, ne_eq, holds_freeAll, holds_freeAll, setValue, holds_effect,
    holds_free, Bool.and_eq_true, decide_eq_true_eq]
  tauto

/-- After a session, everything that closing frees is held only for the pins 3 and 11. -/
theorem proper_of_closed (invariant : SessionInvariant gpioToIrq structp trace session)
    (inside : p ∈ configurations trace) {irqnum : Int}
    (held : holds session.ledger (.irq irqnum) = true) (gpio : BitVec 32) :
    Proper (freeAll (freeAll (setValue gpio false (.free (.irq irqnum) :: session.ledger))
        (freed p.trigger.toInt)) (freed p.echo.toInt)) ↔
      p.trigger = 3 ∧ p.echo = 11 ∨ p.trigger = 11 ∧ p.echo = 3 := by
  obtain ⟨validTrigger, validEcho⟩ := invariant.valid p inside
  have real : holds (setValue gpio false (.free (.irq irqnum) :: session.ledger))
      (.gpio noGpio) = false := by
    rw [Bool.eq_false_iff]
    intro isHeld
    have before : holds session.ledger (.gpio noGpio) = true := by
      simpa [setValue] using isHeld
    obtain ⟨q, -, claimed⟩ := (invariant.claimed _).mp before
    simp [Pins.claims, noGpio_not_mem] at claimed
  have claimed : ∀ resource ∈ pinGpios p.trigger.toInt ++ pinGpios p.echo.toInt,
      holds (setValue gpio false (.free (.irq irqnum) :: session.ledger)) resource = true := by
    intro resource member
    have isGpio : resource ≠ .irq irqnum := by
      rintro rfl
      rcases List.mem_append.mp member with listed | listed <;> exact irq_not_mem _ listed
    have before := (invariant.claimed resource).mpr
      ⟨p, inside, List.mem_append_left _ member⟩
    simp [setValue, isGpio, before]
  have three (pin : BitVec 32) : pin.toInt = 3 ↔ pin = 3 := BitVec.toInt_inj (y := 3)
  have eleven (pin : BitVec 32) : pin.toInt = 11 ↔ pin = 11 := BitVec.toInt_inj (y := 11)
  have proper : Proper (setValue gpio false (.free (.irq irqnum) :: session.ledger)) :=
    ⟨held, invariant.proper⟩
  rw [proper_closed_iff validTrigger validEcho proper real claimed, ne_eq,
    BitVec.toInt_inj, three, three, eleven, eleven]
  constructor
  · rintro ⟨different, trigger | trigger, echo | echo⟩
    · exact (different (trigger.trans echo.symm)).elim
    · exact .inl ⟨trigger, echo⟩
    · exact .inr ⟨trigger, echo⟩
    · exact (different (trigger.trans echo.symm)).elim
  · rintro (⟨trigger, echo⟩ | ⟨trigger, echo⟩)
    · exact ⟨by simp [trigger, echo], .inl trigger, .inr echo⟩
    · exact ⟨by simp [trigger, echo], .inr trigger, .inl echo⟩

end Closing

/-- What `sensor_open` leaves when the module has been loaded. -/
def openedFirst : HSCStruct :=
  { HSCStruct.zeroed with irqnum := 111 }

end Ultrasonic

end Sensor

end KinuxKernel
