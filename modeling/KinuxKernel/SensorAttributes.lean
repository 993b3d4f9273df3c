import KinuxKernel.SensorSession

/-!
# The attributes of a sensor

The functions that store to the attributes in sysfs, for a number that has been
read from the text.  What the kernel grants is not seen in the structure.
-/

namespace KinuxKernel

namespace Sensor

open ResourceLedger

/-- `PAGE_SIZE`, the result of a store that is accepted. -/
def PAGE_SIZE : Int := 4096

namespace HSCStruct

/-- `speriod_store`. -/
def speriodStore (structp : HSCStruct) (tmp : BitVec 32) : Except Int HSCStruct :=
  if tmp.toInt < 50 then .error (-EINVAL) else .ok { structp with interval := tmp.toInt }

/-- `enable_store`, and whether it calls `write_common`. -/
def enableStore (structp : HSCStruct) (tmp : BitVec 32) : Except Int (HSCStruct × Bool) :=
  if tmp.toInt = 0 then .ok ({ structp with enable := false }, false)
  else if tmp.toInt = 1 then .ok ({ structp with enable := true }, true)
  else .error (-EINVAL)

end HSCStruct

section Pins

variable (grant : Grant) (gpioToIrq : BitVec 32 → Int) (tmp : BitVec 32) (session : Session)

/-- Release the gpios of the trigger if the field looks like a pin. -/
def releaseTrigger : Option Ledger :=
  if session.structp.trigger ≥ 0 ∧ session.structp.trigger ≤ 19 then
    gpioDeregisterOut session.structp.trigger session.ledger
  else some session.ledger

/-- `trigger_store`. -/
def triggerStore : Option (Session × Int) :=
  if tmp.toInt > 13 ∨ tmp.toInt < 1 then some (session, -EINVAL)
  else
    (releaseTrigger session).bind fun ledger =>
      (gpioConfig grant tmp.toInt .output ledger).map fun configured =>
        (⟨{ session.structp with trigger := tmp.toInt }, configured.1⟩, PAGE_SIZE)

/-- Release the gpios and the interrupt of the echo pin if the field looks like a pin. -/
def releaseEcho : Option Ledger :=
  if session.structp.echo ≥ 0 ∧ session.structp.echo ≤ 13 then
    (gpioDeregisterIn session.structp.echo session.ledger).map fun ledger =>
      .free (.irq session.structp.irqnum) :: ledger
  else some session.ledger

/-- `echo_store`. -/
def echoStore : Option (Session × Int) :=
  if tmp.toInt > 13 ∨ tmp.toInt < 1 then some (session, -EINVAL)
  else
    (releaseEcho session).bind fun ledger =>
      (gpioConfig grant tmp.toInt .input ledger).bind fun configured =>
        (pinRow tmp.toInt).map fun row =>
          let irqnum := gpioToIrq (mainGpio row)
          (⟨{ session.structp with echo := tmp.toInt, irqnum := irqnum },
            requestIrq grant irqnum configured.1⟩, PAGE_SIZE)

end Pins

/-- The attributes that can be written. -/
inductive Attribute where
  | trigger
  | echo
  | numberSamples
  | samplePeriod
  | enable
deriving DecidableEq

/-- A store that only writes the structure. -/
def storeField (session : Session) : Except Int HSCStruct → Session × Int
  | .ok structp => ({ session with structp := structp }, PAGE_SIZE)
  | .error code => (session, code)

/-- A store to an attribute, up to the call of `write_common`. -/
def store (grant : Grant) (gpioToIrq : BitVec 32 → Int) (tmp : BitVec 32) (session : Session) :
    Attribute → Option (Session × Int)
  | .trigger => triggerStore grant tmp session
  | .echo => echoStore grant gpioToIrq tmp session
  | .numberSamples => some (storeField session (session.structp.samplesStore tmp))
  | .samplePeriod => some (storeField session (session.structp.speriodStore tmp))
  | .enable => some (storeField session ((session.structp.enableStore tmp).map Prod.fst))

section Structure

variable (grant grant' : Grant) (gpioToIrq : BitVec 32 → Int) (structp : HSCStruct)
  (ledger ledger' : Ledger)

/-- The structure and the result of an operation. -/
def seen (result : Session × Int) : HSCStruct × Int :=
  (result.1.structp, result.2)

theorem configPins_seen (p : Pins) :
    (configPins grant gpioToIrq p ⟨structp, ledger⟩).map Session.structp =
      (configPins grant' gpioToIrq p ⟨structp, ledger'⟩).map Session.structp := by
  simp [configPins, gpioConfig, Option.map_bind, Option.bind_map, Function.comp_def]

theorem sensorIoctl_seen (command : Ioctl) :
    (sensorIoctl grant gpioToIrq ⟨structp, ledger⟩ command).map seen =
      (sensorIoctl grant' gpioToIrq ⟨structp, ledger'⟩ command).map seen := by
  cases command with
  | configPins arg =>
      cases arg with
      | none => rfl
      | some p =>
          have same := congrArg (Option.map fun structp => (structp, (0 : Int)))
            (configPins_seen grant grant' gpioToIrq structp ledger ledger' p)
          simpa [sensorIoctl, seen, Function.comp_def] using same
  | setParams arg => cases arg <;> rfl
  | other => rfl

theorem triggerStore_seen (tmp : BitVec 32) :
    (triggerStore grant tmp ⟨structp, ledger⟩).map seen =
      (triggerStore grant' tmp ⟨structp, ledger'⟩).map seen := by
  unfold triggerStore releaseTrigger
  split_ifs <;>
    simp [seen, gpioConfig, gpioDeregisterOut, Option.map_bind, Option.bind_map, Function.comp_def]

theorem echoStore_seen (tmp : BitVec 32) :
    (echoStore grant gpioToIrq tmp ⟨structp, ledger⟩).map seen =
      (echoStore grant' gpioToIrq tmp ⟨structp, ledger'⟩).map seen := by
  unfold echoStore releaseEcho
  split_ifs <;>
    simp [seen, gpioConfig, gpioDeregisterIn, Option.map_bind, Option.bind_map, Function.comp_def]

theorem store_seen (attr : Attribute) (tmp : BitVec 32) :
    (store grant gpioToIrq tmp ⟨structp, ledger⟩ attr).map seen =
      (store grant' gpioToIrq tmp ⟨structp, ledger'⟩ attr).map seen := by
  cases attr with
  | trigger => exact triggerStore_seen grant grant' structp ledger ledger' tmp
  | echo => exact echoStore_seen grant grant' gpioToIrq structp ledger ledger' tmp
  | numberSamples =>
      simp only [store, Option.map_some]
      cases structp.samplesStore tmp <;> rfl
  | samplePeriod =>
      simp only [store, Option.map_some]
      cases structp.speriodStore tmp <;> rfl
  | enable =>
      simp only [store, Option.map_some]
      cases structp.enableStore tmp <;> rfl

end Structure

section Effects

variable {grant : Grant} {gpioToIrq : BitVec 32 → Int} {session after : Session} {code : Int}
  {tmp : BitVec 32}

/-- What an `ioctl` does to the structure. -/
theorem sensorIoctl_cases {command : Ioctl}
    (answered : sensorIoctl grant gpioToIrq session command = some (after, code)) :
    (∃ p irqnum, command = .configPins (some p) ∧ after.structp = { session.structp with
        trigger := p.trigger.toInt, echo := p.echo.toInt, irqnum := irqnum }) ∨
      (∃ c, command = .setParams (some c) ∧ after.structp = session.structp.setParams c) ∨
      (∀ p, command ≠ .configPins (some p)) ∧ after = session := by
  cases command with
  | configPins arg =>
      cases arg with
      | none =>
          obtain ⟨rfl, -⟩ := Prod.mk.inj (Option.some.inj answered)
          exact .inr (.inr ⟨by simp, rfl⟩)
      | some p =>
          obtain ⟨configured, claimed, same⟩ := Option.map_eq_some_iff.mp answered
          obtain ⟨rfl, -⟩ := Prod.mk.inj same
          obtain ⟨trigger, -, claimed⟩ := Option.bind_eq_some_iff.mp claimed
          obtain ⟨echo, -, claimed⟩ := Option.bind_eq_some_iff.mp claimed
          obtain ⟨row, -, rfl⟩ := Option.map_eq_some_iff.mp claimed
          exact .inl ⟨p, _, rfl, rfl⟩
  | setParams arg =>
      cases arg with
      | none =>
          obtain ⟨rfl, -⟩ := Prod.mk.inj (Option.some.inj answered)
          exact .inr (.inr ⟨by simp, rfl⟩)
      | some c =>
          obtain ⟨rfl, -⟩ := Prod.mk.inj (Option.some.inj answered)
          exact .inr (.inl ⟨c, rfl, rfl⟩)
  | other =>
      obtain ⟨rfl, -⟩ := Prod.mk.inj (Option.some.inj answered)
      exact .inr (.inr ⟨by simp, rfl⟩)

/-- What a store to `TRIGGER` does to the structure. -/
theorem triggerStore_cases (stored : triggerStore grant tmp session = some (after, code)) :
    (tmp.toInt > 13 ∨ tmp.toInt < 1) ∧ after = session ∨
      ¬ (tmp.toInt > 13 ∨ tmp.toInt < 1) ∧
        after.structp = { session.structp with trigger := tmp.toInt } := by
  unfold triggerStore at stored
  split at stored
  · next refused =>
      obtain ⟨rfl, -⟩ := Prod.mk.inj (Option.some.inj stored)
      exact .inl ⟨refused, rfl⟩
  · next accepted =>
      obtain ⟨released, -, stored⟩ := Option.bind_eq_some_iff.mp stored
      obtain ⟨configured, -, same⟩ := Option.map_eq_some_iff.mp stored
      obtain ⟨rfl, -⟩ := Prod.mk.inj same
      exact .inr ⟨accepted, rfl⟩

/-- What a store to `ECHO` does to the structure. -/
theorem echoStore_cases (stored : echoStore grant gpioToIrq tmp session = some (after, code)) :
    (tmp.toInt > 13 ∨ tmp.toInt < 1) ∧ after = session ∨
      ¬ (tmp.toInt > 13 ∨ tmp.toInt < 1) ∧
        ∃ irqnum, after.structp = { session.structp with echo := tmp.toInt, irqnum := irqnum } := by
  unfold echoStore at stored
  split at stored
  · next refused =>
      obtain ⟨rfl, -⟩ := Prod.mk.inj (Option.some.inj stored)
      exact .inl ⟨refused, rfl⟩
  · next accepted =>
      obtain ⟨released, -, stored⟩ := Option.bind_eq_some_iff.mp stored
      obtain ⟨configured, -, stored⟩ := Option.bind_eq_some_iff.mp stored
      obtain ⟨row, -, same⟩ := Option.map_eq_some_iff.mp stored
      obtain ⟨rfl, -⟩ := Prod.mk.inj same
      exact .inr ⟨accepted, _, rfl⟩

theorem sensorIoctl_minorNum {command : Ioctl}
    (answered : sensorIoctl grant gpioToIrq session command = some (after, code)) :
    after.structp.minorNum = session.structp.minorNum := by
  obtain ⟨p, irqnum, -, same⟩ | ⟨c, -, same⟩ | ⟨-, rfl⟩ := sensorIoctl_cases answered
  · rw [same]
  · rw [same, HSCStruct.setParams]
  · rfl

theorem store_minorNum {attr : Attribute}
    (stored : store grant gpioToIrq tmp session attr = some (after, code)) :
    after.structp.minorNum = session.structp.minorNum := by
  cases attr with
  | trigger =>
      obtain ⟨-, rfl⟩ | ⟨-, same⟩ := triggerStore_cases stored
      · rfl
      · rw [same]
  | echo =>
      obtain ⟨-, rfl⟩ | ⟨-, irqnum, same⟩ := echoStore_cases stored
      · rfl
      · rw [same]
  | numberSamples =>
      obtain ⟨rfl, -⟩ := Prod.mk.inj (Option.some.inj stored)
      unfold HSCStruct.samplesStore
      split_ifs <;> rfl
  | samplePeriod =>
      obtain ⟨rfl, -⟩ := Prod.mk.inj (Option.some.inj stored)
      unfold HSCStruct.speriodStore
      split_ifs <;> rfl
  | enable =>
      obtain ⟨rfl, -⟩ := Prod.mk.inj (Option.some.inj stored)
      unfold HSCStruct.enableStore
      split_ifs <;> rfl

end Effects

end Sensor

end KinuxKernel
