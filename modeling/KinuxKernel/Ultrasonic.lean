import KinuxKernel.SensorSession

/-!
# The sensor driver without attributes

What `ultrasonic.c` does with its only structure `struct1` where it differs from
the platform driver: `sensor_open` looks up an interrupt, and `sensor_close` always
releases both pins.
-/

namespace KinuxKernel

namespace Sensor

open ResourceLedger

namespace Ultrasonic

/-- The entries of a row that `gpio_deregister` frees, those greater than zero. -/
def freedGpios (row : Vector (BitVec 32) 4) : List Resource :=
  (row.toList.filter fun gpio => 0 < gpio).map .gpio

/-- `gpio_deregister`. -/
def gpioDeregister (ioTrigger ioEcho : Int) (ledger : Ledger) : Option Ledger :=
  (pinRow ioTrigger).bind fun trigger =>
    (pinRow ioEcho).map fun echo =>
      freeAll (freeAll (setValue (mainGpio trigger) false ledger) (freedGpios trigger))
        (freedGpios echo)

/-- `sensor_open`. -/
def sensorOpen (gpioToIrq : BitVec 32 → Int) (session : Session) : Option Session :=
  (pinRow session.structp.echo).map fun row =>
    { session with
      structp := { session.structp with irqnum := gpioToIrq (mainGpio row) } }

/-- `sensor_close`. -/
def sensorClose (session : Session) : Option Session :=
  let ledger := Action.free (.irq session.structp.irqnum) :: session.ledger
  (hrtimerCancel session.structp.hrTimer).bind fun _ =>
    (gpioDeregister session.structp.trigger session.structp.echo ledger).map fun ledger =>
      ⟨{ session.structp with hrTimer := .idle }, ledger⟩

end Ultrasonic

end Sensor

end KinuxKernel
