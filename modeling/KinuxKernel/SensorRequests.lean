import KinuxKernel.EchoMemory
import KinuxKernel.PlatformDriver
import KinuxKernel.SensorAttributes

/-!
# Requests to the two sensors

The events of the two sensors and how each finds its structure: by the private data
of a file, the minor number of its node, the argument of its interrupt or the address
of its timer.
-/

namespace KinuxKernel

namespace Sensor

/-- What stays the same while the sensors are used. -/
structure Board (File : Type*) where
  inode : File → Device
  driver : Driver
  gpioToIrq : BitVec 32 → Int

/-- The events of a sensor.  Statements of `write_common` are executed for a file
or for a store to the attribute `ENABLE`. -/
inductive SensorRequest (File : Type*) where
  | opens (file : File)
  | ioctl (file : File) (command : Ioctl)
  | poll (file : Option File) (point : PollPoint) (now : Timeval)
  | expire
  | echo (now : Timeval) (jiffies : BitVec 32)
  | store (attr : Attribute) (tmp : BitVec 32)

/-- The return code, or the next statement. -/
inductive SensorReply where
  | returns (code : Int)
  | reached (point : PollPoint)
  | handled
deriving DecidableEq

/-- The file that an event needs. -/
def SensorRequest.file {File : Type*} : SensorRequest File → Option File
  | .ioctl file _ => some file
  | .poll file _ _ => file
  | .opens _ | .expire | .echo _ _ | .store _ _ => none

/-- The memory of the driver, the private data of open files and what is claimed. -/
structure Sensors (File Address : Type*) where
  platform : PlatformDriver Address
  privateData : File → Option Address
  ledger : Ledger

variable {File Address : Type*} (board : Board File) (place : Address → Int)

/-- What an event does once its structure is found.  An echo is stored inside it. -/
def perform (grant : Grant) (session : Session) :
    SensorRequest File → Option (Session × SensorReply)
  | .opens _ => some (session, .returns 0)
  | .ioctl _ command =>
      (sensorIoctl grant board.gpioToIrq session command).map fun result =>
        (result.1, .returns result.2)
  | .poll _ point now =>
      (execute now session.structp point).map fun result =>
        ({ session with structp := result.1 }, .reached result.2)
  | .expire => some ({ session with structp := session.structp.myHrtimerCallback }, .handled)
  | .echo now jiffies =>
      (session.structp.sensorHandlerStores board.driver now jiffies).map fun structp =>
        ({ session with structp := structp }, .handled)
  | .store attr tmp =>
      (store grant board.gpioToIrq tmp session attr).map fun result =>
        (result.1, .returns result.2)

namespace Sensors

variable (sensors : Sensors File Address)

/-- The structure that an event of a device is applied to: `private_data`,
`get_structp`, `container_of` or the minor number in `dev_id`. -/
def route (device : Device) : SensorRequest File → Option Address
  | .opens _ => none
  | .ioctl file _ | .poll (some file) _ _ =>
      if board.inode file = device then sensors.privateData file else none
  | .poll none _ _ | .store _ _ => sensors.platform.structOf device.minor
  | .expire => sensors.platform.struct1 device
  | .echo _ _ =>
      (sensors.platform.deref (sensors.platform.struct1 device)).bind fun structp =>
        sensors.platform.structOf structp.minorNum

variable [DecidableEq Address]

/-- The pointer of `struct1` to the other structure. -/
def otherPointer (address : Address) : Option Address :=
  if sensors.platform.struct1 .hsc1 = some address then sensors.platform.struct1 .hsc2
  else sensors.platform.struct1 .hsc1

/-- What the stores of an echo may hit: `place` counts the words of the memory before
`distance` of a structure. -/
def echoMemory (address : Address) (structp : HSCStruct) : EchoMemory where
  structp := structp
  other := (sensors.otherPointer address).bind fun another =>
    (sensors.platform.memory another).map fun second => (place another - place address, second)

/-- Change a structure in memory. -/
def write (address : Address) (session : Session) : Sensors File Address :=
  { sensors with
    platform := { sensors.platform with
      memory := Function.update sensors.platform.memory address (some session.structp) }
    ledger := session.ledger }

def writeEcho (address : Address) (memory : EchoMemory) : Sensors File Address :=
  match sensors.otherPointer address, memory.other with
  | some another, some second =>
      (sensors.write address ⟨memory.structp, sensors.ledger⟩).write another
        ⟨second.2, sensors.ledger⟩
  | _, _ => sensors.write address ⟨memory.structp, sensors.ledger⟩

variable [DecidableEq File]

/-- An event of a device; requests of gpios and interrupts are granted or not. -/
def handle (grant : Grant) (device : Device) :
    SensorRequest File → Option (Sensors File Address × SensorReply)
  | .opens file =>
      if board.inode file = device ∧ sensors.privateData file = none then
        some ({ sensors with
          privateData := Function.update sensors.privateData file
            (sensors.platform.structOf (board.inode file).minor) }, .returns 0)
      else none
  | .echo now jiffies =>
      (sensors.route board device (.echo now jiffies)).bind fun address =>
        (sensors.platform.memory address).bind fun structp =>
          ((sensors.echoMemory place address structp).sensorHandler board.driver now
            jiffies).map fun memory => (sensors.writeEcho address memory, .handled)
  | request =>
      (sensors.route board device request).bind fun address =>
        (sensors.platform.memory address).bind fun structp =>
          (perform board grant ⟨structp, sensors.ledger⟩ request).map fun result =>
            (sensors.write address result.1, result.2)

end Sensors

/-- An event with any results of the calls of the gpio and interrupt subsystems. -/
def ServesSensor [DecidableEq File] [DecidableEq Address] (before : Sensors File Address)
    (device : Device) (request : SensorRequest File) (reply : SensorReply)
    (after : Sensors File Address) : Prop :=
  ∃ grant, before.handle board place grant device request = some (after, reply)

/-- An echo is stored inside the structure it is for. -/
def SensorRequest.Within (structp : HSCStruct) : SensorRequest File → Prop
  | .echo _ _ => structp.Within
  | .opens _ | .ioctl _ _ | .poll _ _ _ | .expire | .store _ _ => True

instance (structp : HSCStruct) (request : SensorRequest File) :
    Decidable (request.Within structp) :=
  match request with
  | .echo _ _ => inferInstanceAs (Decidable structp.Within)
  | .opens _ | .ioctl _ _ | .poll _ _ _ | .expire | .store _ _ => inferInstanceAs (Decidable True)

section Perform

variable {board} {grant grant' : Grant} {structp : HSCStruct} {ledger ledger' : Ledger}
  {request : SensorRequest File} {session after : Session} {reply : SensorReply}

/-- The structure and the reply do not depend on what has been granted. -/
theorem perform_seen : (perform board grant ⟨structp, ledger⟩ request).map
      (fun result => (result.1.structp, result.2)) =
    (perform board grant' ⟨structp, ledger'⟩ request).map
      fun result => (result.1.structp, result.2) := by
  cases request with
  | opens | expire => rfl
  | poll file point now => simp [perform, Function.comp_def]
  | echo now jiffies => simp [perform, Function.comp_def]
  | ioctl file command =>
      have same := congrArg (Option.map fun result => (result.1, SensorReply.returns result.2))
        (sensorIoctl_seen grant grant' board.gpioToIrq structp ledger ledger' command)
      simpa [perform, seen, Function.comp_def] using same
  | store attr tmp =>
      have same := congrArg (Option.map fun result => (result.1, SensorReply.returns result.2))
        (store_seen grant grant' board.gpioToIrq structp ledger ledger' attr tmp)
      simpa [perform, seen, Function.comp_def] using same

theorem perform_minorNum (within : request.Within session.structp)
    (performed : perform board grant session request = some (after, reply)) :
    after.structp.minorNum = session.structp.minorNum := by
  cases request with
  | opens file =>
      obtain ⟨rfl, -⟩ := Prod.mk.inj (Option.some.inj performed)
      rfl
  | expire =>
      obtain ⟨rfl, -⟩ := Prod.mk.inj (Option.some.inj performed)
      exact (SameSettings.callback session.structp).minorNum
  | ioctl file command =>
      obtain ⟨result, answered, same⟩ := Option.map_eq_some_iff.mp performed
      obtain ⟨rfl, -⟩ := Prod.mk.inj same
      exact sensorIoctl_minorNum answered
  | poll file point now =>
      obtain ⟨result, executed, same⟩ := Option.map_eq_some_iff.mp performed
      obtain ⟨rfl, -⟩ := Prod.mk.inj same
      exact (executes_of_execute executed).settings.minorNum
  | echo now jiffies =>
      obtain ⟨structp, written, same⟩ := Option.map_eq_some_iff.mp performed
      obtain ⟨rfl, -⟩ := Prod.mk.inj same
      obtain ⟨handled, stored, onlyData, -⟩ :=
        HSCStruct.Within.handler within board.driver now jiffies
      obtain rfl := Option.some.inj (stored.symm.trans written)
      obtain ⟨_, _, _, _, rfl⟩ := onlyData
      rfl
  | store attr tmp =>
      obtain ⟨result, stored, same⟩ := Option.map_eq_some_iff.mp performed
      obtain ⟨rfl, -⟩ := Prod.mk.inj same
      exact store_minorNum stored

end Perform

@[simp]
theorem PlatformDriver.structOf_minor (platform : PlatformDriver Address) (device : Device) :
    platform.structOf device.minor = platform.struct1 device := by
  cases device <;> rfl

/-- Files 0 and 1 are files of the two sensors. -/
def twoFiles : Board Nat where
  inode file := if file = 0 then .hsc1 else .hsc2
  driver := part2 1000
  gpioToIrq := shiftedIrq

end Sensor

end KinuxKernel
