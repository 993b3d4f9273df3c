import KinuxKernel.Noninterference
import KinuxKernel.PlatformProbe
import KinuxKernel.SensorRequests

/-!
# The two sensors do not interfere

While both platform devices stay bound, every way to a structure leads to that of the
sensor that the event is for, so the other sensor's events can be left out as long as
no echo is stored outside its own structure.  The index of an echo is not checked, and
a large one leads into the structure of the other sensor.
-/

namespace KinuxKernel

namespace Sensor

open Noninterference

variable {File Address : Type*} (board : Board File) (place : Address → Int)

/-- Both devices are bound, and files are opened on them. -/
structure BothBound (sensors : Sensors File Address) : Prop where
  pointers : ∀ device, ∃ address structp, sensors.platform.struct1 device = some address ∧
    sensors.platform.memory address = some structp ∧ structp.minorNum = device.minor
  distinct : ∀ device, sensors.platform.struct1 device ≠ sensors.platform.struct1 device.other
  files : ∀ file address, sensors.privateData file = some address →
    sensors.platform.struct1 (board.inode file) = some address

/-- What belongs to a sensor: its structure and the files opened on it. -/
structure SensorView (File : Type*) where
  structp : Option HSCStruct
  opened : File → Bool

def sensorView (device : Device) (sensors : Sensors File Address) : SensorView File where
  structp := sensors.platform.deref (sensors.platform.struct1 device)
  opened file := board.inode file = device && (sensors.privateData file).isSome

/-- An event whose echo, if it is one, is stored inside its structure. -/
def ServesWithin [DecidableEq File] [DecidableEq Address] (before : Sensors File Address)
    (device : Device) (request : SensorRequest File) (reply : SensorReply)
    (after : Sensors File Address) : Prop :=
  (∀ structp, (sensorView board device before).structp = some structp → request.Within structp) ∧
    ServesSensor board place before device request reply after

/-- One sensor alone, as long as its echoes are stored inside its structure. -/
def sensorMachine [DecidableEq File] (device : Device) (view : SensorView File) :
    SensorRequest File → Option (SensorReply × SensorView File)
  | .opens file =>
      if board.inode file = device ∧ view.opened file = false then
        some (.returns 0, { view with opened := Function.update view.opened file true })
      else none
  | request =>
      if ∀ file ∈ request.file, view.opened file = true then
        view.structp.bind fun structp =>
          if request.Within structp then
            (perform board (fun _ _ => true) ⟨structp, []⟩ request).map fun result =>
              (result.2, ⟨some result.1.structp, view.opened⟩)
          else none
      else none

section Handle

variable [DecidableEq File] [DecidableEq Address] {board} {place}
  {sensors after : Sensors File Address}
  {device : Device} {request : SensorRequest File} {reply : SensorReply} {grant : Grant}

omit [DecidableEq File] [DecidableEq Address] in
/-- Every route leads to the structure of the device. -/
theorem BothBound.route_eq (isBound : BothBound board sensors)
    (notOpening : ∀ file, request ≠ .opens file) :
    sensors.route board device request =
      if ∀ file ∈ request.file, (sensorView board device sensors).opened file = true then
        sensors.platform.struct1 device
      else none := by
  have ofFile : ∀ file, (if board.inode file = device then sensors.privateData file else none) =
      if (sensorView board device sensors).opened file = true then
        sensors.platform.struct1 device else none := by
    intro file
    by_cases same : board.inode file = device
    · cases opened : sensors.privateData file with
      | none => simp [sensorView, opened]
      | some address =>
          have points := isBound.files file address opened
          rw [same] at points
          simp [sensorView, opened, same, points]
    · simp [sensorView, same]
  cases request with
  | opens file => exact (notOpening file rfl).elim
  | ioctl file command => simpa [SensorRequest.file, Sensors.route] using ofFile file
  | poll file point now =>
      cases file with
      | none => simp [SensorRequest.file, Sensors.route]
      | some file => simpa [SensorRequest.file, Sensors.route] using ofFile file
  | expire => simp [SensorRequest.file, Sensors.route]
  | echo now jiffies =>
      obtain ⟨address, structp, pointer, inMemory, minor⟩ := isBound.pointers device
      simp [SensorRequest.file, Sensors.route, PlatformDriver.deref, pointer, inMemory, minor]
  | store attr tmp => simp [SensorRequest.file, Sensors.route]

omit [DecidableEq File] [DecidableEq Address] in
theorem BothBound.pointer_ne (isBound : BothBound board sensors) {address another : Address}
    (pointer : sensors.platform.struct1 device = some address)
    (otherPointer : sensors.platform.struct1 device.other = some another) :
    another ≠ address := by
  rintro rfl
  exact isBound.distinct device (pointer.trans otherPointer.symm)

omit [DecidableEq File] in
theorem BothBound.otherPointer_eq (isBound : BothBound board sensors) {address : Address}
    (pointer : sensors.platform.struct1 device = some address) :
    sensors.otherPointer address = sensors.platform.struct1 device.other := by
  cases device with
  | hsc1 => exact if_pos pointer
  | hsc2 =>
      refine if_neg fun same => isBound.distinct .hsc2 ?_
      rw [pointer, ← same]
      rfl

omit [DecidableEq File] in
/-- An echo that leaves the other structure alone changes its own one. -/
theorem BothBound.writeEcho_own (isBound : BothBound board sensors) {address : Address}
    {structp structp' : HSCStruct} (pointer : sensors.platform.struct1 device = some address) :
    sensors.writeEcho address ⟨structp', (sensors.echoMemory place address structp).other⟩ =
      sensors.write address ⟨structp', sensors.ledger⟩ := by
  obtain ⟨another, second, otherPointer, otherMemory, -⟩ := isBound.pointers device.other
  have distinct : another ≠ address := isBound.pointer_ne pointer otherPointer
  have others : sensors.otherPointer address = some another :=
    (isBound.otherPointer_eq pointer).trans otherPointer
  have unchanged : Function.update
      (Function.update sensors.platform.memory address (some structp')) another (some second) =
      Function.update sensors.platform.memory address (some structp') := by
    apply Function.update_eq_self_iff.mpr
    rw [Function.update_of_ne distinct, otherMemory]
  simp [Sensors.writeEcho, Sensors.echoMemory, others, otherMemory, Sensors.write, unchanged]

/-- An event that is not an open: it is performed on the structure of its device. -/
theorem BothBound.handle_eq (isBound : BothBound board sensors)
    (notOpening : ∀ file, request ≠ .opens file) {address : Address} {structp : HSCStruct}
    (pointer : sensors.platform.struct1 device = some address)
    (inMemory : sensors.platform.memory address = some structp)
    (within : request.Within structp) :
    sensors.handle board place grant device request =
      if ∀ file ∈ request.file, (sensorView board device sensors).opened file = true then
        (perform board grant ⟨structp, sensors.ledger⟩ request).map fun result =>
          (sensors.write address result.1, result.2)
      else none := by
  have routed := @BothBound.route_eq _ _ board sensors device request isBound notOpening
  cases request with
  | opens file => exact (notOpening file rfl).elim
  | echo now jiffies =>
      obtain ⟨after, stored, -, handled⟩ :=
        HSCStruct.Within.handler within board.driver now jiffies
      have everywhere : ∀ file ∈ (SensorRequest.echo now jiffies : SensorRequest File).file,
          (sensorView board device sensors).opened file = true := by simp [SensorRequest.file]
      rw [if_pos everywhere] at routed ⊢
      rw [Sensors.handle, routed, pointer, Option.bind_some, inMemory, Option.bind_some]
      have echoed : (sensors.echoMemory place address structp).sensorHandler board.driver now
          jiffies = some ⟨after, (sensors.echoMemory place address structp).other⟩ := handled _
      rw [echoed, Option.map_some, isBound.writeEcho_own pointer, perform, stored]
      rfl
  | _ =>
      rw [Sensors.handle, routed]
      · split
        · rw [pointer, Option.bind_some, inMemory, Option.bind_some]
        · rfl
      all_goals simp

omit [DecidableEq File] in
/-- A write to the structure of a device changes what belongs to this device. -/
theorem sensorView_write {address : Address} {session : Session}
    (pointer : sensors.platform.struct1 device = some address) :
    sensorView board device (sensors.write address session) =
      ⟨some session.structp, (sensorView board device sensors).opened⟩ := by
  simp [sensorView, Sensors.write, PlatformDriver.deref, pointer]

omit [DecidableEq File] in
theorem BothBound.sensorView_write_other (isBound : BothBound board sensors) {address : Address}
    {session : Session} {other : Device} (different : other ≠ device)
    (pointer : sensors.platform.struct1 other = some address) :
    sensorView board device (sensors.write address session) = sensorView board device sensors := by
  obtain rfl := (other.eq_or_other device).resolve_left (Ne.symm different)
  obtain ⟨another, second, otherPointer, -, -⟩ := isBound.pointers other.other
  have distinct : another ≠ address := isBound.pointer_ne pointer otherPointer
  simp [sensorView, Sensors.write, PlatformDriver.deref, otherPointer, distinct]

omit [DecidableEq File] in
theorem BothBound.write (isBound : BothBound board sensors) {address : Address}
    {session : Session} (pointer : sensors.platform.struct1 device = some address)
    (minor : session.structp.minorNum = device.minor) :
    BothBound board (sensors.write address session) := by
  refine ⟨fun other => ?_, isBound.distinct, isBound.files⟩
  obtain rfl | rfl := device.eq_or_other other
  · exact ⟨address, session.structp, pointer, by simp [Sensors.write], minor⟩
  · obtain ⟨another, second, otherPointer, inMemory, otherMinor⟩ :=
      isBound.pointers device.other
    have distinct : another ≠ address := isBound.pointer_ne pointer otherPointer
    exact ⟨another, second, otherPointer, by simp [Sensors.write, distinct, inMemory], otherMinor⟩

/-- An open of a file of the device. -/
theorem handle_opens {file : File}
    (handled : sensors.handle board place grant device (.opens file) = some (after, reply)) :
    board.inode file = device ∧ after = { sensors with
      privateData := Function.update sensors.privateData file
        (sensors.platform.struct1 device) } := by
  obtain ⟨⟨rfl, -⟩, same⟩ := Option.ite_none_right_eq_some.mp handled
  obtain ⟨rfl, -⟩ := Prod.mk.inj (Option.some.inj same)
  simp

/-- An event that is not an open writes the structure of its device. -/
theorem BothBound.handled_write (isBound : BothBound board sensors)
    (notOpening : ∀ file, request ≠ .opens file)
    (within : ∀ structp, (sensorView board device sensors).structp = some structp →
      request.Within structp)
    (handled : sensors.handle board place grant device request = some (after, reply)) :
    ∃ address session, sensors.platform.struct1 device = some address ∧
      session.structp.minorNum = device.minor ∧ after = sensors.write address session := by
  obtain ⟨address, structp, pointer, inMemory, minor⟩ := isBound.pointers device
  have inside := within structp (by simp [sensorView, PlatformDriver.deref, pointer, inMemory])
  rw [isBound.handle_eq notOpening pointer inMemory inside] at handled
  obtain ⟨-, handled⟩ := Option.ite_none_right_eq_some.mp handled
  obtain ⟨⟨session, code⟩, performed, same⟩ := Option.map_eq_some_iff.mp handled
  obtain ⟨rfl, -⟩ := Prod.mk.inj same
  exact ⟨address, session, pointer, (perform_minorNum inside performed).trans minor, rfl⟩

theorem BothBound.handled (isBound : BothBound board sensors)
    (within : ∀ structp, (sensorView board device sensors).structp = some structp →
      request.Within structp)
    (handled : sensors.handle board place grant device request = some (after, reply)) :
    BothBound board after := by
  by_cases opening : ∃ file, request = .opens file
  · obtain ⟨file, rfl⟩ := opening
    obtain ⟨rfl, rfl⟩ := handle_opens handled
    refine ⟨isBound.pointers, isBound.distinct, fun another address opened => ?_⟩
    by_cases same : another = file
    · simpa [same] using opened
    · exact isBound.files another address (by simpa [same] using opened)
  · obtain ⟨address, session, pointer, minor, rfl⟩ :=
      isBound.handled_write (not_exists.mp opening) within handled
    exact isBound.write pointer minor

theorem BothBound.unseen (isBound : BothBound board sensors) {other : Device}
    (different : other ≠ device)
    (within : ∀ structp, (sensorView board other sensors).structp = some structp →
      request.Within structp)
    (handled : sensors.handle board place grant other request = some (after, reply)) :
    sensorView board device after = sensorView board device sensors := by
  by_cases opening : ∃ file, request = .opens file
  · obtain ⟨file, rfl⟩ := opening
    obtain ⟨rfl, rfl⟩ := handle_opens handled
    simp only [sensorView, SensorView.mk.injEq, true_and]
    funext another
    by_cases same : another = file
    · simp [same, different]
    · simp [same]
  · obtain ⟨address, session, pointer, -, rfl⟩ :=
      isBound.handled_write (not_exists.mp opening) within handled
    exact isBound.sensorView_write_other different pointer

/-- What a device sees of its event is a step of its machine. -/
theorem BothBound.view_handle (isBound : BothBound board sensors) (grant : Grant)
    (within : ∀ structp, (sensorView board device sensors).structp = some structp →
      request.Within structp) :
    (sensors.handle board place grant device request).map
        (fun result => (result.2, sensorView board device result.1)) =
      sensorMachine board device (sensorView board device sensors) request := by
  by_cases opening : ∃ file, request = .opens file
  · obtain ⟨file, rfl⟩ := opening
    obtain ⟨address, structp, pointer, -, -⟩ := isBound.pointers device
    by_cases same : board.inode file = device
    · cases opened : sensors.privateData file with
      | some another => simp [Sensors.handle, sensorMachine, sensorView, opened, same]
      | none =>
          simp only [Sensors.handle, sensorMachine, sensorView, opened, same, Option.isSome_none,
            Bool.and_false, and_self, if_true, Option.map_some, Option.some.injEq, Prod.mk.injEq,
            SensorView.mk.injEq, true_and, PlatformDriver.structOf_minor]
          funext another
          by_cases again : another = file
          · simp [again, same, pointer]
          · simp [again]
    · simp [Sensors.handle, sensorMachine, same]
  · have notOpening := not_exists.mp opening
    obtain ⟨address, structp, pointer, inMemory, -⟩ := isBound.pointers device
    have here : (sensorView board device sensors).structp = some structp := by
      simp [sensorView, PlatformDriver.deref, pointer, inMemory]
    have inside := within structp here
    have machine : sensorMachine board device (sensorView board device sensors) request =
        if ∀ file ∈ request.file, (sensorView board device sensors).opened file = true then
          (perform board (fun _ _ => true) ⟨structp, []⟩ request).map fun result =>
            (result.2, ⟨some result.1.structp, (sensorView board device sensors).opened⟩)
        else none := by
      cases request with
      | opens file => exact (notOpening file rfl).elim
      | _ => simp only [sensorMachine, here, Option.bind_some, if_pos inside]
    rw [machine, isBound.handle_eq notOpening pointer inMemory inside]
    split
    · simp only [Option.map_map, Function.comp_def, sensorView_write pointer]
      have same := congrArg (Option.map fun result : HSCStruct × SensorReply =>
        (result.2, (⟨some result.1, (sensorView board device sensors).opened⟩ : SensorView File)))
        (@perform_seen _ board grant (fun _ _ => true) structp sensors.ledger [] request)
      simpa [Function.comp_def] using same
    · rfl

/-- Within the structures every sensor is served on its own view. -/
theorem sensors_local : Local (ServesWithin board place) (BothBound board)
    (sensorView board) (sensorMachine board) where
  preserved := by
    rintro _ _ _ _ _ isBound ⟨within, grant, handled⟩
    exact isBound.handled within handled
  answered := by
    rintro _ _ _ _ _ isBound ⟨within, grant, handled⟩
    rw [← isBound.view_handle grant within, handled]
    rfl
  unseen := by
    rintro _ _ _ _ _ _ isBound ⟨within, grant, handled⟩ different
    exact isBound.unseen different within handled

omit [DecidableEq Address] in
/-- The machine of a sensor takes no step outside its structure. -/
theorem within_of_machine {opened : SensorView File} {result : SensorReply × SensorView File}
    (step : sensorMachine board device opened request = some result) {structp : HSCStruct}
    (here : opened.structp = some structp) : request.Within structp := by
  cases request with
  | echo now jiffies =>
      simp only [sensorMachine, here, Option.bind_some, Option.ite_none_right_eq_some] at step
      exact step.2.1
  | _ => trivial

theorem BothBound.serves (isBound : BothBound board sensors) {view : SensorView File}
    (step : sensorMachine board device (sensorView board device sensors) request =
      some (reply, view)) :
    ∃ middle, ServesWithin board place sensors device request reply middle := by
  have within : ∀ structp, (sensorView board device sensors).structp = some structp →
      request.Within structp := fun _ here => within_of_machine step here
  rw [← @BothBound.view_handle _ _ _ place _ _ _ _ _ isBound (fun _ _ => true) within] at step
  obtain ⟨⟨middle, code⟩, handled, same⟩ := Option.map_eq_some_iff.mp step
  obtain ⟨rfl, -⟩ := Prod.mk.inj same
  exact ⟨middle, within, _, handled⟩

/-- Each sensor gets the replies, and ends with the structure, that its own events alone
give it. -/
def SeesOwn (board : Board File) (place : Address → Int) (sensors : Sensors File Address)
    (requests : List (Device × SensorRequest File)) (replies : List (Device × SensorReply))
    (final : Sensors File Address) : Prop :=
  ∀ device ownReplies ownFinal,
    Serves (ServesSensor board place) sensors (own device requests) ownReplies ownFinal →
    own device replies = ownReplies ∧
      ∃ structp, (sensorView board device final).structp = some structp ∧
        (sensorView board device ownFinal).structp = some structp

end Handle

section Granted

variable [DecidableEq File] [DecidableEq Address] {sensors final : Sensors File Address}
  {requests : List (Device × SensorRequest File)}

/-- Serve events one after the other, every call being granted, as long as the echoes are
stored inside their structures. -/
def serveWithin (sensors : Sensors File Address) :
    List (Device × SensorRequest File) → Option (Sensors File Address)
  | [] => some sensors
  | (device, request) :: requests =>
      if ∀ structp ∈ (sensorView board device sensors).structp, request.Within structp then
        (sensors.handle board place (fun _ _ => true) device request).bind fun result =>
          serveWithin result.1 requests
      else none

variable {board place} in
theorem serves_of_serveWithin (served : serveWithin board place sensors requests = some final) :
    ∃ replies, Serves (ServesWithin board place) sensors requests replies final := by
  induction requests generalizing sensors with
  | nil =>
      obtain rfl := Option.some.inj served
      exact ⟨[], .nil _⟩
  | cons item requests ih =>
      obtain ⟨device, request⟩ := item
      obtain ⟨within, served⟩ := Option.ite_none_right_eq_some.mp served
      obtain ⟨⟨middle, reply⟩, handled, served⟩ := Option.bind_eq_some_iff.mp served
      obtain ⟨replies, run⟩ := ih served
      exact ⟨_, .cons ⟨within, _, handled⟩ run⟩

end Granted

section Stray

variable [DecidableEq File] [DecidableEq Address] {sensors : Sensors File Address}
  {device : Device} {address another : Address} {structp second : HSCStruct}

/-- Callbacks of the timer as long as there are samples to take. -/
theorem serves_expires (pointer : sensors.platform.struct1 device = some address)
    (inMemory : sensors.platform.memory address = some structp) {callbacks : Nat}
    (left : structp.sampleNum + callbacks ≤ structp.samples) :
    ∃ replies after, Serves (ServesWithin board place) sensors
        (List.replicate callbacks (device, .expire)) replies
        (sensors.write address ⟨after, sensors.ledger⟩) ∧
      after.sampleNum = structp.sampleNum + callbacks ∧ SameSettings structp after ∧
      after.trig = structp.trig := by
  induction callbacks generalizing sensors structp with
  | zero =>
      refine ⟨[], structp, ?_, by simp, .refl _, rfl⟩
      have unchanged : sensors.write address ⟨structp, sensors.ledger⟩ = sensors := by
        simp [Sensors.write, ← inMemory]
      rw [unchanged]
      exact .nil _
  | succ callbacks ih =>
      have more : structp.sampleNum < structp.samples := by omega
      have callback : structp.myHrtimerCallback =
          { structp with sampleNum := structp.sampleNum + 1, flag2 := true, hrTimer := .pending } :=
        if_pos more
      have step : ServesWithin board place sensors device .expire .handled
          (sensors.write address ⟨structp.myHrtimerCallback, sensors.ledger⟩) := by
        refine ⟨fun _ _ => trivial, fun _ _ => true, ?_⟩
        simp [Sensors.handle, Sensors.route, pointer, inMemory, perform]
      have leftAfter : structp.myHrtimerCallback.sampleNum + callbacks ≤
          structp.myHrtimerCallback.samples := by
        rw [callback]
        push_cast at left
        simp only
        omega
      obtain ⟨replies, after, run, counter, settings, trig⟩ :=
        @ih (sensors.write address ⟨structp.myHrtimerCallback, sensors.ledger⟩)
          structp.myHrtimerCallback pointer (Function.update_self ..) leftAfter
      have written : (sensors.write address ⟨structp.myHrtimerCallback, sensors.ledger⟩).write
          address ⟨after, sensors.ledger⟩ = sensors.write address ⟨after, sensors.ledger⟩ := by
        simp [Sensors.write]
      refine ⟨_, after, .cons step (written ▸ run), ?_,
        (SameSettings.callback structp).trans settings, ?_⟩
      · rw [counter, callback]
        push_cast
        omega
      · rw [trig, callback]

/-- An echo whose index leads to the other structure is stored there. -/
theorem serves_echo_other (isBound : BothBound board sensors)
    (pointer : sensors.platform.struct1 device = some address)
    (inMemory : sensors.platform.memory address = some structp)
    (otherPointer : sensors.platform.struct1 device.other = some another)
    (otherMemory : sensors.platform.memory another = some second)
    (far : 40 ≤ place another - place address) (index : Fin 20)
    (strays : structp.sampleNum - 1 = place another - place address + index) (now : Timeval)
    (jiffies : BitVec 32) :
    ∃ final, ServesSensor board place sensors device (.echo now jiffies) .handled final ∧
      (sensorView board device.other final).structp = some { second with
        timestamp := second.timestamp.set index.val (jiffies * 1000 / board.driver.hz) index.isLt
        distance := second.distance.set index.val
          (170 * (BitVec.ofNat 32 now.usec - structp.trig) / 10000 - board.driver.offset)
          index.isLt } := by
  have others : sensors.otherPointer address = some another :=
    (isBound.otherPointer_eq pointer).trans otherPointer
  have memory : sensors.echoMemory place address structp =
      ⟨structp, some (place another - place address, second)⟩ := by
    simp [Sensors.echoMemory, others, otherMemory]
  obtain ⟨_, _, samePointer, sameMemory, minor⟩ := isBound.pointers device
  obtain rfl := Option.some.inj (pointer.symm.trans samePointer)
  obtain rfl := Option.some.inj (inMemory.symm.trans sameMemory)
  have routed : sensors.route board device (.echo now jiffies) = some address := by
    simp [Sensors.route, PlatformDriver.deref, pointer, inMemory, minor]
  have echoed := @EchoMemory.sensorHandler_other structp board.driver now jiffies _ second far
    index strays
  have handled : ∀ result, (sensors.echoMemory place address structp).sensorHandler board.driver
      now jiffies = some result →
      sensors.handle board place (fun _ _ => true) device (.echo now jiffies) =
        some (sensors.writeEcho address result, .handled) := by
    intro result reached
    rw [Sensors.handle, routed, Option.bind_some, inMemory, Option.bind_some, reached,
      Option.map_some]
  refine ⟨_, ⟨_, handled _ (memory ▸ echoed)⟩, ?_⟩
  simp [Sensors.writeEcho, others, sensorView, Sensors.write, PlatformDriver.deref, otherPointer]

end Stray

section Probed

variable {trace : List (BindEvent Address)}
  {platform : PlatformDriver Address}

/-- The state after the probes, as long as both devices are bound and no file has been
opened. -/
theorem BindInvariant.bothBound (invariant : BindInvariant trace platform)
    (isBound : ∀ device, bound trace device = true) (ledger : Ledger) :
    BothBound board ⟨platform, fun _ => none, ledger⟩ := by
  refine ⟨fun device => ?_, fun device same => ?_, fun _ _ opened => by cases opened⟩
  · obtain ⟨address, last⟩ := lastAddress_of_bound (isBound device)
    obtain ⟨structp, inMemory, minor⟩ := invariant.minorNum device address last
    exact ⟨address, structp, (invariant.struct1 device).trans last, inMemory,
      by rw [minor, if_pos (isBound device)]⟩
  · obtain ⟨address, last⟩ := lastAddress_of_bound (isBound device)
    rw [invariant.struct1, invariant.struct1, last] at same
    exact invariant.distinct device address last same.symm

end Probed

/-- Structures in adjacent blocks of 512 bytes. -/
def adjacent (address : Nat) : Int :=
  128 * address

/-- Both sensors are probed. -/
def probedSensors : Sensors Nat Nat where
  platform := (PlatformDriver.loaded.pDriverProbe .hsc1 0 .zeroed).pDriverProbe .hsc2 1 .zeroed
  privateData _ := none
  ledger := []

/-- Configure the first sensor for 129 samples and start a measurement. -/
def manySamples (now : Timeval) : List (Device × SensorRequest Nat) :=
  [(.hsc1, .opens 0), (.hsc1, .ioctl 0 (.configPins (some ⟨2, 3⟩))),
    (.hsc1, .ioctl 0 (.setParams (some ⟨60, 127⟩))), (.hsc1, .poll (some 0) .setFlags now),
    (.hsc1, .poll (some 0) .clearTriggerop now), (.hsc1, .poll (some 0) .clearSampleNum now),
    (.hsc1, .poll (some 0) .initTimer now), (.hsc1, .poll (some 0) .startTimer now)]

/-- The 129 callbacks of the timer, and an echo. -/
def lateEcho (now : Timeval) : List (Device × SensorRequest Nat) :=
  List.replicate 129 (.hsc1, .expire) ++ [(.hsc1, .echo now 0)]

theorem probedSensors_bothBound : BothBound twoFiles probedSensors := by
  have probing : BindInvariant _ probedSensors.platform :=
    (BindInvariant.loaded.probe .zeroed rfl).probe .zeroed rfl
  apply probing.bothBound
  intro device
  cases device <;> rfl

theorem manySamples_served (now : Timeval) :
    ∃ replies final structp, Serves (ServesWithin twoFiles adjacent) probedSensors
        (manySamples now) replies final ∧
      final.platform.struct1 = probedSensors.platform.struct1 ∧
      final.platform.memory 0 = some structp ∧ structp.sampleNum = 0 ∧ structp.samples = 129 ∧
      structp.trig = 0 ∧ final.platform.memory 1 = probedSensors.platform.memory 1 := by
  obtain ⟨replies, run⟩ := serves_of_serveWithin
    (rfl : serveWithin twoFiles adjacent probedSensors (manySamples now) = some _)
  exact ⟨replies, _, _, run, rfl, rfl, rfl, rfl, rfl, rfl⟩

/-- Configure both sensors and start a measurement of one, with an echo before and one
after the first expiry. -/
def mixedRequests (now : Timeval) : List (Device × SensorRequest Nat) :=
  [(.hsc1, .opens 0), (.hsc2, .opens 1), (.hsc1, .ioctl 0 (.configPins (some ⟨2, 3⟩))),
    (.hsc2, .ioctl 1 (.setParams (some ⟨60, 4⟩))), (.hsc1, .store .numberSamples 4),
    (.hsc1, .store .enable 1), (.hsc1, .poll none .setFlags now), (.hsc1, .echo now 7),
    (.hsc1, .expire), (.hsc1, .echo now 8), (.hsc2, .store .trigger 5)]

end Sensor

end KinuxKernel
