import Mathlib.Data.Set.Insert
import KinuxKernel.SensorAttributes

/-!
# Reconfiguring pins through sysfs

Sequences of accepted stores to `TRIGGER` and `ECHO`.  Each store first releases the
pin that its field names, whatever the memory of the structure contained before
anything was stored, and then claims the new one.
-/

namespace KinuxKernel

namespace Sensor

open TraceRun ResourceLedger

/-- A store to `TRIGGER` or `ECHO`. -/
inductive PinStore where
  | trigger (tmp : BitVec 32)
  | echo (tmp : BitVec 32)

def PinStore.tmp : PinStore → BitVec 32
  | .trigger tmp | .echo tmp => tmp

variable (inUse : Resource → Bool) (gpioToIrq : BitVec 32 → Int)

def storePin (session : Session) : PinStore → Option Session
  | .trigger tmp => (triggerStore (grantFree inUse) tmp session).map Prod.fst
  | .echo tmp => (echoStore (grantFree inUse) gpioToIrq tmp session).map Prod.fst

/-- The store is accepted, and what it claims is not in use elsewhere. -/
structure PinStore.Legal (event : PinStore) : Prop where
  accepted : 1 ≤ event.tmp.toInt ∧ event.tmp.toInt ≤ 13
  gpios : ∀ resource ∈ pinGpios event.tmp.toInt, inUse resource = false
  irq : ∀ irqnum ∈ pinIrq gpioToIrq event.tmp.toInt, inUse (.irq irqnum) = false

/-- The last pin stored as trigger. -/
def lastTrigger : List PinStore → Option Int
  | [] => none
  | .trigger tmp :: _ => some tmp.toInt
  | .echo _ :: trace => lastTrigger trace

/-- The last pin stored as echo. -/
def lastEcho : List PinStore → Option Int
  | [] => none
  | .trigger _ :: trace => lastEcho trace
  | .echo tmp :: _ => some tmp.toInt

/-- Exactly the gpios of some pins and one interrupt are held, and nothing has been
freed that was not. -/
structure Owns (ledger : Ledger) (pins : Set Int) (irq : Option Int) : Prop where
  proper : Proper ledger
  gpio : ∀ number, holds ledger (.gpio number) = true ↔
    ∃ ioPin ∈ pins, .gpio number ∈ pinGpios ioPin
  irqnum : ∀ number, holds ledger (.irq number) = true ↔ irq = some number

/-- The pins that are trigger and echo now. -/
def storedPins (trace : List PinStore) : Set Int :=
  { ioPin | lastTrigger trace = some ioPin ∨ lastEcho trace = some ioPin }

def storedIrq (trace : List PinStore) : Option Int :=
  (lastEcho trace).bind (pinIrq gpioToIrq)

/-- After each store the sensor holds what its trigger and echo pins need, and it
never frees anything else. -/
def OwnsStored (contents : HSCStruct) (trace : List PinStore) : Prop :=
  ∀ earlier, earlier <:+ trace →
    ∃ session, replay (storePin inUse gpioToIrq) ⟨contents, []⟩ earlier = some session ∧
      Owns session.ledger (storedPins earlier) (storedIrq gpioToIrq earlier)

/-- A field that looks like a pin names a pin that has been stored, and a pin that
has both roles is not replaced in one of them. -/
def StoreSafe (contents : HSCStruct) (earlier : List PinStore) : PinStore → Prop
  | .trigger tmp =>
      let field := (lastTrigger earlier).getD contents.trigger
      (0 ≤ field ∧ field ≤ 19 → lastTrigger earlier = some field ∨ lastEcho earlier = some field) ∧
        (lastEcho earlier = some field → tmp.toInt = field)
  | .echo tmp =>
      let field := (lastEcho earlier).getD contents.echo
      (0 ≤ field ∧ field ≤ 13 → lastEcho earlier = some field) ∧
        (lastTrigger earlier = some field → tmp.toInt = field)

section Owning

variable {inUse} {ledger after : Ledger} {pins others : Set Int} {irq : Option Int} {ioPin : Int}
  {dir : Direction}

theorem gpio_of_mem {resource : Resource} (member : resource ∈ pinGpios ioPin) :
    ∃ number, resource = .gpio number := by
  cases resource with
  | gpio number => exact ⟨number, rfl⟩
  | irq number => exact (irq_not_mem number member).elim

/-- The gpios of a pin are held exactly if it is one of the pins. -/
theorem Owns.mem_iff (owns : Owns ledger pins irq) (valid : ∀ ioPin ∈ pins, ValidPin ioPin)
    (validPin : ValidPin ioPin) {resource : Resource} (member : resource ∈ pinGpios ioPin) :
    holds ledger resource = true ↔ ioPin ∈ pins := by
  obtain ⟨number, rfl⟩ := gpio_of_mem member
  rw [owns.gpio]
  constructor
  · rintro ⟨other, inside, otherMember⟩
    rwa [pin_eq_of_mem validPin (valid other inside) member otherMember]
  · exact fun inside => ⟨ioPin, inside, member⟩

theorem Owns.whole (owns : Owns ledger pins irq) (valid : ∀ ioPin ∈ pins, ValidPin ioPin)
    (validPin : ValidPin ioPin) : Whole ledger ioPin := by
  by_cases inside : ioPin ∈ pins
  · exact .inl fun resource member => (owns.mem_iff valid validPin member).mpr inside
  · refine .inr fun resource member => ?_
    rw [Bool.eq_false_iff]
    exact fun held => inside ((owns.mem_iff valid validPin member).mp held)

/-- A ledger determines the pins. -/
theorem Owns.pins_eq (owns : Owns ledger pins irq) (valid : ∀ ioPin ∈ pins, ValidPin ioPin)
    {otherIrq : Option Int} (again : Owns ledger others otherIrq)
    (otherValid : ∀ ioPin ∈ others, ValidPin ioPin) : pins = others := by
  have inside (ioPin : Int) (validPin : ValidPin ioPin) : ioPin ∈ pins ↔ ioPin ∈ others := by
    obtain ⟨resource, rest, gpios⟩ := List.exists_cons_of_ne_nil (pinGpios_ne_nil validPin)
    have member : resource ∈ pinGpios ioPin := by simp [gpios]
    rw [← owns.mem_iff valid validPin member, again.mem_iff otherValid validPin member]
  ext ioPin
  constructor
  · exact fun member => (inside ioPin (valid ioPin member)).mp member
  · exact fun member => (inside ioPin (otherValid ioPin member)).mpr member

/-- Claiming a pin. -/
theorem Owns.config (owns : Owns ledger pins irq) (valid : ∀ ioPin ∈ pins, ValidPin ioPin)
    (dir : Direction) (validPin : ValidPin ioPin)
    (unused : ∀ resource ∈ pinGpios ioPin, inUse resource = false) :
    ∃ after code, gpioConfig (grantFree inUse) ioPin dir ledger = some (after, code) ∧
      Owns after (insert ioPin pins) irq := by
  obtain ⟨after, code, configured, proper, claimed⟩ :=
    gpioConfig_whole dir validPin (owns.whole valid validPin) unused owns.proper
  refine ⟨after, code, configured, proper, fun number => ?_, fun number => ?_⟩
  · rw [claimed, owns.gpio]
    simp
  · rw [claimed, owns.irqnum]
    simp [irq_not_mem]

/-- Releasing a pin is proper if and only if it is held. -/
theorem Owns.freePin_iff (owns : Owns ledger pins irq) (valid : ∀ ioPin ∈ pins, ValidPin ioPin)
    (validPin : ValidPin ioPin) :
    Proper (freeAll ledger (pinGpios ioPin)) ↔ ioPin ∈ pins := by
  rw [proper_freeAll (pinGpios_nodup validPin)]
  constructor
  · rintro ⟨held, -⟩
    obtain ⟨resource, rest, gpios⟩ := List.exists_cons_of_ne_nil (pinGpios_ne_nil validPin)
    have member : resource ∈ pinGpios ioPin := by simp [gpios]
    exact (owns.mem_iff valid validPin member).mp (held resource member)
  · exact fun inside =>
      ⟨fun resource member => (owns.mem_iff valid validPin member).mpr inside, owns.proper⟩

theorem Owns.freePin (owns : Owns ledger pins irq) (valid : ∀ ioPin ∈ pins, ValidPin ioPin)
    (validPin : ValidPin ioPin) (inside : ioPin ∈ pins) :
    Owns (freeAll ledger (pinGpios ioPin)) (pins \ {ioPin}) irq := by
  refine ⟨(owns.freePin_iff valid validPin).mpr inside, fun number => ?_, fun number => ?_⟩
  · rw [holds_freeAll, owns.gpio]
    constructor
    · rintro ⟨notHere, other, otherInside, member⟩
      refine ⟨other, ⟨otherInside, ?_⟩, member⟩
      rintro rfl
      exact notHere member
    · rintro ⟨other, ⟨otherInside, different⟩, member⟩
      refine ⟨fun here => different ?_, other, otherInside, member⟩
      exact pin_eq_of_mem (valid other otherInside) validPin member here
  · rw [holds_freeAll, owns.irqnum]
    simp [irq_not_mem]

/-- A row of the table whose gpios can be freed is one of the initialiser. -/
theorem validPin_of_nodup {row : Vector (BitVec 32) 4} (found : pinRow ioPin = some row)
    (distinct : (rowGpios row).Nodup) : ValidPin ioPin := by
  obtain ⟨low, listed⟩ := Option.ite_none_right_eq_some.mp found
  obtain ⟨inside, -⟩ := List.getElem?_eq_some_iff.mp listed
  have high : ioPin.toNat < 19 := inside
  refine ⟨low, ?_⟩
  by_contra beyond
  obtain ⟨number, rfl⟩ := Int.eq_ofNat_of_zero_le low
  have first : 14 ≤ number := by omega
  have last : number ≤ 18 := high |> Nat.le_of_lt_succ
  interval_cases number <;>
    (obtain rfl := Option.some.inj found; exact absurd distinct (by decide))

/-- What can be released is held. -/
theorem Owns.release (owns : Owns ledger pins irq) (valid : ∀ ioPin ∈ pins, ValidPin ioPin)
    {row : Vector (BitVec 32) 4} (found : pinRow ioPin = some row)
    (proper : Proper (freeAll ledger (rowGpios row))) :
    ioPin ∈ pins ∧ Owns (freeAll ledger (rowGpios row)) (pins \ {ioPin}) irq := by
  have validPin := validPin_of_nodup found proper.nodup_of_freeAll
  have gpios : pinGpios ioPin = rowGpios row := by simp [pinGpios, found]
  rw [← gpios] at proper ⊢
  have inside := (owns.freePin_iff valid validPin).mp proper
  exact ⟨inside, owns.freePin valid validPin inside⟩

theorem Owns.release_of_mem (owns : Owns ledger pins irq)
    (valid : ∀ ioPin ∈ pins, ValidPin ioPin) (inside : ioPin ∈ pins) :
    ∃ row, pinRow ioPin = some row ∧
      Owns (freeAll ledger (rowGpios row)) (pins \ {ioPin}) irq := by
  obtain ⟨row, found⟩ := pinRow_of_valid (valid ioPin inside)
  have gpios : pinGpios ioPin = rowGpios row := by simp [pinGpios, found]
  refine ⟨row, found, ?_⟩
  rw [← gpios]
  exact owns.freePin valid (valid ioPin inside) inside

theorem Owns.lowerPin (owns : Owns ledger pins irq) (gpio : BitVec 32) (value : Bool) :
    Owns (setValue gpio value ledger) pins irq :=
  ⟨owns.proper, owns.gpio, owns.irqnum⟩

theorem Owns.freeIrq {number : Int} (owns : Owns ledger pins (some number)) :
    Owns (.free (.irq number) :: ledger) pins none := by
  refine ⟨⟨(owns.irqnum number).mpr rfl, owns.proper⟩, fun gpio => ?_, fun another => ?_⟩
  · simpa using owns.gpio gpio
  · simp only [holds_free, Bool.and_eq_true, decide_eq_true_eq, owns.irqnum,
      Option.some.injEq, reduceCtorEq, iff_false, not_and]
    rintro different rfl
    exact different rfl

theorem Owns.claimIrq {number : Int} (owns : Owns ledger pins none)
    (unused : inUse (.irq number) = false) :
    Owns (requestIrq (grantFree inUse) number ledger) pins (some number) := by
  obtain ⟨proper, claimed⟩ := requestIrq_spec unused owns.proper
  refine ⟨proper, fun gpio => ?_, fun another => ?_⟩
  · rw [claimed, owns.gpio]
    simp
  · rw [claimed, owns.irqnum]
    simp [eq_comm]

theorem proper_of_gpioConfig {grant : Grant} {code : Int}
    (configured : gpioConfig grant ioPin dir ledger = some (after, code)) (proper : Proper after) :
    Proper ledger := by
  obtain ⟨row, -, same⟩ := Option.map_eq_some_iff.mp configured
  split at same
  · next claimed all =>
      obtain ⟨rfl, -⟩ := Prod.mk.inj same
      rw [proper_routePin] at proper
      have properAll : Proper (requestAll grant ledger (rowGpios row)).1 := by rwa [all]
      exact properAll.of_requestAll
  · next claimed refused =>
      obtain ⟨rfl, -⟩ := Prod.mk.inj same
      have properAll : Proper (requestAll grant ledger (rowGpios row)).1 := by rwa [refused]
      exact properAll.of_requestAll

end Owning

section Storing

variable {inUse} {gpioToIrq} {session after : Session} {pins : Set Int} {irq : Option Int}
  {tmp : BitVec 32} {code : Int}

theorem PinStore.Legal.valid {event : PinStore} (legal : event.Legal inUse gpioToIrq) :
    ValidPin event.tmp.toInt :=
  ⟨by have := legal.accepted.1; omega, legal.accepted.2⟩

theorem PinStore.Legal.inRange {event : PinStore} (legal : event.Legal inUse gpioToIrq) :
    ¬ (event.tmp.toInt > 13 ∨ event.tmp.toInt < 1) := by
  have accepted := legal.accepted
  omega

/-- A trigger that is held can be released. -/
theorem Owns.releaseTrigger (owns : Owns session.ledger pins irq)
    (valid : ∀ ioPin ∈ pins, ValidPin ioPin)
    (named : 0 ≤ session.structp.trigger ∧ session.structp.trigger ≤ 19 →
      session.structp.trigger ∈ pins) :
    ∃ ledger, releaseTrigger session = some ledger ∧
      Owns ledger (pins \ {session.structp.trigger}) irq := by
  unfold Sensor.releaseTrigger
  split_ifs with looksLike
  · have inside := named looksLike
    obtain ⟨row, found⟩ := pinRow_of_valid (valid _ inside)
    obtain ⟨sameRow, same, released⟩ :=
      (owns.lowerPin (mainGpio row) false).release_of_mem valid inside
    obtain rfl := Option.some.inj (found.symm.trans same)
    exact ⟨_, by rw [gpioDeregisterOut, found, Option.map_some], released⟩
  · have outside : session.structp.trigger ∉ pins := by
      intro inside
      obtain ⟨low, high⟩ := valid _ inside
      exact looksLike ⟨low, by omega⟩
    exact ⟨session.ledger, rfl, by rwa [Set.sdiff_singleton_eq_self outside]⟩

/-- A release of the trigger that is proper releases a pin that is held. -/
theorem Owns.named_of_releaseTrigger (owns : Owns session.ledger pins irq)
    (valid : ∀ ioPin ∈ pins, ValidPin ioPin) {ledger : Ledger}
    (released : Sensor.releaseTrigger session = some ledger) (proper : Proper ledger)
    (looksLike : 0 ≤ session.structp.trigger ∧ session.structp.trigger ≤ 19) :
    session.structp.trigger ∈ pins := by
  rw [Sensor.releaseTrigger, if_pos looksLike] at released
  obtain ⟨row, found, rfl⟩ := Option.map_eq_some_iff.mp released
  exact ((owns.lowerPin _ _).release valid found proper).1

/-- An echo pin that is held can be released, with its interrupt. -/
theorem Owns.releaseEcho (owns : Owns session.ledger pins irq)
    (valid : ∀ ioPin ∈ pins, ValidPin ioPin)
    (named : 0 ≤ session.structp.echo ∧ session.structp.echo ≤ 13 →
      session.structp.echo ∈ pins ∧ irq = some session.structp.irqnum)
    (unnamed : ¬ (0 ≤ session.structp.echo ∧ session.structp.echo ≤ 13) → irq = none) :
    ∃ ledger, Sensor.releaseEcho session = some ledger ∧
      Owns ledger (pins \ {session.structp.echo}) none := by
  unfold Sensor.releaseEcho
  split_ifs with looksLike
  · obtain ⟨inside, rfl⟩ := named looksLike
    obtain ⟨row, found, released⟩ := owns.release_of_mem valid inside
    exact ⟨_, by rw [gpioDeregisterIn, found]; rfl, released.freeIrq⟩
  · have outside : session.structp.echo ∉ pins := fun inside => looksLike (valid _ inside)
    obtain rfl := unnamed looksLike
    exact ⟨session.ledger, rfl, by rwa [Set.sdiff_singleton_eq_self outside]⟩

theorem Owns.named_of_releaseEcho (owns : Owns session.ledger pins irq)
    (valid : ∀ ioPin ∈ pins, ValidPin ioPin) {ledger : Ledger}
    (released : Sensor.releaseEcho session = some ledger) (proper : Proper ledger)
    (looksLike : 0 ≤ session.structp.echo ∧ session.structp.echo ≤ 13) :
    session.structp.echo ∈ pins ∧ irq = some session.structp.irqnum := by
  rw [Sensor.releaseEcho, if_pos looksLike] at released
  obtain ⟨freed, deregistered, rfl⟩ := Option.map_eq_some_iff.mp released
  obtain ⟨row, found, rfl⟩ := Option.map_eq_some_iff.mp deregistered
  obtain ⟨held, properFreed⟩ := proper
  obtain ⟨inside, rest⟩ := owns.release valid found properFreed
  exact ⟨inside, (rest.irqnum _).mp held⟩

/-- An accepted store to `TRIGGER`. -/
theorem PinStore.Legal.triggerStore_eq (legal : (PinStore.trigger tmp).Legal inUse gpioToIrq) :
    storePin inUse gpioToIrq session (.trigger tmp) =
      (releaseTrigger session).bind fun ledger =>
        (gpioConfig (grantFree inUse) tmp.toInt .output ledger).map fun configured =>
          ⟨{ session.structp with trigger := tmp.toInt }, configured.1⟩ := by
  have accepted : ¬ (tmp.toInt > 13 ∨ tmp.toInt < 1) := legal.inRange
  rw [storePin, triggerStore, if_neg accepted]
  simp [Option.map_bind, Function.comp_def]

/-- An accepted store to `ECHO`. -/
theorem PinStore.Legal.echoStore_eq (legal : (PinStore.echo tmp).Legal inUse gpioToIrq)
    (session : Session) :
    ∃ irqnum, pinIrq gpioToIrq tmp.toInt = some irqnum ∧
      storePin inUse gpioToIrq session (.echo tmp) =
        (releaseEcho session).bind fun ledger =>
          (gpioConfig (grantFree inUse) tmp.toInt .input ledger).map fun configured =>
            ⟨{ session.structp with echo := tmp.toInt, irqnum := irqnum },
              requestIrq (grantFree inUse) irqnum configured.1⟩ := by
  have accepted : ¬ (tmp.toInt > 13 ∨ tmp.toInt < 1) := legal.inRange
  obtain ⟨row, found⟩ := pinRow_of_valid legal.valid
  have here : pinRow tmp.toInt = some row := found
  refine ⟨gpioToIrq (mainGpio row), by simp [pinIrq, here], ?_⟩
  rw [storePin, echoStore, if_neg accepted]
  simp only [here, Option.map_some]
  cases releaseEcho session with
  | none => rfl
  | some ledger =>
      simp only [Option.bind_some]
      cases gpioConfig (grantFree inUse) tmp.toInt .input ledger <;> rfl

/-- Replacing a pin leaves the other role's pin held if it is not the one replaced. -/
theorem insert_replaced_iff {replaced kept : Option Int} {field ioPin : Int}
    (same : ∀ other, replaced = some other → other = field) :
    insert ioPin ({ other | replaced = some other ∨ kept = some other } \ {field}) =
        { other | ioPin = other ∨ kept = some other } ↔
      (kept = some field → ioPin = field) := by
  constructor
  · intro equal keeps
    have inside : field ∈ { other | ioPin = other ∨ kept = some other } := .inr keeps
    rw [← equal] at inside
    rcases inside with isNew | ⟨-, different⟩
    · exact isNew.symm
    · exact (different rfl).elim
  · intro replaces
    ext other
    constructor
    · rintro (rfl | ⟨isReplaced | isKept, different⟩)
      · exact .inl rfl
      · exact (different (same other isReplaced)).elim
      · exact .inr isKept
    · rintro (rfl | isKept)
      · exact .inl rfl
      · by_cases isField : other = field
        · subst isField
          exact .inl (replaces isKept).symm
        · exact .inr ⟨.inr isKept, isField⟩

/-- A step whose result is determined once the pins are released: the new pins are
right if and only if the release is proper and the other pin stays held. -/
theorem owns_iff {released wanted : Set Int} {wantedIrq : Option Int} {named : Prop}
    (validWanted : ∀ ioPin ∈ wanted, ValidPin ioPin) {result : Option Session}
    (validReleased : named → ∀ ioPin ∈ released, ValidPin ioPin)
    (claims : named → ∃ after, result = some after ∧ Owns after.ledger released wantedIrq)
    (proper : ∀ after, result = some after → Proper after.ledger → named) :
    (∃ after, result = some after ∧ Owns after.ledger wanted wantedIrq) ↔
      named ∧ released = wanted := by
  constructor
  · rintro ⟨after, reached, owns⟩
    have isNamed := proper after reached owns.proper
    obtain ⟨again, same, claimed⟩ := claims isNamed
    obtain rfl := Option.some.inj (same.symm.trans reached)
    exact ⟨isNamed, claimed.pins_eq (validReleased isNamed) owns validWanted⟩
  · rintro ⟨isNamed, rfl⟩
    exact claims isNamed

end Storing

/-- What holds as long as every store has left the sensor with what it needs. -/
structure StoreInvariant (contents : HSCStruct) (trace : List PinStore) (session : Session) :
    Prop where
  trigger : session.structp.trigger = (lastTrigger trace).getD contents.trigger
  echo : session.structp.echo = (lastEcho trace).getD contents.echo
  irqnum : ∀ ioPin, lastEcho trace = some ioPin →
    pinIrq gpioToIrq ioPin = some session.structp.irqnum
  owns : Owns session.ledger (storedPins trace) (storedIrq gpioToIrq trace)

section Traces

variable {inUse} {gpioToIrq} {contents : HSCStruct} {trace : List PinStore}
  {session after : Session} {event : PinStore}

theorem storedPins_valid (legal : ∀ event ∈ trace, event.Legal inUse gpioToIrq) :
    ∀ ioPin ∈ storedPins trace, ValidPin ioPin := by
  induction trace with
  | nil => simp [storedPins, lastTrigger, lastEcho]
  | cons event trace ih =>
      obtain ⟨here, rest⟩ := List.forall_mem_cons.mp legal
      have valid := ih rest
      cases event with
      | trigger tmp =>
          rintro ioPin (isNew | kept)
          · obtain rfl := Option.some.inj isNew
            exact here.valid
          · exact valid ioPin (.inr kept)
      | echo tmp =>
          rintro ioPin (kept | isNew)
          · exact valid ioPin (.inl kept)
          · obtain rfl := Option.some.inj isNew
            exact here.valid

theorem replaced_valid (valid : ∀ ioPin ∈ storedPins trace, ValidPin ioPin)
    (newPin field : Int) (validPin : ValidPin newPin) :
    ∀ ioPin ∈ insert newPin (storedPins trace \ {field}), ValidPin ioPin := by
  rintro ioPin (rfl | ⟨member, -⟩)
  · exact validPin
  · exact valid ioPin member

theorem StoreInvariant.eq_trigger (invariant : StoreInvariant gpioToIrq contents trace session)
    (other : Int) (isLast : lastTrigger trace = some other) :
    other = session.structp.trigger := by
  rw [invariant.trigger, isLast, Option.getD_some]

theorem StoreInvariant.eq_echo (invariant : StoreInvariant gpioToIrq contents trace session)
    (other : Int) (isLast : lastEcho trace = some other) : other = session.structp.echo := by
  rw [invariant.echo, isLast, Option.getD_some]

theorem StoreInvariant.trigger_iff (invariant : StoreInvariant gpioToIrq contents trace session)
    {tmp : BitVec 32} (legal : ∀ event ∈ .trigger tmp :: trace, event.Legal inUse gpioToIrq) :
    (∃ after, storePin inUse gpioToIrq session (.trigger tmp) = some after ∧
      Owns after.ledger (storedPins (.trigger tmp :: trace))
        (storedIrq gpioToIrq (.trigger tmp :: trace))) ↔
      StoreSafe contents trace (.trigger tmp) := by
  obtain ⟨here, rest⟩ := List.forall_mem_cons.mp legal
  have valid := storedPins_valid rest
  have claims : (0 ≤ session.structp.trigger ∧ session.structp.trigger ≤ 19 →
      session.structp.trigger ∈ storedPins trace) →
      ∃ after, storePin inUse gpioToIrq session (.trigger tmp) = some after ∧
        Owns after.ledger (insert tmp.toInt (storedPins trace \ {session.structp.trigger}))
          (storedIrq gpioToIrq trace) := by
    intro named
    obtain ⟨ledger, released, owns⟩ := invariant.owns.releaseTrigger valid named
    obtain ⟨after, code, configured, claimed⟩ :=
      owns.config (fun ioPin member => valid ioPin member.1) .output here.valid here.gpios
    have sameConfig : gpioConfig (grantFree inUse) tmp.toInt .output ledger =
      some (after, code) := configured
    refine ⟨⟨{ session.structp with trigger := tmp.toInt }, after⟩, ?_, claimed⟩
    rw [here.triggerStore_eq, released, Option.bind_some, sameConfig, Option.map_some]
  have proper : ∀ after, storePin inUse gpioToIrq session (.trigger tmp) = some after →
      Proper after.ledger → 0 ≤ session.structp.trigger ∧ session.structp.trigger ≤ 19 →
      session.structp.trigger ∈ storedPins trace := by
    intro after stored properAfter
    rw [here.triggerStore_eq] at stored
    obtain ⟨ledger, released, stored⟩ := Option.bind_eq_some_iff.mp stored
    obtain ⟨⟨result, code⟩, configured, rfl⟩ := Option.map_eq_some_iff.mp stored
    exact invariant.owns.named_of_releaseTrigger valid released
      (proper_of_gpioConfig configured properAfter)
  have step := owns_iff (storedPins_valid legal)
    (fun _ => replaced_valid valid tmp.toInt session.structp.trigger here.valid) claims proper
  have wanted : storedPins (.trigger tmp :: trace) =
      { other | tmp.toInt = other ∨ lastEcho trace = some other } := by
    ext other
    simp [storedPins, lastTrigger, lastEcho]
  rw [storedIrq, lastEcho, ← storedIrq, step, wanted, storedPins,
    insert_replaced_iff invariant.eq_trigger]
  simp only [StoreSafe, ← invariant.trigger, Set.mem_ofPred_eq]

/-- The echo pin is held together with its interrupt. -/
theorem StoreInvariant.holds_echo_iff
    (invariant : StoreInvariant gpioToIrq contents trace session) :
    session.structp.echo ∈ storedPins trace ∧
        storedIrq gpioToIrq trace = some session.structp.irqnum ↔
      lastEcho trace = some session.structp.echo := by
  constructor
  · rintro ⟨-, held⟩
    obtain ⟨other, isLast, -⟩ := Option.bind_eq_some_iff.mp held
    rw [isLast, invariant.eq_echo other isLast]
  · intro isLast
    refine ⟨.inr isLast, ?_⟩
    rw [storedIrq, isLast]
    exact invariant.irqnum _ isLast

/-- A field that does not look like an echo pin goes with no interrupt. -/
theorem StoreInvariant.storedIrq_eq_none
    (invariant : StoreInvariant gpioToIrq contents trace session)
    (valid : ∀ ioPin ∈ storedPins trace, ValidPin ioPin)
    (notPin : ¬ (0 ≤ session.structp.echo ∧ session.structp.echo ≤ 13)) :
    storedIrq gpioToIrq trace = none := by
  cases isLast : lastEcho trace with
  | none => simp [storedIrq, isLast]
  | some other =>
      obtain rfl := invariant.eq_echo other isLast
      exact (notPin (valid _ (.inr isLast))).elim

theorem StoreInvariant.echo_iff (invariant : StoreInvariant gpioToIrq contents trace session)
    {tmp : BitVec 32} (legal : ∀ event ∈ .echo tmp :: trace, event.Legal inUse gpioToIrq) :
    (∃ after, storePin inUse gpioToIrq session (.echo tmp) = some after ∧
      Owns after.ledger (storedPins (.echo tmp :: trace))
        (storedIrq gpioToIrq (.echo tmp :: trace))) ↔
      StoreSafe contents trace (.echo tmp) := by
  obtain ⟨here, rest⟩ := List.forall_mem_cons.mp legal
  have valid := storedPins_valid rest
  obtain ⟨irqnum, isIrq, echoStore_eq⟩ := here.echoStore_eq session
  have claims : (0 ≤ session.structp.echo ∧ session.structp.echo ≤ 13 →
      session.structp.echo ∈ storedPins trace ∧
        storedIrq gpioToIrq trace = some session.structp.irqnum) →
      ∃ after, storePin inUse gpioToIrq session (.echo tmp) = some after ∧
        Owns after.ledger (insert tmp.toInt (storedPins trace \ {session.structp.echo}))
          (some irqnum) := by
    intro named
    obtain ⟨ledger, released, owns⟩ :=
      invariant.owns.releaseEcho valid named (invariant.storedIrq_eq_none valid)
    obtain ⟨after, code, configured, claimed⟩ :=
      owns.config (fun ioPin member => valid ioPin member.1) .input here.valid here.gpios
    have sameConfig : gpioConfig (grantFree inUse) tmp.toInt .input ledger =
      some (after, code) := configured
    refine ⟨⟨{ session.structp with echo := tmp.toInt, irqnum := irqnum },
      requestIrq (grantFree inUse) irqnum after⟩, ?_, claimed.claimIrq (here.irq irqnum isIrq)⟩
    rw [echoStore_eq, released, Option.bind_some, sameConfig, Option.map_some]
  have proper : ∀ after, storePin inUse gpioToIrq session (.echo tmp) = some after →
      Proper after.ledger → 0 ≤ session.structp.echo ∧ session.structp.echo ≤ 13 →
      session.structp.echo ∈ storedPins trace ∧
        storedIrq gpioToIrq trace = some session.structp.irqnum := by
    intro after stored properAfter
    rw [echoStore_eq] at stored
    obtain ⟨ledger, released, stored⟩ := Option.bind_eq_some_iff.mp stored
    obtain ⟨⟨result, code⟩, configured, rfl⟩ := Option.map_eq_some_iff.mp stored
    exact invariant.owns.named_of_releaseEcho valid released
      (proper_of_gpioConfig configured properAfter.of_requestAll)
  have step := owns_iff (storedPins_valid legal)
    (fun _ => replaced_valid valid tmp.toInt session.structp.echo here.valid) claims proper
  have before : storedPins trace =
      { other | lastEcho trace = some other ∨ lastTrigger trace = some other } := by
    ext other
    exact or_comm
  have wanted : storedPins (.echo tmp :: trace) =
      { other | tmp.toInt = other ∨ lastTrigger trace = some other } := by
    ext other
    simp [storedPins, lastTrigger, lastEcho, or_comm]
  have irq : storedIrq gpioToIrq (.echo tmp :: trace) = some irqnum := isIrq
  rw [irq, step, invariant.holds_echo_iff, wanted, before, insert_replaced_iff invariant.eq_echo]
  simp only [StoreSafe, ← invariant.echo]

theorem StoreInvariant.start :
    StoreInvariant gpioToIrq contents [] ⟨contents, []⟩ := by
  refine ⟨rfl, rfl, by simp [lastEcho], trivial, fun number => ?_, fun number => ?_⟩
  · simp [storedPins, lastTrigger, lastEcho]
  · simp [storedIrq, lastEcho]

/-- One store is right if and only if it is safe. -/
theorem StoreInvariant.step_iff (invariant : StoreInvariant gpioToIrq contents trace session)
    (legal : ∀ other ∈ event :: trace, other.Legal inUse gpioToIrq) :
    (∃ after, storePin inUse gpioToIrq session event = some after ∧
      Owns after.ledger (storedPins (event :: trace)) (storedIrq gpioToIrq (event :: trace))) ↔
      StoreSafe contents trace event := by
  cases event with
  | trigger tmp => exact invariant.trigger_iff legal
  | echo tmp => exact invariant.echo_iff legal

theorem StoreInvariant.step (invariant : StoreInvariant gpioToIrq contents trace session)
    (legal : event.Legal inUse gpioToIrq)
    (stored : storePin inUse gpioToIrq session event = some after)
    (owns : Owns after.ledger (storedPins (event :: trace))
      (storedIrq gpioToIrq (event :: trace))) :
    StoreInvariant gpioToIrq contents (event :: trace) after := by
  cases event with
  | trigger tmp =>
      rw [legal.triggerStore_eq] at stored
      obtain ⟨ledger, -, stored⟩ := Option.bind_eq_some_iff.mp stored
      obtain ⟨configured, -, rfl⟩ := Option.map_eq_some_iff.mp stored
      exact ⟨rfl, invariant.echo, invariant.irqnum, owns⟩
  | echo tmp =>
      obtain ⟨irqnum, isIrq, echoStore_eq⟩ := legal.echoStore_eq session
      rw [echoStore_eq] at stored
      obtain ⟨ledger, -, stored⟩ := Option.bind_eq_some_iff.mp stored
      obtain ⟨configured, -, rfl⟩ := Option.map_eq_some_iff.mp stored
      refine ⟨invariant.trigger, rfl, fun ioPin isLast => ?_, owns⟩
      obtain rfl := Option.some.inj isLast
      exact isIrq

theorem OwnsStored.of_suffix {earlier : List PinStore}
    (owns : OwnsStored inUse gpioToIrq contents trace) (suffix : earlier <:+ trace) :
    OwnsStored inUse gpioToIrq contents earlier :=
  fun past inside => owns past (inside.trans suffix)

theorem OwnsStored.reaches (legal : ∀ event ∈ trace, event.Legal inUse gpioToIrq)
    (owns : OwnsStored inUse gpioToIrq contents trace) :
    ∃ session, replay (storePin inUse gpioToIrq) ⟨contents, []⟩ trace = some session ∧
      StoreInvariant gpioToIrq contents trace session := by
  induction trace with
  | nil => exact ⟨_, rfl, .start⟩
  | cons event trace ih =>
      obtain ⟨here, rest⟩ := List.forall_mem_cons.mp legal
      have before := owns.of_suffix (List.suffix_cons event trace)
      obtain ⟨session, reached, invariant⟩ := ih rest before
      obtain ⟨after, reachedAfter, ownsAfter⟩ := owns _ (List.suffix_refl _)
      have stored := reachedAfter
      rw [replay, reached, Option.bind_some] at stored
      exact ⟨after, reachedAfter, invariant.step here stored ownsAfter⟩

/-- Stores free exactly what is held, and leave the sensor with what its pins need,
if and only if every field that looks like a pin names a pin that is held when it is
stored to, and no pin that is both trigger and echo is replaced in one role only. -/
theorem stores_free_held_iff (legal : ∀ event ∈ trace, event.Legal inUse gpioToIrq) :
    OwnsStored inUse gpioToIrq contents trace ↔
      ∀ event earlier, event :: earlier <:+ trace → StoreSafe contents earlier event := by
  induction trace with
  | nil =>
      constructor
      · intro _ event earlier inside
        cases List.suffix_nil.mp inside
      · intro _ earlier inside
        obtain rfl := List.suffix_nil.mp inside
        exact ⟨_, rfl, StoreInvariant.start.owns⟩
  | cons event trace ih =>
      obtain ⟨-, rest⟩ := List.forall_mem_cons.mp legal
      rw [forall_executed_cons_iff, ← ih rest]
      constructor
      · intro owns
        have before := owns.of_suffix (List.suffix_cons event trace)
        obtain ⟨session, reached, invariant⟩ := before.reaches rest
        obtain ⟨after, stored, ownsAfter⟩ := owns _ (List.suffix_refl _)
        rw [replay, reached, Option.bind_some] at stored
        exact ⟨(invariant.step_iff legal).mp ⟨after, stored, ownsAfter⟩, before⟩
      · rintro ⟨safe, before⟩ earlier inside
        rcases List.suffix_cons_iff.mp inside with rfl | within
        · obtain ⟨session, reached, invariant⟩ := before.reaches rest
          rw [replay, reached, Option.bind_some]
          exact (invariant.step_iff legal).mpr safe
        · exact before earlier within

end Traces

/-- Memory that `kmalloc` may return, with no pins in its fields. -/
def unnamedPins : HSCStruct :=
  { HSCStruct.zeroed with trigger := -1, echo := -1 }

theorem legal_of_accepted {event : PinStore}
    (accepted : 1 ≤ event.tmp.toInt ∧ event.tmp.toInt ≤ 13) :
    event.Legal (fun _ => false) gpioToIrq :=
  ⟨accepted, fun _ _ => rfl, fun _ _ => rfl⟩

/-- With zeroed memory the first store frees gpios that nobody has requested; when
trigger and echo are the same pin, replacing the trigger releases the echo pin. -/
theorem unheld_pin_freed :
    (∀ event ∈ [PinStore.trigger 3], event.Legal (fun _ => false) shiftedIrq) ∧
      ¬ OwnsStored (fun _ => false) shiftedIrq .zeroed [.trigger 3] ∧
      (∀ event ∈ [PinStore.trigger 5, .echo 3, .trigger 3],
        event.Legal (fun _ => false) shiftedIrq) ∧
      ¬ OwnsStored (fun _ => false) shiftedIrq unnamedPins [.trigger 5, .echo 3, .trigger 3] := by
  have first : ∀ event ∈ [PinStore.trigger 3], event.Legal (fun _ => false) shiftedIrq := by
    simp only [List.forall_mem_cons]
    exact ⟨legal_of_accepted _ (by decide), by simp⟩
  have both : ∀ event ∈ [PinStore.echo 3, .trigger 3],
      event.Legal (fun _ => false) shiftedIrq :=
    List.forall_mem_cons.mpr ⟨legal_of_accepted _ (by decide), first⟩
  have third : ∀ event ∈ [PinStore.trigger 5, .echo 3, .trigger 3],
      event.Legal (fun _ => false) shiftedIrq :=
    List.forall_mem_cons.mpr ⟨legal_of_accepted _ (by decide), both⟩
  refine ⟨first, fun owns => ?_, third, fun owns => ?_⟩
  · obtain ⟨after, stored, ownsAfter⟩ := owns _ (List.suffix_refl _)
    rw [replay, replay, Option.bind_some] at stored
    have safe := (StoreInvariant.start.step_iff first).mp ⟨after, stored, ownsAfter⟩
    rcases safe.1 (by decide) with isTrigger | isEcho
    · cases isTrigger
    · cases isEcho
  · obtain ⟨session, reached, invariant⟩ :=
      (owns.of_suffix (List.suffix_cons _ _)).reaches both
    obtain ⟨after, stored, ownsAfter⟩ := owns _ (List.suffix_refl _)
    rw [replay, reached, Option.bind_some] at stored
    have safe := (invariant.step_iff third).mp ⟨after, stored, ownsAfter⟩
    exact absurd (safe.2 rfl) (by decide)

theorem stores_free_held_twice :
    OwnsStored (fun _ => false) shiftedIrq unnamedPins [.trigger 5, .echo 2, .trigger 3] := by
  have legal : ∀ event ∈ [PinStore.trigger 5, .echo 2, .trigger 3],
      event.Legal (fun _ => false) shiftedIrq := by
    simp only [List.forall_mem_cons]
    exact ⟨legal_of_accepted _ (by decide), legal_of_accepted _ (by decide),
      legal_of_accepted _ (by decide), by simp⟩
  apply (stores_free_held_iff legal).mpr
  intro event earlier inside
  simp only [executed_cons_iff, List.suffix_nil, reduceCtorEq, or_false] at inside
  obtain ⟨rfl, rfl⟩ | ⟨rfl, rfl⟩ | ⟨rfl, rfl⟩ := inside <;>
    simp [StoreSafe, lastTrigger, lastEcho, unnamedPins]

end Sensor

end KinuxKernel
