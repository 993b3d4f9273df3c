import KinuxKernel.GpioPins
import KinuxKernel.TraceRun

/-!
# Opening and closing the hrtimer device

`hrt_open` configures pin 12 without looking at the result and maps the registers anew,
and `hrt_close` unmaps what the last open has mapped and frees the gpios of the pin,
whoever else has opened the device.
-/

namespace KinuxKernel

namespace LedRing

namespace Hrtimer

open ResourceLedger Sensor TraceRun

/-- What the files of the device have claimed.  Mappings of the registers are numbered by the
calls of `hrt_open`; a write to a register is an effect in their ledger. -/
structure Files where
  pins : Ledger
  mappings : List (ResourceLedger.Action Nat Unit)
  opens : Nat
  count : Nat
  regData : Option Nat
  pending : Bool

/-- The driver has been loaded. -/
def Files.fresh : Files where
  pins := []
  mappings := []
  opens := 0
  count := 0
  regData := none
  pending := false

inductive FileEvent where
  | hrtOpen (inUse : Resource → Bool)
  | hrtWrite
  | expire (restart : Bool)
  | hrtClose

/-- An operation on a file, or a callback of the timer, which writes to the register as long as it
restarts.  To initialise a timer that is pending is undefined. -/
def useFile (files : Files) : FileEvent → Option Files
  | .hrtOpen inUse =>
      if files.pending then none
      else (gpioConfig (grantFree inUse) 12 .output files.pins).map fun result =>
        { files with
          pins := result.1
          mappings := .request files.opens :: files.mappings
          opens := files.opens + 1
          count := files.count + 1
          regData := some files.opens }
  | .hrtWrite => if 0 < files.count then some { files with pending := true } else none
  | .expire restart =>
      if files.pending then
        some { files with
          mappings := if restart then .effect () :: files.mappings else files.mappings
          pending := restart }
      else none
  | .hrtClose =>
      if 0 < files.count then
        files.regData.bind fun mapping =>
          (gpioDeregisterOut 12 files.pins).map fun pins =>
            { files with
              pins := pins
              mappings := .free mapping :: files.mappings
              count := files.count - 1
              pending := false }
      else none

/-- The operations on files in any order. -/
abbrev FileRun : List FileEvent → Files → Prop :=
  Run useFile (fun _ _ _ => True) .fresh

/-- Nothing is freed that is not held, no mapping is lost, callbacks write to registers that are
mapped, and nothing is held when no file is open. -/
structure Files.Kept (files : Files) : Prop where
  pins : Proper files.pins
  mappings : Proper files.mappings
  current : ∀ mapping, holds files.mappings mapping = true →
    0 < files.count ∧ files.regData = some mapping
  registers : files.pending = true →
    ∃ mapping, files.regData = some mapping ∧ holds files.mappings mapping = true
  released : files.count = 0 → ∀ resource, holds files.pins resource = false

/-- The files that are open. -/
def openFiles : List FileEvent → Nat
  | [] => 0
  | .hrtOpen _ :: trace => openFiles trace + 1
  | .hrtClose :: trace => openFiles trace - 1
  | .hrtWrite :: trace | .expire _ :: trace => openFiles trace

/-- The gpios that were in use when the device was opened last. -/
def lastInUse : List FileEvent → Option (Resource → Bool)
  | [] => none
  | .hrtOpen inUse :: _ => some inUse
  | .hrtClose :: trace | .hrtWrite :: trace | .expire _ :: trace => lastInUse trace

/-- The device is opened by one process at a time, and closed only if the gpios of the pin were
free when it was opened. -/
def InTurn (trace : List FileEvent) : FileEvent → Prop
  | .hrtOpen _ => openFiles trace = 0
  | .hrtClose => ∀ inUse, lastInUse trace = some inUse →
      ∀ resource ∈ pinGpios 12, inUse resource = false
  | .hrtWrite | .expire _ => True

section Pin

variable {ledger : Ledger} {inUse : Resource → Bool}

/-- Whatever requests are granted, `gpio_config` claims free gpios only, and all gpios of the pin
if they were free. -/
theorem config_claims (proper : Proper ledger)
    (free : ∀ resource, holds ledger resource = false) :
    ∃ after code, gpioConfig (grantFree inUse) 12 .output ledger = some (after, code) ∧
      Proper after ∧ (∀ resource, holds after resource = true → inUse resource = false) ∧
      ((∀ resource ∈ pinGpios 12, inUse resource = false) →
        ∀ resource, holds after resource = true ↔ resource ∈ pinGpios 12) := by
  have valid : ValidPin 12 := by decide
  obtain ⟨row, found⟩ := pinRow_of_valid valid
  have gpios : pinGpios 12 = rowGpios row := by simp [pinGpios, found]
  have distinct := pinGpios_nodup valid
  have properAll : Proper (requestAll (grantFree inUse) ledger (rowGpios row)).1 :=
    proper_requestAll (grantsUnheld_grantFree inUse) proper
  have unused : ∀ resource,
      holds (requestAll (grantFree inUse) ledger (rowGpios row)).1 resource = true →
        inUse resource = false := by
    intro resource held
    refine (unused_of_requestAll held).resolve_right ?_
    simp [free resource]
  have all : (∀ resource ∈ pinGpios 12, inUse resource = false) → ∀ resource,
      holds (requestAll (grantFree inUse) ledger (rowGpios row)).1 resource = true ↔
        resource ∈ pinGpios 12 := by
    rw [gpios] at distinct ⊢
    intro unusedAll resource
    rw [(requestAll_free distinct unusedAll (fun resource _ => free resource) proper).2.2]
    simp [free resource]
  rw [gpioConfig, found, Option.map_some]
  split
  · next result =>
      rw [result] at properAll unused all
      refine ⟨_, _, rfl, (proper_routePin row).mpr properAll, ?_, ?_⟩
      · simpa using unused
      · simpa using all
  · next result =>
      rw [result] at properAll unused all
      exact ⟨_, _, rfl, properAll, unused, all⟩

theorem deregister_frees (ledger : Ledger) :
    ∃ after, gpioDeregisterOut 12 ledger = some after ∧
      (Proper after ↔ (∀ resource ∈ pinGpios 12, holds ledger resource = true) ∧ Proper ledger) ∧
      ∀ resource, holds after resource = true ↔
        resource ∉ pinGpios 12 ∧ holds ledger resource = true := by
  have valid : ValidPin 12 := by decide
  obtain ⟨row, found⟩ := pinRow_of_valid valid
  have gpios : pinGpios 12 = rowGpios row := by simp [pinGpios, found]
  have distinct := pinGpios_nodup valid
  rw [gpios] at distinct ⊢
  refine ⟨freeAll (setValue (mainGpio row) false ledger) (rowGpios row), ?_, ?_, ?_⟩
  · rw [gpioDeregisterOut, found, Option.map_some]
  · exact proper_freeAll distinct
  · exact holds_freeAll

end Pin

section Steps

variable {trace : List FileEvent} {files after : Files} {inUse : Resource → Bool}

/-- At most one file is open, with its mapping and the gpios that it was granted. -/
structure OneFile (trace : List FileEvent) (files : Files) : Prop where
  pins : Proper files.pins
  mappings : Proper files.mappings
  count : files.count = openFiles trace
  one : files.count ≤ 1
  mapped : ∀ mapping, holds files.mappings mapping = true ↔
    files.count = 1 ∧ files.regData = some mapping
  regData : files.count = 1 → ∃ mapping < files.opens, files.regData = some mapping
  pending : files.pending = true → files.count = 1
  released : files.count = 0 → ∀ resource, holds files.pins resource = false
  claimed : files.count = 1 → ∃ inUse, lastInUse trace = some inUse ∧
    (∀ resource, holds files.pins resource = true → inUse resource = false) ∧
    ((∀ resource ∈ pinGpios 12, inUse resource = false) →
      ∀ resource, holds files.pins resource = true ↔ resource ∈ pinGpios 12)

theorem OneFile.start : OneFile [] .fresh where
  pins := trivial
  mappings := trivial
  count := rfl
  one := Nat.zero_le 1
  mapped mapping := by simp [Files.fresh]
  regData one := absurd one (by simp [Files.fresh])
  pending waits := absurd waits (by simp [Files.fresh])
  released _ _ := rfl
  claimed one := absurd one (by simp [Files.fresh])

theorem OneFile.kept (oneFile : OneFile trace files) : files.Kept where
  pins := oneFile.pins
  mappings := oneFile.mappings
  current mapping held := by
    obtain ⟨one, current⟩ := (oneFile.mapped mapping).mp held
    exact ⟨by omega, current⟩
  registers waits := by
    have one := oneFile.pending waits
    obtain ⟨mapping, -, current⟩ := oneFile.regData one
    exact ⟨mapping, current, (oneFile.mapped mapping).mpr ⟨one, current⟩⟩
  released := oneFile.released

theorem OneFile.mapping_fresh (oneFile : OneFile trace files) :
    holds files.mappings files.opens = false := by
  by_contra held
  obtain ⟨one, current⟩ := (oneFile.mapped _).mp (eq_true_of_ne_false held)
  obtain ⟨mapping, older, same⟩ := oneFile.regData one
  have equal := Option.some.inj (same.symm.trans current)
  omega

theorem OneFile.hrtOpen (oneFile : OneFile trace files) (closed : openFiles trace = 0)
    (stepTo : useFile files (.hrtOpen inUse) = some after) :
    OneFile (.hrtOpen inUse :: trace) after := by
  have none : files.count = 0 := oneFile.count.trans closed
  obtain ⟨pins, code, configured, proper, unused, all⟩ :=
    @config_claims _ inUse oneFile.pins (oneFile.released none)
  have fresh := oneFile.mapping_fresh
  have idle : files.pending ≠ true := fun waits => by
    have one := oneFile.pending waits
    omega
  rw [useFile, if_neg idle, configured] at stepTo
  obtain rfl := Option.some.inj stepTo
  constructor
  · exact proper
  · exact ⟨fresh, oneFile.mappings⟩
  · simp [openFiles, oneFile.count]
  · simp [none]
  · intro mapping
    have before := oneFile.mapped mapping
    simp only [none, Nat.zero_ne_one, false_and, iff_false, Bool.not_eq_true] at before
    simp [before, none, eq_comm]
  · exact fun _ => ⟨files.opens, Nat.lt_succ_self _, rfl⟩
  · exact fun waits => absurd waits idle
  · intro zero
    simp at zero
  · exact fun _ => ⟨inUse, rfl, unused, all⟩

/-- A second open loses the mapping of the first. -/
theorem OneFile.lost (oneFile : OneFile trace files) (opened : openFiles trace ≠ 0)
    (stepTo : useFile files (.hrtOpen inUse) = some after) : ¬ after.Kept := by
  intro kept
  have one : files.count = 1 := by
    have count := oneFile.count
    have few := oneFile.one
    omega
  obtain ⟨mapping, older, current⟩ := oneFile.regData one
  have held := (oneFile.mapped mapping).mpr ⟨one, current⟩
  rw [useFile, Option.ite_none_left_eq_some, Option.map_eq_some_iff] at stepTo
  obtain ⟨-, result, -, rfl⟩ := stepTo
  have lost := (kept.current mapping (by simp [held])).2
  have equal := Option.some.inj lost
  omega

theorem OneFile.hrtWrite (oneFile : OneFile trace files)
    (stepTo : useFile files .hrtWrite = some after) : OneFile (.hrtWrite :: trace) after := by
  obtain ⟨opened, same⟩ := Option.ite_none_right_eq_some.mp stepTo
  obtain rfl := Option.some.inj same
  have few := oneFile.one
  exact ⟨oneFile.pins, oneFile.mappings, oneFile.count, few, oneFile.mapped, oneFile.regData,
    fun _ => by simp only; omega, oneFile.released, oneFile.claimed⟩

theorem OneFile.expire {restart : Bool} (oneFile : OneFile trace files)
    (stepTo : useFile files (.expire restart) = some after) :
    OneFile (.expire restart :: trace) after := by
  obtain ⟨waits, same⟩ := Option.ite_none_right_eq_some.mp stepTo
  obtain rfl := Option.some.inj same
  have one := oneFile.pending waits
  refine ⟨oneFile.pins, ?_, oneFile.count, oneFile.one, ?_, oneFile.regData, fun _ => one,
    oneFile.released, oneFile.claimed⟩
  · cases restart <;> exact oneFile.mappings
  · cases restart <;> exact oneFile.mapped

/-- What a close does that ends the only session. -/
structure Closing (trace : List FileEvent) (files after : Files) (inUse : Resource → Bool)
    (mapping : Nat) : Prop where
  one : files.count = 1
  last : lastInUse trace = some inUse
  current : files.regData = some mapping
  mappings : after.mappings = .free mapping :: files.mappings
  none : after.count = 0
  idle : after.pending = false
  proper : Proper after.pins ↔ ∀ resource ∈ pinGpios 12, holds files.pins resource = true
  unused : ∀ resource, holds files.pins resource = true → inUse resource = false
  all : (∀ resource ∈ pinGpios 12, inUse resource = false) →
    ∀ resource, holds files.pins resource = true ↔ resource ∈ pinGpios 12
  held : ∀ resource, holds after.pins resource = true ↔
    resource ∉ pinGpios 12 ∧ holds files.pins resource = true

theorem OneFile.closing (oneFile : OneFile trace files)
    (stepTo : useFile files .hrtClose = some after) :
    ∃ inUse mapping, Closing trace files after inUse mapping := by
  obtain ⟨opened, same⟩ := Option.ite_none_right_eq_some.mp stepTo
  have few := oneFile.one
  have one : files.count = 1 := by omega
  obtain ⟨inUse, last, unused, all⟩ := oneFile.claimed one
  obtain ⟨mapping, -, current⟩ := oneFile.regData one
  obtain ⟨pins, deregistered, proper, held⟩ := deregister_frees files.pins
  rw [current, Option.bind_some, deregistered] at same
  obtain rfl := Option.some.inj same
  rw [and_iff_left oneFile.pins] at proper
  exact ⟨inUse, mapping, one, last, current, rfl, by simp [one], rfl, proper, unused, all, held⟩

theorem OneFile.hrtClose (oneFile : OneFile trace files) (inTurn : InTurn trace .hrtClose)
    (stepTo : useFile files .hrtClose = some after) : OneFile (.hrtClose :: trace) after := by
  obtain ⟨inUse, mapping, closing⟩ := oneFile.closing stepTo
  obtain ⟨one, last, current, mappings, none, idle, proper, -, all, held⟩ := closing
  have claimed := all (inTurn inUse last)
  have count := oneFile.count
  constructor
  · exact proper.mpr fun resource member => (claimed resource).mpr member
  · rw [mappings]
    exact ⟨(oneFile.mapped mapping).mpr ⟨one, current⟩, oneFile.mappings⟩
  · rw [none, openFiles]
    omega
  · omega
  · intro other
    rw [mappings, none]
    have before := oneFile.mapped other
    rw [current] at before
    simp only [holds_free, Bool.and_eq_true, decide_eq_true_eq, before]
    constructor
    · rintro ⟨different, -, same⟩
      exact absurd (Option.some.inj same).symm different
    · rintro ⟨zero, -⟩
      exact absurd zero (by decide)
  · intro again
    omega
  · simp [idle]
  · intro _ resource
    rw [← Bool.not_eq_true, held, claimed]
    exact fun both => both.1 both.2
  · intro again
    omega

/-- A close frees gpios that the session has not been granted. -/
theorem OneFile.improper (oneFile : OneFile trace files) (refused : ¬InTurn trace .hrtClose)
    (stepTo : useFile files .hrtClose = some after) : ¬ after.Kept := by
  intro kept
  obtain ⟨inUse, mapping, closing⟩ := oneFile.closing stepTo
  apply refused
  intro others same resource member
  obtain rfl := Option.some.inj (closing.last.symm.trans same)
  exact closing.unused resource (closing.proper.mp kept.pins resource member)

/-- An event out of turn, and no other, leaves something behind or frees too much. -/
theorem OneFile.step {event : FileEvent} (oneFile : OneFile trace files)
    (stepTo : useFile files event = some after) :
    (InTurn trace event → OneFile (event :: trace) after) ∧
      (after.Kept → InTurn trace event) := by
  cases event with
  | hrtOpen inUse =>
      refine ⟨fun closed => oneFile.hrtOpen closed stepTo, fun kept => ?_⟩
      by_contra opened
      exact oneFile.lost opened stepTo kept
  | hrtWrite => exact ⟨fun _ => oneFile.hrtWrite stepTo, fun _ => trivial⟩
  | expire restart => exact ⟨fun _ => oneFile.expire stepTo, fun _ => trivial⟩
  | hrtClose =>
      refine ⟨fun inTurn => oneFile.hrtClose inTurn stepTo, fun kept => ?_⟩
      by_contra refused
      exact oneFile.improper refused stepTo kept

theorem FileRun.oneFile (run : FileRun trace files)
    (inTurn : ∀ event earlier, event :: earlier <:+ trace → InTurn earlier event) :
    OneFile trace files := by
  induction run with
  | start => exact .start
  | next _ _ stepTo ih =>
      obtain ⟨here, before⟩ := forall_executed_cons_iff.mp inTurn
      exact ((ih before).step stepTo).1 here

/-- All states of a run are kept if and only if the device is opened by one process at a time,
and closed only if the gpios were free when it was opened. -/
theorem files_kept_iff (run : FileRun trace files) :
    (∀ earlier past, earlier <:+ trace → replay useFile .fresh earlier = some past →
      past.Kept) ↔
    ∀ event earlier, event :: earlier <:+ trace → InTurn earlier event := by
  constructor
  · intro kept
    induction run with
    | start => exact fun _ _ inside => absurd (List.suffix_nil.mp inside) (List.cons_ne_nil _ _)
    | @next trace before after event past _ stepTo ih =>
        have inTurn := ih fun earlier state inside =>
          kept earlier state (inside.trans (List.suffix_cons ..))
        have now := kept _ after (List.suffix_refl _) (Run.next past trivial stepTo).replay_eq
        exact forall_executed_cons_iff.mpr
          ⟨((FileRun.oneFile past inTurn).step stepTo).2 now, inTurn⟩
  · intro inTurn earlier past inside reached
    exact (FileRun.oneFile (run.of_reached inside reached)
      fun event before executed => inTurn event before (executed.trans inside)).kept

/-- A session with a transfer. -/
theorem files_kept_iff_session :
    ∃ files, FileRun [.hrtClose, .expire true, .hrtWrite, .hrtOpen fun _ => false] files ∧
      files.Kept := by
  obtain ⟨pins, code, configured, -⟩ :=
    @config_claims [] (fun _ => false) trivial (fun _ => rfl)
  obtain ⟨released, deregistered, -⟩ := deregister_frees pins
  have opened : FileRun [.hrtOpen fun _ => false] ⟨pins, [.request 0], 1, 1, some 0, false⟩ := by
    refine .next .start trivial ?_
    rw [useFile, if_neg (by decide), Files.fresh, configured]
    rfl
  have sent : FileRun [.expire true, .hrtWrite, .hrtOpen fun _ => false]
      ⟨pins, [.effect (), .request 0], 1, 1, some 0, true⟩ :=
    .next (.next opened trivial rfl) trivial rfl
  have closed : FileRun [.hrtClose, .expire true, .hrtWrite, .hrtOpen fun _ => false]
      ⟨released, [.free 0, .effect (), .request 0], 1, 0, some 0, false⟩ := by
    refine .next sent trivial ?_
    rw [useFile, if_pos Nat.one_pos, Option.bind_some, deregistered]
    rfl
  refine ⟨_, closed, (files_kept_iff closed).mpr ?_ _ _ (List.suffix_refl _) closed.replay_eq⟩
  simp only [forall_executed_cons_iff]
  refine ⟨fun inUse same resource _ => ?_, trivial, trivial, rfl, fun _ _ inside => ?_⟩
  · obtain rfl := Option.some.inj same
    rfl
  · exact absurd (List.suffix_nil.mp inside) (List.cons_ne_nil _ _)

end Steps

end Hrtimer

end LedRing

end KinuxKernel
