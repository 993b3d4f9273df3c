import KinuxKernel.ResourceLedger
import KinuxKernel.TraceRun

/-!
# Setting up and tearing down

A setup is a list of calls that the kernel answers.  A refusal of a required call
ends it, with what has been granted so far; other refusals are ignored.  A
teardown comes after a setup that has succeeded, and frees what the setup may
have claimed.  Nothing is ever left behind exactly if setups that fail have not
been granted anything and teardowns find what they free.
-/

namespace KinuxKernel

namespace Registrations

open ResourceLedger TraceRun

/-- A call of a setup. -/
inductive Call (Resource Effect : Type*) where
  | request (resource : Resource) (required : Bool)
  | perform (effect : Effect) (required : Bool)
deriving DecidableEq

/-- A call of a teardown; some look for what they free. -/
inductive Cleanup (Resource Effect : Type*) where
  | free (resource : Resource)
  | freeFound (resource : Resource)
  | perform (effect : Effect)
deriving DecidableEq

variable {Resource Effect : Type*}

namespace Call

def action : Call Resource Effect → Action Resource Effect
  | .request resource _ => .request resource
  | .perform effect _ => .effect effect

def required : Call Resource Effect → Bool
  | .request _ required | .perform _ required => required

def claims : Call Resource Effect → Option Resource
  | .request resource _ => some resource
  | .perform _ _ => none

end Call

/-- The resource that a call of a teardown is about. -/
def Cleanup.resource : Cleanup Resource Effect → Option Resource
  | .free resource | .freeFound resource => some resource
  | .perform _ => none

/-- Make the calls of a setup, with the answers of the kernel. -/
def setUp (answers : Call Resource Effect → Bool) (ledger : List (Action Resource Effect)) :
    List (Call Resource Effect) → List (Action Resource Effect) × Bool
  | [] => (ledger, true)
  | call :: calls =>
      if answers call then setUp answers (call.action :: ledger) calls
      else if call.required then (ledger, false)
      else setUp answers ledger calls

/-- What a setup claims. -/
def granted (answers : Call Resource Effect → Bool) : List (Call Resource Effect) → List Resource
  | [] => []
  | call :: calls =>
      if answers call then call.claims.toList ++ granted answers calls
      else if call.required then []
      else granted answers calls

/-- All required calls are granted. -/
def goesThrough (answers : Call Resource Effect → Bool) (calls : List (Call Resource Effect)) :
    Bool :=
  calls.all fun call => answers call || !call.required

variable [DecidableEq Resource]

def Cleanup.run (ledger : List (Action Resource Effect)) :
    Cleanup Resource Effect → List (Action Resource Effect)
  | .free freed => .free freed :: ledger
  | .freeFound freed => if holds ledger freed then .free freed :: ledger else ledger
  | .perform effect => .effect effect :: ledger

/-- Make the calls of a teardown. -/
def tearDown (ledger : List (Action Resource Effect)) :
    List (Cleanup Resource Effect) → List (Action Resource Effect)
  | [] => ledger
  | cleanup :: cleanups => tearDown (cleanup.run ledger) cleanups

section Calls

variable {answers : Call Resource Effect → Bool} {ledger : List (Action Resource Effect)}
  {calls : List (Call Resource Effect)} {cleanups : List (Cleanup Resource Effect)}
  {resource : Resource}

omit [DecidableEq Resource] in
theorem setUp_snd : (setUp answers ledger calls).2 = goesThrough answers calls := by
  induction calls generalizing ledger with
  | nil => rfl
  | cons call calls ih =>
      rw [setUp, goesThrough, List.all_cons, ← goesThrough]
      by_cases answer : answers call = true
      · rw [if_pos answer, ih, answer]
        rfl
      · by_cases required : call.required = true
        · simp [answer, required]
        · simp [answer, required, ih]

theorem holds_action (call : Call Resource Effect) :
    holds (call.action :: ledger) resource = true ↔
      resource ∈ call.claims.toList ∨ holds ledger resource = true := by
  cases call <;> simp [Call.action, Call.claims]

/-- A setup adds what it is granted. -/
theorem holds_setUp : holds (setUp answers ledger calls).1 resource = true ↔
    resource ∈ granted answers calls ∨ holds ledger resource = true := by
  induction calls generalizing ledger with
  | nil => simp [setUp, granted]
  | cons call calls ih =>
      rw [setUp, granted]
      split_ifs
      · rw [ih, holds_action, List.mem_append]
        tauto
      · simp
      · exact ih

omit [DecidableEq Resource] in
theorem granted_sublist : (granted answers calls).Sublist (calls.filterMap Call.claims) := by
  induction calls with
  | nil => exact List.Sublist.slnil
  | cons call calls ih =>
      rw [granted]
      cases call with
      | request requested required =>
          rw [List.filterMap_cons_some (f := Call.claims) rfl]
          split_ifs
          · exact ih.cons_cons requested
          · exact List.nil_sublist _
          · exact ih.cons requested
      | perform effect required =>
          rw [List.filterMap_cons_none (f := Call.claims) rfl]
          split_ifs
          · exact ih
          · exact List.nil_sublist _
          · exact ih

omit [DecidableEq Resource] in
/-- A setup that is not ended claims all that is granted. -/
theorem mem_granted (through : goesThrough answers calls = true) :
    resource ∈ granted answers calls ↔
      ∃ call ∈ calls, call.claims = some resource ∧ answers call = true := by
  induction calls with
  | nil => simp [granted]
  | cons call calls ih =>
      rw [goesThrough, List.all_cons, Bool.and_eq_true] at through
      have rest := ih through.2
      rw [granted, List.exists_mem_cons_iff]
      split_ifs with answer required
      · rw [List.mem_append, rest]
        simp [answer]
      · simp [answer, required] at through
      · rw [rest]
        simp [answer]

theorem proper_setUp (proper : Proper ledger)
    (fresh : ∀ resource ∈ granted answers calls, holds ledger resource = false)
    (distinct : (granted answers calls).Nodup) : Proper (setUp answers ledger calls).1 := by
  induction calls generalizing ledger with
  | nil => exact proper
  | cons call calls ih =>
      rw [granted] at fresh distinct
      rw [setUp]
      split_ifs at fresh distinct ⊢
      · cases call with
        | request requested required =>
            obtain ⟨absent, distinct⟩ := List.nodup_cons.mp distinct
            obtain ⟨free, others⟩ := List.forall_mem_cons.mp fresh
            refine ih ⟨free, proper⟩ (fun resource member => ?_) distinct
            have different : resource ≠ requested := fun same => absent (same ▸ member)
            simp [Call.action, different, others resource member]
        | perform effect required => exact ih proper fresh distinct
      · exact proper
      · exact ih proper fresh distinct

theorem holds_run (cleanup : Cleanup Resource Effect) :
    holds (cleanup.run ledger) resource = true ↔
      resource ∉ cleanup.resource.toList ∧ holds ledger resource = true := by
  cases cleanup with
  | free freed => simp [Cleanup.run, Cleanup.resource]
  | freeFound freed =>
      simp only [Cleanup.run, Cleanup.resource, Option.toList_some, List.mem_singleton]
      split_ifs with found
      · simp
      · constructor
        · intro held
          exact ⟨fun same => found (same ▸ held), held⟩
        · exact And.right
  | perform effect => simp [Cleanup.run, Cleanup.resource]

theorem holds_tearDown : holds (tearDown ledger cleanups) resource = true ↔
    resource ∉ cleanups.filterMap Cleanup.resource ∧ holds ledger resource = true := by
  induction cleanups generalizing ledger with
  | nil => simp [tearDown]
  | cons cleanup cleanups ih =>
      rw [tearDown, ih, holds_run]
      cases cleanup <;> simp [Cleanup.resource, List.filterMap_cons] <;> tauto

/-- A teardown is proper if it finds what it frees. -/
theorem proper_tearDown (distinct : (cleanups.filterMap Cleanup.resource).Nodup) :
    Proper (tearDown ledger cleanups) ↔
      Proper ledger ∧ ∀ resource, .free resource ∈ cleanups → holds ledger resource = true := by
  induction cleanups generalizing ledger with
  | nil => simp [tearDown]
  | cons cleanup cleanups ih =>
      have rest : (cleanups.filterMap Cleanup.resource).Nodup :=
        distinct.sublist ((List.sublist_cons_self ..).filterMap _)
      have apart : ∀ resource, .free resource ∈ cleanups →
          (holds (cleanup.run ledger) resource = true ↔ holds ledger resource = true) := by
        intro resource member
        rw [holds_run, and_iff_right]
        intro same
        rw [List.filterMap_cons, Option.mem_toList.mp same] at distinct
        exact (List.nodup_cons.mp distinct).1
          (List.mem_filterMap.mpr ⟨_, member, rfl⟩)
      rw [tearDown, ih rest, forall₂_congr apart]
      cases cleanup with
      | free freed => simp [Cleanup.run]; tauto
      | freeFound freed =>
          rw [Cleanup.run]
          split_ifs with found
          · simp [found]
          · simp
      | perform effect => simp [Cleanup.run]

end Calls

/-- The setups and teardowns of something, numbered by attempts; a setup whose answers
make it use what it has not been granted is undefined. -/
structure Plan (Resource Effect : Type*) where
  calls : Nat → List (Call Resource Effect)
  cleanups : Nat → List (Cleanup Resource Effect)
  faults : Nat → (Call Resource Effect → Bool) → Bool
  distinct : ∀ attempt, ((calls attempt).filterMap Call.claims).Nodup
  complete : ∀ attempt, ((cleanups attempt).filterMap Cleanup.resource).Perm
    ((calls attempt).filterMap Call.claims)

/-- How often something has been set up, whether it is, and what is claimed. -/
structure Life (Resource Effect : Type*) where
  attempts : Nat
  up : Bool
  ledger : List (Action Resource Effect)

inductive LifeEvent (Resource Effect : Type*) where
  | setUp (answers : Call Resource Effect → Bool)
  | tearDown

namespace Plan

/-- Nothing has been set up. -/
def fresh : Life Resource Effect :=
  ⟨0, false, []⟩

variable (plan : Plan Resource Effect)

def live (life : Life Resource Effect) : LifeEvent Resource Effect → Option (Life Resource Effect)
  | .setUp answers =>
      if life.up = false ∧ plan.faults life.attempts answers = false then
        let result := Registrations.setUp answers life.ledger (plan.calls life.attempts)
        some ⟨life.attempts + 1, result.2, result.1⟩
      else none
  | .tearDown =>
      if life.up = true then
        some { life with
          up := false
          ledger := Registrations.tearDown life.ledger (plan.cleanups (life.attempts - 1)) }
      else none

/-- What is claimed is not granted again. -/
def Exclusive (_ : List (LifeEvent Resource Effect)) (life : Life Resource Effect) :
    LifeEvent Resource Effect → Prop
  | .setUp answers => ∀ resource ∈ granted answers (plan.calls life.attempts),
      holds life.ledger resource = false
  | .tearDown => True

abbrev LifeRun : List (LifeEvent Resource Effect) → Life Resource Effect → Prop :=
  Run plan.live plan.Exclusive fresh

/-- The number of setups. -/
def setUps : List (LifeEvent Resource Effect) → Nat
  | [] => 0
  | .setUp _ :: trace => setUps trace + 1
  | .tearDown :: trace => setUps trace

/-- Nothing is freed that is not held, and nothing is held when nothing is set up. -/
def Clean (life : Life Resource Effect) : Prop :=
  Proper life.ledger ∧ (life.up = false → ∀ resource, holds life.ledger resource = false)

/-- Setups that fail have not been granted anything, and setups that are torn down have
been granted what the teardown frees without looking for it. -/
structure Undisturbed (trace : List (LifeEvent Resource Effect)) : Prop where
  failures : ∀ answers earlier, .setUp answers :: earlier <:+ trace →
    goesThrough answers (plan.calls (setUps earlier)) = false →
    granted answers (plan.calls (setUps earlier)) = []
  teardowns : ∀ answers earlier, .tearDown :: .setUp answers :: earlier <:+ trace →
    ∀ resource, .free resource ∈ plan.cleanups (setUps earlier) →
      resource ∈ granted answers (plan.calls (setUps earlier))

section Lives

variable {plan} {trace earlier : List (LifeEvent Resource Effect)}
  {life before after : Life Resource Effect} {answers : Call Resource Effect → Bool}

theorem live_setUp (stepTo : plan.live before (.setUp answers) = some after) :
    before.up = false ∧ plan.faults before.attempts answers = false ∧
      after.attempts = before.attempts + 1 ∧
      after.up = goesThrough answers (plan.calls before.attempts) ∧
      after.ledger =
        (Registrations.setUp answers before.ledger (plan.calls before.attempts)).1 := by
  obtain ⟨⟨down, defined⟩, same⟩ := Option.ite_none_right_eq_some.mp stepTo
  obtain rfl := Option.some.inj same
  exact ⟨down, defined, rfl, setUp_snd, rfl⟩

theorem live_tearDown (stepTo : plan.live before .tearDown = some after) :
    before.up = true ∧ after.attempts = before.attempts ∧ after.up = false ∧
      after.ledger =
        Registrations.tearDown before.ledger (plan.cleanups (before.attempts - 1)) := by
  obtain ⟨up, same⟩ := Option.ite_none_right_eq_some.mp stepTo
  obtain rfl := Option.some.inj same
  exact ⟨up, rfl, rfl, rfl⟩

theorem LifeRun.attempts (run : plan.LifeRun trace life) : life.attempts = setUps trace := by
  induction run with
  | start => rfl
  | @next trace before after event _ _ stepTo ih =>
      cases event with
      | setUp answers => rw [(live_setUp stepTo).2.2.1, ih, setUps]
      | tearDown => rw [(live_tearDown stepTo).2.1, ih, setUps]

/-- What is set up has been set up last. -/
theorem LifeRun.last (run : plan.LifeRun trace life) (up : life.up = true) :
    ∃ answers earlier, trace = .setUp answers :: earlier := by
  cases run with
  | start => exact absurd up Bool.false_ne_true
  | @next trace before after event _ _ stepTo =>
      cases event with
      | setUp answers => exact ⟨answers, trace, rfl⟩
      | tearDown =>
          rw [(live_tearDown stepTo).2.2.1] at up
          exact absurd up Bool.false_ne_true

/-- What is torn down has been set up. -/
theorem LifeRun.torn (run : plan.LifeRun trace life)
    (inside : .tearDown :: .setUp answers :: earlier <:+ trace) :
    goesThrough answers (plan.calls (setUps earlier)) = true := by
  obtain ⟨middle, after, past, -, stepTo⟩ := run.of_executed inside
  have up := (live_tearDown stepTo).1
  cases past with
  | next first _ setting =>
      rwa [(live_setUp setting).2.2.2.1, LifeRun.attempts first] at up

/-- After a setup on a clean ledger, what it was granted is claimed and nothing else. -/
theorem Clean.setUp (clean : Clean before)
    (exclusive : plan.Exclusive trace before (.setUp answers))
    (stepTo : plan.live before (.setUp answers) = some after) :
    Proper after.ledger ∧ ∀ resource, holds after.ledger resource = true ↔
      resource ∈ granted answers (plan.calls before.attempts) := by
  obtain ⟨down, -, -, -, ledger⟩ := live_setUp stepTo
  have free := clean.2 down
  rw [ledger]
  constructor
  · exact proper_setUp clean.1 exclusive ((plan.distinct _).sublist granted_sublist)
  · intro resource
    rw [holds_setUp, free resource]
    simp

omit [DecidableEq Resource] in
theorem Undisturbed.of_suffix (undisturbed : plan.Undisturbed trace) (suffix : earlier <:+ trace) :
    plan.Undisturbed earlier :=
  ⟨fun answers past inside => undisturbed.failures answers past (inside.trans suffix),
    fun answers past inside => undisturbed.teardowns answers past (inside.trans suffix)⟩

/-- What holds after undisturbed setups and teardowns. -/
structure Kept (plan : Plan Resource Effect) (trace : List (LifeEvent Resource Effect))
    (life : Life Resource Effect) : Prop where
  clean : Clean life
  claimed : ∀ answers earlier, trace = .setUp answers :: earlier → ∀ resource,
    holds life.ledger resource = true ↔
      resource ∈ granted answers (plan.calls (setUps earlier))

theorem Kept.setUp (kept : Kept plan trace before) (attempts : before.attempts = setUps trace)
    (undisturbed : plan.Undisturbed (.setUp answers :: trace))
    (exclusive : plan.Exclusive trace before (.setUp answers))
    (stepTo : plan.live before (.setUp answers) = some after) :
    Kept plan (.setUp answers :: trace) after := by
  obtain ⟨proper, claimed⟩ := kept.clean.setUp exclusive stepTo
  rw [attempts] at claimed
  refine ⟨⟨proper, fun down resource => ?_⟩, fun others earlier same => ?_⟩
  · have failed := (live_setUp stepTo).2.2.2.1.symm.trans down
    rw [attempts] at failed
    have nothing := undisturbed.failures answers trace (List.suffix_refl _) failed
    rw [nothing] at claimed
    simpa using claimed resource
  · obtain ⟨own, rfl⟩ := List.cons.inj same
    obtain rfl := LifeEvent.setUp.inj own
    exact claimed

theorem Kept.tearDown (kept : Kept plan trace before) (run : plan.LifeRun trace before)
    (undisturbed : plan.Undisturbed (.tearDown :: trace))
    (stepTo : plan.live before .tearDown = some after) :
    Kept plan (.tearDown :: trace) after := by
  obtain ⟨up, -, -, ledger⟩ := live_tearDown stepTo
  obtain ⟨answers, earlier, rfl⟩ := LifeRun.last run up
  have claimed := kept.claimed answers earlier rfl
  have attempts : before.attempts - 1 = setUps earlier := by
    rw [LifeRun.attempts run, setUps, Nat.add_sub_cancel]
  rw [attempts] at ledger
  have complete := plan.complete (setUps earlier)
  refine ⟨⟨?_, fun _ resource => ?_⟩, nofun⟩
  · rw [ledger, proper_tearDown (complete.nodup_iff.mpr (plan.distinct _))]
    refine ⟨kept.clean.1, fun resource member => (claimed resource).mpr ?_⟩
    exact undisturbed.teardowns answers earlier (List.suffix_refl _) resource member
  · rw [ledger, ← Bool.not_eq_true, holds_tearDown, claimed]
    rintro ⟨absent, member⟩
    exact absent (complete.mem_iff.mpr (granted_sublist.subset member))

theorem Undisturbed.kept (run : plan.LifeRun trace life) (undisturbed : plan.Undisturbed trace) :
    Kept plan trace life := by
  induction run with
  | start => exact ⟨⟨trivial, fun _ _ => rfl⟩, nofun⟩
  | @next trace before after event past exclusive stepTo ih =>
      have kept := ih (undisturbed.of_suffix (List.suffix_cons ..))
      cases event with
      | setUp answers => exact kept.setUp (LifeRun.attempts past) undisturbed exclusive stepTo
      | tearDown => exact kept.tearDown past undisturbed stepTo

/-- All states of a run are clean if and only if its setups and teardowns are
undisturbed. -/
theorem clean_iff (run : plan.LifeRun trace life) :
    (∀ earlier past, earlier <:+ trace → replay plan.live fresh earlier = some past →
      Clean past) ↔ plan.Undisturbed trace := by
  constructor
  · intro clean
    constructor
    · intro answers earlier inside failed
      obtain ⟨before, after, past, exclusive, stepTo⟩ := run.of_executed inside
      have cleanBefore := clean earlier before ((List.suffix_cons ..).trans inside) past.replay_eq
      have cleanAfter := clean _ after inside (Run.next past exclusive stepTo).replay_eq
      obtain ⟨-, claimed⟩ := cleanBefore.setUp exclusive stepTo
      have attempts := LifeRun.attempts past
      rw [attempts] at claimed
      have down : after.up = false := by rw [(live_setUp stepTo).2.2.2.1, attempts, failed]
      rw [List.eq_nil_iff_forall_not_mem]
      intro resource member
      have held := (claimed resource).mpr member
      rw [cleanAfter.2 down resource] at held
      exact Bool.false_ne_true held
    · intro answers earlier inside resource member
      obtain ⟨middle, after, past, exclusive, stepTo⟩ := run.of_executed inside
      have cleanAfter := clean _ after inside (Run.next past exclusive stepTo).replay_eq
      obtain ⟨-, -, -, ledger⟩ := live_tearDown stepTo
      cases past with
      | @next _ before _ _ first only setting =>
          have cleanBefore := clean earlier before
            (((List.suffix_cons ..).trans (List.suffix_cons ..)).trans inside) first.replay_eq
          obtain ⟨-, claimed⟩ := cleanBefore.setUp only setting
          have attempts := LifeRun.attempts first
          rw [(live_setUp setting).2.2.1, Nat.add_sub_cancel, attempts] at ledger
          rw [attempts] at claimed
          have proper := cleanAfter.1
          rw [ledger, proper_tearDown
            ((plan.complete _).nodup_iff.mpr (plan.distinct _))] at proper
          exact (claimed resource).mp (proper.2 resource member)
  · intro undisturbed earlier past inside reached
    exact (Undisturbed.kept (run.of_reached inside reached)
      (undisturbed.of_suffix inside)).clean

/-- What no setup can do without is never granted again once it is left behind. -/
theorem stuck {resource : Resource} {event : LifeEvent Resource Effect}
    (needed : ∀ attempt answers, resource ∉ granted answers (plan.calls attempt) →
      plan.faults attempt answers = true)
    (down : life.up = false) (held : holds life.ledger resource = true)
    (exclusive : plan.Exclusive trace life event) : plan.live life event = none := by
  cases event with
  | setUp answers =>
      have refused : resource ∉ granted answers (plan.calls life.attempts) := by
        intro member
        simp [exclusive resource member] at held
      rw [live, needed _ answers refused]
      simp
  | tearDown =>
      rw [live, down]
      rfl

end Lives

end Plan

end Registrations

end KinuxKernel
