import KinuxKernel.Registrations

/-!
# Loading and unloading the bit-bang drivers

`hrt_driver_init` and `hrt_driver_exit` are the same in both bit-bang drivers.  The
result of `class_create` is not looked at, and an init that fails after its first
call leaves behind what it has been granted.
-/

namespace KinuxKernel

namespace LedRing

open ResourceLedger Registrations TraceRun

/-- What an init claims; all but the class are new for each attempt. -/
inductive HrtResource where
  | region (attempt : Nat)
  | hrtDevClass
  | hrtDevp (attempt : Nat)
  | cdev (attempt : Nat)
  | device (attempt : Nat)
deriving DecidableEq

abbrev HrtCall := Call HrtResource Empty

/-- `hrt_driver_init`. -/
def initCalls (attempt : Nat) : List HrtCall :=
  [.request (.region attempt) true, .request .hrtDevClass false, .request (.hrtDevp attempt) true,
    .request (.cdev attempt) true, .request (.device attempt) false]

/-- `hrt_driver_exit`. -/
def exitCalls (attempt : Nat) : List (Cleanup HrtResource Empty) :=
  [.free (.region attempt), .freeFound (.device attempt), .free (.cdev attempt),
    .free (.hrtDevp attempt), .free .hrtDevClass]

/-- Loading and unloading a driver. -/
def hrtPlan : Plan HrtResource Empty where
  calls := initCalls
  cleanups := exitCalls
  faults _ _ := false
  distinct attempt := by simp [initCalls, Call.claims]
  complete attempt := by
    rw [List.perm_iff_count]
    intro resource
    simp only [exitCalls, initCalls, Cleanup.resource, Call.claims, List.filterMap_cons,
      List.filterMap_nil, List.count_cons, List.count_nil]
    omega

abbrev InitRun : List (LifeEvent HrtResource Empty) → Life HrtResource Empty → Prop :=
  hrtPlan.LifeRun

variable {trace : List (LifeEvent HrtResource Empty)} {life : Life HrtResource Empty}
  {answers : HrtCall → Bool} {attempt : Nat}

/-- An init claims nothing exactly if its first call is refused. -/
theorem init_granted_iff : granted answers (initCalls attempt) = [] ↔
    answers (.request (.region attempt) true) = false := by
  by_cases region : answers (.request (.region attempt) true) = true <;>
    simp [initCalls, granted, Call.claims, Call.required, region]

/-- What an init that succeeds claims and its exit frees without looking for it. -/
theorem exit_finds_iff (through : goesThrough answers (initCalls attempt) = true) :
    (∀ resource, .free resource ∈ exitCalls attempt →
      resource ∈ granted answers (initCalls attempt)) ↔
    answers (.request .hrtDevClass false) = true := by
  have required (call : HrtCall) (member : call ∈ initCalls attempt)
      (needed : call.required = true) : answers call = true := by
    simpa [needed] using List.all_eq_true.mp through call member
  have region := required (.request (.region attempt) true) (by simp [initCalls]) rfl
  have memory := required (.request (.hrtDevp attempt) true) (by simp [initCalls]) rfl
  have cdev := required (.request (.cdev attempt) true) (by simp [initCalls]) rfl
  simp only [mem_granted through]
  simp [exitCalls, initCalls, Call.claims, region, memory, cdev]

/-- Nothing is left behind and nothing is freed that is not held, along a whole run, if and only
if every init that fails is refused its first call, and every init that is undone has created
the class, which it does not check. -/
theorem inits_clean_iff (run : InitRun trace life) :
    (∀ past state, past <:+ trace → replay hrtPlan.live Plan.fresh past = some state →
      Plan.Clean state) ↔
    (∀ answers earlier, .setUp answers :: earlier <:+ trace →
      goesThrough answers (initCalls (Plan.setUps earlier)) = false →
      answers (.request (.region (Plan.setUps earlier)) true) = false) ∧
    ∀ answers earlier, .tearDown :: .setUp answers :: earlier <:+ trace →
      answers (.request .hrtDevClass false) = true := by
  have through : ∀ answers earlier, .tearDown :: .setUp answers :: earlier <:+ trace →
      goesThrough answers (initCalls (Plan.setUps earlier)) = true :=
    fun answers earlier inside => Plan.LifeRun.torn run inside
  rw [Plan.clean_iff run]
  constructor
  · intro undisturbed
    refine ⟨fun answers earlier inside failed => ?_, fun answers earlier inside => ?_⟩
    · exact init_granted_iff.mp (undisturbed.failures answers earlier inside failed)
    · exact (exit_finds_iff (through answers earlier inside)).mp
        (undisturbed.teardowns answers earlier inside)
  · rintro ⟨refused, created⟩
    constructor
    · intro answers earlier inside failed
      exact init_granted_iff.mpr (refused answers earlier inside failed)
    · intro answers earlier inside
      exact (exit_finds_iff (through answers earlier inside)).mpr
        (created answers earlier inside)

/-- An init and an exit. -/
theorem inits_clean_iff_once :
    ∃ life, InitRun [.tearDown, .setUp fun _ => true] life ∧ Plan.Clean life := by
  have first : InitRun [.setUp fun _ => true] _ := .next .start (fun _ _ => rfl) rfl
  have run : InitRun [.tearDown, .setUp fun _ => true] _ := .next first trivial rfl
  refine ⟨_, run, (inits_clean_iff run).mpr ⟨?_, ?_⟩ _ _ (List.suffix_refl _) run.replay_eq⟩
  · intro answers earlier inside failed
    have only : .setUp answers = LifeEvent.setUp (fun _ => true) ∧ earlier = [] := by
      simpa [executed_cons_iff] using inside
    obtain rfl := LifeEvent.setUp.inj only.1
    exact absurd failed (by simp [goesThrough])
  · intro answers earlier inside
    have only : .setUp answers = LifeEvent.setUp (fun _ => true) ∧ earlier = [] := by
      simpa [executed_cons_iff] using (List.suffix_cons ..).trans inside
    obtain rfl := LifeEvent.setUp.inj only.1
    rfl

end LedRing

end KinuxKernel
