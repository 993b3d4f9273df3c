import KinuxKernel.Registrations

/-!
# Probing the SPI device

`ws2812_probe` and `ws2812_remove` with every answer of the kernel.  The probe undoes
nothing when it fails, so the class stays, and since `class_create` refuses the
name from then on, the next probe destroys an error pointer.
-/

namespace KinuxKernel

namespace SpiRing

open ResourceLedger TraceRun Registrations

/-- What a probe claims; memory, device numbers and nodes are new for each attempt. -/
inductive SpiResource where
  | memory (attempt : Nat)
  | sysClass
  | region (attempt : Nat)
  | cdev (attempt : Nat)
  | device (attempt : Nat)
  | gpio (number : Nat)
deriving DecidableEq

/-- `gpio_direction_output`. -/
inductive SpiEffect where
  | output (gpio : Nat) (value : Bool)
deriving DecidableEq

abbrev SpiCall := Call SpiResource SpiEffect

/-- `gpio_init`, up to the last result that it looks at, which it returns. -/
def gpioInit : List SpiCall :=
  [.request (.gpio 24) false, .request (.gpio 44) false, .request (.gpio 72) false,
    .perform (.output 24 false) false, .perform (.output 44 true) true]

/-- `ws2812_probe`. -/
def probeCalls (attempt : Nat) : List SpiCall :=
  [.request (.memory attempt) false, .request .sysClass true, .request (.region attempt) true,
    .request (.cdev attempt) true, .request (.device attempt) false] ++ gpioInit

/-- `ws2812_remove`. -/
def removeCalls (attempt : Nat) : List (Cleanup SpiResource SpiEffect) :=
  [.perform (.output 44 false), .free (.gpio 24), .free (.gpio 44), .free (.gpio 72),
    .free (.region attempt), .freeFound (.device attempt), .free (.cdev attempt),
    .free (.memory attempt), .free .sysClass]

/-- The probe unregisters the error pointer that `class_create` has returned, or
initialises a `cdev` in memory that it has not got. -/
def probeFaults (attempt : Nat) (answers : SpiCall → Bool) : Bool :=
  !answers (.request .sysClass true) ||
    answers (.request (.region attempt) true) && !answers (.request (.memory attempt) false)

/-- What `ws2812_probe` returns, where `cdev_add` fails with some code. -/
def probeResult (attempt : Nat) (answers : SpiCall → Bool) (badCdev : Int) : Int :=
  if answers (.request (.region attempt) true) = false then -1
  else if answers (.request (.cdev attempt) true) = false then badCdev
  else if answers (.perform (.output 44 true) true) = false then -1
  else 0

/-- Everything that a probe claims. -/
def probeClaims (attempt : Nat) : List SpiResource :=
  [.memory attempt, .sysClass, .region attempt, .cdev attempt, .device attempt, .gpio 24,
    .gpio 44, .gpio 72]

theorem probeCalls_claims (attempt : Nat) :
    (probeCalls attempt).filterMap Call.claims = probeClaims attempt :=
  rfl

theorem removeCalls_perm (attempt : Nat) :
    ((removeCalls attempt).filterMap Cleanup.resource).Perm (probeClaims attempt) := by
  have freed : (removeCalls attempt).filterMap Cleanup.resource =
      [.gpio 24, .gpio 44, .gpio 72, .region attempt, .device attempt, .cdev attempt,
        .memory attempt, .sysClass] :=
    rfl
  rw [freed, probeClaims, List.perm_iff_count]
  intro resource
  simp only [List.count_cons, List.count_nil]
  omega

/-- The driver between probes and removes. -/
def ws2812Plan : Plan SpiResource SpiEffect where
  calls := probeCalls
  cleanups := removeCalls
  faults := probeFaults
  distinct attempt := by
    rw [probeCalls_claims]
    simp [probeClaims]
  complete := removeCalls_perm

section Runs

variable {trace earlier : List (LifeEvent SpiResource SpiEffect)}
  {life : Life SpiResource SpiEffect} {answers : SpiCall → Bool} {attempt : Nat}

/-- A probe that does not go wrong succeeds exactly if it returns zero. -/
theorem probeResult_eq_zero_iff {badCdev : Int} (bad : badCdev ≠ 0)
    (defined : probeFaults attempt answers = false) :
    probeResult attempt answers badCdev = 0 ↔ goesThrough answers (probeCalls attempt) = true := by
  have class_ : answers (.request .sysClass true) = true := by
    simp only [probeFaults, Bool.or_eq_false_iff, Bool.not_eq_false'] at defined
    exact defined.1
  have required : goesThrough answers (probeCalls attempt) =
      (answers (.request (.region attempt) true) && answers (.request (.cdev attempt) true) &&
        answers (.perform (.output 44 true) true)) := by
    simp [goesThrough, probeCalls, gpioInit, Call.required, class_, Bool.and_assoc]
  rw [required, probeResult]
  split_ifs <;> simp_all

/-- The class is claimed whenever it can be created. -/
theorem class_granted_iff : .sysClass ∈ granted answers (probeCalls attempt) ↔
    answers (.request .sysClass true) = true := by
  by_cases class_ : answers (.request .sysClass true) = true <;>
    by_cases memory : answers (.request (.memory attempt) false) = true <;>
      simp [probeCalls, granted, Call.claims, Call.required, class_, memory]

/-- A probe that does not go wrong has created the class. -/
theorem class_granted (defined : probeFaults attempt answers = false) :
    .sysClass ∈ granted answers (probeCalls attempt) := by
  simp only [probeFaults, Bool.or_eq_false_iff, Bool.not_eq_false'] at defined
  exact class_granted_iff.mpr defined.1

/-- The driver after it has been loaded, through probes and removes. -/
abbrev ProbeRun : List (LifeEvent SpiResource SpiEffect) → Life SpiResource SpiEffect → Prop :=
  ws2812Plan.LifeRun

/-- Without a class to be created a probe goes wrong. -/
theorem class_needed (attempt : Nat) (answers : SpiCall → Bool)
    (refused : .sysClass ∉ granted answers (probeCalls attempt)) :
    probeFaults attempt answers = true := by
  by_contra defined
  exact refused (class_granted (by simpa using defined))

/-- A probe that fails leaves the class behind. -/
theorem failed_probe_holds (run : ProbeRun (.setUp answers :: earlier) life)
    (failed : goesThrough answers (probeCalls (Plan.setUps earlier)) = false) :
    life.up = false ∧ holds life.ledger .sysClass = true := by
  cases run with
  | @next _ before _ _ past _ stepTo =>
      obtain ⟨-, defined, -, up, ledger⟩ := Plan.live_setUp stepTo
      have attempts := Plan.LifeRun.attempts past
      constructor
      · rw [up, attempts]
        exact failed
      · rw [ledger, holds_setUp]
        exact .inl (class_granted defined)

/-- After a probe that fails no class can be created, and no event is defined: the next
probe unregisters an error pointer. -/
theorem failed_probe_is_final (run : ProbeRun trace life)
    (executed : .setUp answers :: earlier <:+ trace)
    (failed : goesThrough answers (probeCalls (Plan.setUps earlier)) = false) :
    trace = .setUp answers :: earlier ∧
      ∀ retried, ws2812Plan.Exclusive trace life (.setUp retried) →
        retried (.request .sysClass true) = false := by
  obtain ⟨later, rfl⟩ := executed
  rcases List.eq_nil_or_concat later with rfl | ⟨others, event, rfl⟩
  · refine ⟨rfl, fun retried exclusive => ?_⟩
    have held := (failed_probe_holds run failed).2
    by_contra created
    have free := exclusive .sysClass (class_granted_iff.mpr (eq_true_of_ne_false created))
    exact Bool.false_ne_true (free.symm.trans held)
  · have next : event :: .setUp answers :: earlier <:+
        others.concat event ++ .setUp answers :: earlier := ⟨others, by simp⟩
    obtain ⟨middle, after, past, exclusive, stepTo⟩ := run.of_executed next
    obtain ⟨down, held⟩ := failed_probe_holds past failed
    rw [Plan.stuck class_needed down held exclusive] at stepTo
    cases stepTo

/-- What a successful probe claims and its remove frees without looking for it. -/
theorem removable_iff (defined : probeFaults attempt answers = false)
    (through : goesThrough answers (probeCalls attempt) = true) :
    (∀ resource, .free resource ∈ removeCalls attempt →
      resource ∈ granted answers (probeCalls attempt)) ↔
    ∀ number ∈ [24, 44, 72], answers (.request (.gpio number) false) = true := by
  simp only [probeFaults, Bool.or_eq_false_iff, Bool.not_eq_false'] at defined
  obtain ⟨created, noNull⟩ := defined
  have required (call : SpiCall) (member : call ∈ probeCalls attempt)
      (needed : call.required = true) : answers call = true := by
    simpa [needed] using List.all_eq_true.mp through call member
  have region := required (.request (.region attempt) true) (by simp [probeCalls]) rfl
  have cdev := required (.request (.cdev attempt) true) (by simp [probeCalls]) rfl
  have memory : answers (.request (.memory attempt) false) = true := by
    simpa [region] using noNull
  simp only [mem_granted through]
  simp [removeCalls, probeCalls, gpioInit, Call.claims, region, cdev, memory, created]

/-- Whether nothing disturbs a run is decided by its probes. -/
theorem undisturbed_iff (run : ProbeRun trace life) : ws2812Plan.Undisturbed trace ↔
    (∀ answers earlier, .setUp answers :: earlier <:+ trace →
      goesThrough answers (probeCalls (Plan.setUps earlier)) = true) ∧
    ∀ answers earlier, .tearDown :: .setUp answers :: earlier <:+ trace →
      ∀ number ∈ [24, 44, 72], answers (.request (.gpio number) false) = true := by
  have defined : ∀ answers earlier, .setUp answers :: earlier <:+ trace →
      probeFaults (Plan.setUps earlier) answers = false := by
    intro answers earlier inside
    obtain ⟨before, after, past, -, stepTo⟩ := run.of_executed inside
    rw [← Plan.LifeRun.attempts past]
    exact (Plan.live_setUp stepTo).2.1
  constructor
  · intro undisturbed
    have through : ∀ answers earlier, .setUp answers :: earlier <:+ trace →
        goesThrough answers (probeCalls (Plan.setUps earlier)) = true := by
      intro answers earlier inside
      by_contra failed
      have nothing := undisturbed.failures answers earlier inside
        (eq_false_of_ne_true failed)
      have created := class_granted (defined answers earlier inside)
      exact List.not_mem_nil (nothing ▸ created)
    refine ⟨through, fun answers earlier inside => ?_⟩
    have probed : .setUp answers :: earlier <:+ trace := (List.suffix_cons ..).trans inside
    exact (removable_iff (defined answers earlier probed) (through answers earlier probed)).mp
      (undisturbed.teardowns answers earlier inside)
  · rintro ⟨through, gpios⟩
    constructor
    · intro answers earlier inside failed
      exact absurd (failed.symm.trans (through answers earlier inside)) Bool.false_ne_true
    · intro answers earlier inside
      have probed : .setUp answers :: earlier <:+ trace := (List.suffix_cons ..).trans inside
      exact (removable_iff (defined answers earlier probed) (through answers earlier probed)).mpr
        (gpios answers earlier inside)

/-- Nothing is left behind and nothing is freed that is not held, along a whole run, if and
only if no probe fails and every probe that is undone has got its three gpios. -/
theorem probes_clean_iff (run : ProbeRun trace life) :
    (∀ past state, past <:+ trace → replay ws2812Plan.live Plan.fresh past = some state →
      Plan.Clean state) ↔
    (∀ answers earlier, .setUp answers :: earlier <:+ trace →
      goesThrough answers (probeCalls (Plan.setUps earlier)) = true) ∧
    ∀ answers earlier, .tearDown :: .setUp answers :: earlier <:+ trace →
      ∀ number ∈ [24, 44, 72], answers (.request (.gpio number) false) = true :=
  (Plan.clean_iff run).trans (undisturbed_iff run)

/-- A kernel that grants everything, and one that cannot drive gpio 44. -/
def grantsAll (_ : SpiCall) : Bool :=
  true

def noOutput (call : SpiCall) : Bool :=
  call ≠ .perform (.output 44 true) true

/-- A probe and a remove. -/
theorem probed_and_removed :
    ∃ life, ProbeRun [.tearDown, .setUp grantsAll] life ∧ life.up = false := by
  have first : ProbeRun [.setUp grantsAll] _ :=
    .next .start (fun _ _ => rfl) rfl
  exact ⟨_, .next first trivial rfl, rfl⟩

/-- After a remove a probe has failed, with the class. -/
theorem failed_probe_is_final_second :
    ∃ life, ProbeRun [.setUp noOutput, .tearDown, .setUp grantsAll] life ∧
      ∀ retried, ws2812Plan.Exclusive [.setUp noOutput, .tearDown, .setUp grantsAll] life
        (.setUp retried) → retried (.request .sysClass true) = false := by
  have first : ProbeRun [.setUp grantsAll] _ :=
    .next .start (fun _ _ => rfl) rfl
  have second : ProbeRun [.tearDown, .setUp grantsAll] _ := .next first trivial rfl
  have nothing : ∀ resource ∈ granted noOutput (probeCalls 1),
      holds (tearDown (setUp grantsAll [] (probeCalls 0)).1 (removeCalls 0)) resource = false := by
    decide
  have third : ProbeRun [.setUp noOutput, .tearDown, .setUp grantsAll] _ :=
    .next second nothing rfl
  exact ⟨_, third, (failed_probe_is_final third (List.suffix_refl _) (by decide)).2⟩

theorem probes_clean_iff_once :
    ∃ life, ProbeRun [.tearDown, .setUp grantsAll] life ∧ Plan.Clean life := by
  obtain ⟨life, run, -⟩ := probed_and_removed
  refine ⟨life, run, (probes_clean_iff run).mpr ⟨?_, ?_⟩ _ life (List.suffix_refl _)
    run.replay_eq⟩
  · intro answers earlier inside
    have only : .setUp answers = LifeEvent.setUp grantsAll ∧ earlier = [] := by
      simpa [executed_cons_iff] using inside
    obtain rfl := LifeEvent.setUp.inj only.1
    rfl
  · intro answers earlier inside number _
    have only : .setUp answers = LifeEvent.setUp grantsAll ∧ earlier = [] := by
      simpa [executed_cons_iff] using (List.suffix_cons ..).trans inside
    obtain rfl := LifeEvent.setUp.inj only.1
    rfl

end Runs

end SpiRing

end KinuxKernel
