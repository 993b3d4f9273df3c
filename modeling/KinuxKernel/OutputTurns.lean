import Mathlib.Data.List.Basic

/-!
# Machines that produce one output at a time

A turn of a machine gives an output and the next state, and says whether the
machine goes on.  Turns may be undefined.
-/

namespace KinuxKernel

namespace OutputTurns

variable {State Output : Type*}

structure Turn (Output State : Type*) where
  output : Output
  continues : Bool
  state : State

variable (turn : State → Option (Turn Output State))

/-- The outputs of the first turns, as far as there are any. -/
def outputs : Nat → State → List Output
  | 0, _ => []
  | n + 1, state =>
      match turn state with
      | none => []
      | some result => result.output :: if result.continues then outputs n result.state else []

/-- A sequence of turns after which the machine goes on. -/
inductive Turns : State → List Output → State → Prop
  | nil (state : State) : Turns state [] state
  | cons {start middle final : State} {output : Output} {rest : List Output} :
      turn start = some ⟨output, true, middle⟩ → Turns middle rest final →
      Turns start (output :: rest) final

/-- All turns up to the one after which the machine stops. -/
inductive Finishes : State → List Output → State → Prop
  | last {start final : State} {output : Output} :
      turn start = some ⟨output, false, final⟩ → Finishes start [output] final
  | cons {start middle final : State} {output : Output} {rest : List Output} :
      turn start = some ⟨output, true, middle⟩ → Finishes middle rest final →
      Finishes start (output :: rest) final

variable {turn}

theorem Turns.snoc {start middle final : State} {produced : List Output} {output : Output}
    (turns : Turns turn start produced middle)
    (next : turn middle = some ⟨output, true, final⟩) :
    Turns turn start (produced ++ [output]) final := by
  induction turns with
  | nil => exact .cons next (.nil _)
  | cons first _ ih => exact .cons first (ih next)

/-- A machine that finishes does so after any turns it has made. -/
theorem Finishes.after {start middle final : State} {produced all : List Output}
    (finishes : Finishes turn start all final) (turns : Turns turn start produced middle) :
    ∃ rest, all = produced ++ rest ∧ Finishes turn middle rest final := by
  induction turns generalizing all with
  | nil => exact ⟨all, rfl, finishes⟩
  | cons first _ ih =>
      cases finishes with
      | last only => simp [first] at only
      | cons again others =>
          obtain ⟨rfl, -, rfl⟩ := Turn.mk.inj (Option.some.inj (first.symm.trans again))
          obtain ⟨rest, rfl, continued⟩ := ih others
          exact ⟨rest, rfl, continued⟩

/-- A machine whose turns keep up with a count can make that many turns. -/
theorem exists_turns {progress : Nat → State → Prop} {bound : Nat}
    (advance : ∀ count state, count < bound → progress count state →
      ∃ output next, turn state = some ⟨output, true, next⟩ ∧ progress (count + 1) next)
    {start : State} (initially : progress 0 start) {count : Nat} (within : count ≤ bound) :
    ∃ produced state, Turns turn start produced state ∧ produced.length = count ∧
      progress count state := by
  induction count with
  | zero => exact ⟨[], start, .nil start, rfl, initially⟩
  | succ count ih =>
      obtain ⟨produced, state, turns, length, reached⟩ := ih (by omega)
      obtain ⟨output, next, taken, continued⟩ := advance count state within reached
      exact ⟨produced ++ [output], next, turns.snoc taken, by simp [length], continued⟩

/-- Turns are determined by where they start and how many there are. -/
theorem Turns.deterministic {start first second : State} {produced others : List Output}
    (turns : Turns turn start produced first) (again : Turns turn start others second)
    (length : produced.length = others.length) : first = second := by
  induction turns generalizing others with
  | nil =>
      cases again with
      | nil => rfl
      | cons => simp at length
  | cons taken _ ih =>
      cases again with
      | nil => simp at length
      | cons otherTaken rest =>
          obtain ⟨-, -, rfl⟩ := Turn.mk.inj (Option.some.inj (taken.symm.trans otherTaken))
          exact ih rest (by simpa using length)

theorem Turns.prefix_of_le {start first second : State} {produced others : List Output}
    (turns : Turns turn start produced first) (again : Turns turn start others second)
    (length : produced.length ≤ others.length) : produced <+: others := by
  induction turns generalizing others with
  | nil => exact List.nil_prefix
  | cons taken _ ih =>
      cases again with
      | nil => simp at length
      | cons otherTaken rest =>
          obtain ⟨rfl, -, rfl⟩ := Turn.mk.inj (Option.some.inj (taken.symm.trans otherTaken))
          exact (List.prefix_cons_inj _).mpr (ih rest (by simpa using length))

/-- An invariant of the turns after which the machine goes on. -/
theorem Turns.invariant {holds : State → Prop}
    (preserved : ∀ {state next output}, holds state → turn state = some ⟨output, true, next⟩ →
      holds next)
    {start final : State} {produced : List Output} (initially : holds start)
    (turns : Turns turn start produced final) : holds final := by
  induction turns with
  | nil => exact initially
  | cons taken _ ih => exact ih (preserved initially taken)

/-- An invariant of what has been produced and the state it has led to. -/
theorem Turns.tracked {holds : List Output → State → Prop}
    (preserved : ∀ {produced state next output}, holds produced state →
      turn state = some ⟨output, true, next⟩ → holds (produced ++ [output]) next)
    {start final : State} {before produced : List Output} (initially : holds before start)
    (turns : Turns turn start produced final) : holds (before ++ produced) final := by
  induction turns generalizing before with
  | nil => simpa using initially
  | cons taken _ ih =>
      have onward := ih (preserved initially taken)
      rwa [List.append_assoc] at onward

/-- The last turn of a machine that finishes comes after turns that go on. -/
theorem Finishes.last_turn {start final : State} {all : List Output}
    (finishes : Finishes turn start all final) :
    ∃ produced middle output, all = produced ++ [output] ∧ Turns turn start produced middle ∧
      turn middle = some ⟨output, false, final⟩ := by
  induction finishes with
  | last taken => exact ⟨[], _, _, rfl, .nil _, taken⟩
  | cons taken _ ih =>
      obtain ⟨produced, middle, output, rfl, turns, stopped⟩ := ih
      exact ⟨_ :: produced, middle, output, rfl, .cons taken turns, stopped⟩

theorem Turns.trans {start middle final : State} {produced rest : List Output}
    (turns : Turns turn start produced middle) (more : Turns turn middle rest final) :
    Turns turn start (produced ++ rest) final := by
  induction turns with
  | nil => exact more
  | cons taken _ ih => exact .cons taken (ih more)

/-- A machine that stops does so after the turns that go on. -/
theorem Turns.finishes {start middle final : State} {produced rest : List Output}
    (turns : Turns turn start produced middle) (finishes : Finishes turn middle rest final) :
    Finishes turn start (produced ++ rest) final := by
  induction turns with
  | nil => exact finishes
  | cons taken _ ih => exact .cons taken (ih finishes)

theorem Turns.outputs_eq {start final : State} {produced : List Output}
    (turns : Turns turn start produced final) :
    outputs turn produced.length start = produced := by
  induction turns with
  | nil => rfl
  | cons taken _ ih => simp [outputs, taken, ih]

theorem Finishes.deterministic {start first second : State} {produced others : List Output}
    (finishes : Finishes turn start produced first)
    (again : Finishes turn start others second) : produced = others ∧ first = second := by
  induction finishes generalizing others with
  | last taken =>
      cases again with
      | last same =>
          obtain ⟨rfl, -, rfl⟩ := Turn.mk.inj (Option.some.inj (taken.symm.trans same))
          exact ⟨rfl, rfl⟩
      | cons same _ => simp [taken] at same
  | cons taken _ ih =>
      cases again with
      | last same => simp [taken] at same
      | cons same rest =>
          obtain ⟨rfl, -, rfl⟩ := Turn.mk.inj (Option.some.inj (taken.symm.trans same))
          obtain ⟨rfl, rfl⟩ := ih rest
          exact ⟨rfl, rfl⟩

/-- A machine that can make more turns than any number never stops. -/
theorem not_finishes {start final : State} {all : List Output}
    (endless : ∀ count, ∃ produced state, Turns turn start produced state ∧
      count ≤ produced.length) : ¬ Finishes turn start all final := by
  intro finishes
  obtain ⟨produced, state, turns, long⟩ := endless all.length
  obtain ⟨rest, rfl, continued⟩ := finishes.after turns
  have none : rest = [] := by
    rw [List.length_append] at long
    exact List.eq_nil_of_length_eq_zero (by omega)
  subst none
  cases continued

section Simulation

variable {Image : Type*} {imageTurn : Image → Option (Turn Output Image)}
  {related : State → Image → Prop}

/-- Turns are simulated one by one. -/
theorem Turns.simulated
    (simulates : ∀ {state next image output}, related state image →
      turn state = some ⟨output, true, next⟩ →
      ∃ nextImage, imageTurn image = some ⟨output, true, nextImage⟩ ∧ related next nextImage)
    {start final : State} {image : Image} {produced : List Output}
    (turns : Turns turn start produced final) (initially : related start image) :
    ∃ finalImage, Turns imageTurn image produced finalImage ∧ related final finalImage := by
  induction turns generalizing image with
  | nil => exact ⟨image, .nil image, initially⟩
  | cons taken _ ih =>
      obtain ⟨middle, imageTaken, continued⟩ := simulates initially taken
      obtain ⟨finalImage, rest, reached⟩ := ih continued
      exact ⟨finalImage, .cons imageTaken rest, reached⟩

end Simulation

/-- The first `count` turns all start in a safe state. -/
def SafeTurns (turn : State → Option (Turn Output State)) (safe : State → Prop) (count : Nat)
    (start : State) : Prop :=
  ∀ produced state, Turns turn start produced state → produced.length < count → safe state

/-- A machine that keeps up with a count makes exactly `bound` safe turns, if the
state becomes unsafe there. -/
theorem safeTurns_iff {safe : State → Prop} {progress : Nat → State → Prop} {bound : Nat}
    (advance : ∀ count state, count < bound → progress count state →
      ∃ output next, turn state = some ⟨output, true, next⟩ ∧ progress (count + 1) next)
    (stays : ∀ count state, count < bound → progress count state → safe state)
    (fails : ∀ state, progress bound state → ¬ safe state)
    {start : State} (initially : progress 0 start) {count : Nat} :
    SafeTurns turn safe count start ↔ count ≤ bound := by
  constructor
  · intro allSafe
    by_contra beyond
    obtain ⟨produced, state, turns, length, reached⟩ :=
      exists_turns advance initially (Nat.le_refl bound)
    exact fails state reached (allSafe produced state turns (by omega))
  · intro within produced state turns early
    obtain ⟨others, reached, otherTurns, length, holds⟩ :=
      exists_turns advance initially (show produced.length ≤ bound by omega)
    obtain rfl := turns.deterministic otherTurns length.symm
    exact stays _ _ (by omega) holds

end OutputTurns

end KinuxKernel
