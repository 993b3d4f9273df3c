import Mathlib.Data.Fintype.Card
import Mathlib.Algebra.BigOperators.Group.Finset.Piecewise

/-!
# Threads at program points

Two facts about a family of threads that move one at a time: how the number of
threads at points of a given kind changes when one thread moves, and how the
owner of a lock stays the one thread standing at a point that needs it.
-/

namespace KinuxKernel

namespace ThreadPoints

variable {Thread Point : Type*}

section Counting

variable [Fintype Thread]

/-- Number of threads standing at a point that passes `test`. -/
def countAt (test : Point → Bool) (point : Thread → Point) : Nat :=
  (Finset.univ.filter fun thread => test (point thread) = true).card

theorem countAt_le_card (test : Point → Bool) (point : Thread → Point) :
    countAt test point ≤ Fintype.card Thread :=
  Finset.card_le_univ _

theorem countAt_eq_zero_iff {test : Point → Bool} {point : Thread → Point} :
    countAt test point = 0 ↔ ∀ thread, test (point thread) = false := by
  simp [countAt, Finset.filter_eq_empty_iff]

theorem countAt_pos {test : Point → Bool} {point : Thread → Point} (thread : Thread)
    (passes : test (point thread) = true) : 1 ≤ countAt test point :=
  Finset.card_pos.mpr ⟨thread, by simp [passes]⟩

/-- All threads pass the test as soon as the count reaches their number. -/
theorem forall_of_card_le_countAt {test : Point → Bool} {point : Thread → Point}
    (full : Fintype.card Thread ≤ countAt test point) (thread : Thread) :
    test (point thread) = true := by
  have everyone : Finset.univ.filter (fun thread => test (point thread) = true) =
      Finset.univ := by
    apply Finset.eq_univ_of_card
    exact le_antisymm (countAt_le_card test point) full
  have member := Finset.mem_univ thread
  rw [← everyone] at member
  exact (Finset.mem_filter.mp member).2

theorem countAt_eq_sum (test : Point → Bool) (point : Thread → Point) :
    countAt test point = ∑ thread, (test (point thread)).toNat := by
  rw [countAt, Finset.card_filter]
  apply Finset.sum_congr rfl
  intro thread _
  cases test (point thread) <;> rfl

/-- How the count changes when one thread moves. -/
theorem countAt_update [DecidableEq Thread] (test : Point → Bool) (point : Thread → Point)
    (thread : Thread) (target : Point) :
    countAt test (Function.update point thread target) + (test (point thread)).toNat =
      countAt test point + (test target).toNat := by
  have split (assignment : Thread → Point) :
      countAt test assignment =
        (test (assignment thread)).toNat +
          ∑ other ∈ Finset.univ.erase thread, (test (assignment other)).toNat := by
    rw [countAt_eq_sum]
    exact (Finset.add_sum_erase _ _ (Finset.mem_univ thread)).symm
  have others : ∑ other ∈ Finset.univ.erase thread,
        (test (Function.update point thread target other)).toNat =
      ∑ other ∈ Finset.univ.erase thread, (test (point other)).toNat := by
    apply Finset.sum_congr rfl
    intro other member
    rw [Function.update_of_ne (Finset.ne_of_mem_erase member)]
  rw [split (Function.update point thread target), split point, others]
  simp only [Function.update_self]
  omega

end Counting

section Ownership

/-- The lock's owner is the one thread standing at a point that needs the
lock. -/
def OwnedAt (needs : Point → Bool) (point : Thread → Point) (owner : Option Thread) : Prop :=
  ∀ thread, needs (point thread) = true ↔ owner = some thread

variable {needs : Point → Bool} {point : Thread → Point} {owner : Option Thread}
  {thread : Thread} {target : Point}

theorem OwnedAt.move [DecidableEq Thread] (owned : OwnedAt needs point owner)
    (same : needs target = needs (point thread)) :
    OwnedAt needs (Function.update point thread target) owner := by
  intro other
  by_cases moved : other = thread
  · subst other
    simpa [same] using owned thread
  · simpa [moved] using owned other

theorem OwnedAt.free (owned : OwnedAt needs point none) (thread : Thread) :
    needs (point thread) = false := by
  simpa using owned thread

theorem OwnedAt.acquire [DecidableEq Thread] (owned : OwnedAt needs point none)
    (enters : needs target = true) :
    OwnedAt needs (Function.update point thread target) (some thread) := by
  intro other
  by_cases moved : other = thread
  · subst other
    simp [enters]
  · have outside := owned.free other
    simp [moved, outside, Ne.symm moved]

theorem OwnedAt.release [DecidableEq Thread] (owned : OwnedAt needs point (some thread))
    (leaves : needs target = false) :
    OwnedAt needs (Function.update point thread target) none := by
  intro other
  by_cases moved : other = thread
  · subst other
    simp [leaves]
  · have outside := owned other
    simp only [Option.some.injEq, Ne.symm moved, iff_false] at outside
    simp [moved, outside]

theorem OwnedAt.unique (owned : OwnedAt needs point owner) {first second : Thread}
    (firstNeeds : needs (point first) = true) (secondNeeds : needs (point second) = true) :
    first = second := by
  have firstOwns := (owned first).mp firstNeeds
  rw [(owned second).mp secondNeeds] at firstOwns
  exact (Option.some.inj firstOwns).symm

end Ownership

end ThreadPoints

end KinuxKernel
