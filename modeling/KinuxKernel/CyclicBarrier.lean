import Mathlib.Logic.Function.Basic
import Mathlib.Logic.Relation

/-!
# What a cyclic barrier is for

Any number of parties arrive and depart, over and over.  A party may depart
once every party has arrived as often as it has, and may arrive again once it
has departed.  Nobody gets ahead of anybody by more than one round.
-/

namespace KinuxKernel

namespace CyclicBarrier

variable {Party : Type*} [DecidableEq Party]

/-- How often each party has arrived and departed. -/
structure Counts (Party : Type*) where
  arrived : Party → Nat
  departed : Party → Nat

/-- The moves of a barrier. -/
inductive Move : Counts Party → Counts Party → Prop
  | arrive {counts : Counts Party} (party : Party) :
      counts.arrived party = counts.departed party →
      Move counts
        { counts with
          arrived := Function.update counts.arrived party (counts.arrived party + 1) }
  | depart {counts : Counts Party} (party : Party) :
      counts.departed party < counts.arrived party →
      (∀ other, counts.arrived party ≤ counts.arrived other) →
      Move counts
        { counts with
          departed := Function.update counts.departed party (counts.departed party + 1) }

/-- The counts that a fresh barrier can reach. -/
def Reachable (counts : Counts Party) : Prop :=
  Relation.ReflTransGen Move ⟨fun _ => 0, fun _ => 0⟩ counts

namespace Reachable

variable {counts : Counts Party}

/-- A party is inside at most one round at a time. -/
theorem arrived_le (reachable : Reachable counts) (party : Party) :
    counts.arrived party ≤ counts.departed party + 1 := by
  induction reachable with
  | refl => simp
  | tail _ move ih =>
      cases move with
      | arrive mover outside =>
          by_cases moved : party = mover
          · subst mover
            simp [outside]
          · simpa [moved] using ih
      | depart mover inside =>
          by_cases moved : party = mover
          · subst mover
            simp only [Function.update_self]
            omega
          · simpa [moved] using ih

/-- Nobody departs more often than anybody has arrived. -/
theorem departed_le_arrived (reachable : Reachable counts) (party other : Party) :
    counts.departed party ≤ counts.arrived other := by
  induction reachable with
  | refl => simp
  | tail previous move ih =>
      cases move with
      | arrive mover outside =>
          by_cases moved : other = mover
          · subst mover
            simp only [Function.update_self]
            omega
          · simpa [moved] using ih
      | depart mover inside everybody =>
          by_cases moved : party = mover
          · subst mover
            have present := everybody other
            simp only [Function.update_self]
            omega
          · simpa [moved] using ih

/-- The numbers of departures of two parties differ by at most one. -/
theorem departed_le_succ (reachable : Reachable counts) (party other : Party) :
    counts.departed party ≤ counts.departed other + 1 :=
  Nat.le_trans (reachable.departed_le_arrived party other) (reachable.arrived_le other)

end Reachable

end CyclicBarrier

end KinuxKernel
