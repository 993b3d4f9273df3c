import Mathlib.Algebra.Group.Action.Defs
import Mathlib.Algebra.Order.BigOperators.Group.List
import Mathlib.Algebra.Order.Ring.Nat
import Mathlib.Data.List.Pairwise
import Mathlib.Data.List.Sort
import Mathlib.Order.Bounds.Basic

/-!
# Means without outliers

A trimmed mean leaves out one smallest and one largest of its values, wherever they
stand.  A mean that leaves out the first and the last instead can be compared with it
by what the two leave out.
-/

namespace KinuxKernel

namespace TrimmedMean

section Order

variable {α : Type*} [LinearOrder α]

/-- The values in ascending order, without the first and the last of them. -/
def trimmed (values : List α) : List α :=
  (values.insertionSort (· ≤ ·)).tail.dropLast

@[simp]
theorem length_trimmed (values : List α) : (trimmed values).length = values.length - 2 := by
  simp [trimmed, Nat.sub_sub]

/-- The order of the values does not matter. -/
theorem trimmed_congr {first second : List α} (same : first.Perm second) :
    trimmed first = trimmed second := by
  have sorted : first.insertionSort (· ≤ ·) = second.insertionSort (· ≤ ·) := by
    apply List.Perm.eq_of_pairwise' (r := (· ≤ ·))
    · exact List.pairwise_insertionSort (· ≤ ·) first
    · exact List.pairwise_insertionSort (· ≤ ·) second
    · exact (List.perm_insertionSort _ first).trans
        (same.trans (List.perm_insertionSort _ second).symm)
  rw [trimmed, trimmed, sorted]

/-- What is left out is a smallest and a largest value. -/
theorem perm_trimmed {values : List α} {smallest largest : α} (two : 2 ≤ values.length)
    (least : IsLeast {value | value ∈ values} smallest)
    (greatest : IsGreatest {value | value ∈ values} largest) :
    values.Perm (smallest :: (trimmed values ++ [largest])) := by
  have perm := List.perm_insertionSort (· ≤ ·) values
  have ascending := List.pairwise_insertionSort (· ≤ ·) values
  have sameLength := perm.length_eq
  unfold trimmed
  cases sorted : values.insertionSort (· ≤ ·) with
  | nil => simp [sorted] at sameLength; omega
  | cons head rest =>
      rw [sorted] at perm ascending sameLength
      have nonempty : rest ≠ [] := by
        rintro rfl
        simp at sameLength
        omega
      have split := List.dropLast_append_getLast nonempty
      obtain ⟨below, ordered⟩ := List.pairwise_cons.mp ascending
      have first : head = smallest := by
        apply le_antisymm
        · rcases List.mem_cons.mp (perm.mem_iff.mpr least.1) with same | later
          · exact same.ge
          · exact below smallest later
        · exact least.2 (perm.mem_iff.mp (List.mem_cons_self ..))
      have last : rest.getLast nonempty = largest := by
        apply le_antisymm
        · exact greatest.2 (perm.mem_iff.mp (List.mem_cons_of_mem _ (List.getLast_mem nonempty)))
        · have above := ascending.rel_getLast (perm.mem_iff.mpr greatest.1)
          rwa [List.getLast_cons nonempty] at above
      rw [List.tail_cons, ← first, ← last, split]
      exact perm.symm

end Order

section Sums

variable {α : Type*} [LinearOrder α] [AddCommMonoid α]

theorem sum_trimmed {values : List α} {smallest largest : α} (two : 2 ≤ values.length)
    (least : IsLeast {value | value ∈ values} smallest)
    (greatest : IsGreatest {value | value ∈ values} largest) :
    smallest + ((trimmed values).sum + largest) = values.sum := by
  rw [(perm_trimmed two least greatest).sum_eq]
  simp

/-- What is left when the first and the last value are left out. -/
theorem sum_tail_dropLast {β : Type*} [AddCommMonoid β] {values : List β}
    (two : 2 ≤ values.length) :
    values.head?.getD 0 + (values.tail.dropLast.sum + values.getLast?.getD 0) = values.sum := by
  cases values with
  | nil => simp at two
  | cons head rest =>
      have nonempty : rest ≠ [] := by
        rintro rfl
        simp at two
      rw [List.getLast?_cons, List.getLast?_eq_some_getLast nonempty]
      simp only [List.head?_cons, Option.getD_some, List.tail_cons, List.sum_cons]
      congr 1
      conv_rhs => rw [← List.dropLast_append_getLast nonempty]
      simp

end Sums

section Means

/-- The mean of the values without one smallest and one largest, rounded down. -/
def trimmedMean (values : List Nat) : Nat :=
  (trimmed values).sum / (trimmed values).length

theorem trimmedMean_congr {first second : List Nat} (same : first.Perm second) :
    trimmedMean first = trimmedMean second := by
  rw [trimmedMean, trimmedMean, trimmed_congr same]

/-- Some value is not above the mean. -/
theorem exists_le_mean {values : List Nat} (nonempty : values ≠ []) :
    ∃ low ∈ values, low ≤ values.sum / values.length := by
  by_contra above
  push Not at above
  have positive : 0 < values.length := List.length_pos_iff.mpr nonempty
  have large := List.card_nsmul_le_sum values (values.sum / values.length + 1)
    fun low member => above low member
  have small := Nat.lt_mul_div_succ values.sum positive
  rw [smul_eq_mul] at large
  omega

/-- Some value is not below the mean. -/
theorem exists_mean_le {values : List Nat} (nonempty : values ≠ []) :
    ∃ high ∈ values, values.sum / values.length ≤ high := by
  by_contra below
  push Not at below
  have positive : 0 < values.length := List.length_pos_iff.mpr nonempty
  have small : values.sum ≤ values.length * (values.sum / values.length - 1) := by
    rw [← smul_eq_mul]
    exact List.sum_le_card_nsmul values _ fun high member =>
      Nat.le_sub_one_of_lt (below high member)
  have reached : 1 ≤ values.sum / values.length := by
    obtain ⟨head, member⟩ := List.exists_mem_of_ne_nil values nonempty
    exact (Nat.zero_le head).trans_lt (below head member)
  have large := Nat.mul_div_le values.sum values.length
  rw [Nat.mul_sub_one] at small
  have step := Nat.le_mul_of_pos_right values.length reached
  omega

/-- Two sums have the same mean as long as their difference stays within what the
division drops. -/
theorem div_eq_div_iff_difference {first second count : Nat} (positive : 0 < count) :
    first / count = second / count ↔
      -((second % count : Nat) : Int) ≤ (first : Int) - second ∧
        (first : Int) - second < count - (second % count : Nat) := by
  have split := Nat.div_add_mod second count
  rw [Nat.div_eq_iff positive, Nat.mul_comm]
  omega

end Means

end TrimmedMean

end KinuxKernel
