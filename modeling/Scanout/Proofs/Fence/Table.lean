import Mathlib
import Scanout.Fence.Basic

/-!
# The states of fences

Primitives are issued pending, and whoever completes one completes it for good: `finish` changes
only what is pending (`statusOf_finish`). So in everything that can come of a table, by issuing
further primitives and completing some in any order, a primitive that is complete stays as it is
(`Develops.settled`), and a wait for it gives the same result (`Develops.wait?_settled`).
-/

set_option autoImplicit false

namespace Scanout.FenceTable

/-- The number of primitives issued so far. -/
def size (table : FenceTable) : Nat := table.statuses.size

/-- The table has the primitive of this fence, if it has one. -/
def Issued (table : FenceTable) (fence : Fence) : Prop :=
  ∀ primitive, fence = .shared primitive → primitive < table.size

/-- What can come of a table. -/
inductive Develops (table : FenceTable) : FenceTable → Prop
  | same : Develops table table
  | issue {after : FenceTable} (earlier : Develops table after) : Develops table after.issue.2
  | finish {after : FenceTable} (earlier : Develops table after) (primitive : Nat)
      (status : FenceStatus) : Develops table (after.finish primitive status)

variable {table after : FenceTable}

/-! ## One change -/

@[simp] theorem issue_fst (table : FenceTable) : table.issue.1 = table.size := rfl

@[simp] theorem size_issue (table : FenceTable) : table.issue.2.size = table.size + 1 :=
  Array.size_push _

@[simp] theorem size_finish (table : FenceTable) (primitive : Nat) (status : FenceStatus) :
    (table.finish primitive status).size = table.size := by
  unfold finish
  split
  · exact Array.size_setIfInBounds
  · rfl

theorem lt_size_of_pending {primitive : Nat} (pending : table.statusOf primitive = .pending) :
    primitive < table.size := by
  by_contra beyond
  have missing : table.statuses[primitive]? = none :=
    Array.getElem?_eq_none (Nat.le_of_not_lt beyond)
  rw [statusOf, missing] at pending
  cases pending

theorem statusOf_issue (table : FenceTable) (primitive : Nat) :
    table.issue.2.statusOf primitive
      = if primitive = table.size then .pending else table.statusOf primitive := by
  unfold statusOf issue size
  rw [Array.getElem?_push]
  by_cases last : primitive = table.statuses.size
  · rw [if_pos last, if_pos last]
    rfl
  · rw [if_neg last, if_neg last]

/-- Only a primitive that is pending is completed. -/
theorem statusOf_finish (table : FenceTable) (primitive other : Nat) (status : FenceStatus) :
    (table.finish primitive status).statusOf other
      = if other = primitive ∧ table.statusOf other = .pending then status
        else table.statusOf other := by
  unfold finish
  by_cases pending : table.statusOf primitive = .pending
  · rw [if_pos pending]
    have inside := lt_size_of_pending pending
    by_cases here : other = primitive
    · subst here
      rw [if_pos ⟨rfl, pending⟩, statusOf, Array.getElem?_setIfInBounds_self_of_lt inside]
      rfl
    · rw [if_neg fun both => here both.1, statusOf,
        Array.getElem?_setIfInBounds_ne fun same => here same.symm]
      rfl
  · rw [if_neg pending, if_neg]
    rintro ⟨rfl, here⟩
    exact pending here

theorem statusOf_finish_ne {primitive other : Nat} (apart : other ≠ primitive)
    (status : FenceStatus) :
    (table.finish primitive status).statusOf other = table.statusOf other := by
  rw [statusOf_finish, if_neg fun both => apart both.1]

/-! ## Waits -/

theorem wait?_eq (table : FenceTable) (fence : Fence) :
    table.wait? fence
      = if table.status fence = .pending then none
        else some (resultOf (table.status fence)) := by
  unfold wait?
  cases table.status fence <;> rfl

theorem wait?_of_told {fence : Fence}
    (told : table.waitTimeout fence ≠ .error .timeout) :
    table.wait? fence = some (table.waitTimeout fence) := by
  unfold waitTimeout at told ⊢
  cases waited : table.wait? fence with
  | none =>
      rw [waited] at told
      exact absurd rfl told
  | some result => rfl

/-! ## Many changes -/

/-- Completing many primitives completes those that are pending. -/
theorem statusOf_foldl_finish (primitives : List Nat) (table : FenceTable) (other : Nat)
    (status : FenceStatus) :
    (primitives.foldl (fun table primitive => table.finish primitive status) table).statusOf other
      = if other ∈ primitives ∧ table.statusOf other = .pending then status
        else table.statusOf other := by
  induction primitives generalizing table with
  | nil => simp
  | cons first rest ih =>
      rw [List.foldl_cons, ih, statusOf_finish]
      by_cases pending : table.statusOf other = .pending
      · by_cases here : other = first
        · subst here
          simp only [pending, List.mem_cons, true_or, and_self, if_true, ite_self]
        · simp only [here, pending, List.mem_cons, false_or, false_and, if_false]
      · simp only [pending, and_false, if_false]

theorem size_foldl_finish (primitives : List Nat) (table : FenceTable) (status : FenceStatus) :
    (primitives.foldl (fun table primitive => table.finish primitive status) table).size
      = table.size := by
  induction primitives generalizing table with
  | nil => rfl
  | cons first rest ih => rw [List.foldl_cons, ih, size_finish]

namespace Develops

theorem trans {final : FenceTable} (first : table.Develops after) (second : after.Develops final) :
    table.Develops final := by
  induction second with
  | same => exact first
  | issue _ ih => exact ih.issue
  | finish _ primitive status ih => exact ih.finish primitive status

theorem finishAll (develops : table.Develops after) (primitives : List Nat)
    (status : FenceStatus) :
    table.Develops
      (primitives.foldl (fun table primitive => table.finish primitive status) after) := by
  induction primitives generalizing after with
  | nil => exact develops
  | cons first rest ih => exact ih (develops.finish first status)

theorem size_le (develops : table.Develops after) : table.size ≤ after.size := by
  induction develops with
  | same => exact le_rfl
  | issue _ ih =>
      rw [size_issue]
      exact Nat.le_succ_of_le ih
  | finish _ primitive status ih =>
      rw [size_finish]
      exact ih

/-- What is complete stays as it is. -/
theorem settled (develops : table.Develops after) {primitive : Nat}
    (issued : primitive < table.size) (complete : table.statusOf primitive ≠ .pending) :
    after.statusOf primitive = table.statusOf primitive := by
  induction develops with
  | same => rfl
  | @issue after earlier ih =>
      have inside := earlier.size_le
      rw [statusOf_issue, if_neg (Nat.ne_of_lt (Nat.lt_of_lt_of_le issued inside)), ih]
  | finish earlier other status ih =>
      rw [statusOf_finish, if_neg, ih]
      rintro ⟨-, pending⟩
      exact complete (ih.symm.trans pending)

theorem issued (develops : table.Develops after) {fence : Fence} (known : table.Issued fence) :
    after.Issued fence := fun primitive same =>
  Nat.lt_of_lt_of_le (known primitive same) develops.size_le

theorem status_settled (develops : table.Develops after) {fence : Fence}
    (known : table.Issued fence) (complete : table.status fence ≠ .pending) :
    after.status fence = table.status fence := by
  cases fence with
  | noop => rfl
  | shared primitive => exact develops.settled (known primitive rfl) complete

theorem wait?_settled (develops : table.Develops after) {fence : Fence}
    (known : table.Issued fence) {result : Except FenceError Unit}
    (waited : table.wait? fence = some result) : after.wait? fence = some result := by
  rw [wait?_eq] at waited ⊢
  split at waited
  · cases waited
  · rename_i complete
    rw [develops.status_settled known complete, if_neg complete, waited]

end Develops

end Scanout.FenceTable
