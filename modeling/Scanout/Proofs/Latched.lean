import Mathlib
import Scanout.Latched

/-!
# Laws of latched values

A count of dirty values to which all effects are applied stays the number of dirty values;
`isDirty.toNat` is what one value adds to that number. Where `==` is lawful, asking for a value and
committing it do what their names promise.

Only a dirty value becomes clean. So where every effect comes from a value that is counted, none
takes away from a count of zero: the effects `Fit`.
-/

set_option autoImplicit false

namespace Scanout

namespace DirtyDelta

/-- The count after several effects, first to last. -/
def applyAll (deltas : List DirtyDelta) (count : Nat) : Nat :=
  deltas.foldl (fun count delta => delta.applyTo count) count

/-- None of the effects, first to last, takes away from a count of zero. -/
def Fit (count : Nat) : List DirtyDelta → Prop
  | [] => True
  | delta :: rest => (delta = becameClean → 0 < count) ∧ Fit (delta.applyTo count) rest

theorem applyAll_append (first second : List DirtyDelta) (count : Nat) :
    applyAll (first ++ second) count = applyAll second (applyAll first count) :=
  List.foldl_append

theorem fit_append {first second : List DirtyDelta} {count : Nat} :
    Fit count (first ++ second) ↔ Fit count first ∧ Fit (applyAll first count) second := by
  induction first generalizing count with
  | nil => simp [Fit, applyAll]
  | cons delta rest ih =>
      simp only [List.cons_append, Fit, ih, and_assoc]
      rfl

end DirtyDelta

namespace Latched

variable {α : Type} [BEq α]

/-- Only a dirty value becomes clean by being asked for. -/
theorem isDirty_of_setPending {latched : Latched α} {value : α}
    (cleaned : (latched.setPending value).2 = .becameClean) : latched.isDirty = true := by
  unfold setPending at cleaned
  split at cleaned
  · cases cleaned
  · dsimp only at cleaned
    split at cleaned
    · cases cleaned
    · rename_i dirty _
      exact dirty
    · cases cleaned

theorem isDirty_of_latch {latched : Latched α} (cleaned : latched.latch.2 = .becameClean) :
    latched.isDirty = true := by
  unfold latch at cleaned
  split at cleaned
  · rename_i dirty
    exact dirty
  · cases cleaned

theorem fit_setPending (latched : Latched α) (value : α) {count : Nat}
    (counted : latched.isDirty.toNat ≤ count) :
    DirtyDelta.Fit count [(latched.setPending value).2] := by
  refine ⟨fun cleaned => ?_, trivial⟩
  rw [isDirty_of_setPending cleaned] at counted
  exact counted

theorem fit_latch (latched : Latched α) {count : Nat}
    (counted : latched.isDirty.toNat ≤ count) : DirtyDelta.Fit count [latched.latch.2] := by
  refine ⟨fun cleaned => ?_, trivial⟩
  rw [isDirty_of_latch cleaned] at counted
  exact counted

/-- The count follows a value that is asked for. -/
theorem applyTo_setPending (latched : Latched α) (value : α) {count : Nat}
    (counted : latched.isDirty.toNat ≤ count) :
    (latched.setPending value).2.applyTo count + latched.isDirty.toNat
      = count + (latched.setPending value).1.isDirty.toNat := by
  unfold setPending
  split
  · rfl
  · dsimp only
    split
    · rename_i clean dirty
      simp only [clean, dirty, DirtyDelta.applyTo, Bool.toNat_false, Bool.toNat_true]
    · rename_i dirty clean
      simp only [dirty, Bool.toNat_true] at counted
      simp only [clean, dirty, DirtyDelta.applyTo, Bool.toNat_false, Bool.toNat_true]
      omega
    · rename_i notDirtied notCleaned
      cases old : latched.isDirty
        <;> cases new : ({ latched with pending := value } : Latched α).isDirty
        <;> simp_all [DirtyDelta.applyTo]

/-- The count follows a value that is committed. -/
theorem applyTo_latch (latched : Latched α) {count : Nat}
    (counted : latched.isDirty.toNat ≤ count) :
    latched.latch.2.applyTo count + latched.isDirty.toNat = count := by
  unfold latch
  split
  · rename_i dirty
    simp only [dirty, Bool.toNat_true] at counted
    simp only [dirty, DirtyDelta.applyTo, Bool.toNat_true]
    omega
  · rename_i clean
    simp only [Bool.eq_false_iff.mpr clean, DirtyDelta.applyTo, Bool.toNat_false, Nat.add_zero]

/-- The count follows a value that is asked for and committed at once. -/
theorem applyTo_latch_setPending (latched : Latched α) (value : α) {count : Nat}
    (counted : latched.isDirty.toNat ≤ count) :
    (latched.setPending value).1.latch.2.applyTo ((latched.setPending value).2.applyTo count)
      + latched.isDirty.toNat = count := by
  have asking := latched.applyTo_setPending value counted
  have latching := (latched.setPending value).1.applyTo_latch
    (show _ ≤ (latched.setPending value).2.applyTo count by omega)
  omega

/-- A value that is asked for and committed at once: the second effect finds the value counted. -/
theorem fit_latch_setPending (latched : Latched α) (value : α) {count : Nat}
    (counted : latched.isDirty.toNat ≤ count) :
    DirtyDelta.Fit count
      [(latched.setPending value).2, (latched.setPending value).1.latch.2] := by
  have asking := latched.applyTo_setPending value counted
  have still : (latched.setPending value).1.isDirty.toNat
      ≤ (latched.setPending value).2.applyTo count := by omega
  exact ⟨(latched.fit_setPending value counted).1,
    (latched.setPending value).1.fit_latch still⟩

section Lawful

variable [LawfulBEq α]

theorem setPending_eq (latched : Latched α) (value : α) :
    (latched.setPending value).1 = ⟨latched.committed, value⟩ := by
  unfold setPending
  split
  · rename_i same
    rw [eq_of_beq same]
  · dsimp only
    split <;> rfl

theorem latch_eq (latched : Latched α) : latched.latch.1 = .ofValue latched.pending := by
  unfold latch
  split
  · rfl
  · rename_i clean
    have same : latched.pending = latched.committed := by simpa [isDirty] using clean
    cases latched
    cases same
    rfl

theorem isDirty_ofValue (value : α) : (ofValue value).isDirty = false := by
  simp [isDirty, ofValue]

theorem pending_eq_committed {latched : Latched α} (clean : latched.isDirty = false) :
    latched.pending = latched.committed := by
  simpa [isDirty] using clean

end Lawful

end Latched

end Scanout
