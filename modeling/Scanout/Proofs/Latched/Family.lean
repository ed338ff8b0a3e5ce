import Scanout.Proofs.Latched

/-!
# Families of latched values

Several latched values share one count of dirty values: every change of one of them applies its
effect to the count, and nobody looks at the others. `Family.IsExact` says that the count is the
number of dirty values.

Asking for a value looks at it before and after, so the count stays exact whatever `==` is like.
Committing a dirty value reports that it has become clean without looking again. A value that
differs from itself is then as dirty as before, and the count is one short. So the count is exact
throughout exactly if no such value is ever committed, and it never exceeds the number of dirty
values (`exact_after`).
-/

set_option autoImplicit false

namespace Scanout

/-- Latched values that share a count of dirty values. -/
structure Family (ι α : Type) where
  values : ι → Latched α
  count : Nat

/-! ## One value -/

namespace Latched

variable {α : Type} [BEq α]

/-- Committing what is pending would leave the value dirty. -/
def isFutile (latched : Latched α) : Bool :=
  latched.isDirty && latched.pending != latched.pending

theorem isDirty_latch (latched : Latched α) : latched.latch.1.isDirty = latched.isFutile := by
  unfold latch isFutile
  split
  · rename_i dirty
    rw [dirty]
    rfl
  · rename_i clean
    have clean : latched.isDirty = false := Bool.eq_false_iff.mpr clean
    rw [clean]
    rfl

/-- Only a clean value becomes dirty. -/
theorem isDirty_of_becameDirty {latched : Latched α} {move : Move α}
    (dirtied : (latched.apply move).2 = .becameDirty) : latched.isDirty = false := by
  cases move with
  | set value =>
      simp only [apply, setPending] at dirtied
      split at dirtied
      · cases dirtied
      · split at dirtied
        · rename_i clean _
          exact clean
        · cases dirtied
        · cases dirtied
  | latch =>
      simp only [apply, latch] at dirtied
      split at dirtied
      · cases dirtied
      · cases dirtied

/-- The move commits a value that stays dirty. -/
def misses (latched : Latched α) : Move α → Bool
  | .set _ => false
  | .latch => latched.isFutile

/-- The count follows a move, but for a commit that leaves the value dirty. -/
theorem applyTo_apply (latched : Latched α) (move : Move α) {count : Nat}
    (counted : latched.isDirty.toNat ≤ count) :
    (latched.apply move).2.applyTo count + latched.isDirty.toNat + (latched.misses move).toNat
      = count + (latched.apply move).1.isDirty.toNat := by
  cases move with
  | set value =>
      have asking := latched.applyTo_setPending value counted
      simp only [apply, misses, Bool.toNat_false, Nat.add_zero]
      exact asking
  | latch =>
      have latching := latched.applyTo_latch counted
      simp only [apply, misses, isDirty_latch]
      omega

/-- A count that has missed a dirty value stays at zero. -/
theorem applyTo_apply_zero {latched : Latched α} (dirty : latched.isDirty = true)
    (move : Move α) : (latched.apply move).2.applyTo 0 = 0 := by
  cases effect : (latched.apply move).2 with
  | unchanged => rfl
  | becameClean => rfl
  | becameDirty =>
      rw [isDirty_of_becameDirty effect] at dirty
      cases dirty

end Latched

/-! ## The whole family -/

namespace Family

variable {ι α : Type} [DecidableEq ι] [BEq α]

/-- One value is moved, and its effect goes to the count. -/
def change (family : Family ι α) (index : ι) (move : Latched.Move α) : Family ι α :=
  let counted := (Counted.step ⟨family.values index, family.count⟩ (.move move)).1
  { values := Function.update family.values index counted.latched, count := counted.count }

def after (family : Family ι α) : List (ι × Latched.Move α) → Family ι α
  | [] => family
  | (index, move) :: rest => (family.change index move).after rest

variable [Fintype ι]

def dirty (family : Family ι α) : Nat :=
  (Finset.univ.filter fun index => (family.values index).isDirty = true).card

/-- The count is the number of dirty values. -/
def IsExact (family : Family ι α) : Prop := family.count = family.dirty

instance (family : Family ι α) : Decidable family.IsExact :=
  inferInstanceAs (Decidable (_ = _))

omit [DecidableEq ι] in
theorem dirty_eq_sum (family : Family ι α) :
    family.dirty = ∑ index, (family.values index).isDirty.toNat := by
  unfold dirty
  rw [Finset.card_filter]
  apply Finset.sum_congr rfl
  intro index _
  cases (family.values index).isDirty <;> rfl

/-- Only the value that is moved may become dirty or clean. -/
theorem dirty_change (family : Family ι α) (index : ι) (move : Latched.Move α) :
    (family.change index move).dirty + (family.values index).isDirty.toNat
      = family.dirty + ((family.values index).apply move).1.isDirty.toNat := by
  have moved : (fun other => ((family.change index move).values other).isDirty.toNat)
      = Function.update (fun other => (family.values other).isDirty.toNat) index
          ((family.values index).apply move).1.isDirty.toNat := by
    funext other
    by_cases here : other = index
    · subst here
      simp [change, Counted.step]
    · simp [change, here]
  have others := Finset.sum_erase_add Finset.univ
    (fun other => (family.values other).isDirty.toNat) (Finset.mem_univ index)
  rw [dirty_eq_sum, dirty_eq_sum, moved, Finset.sum_update_of_mem (Finset.mem_univ index),
    Finset.sdiff_singleton_eq_erase]
  omega

omit [DecidableEq ι] in
theorem isDirty_le_dirty (family : Family ι α) (index : ι) :
    (family.values index).isDirty.toNat ≤ family.dirty := by
  rw [dirty_eq_sum]
  exact Finset.single_le_sum (f := fun other => (family.values other).isDirty.toNat)
    (fun _ _ => Nat.zero_le _) (Finset.mem_univ index)

/-- An exact count stays exact, but for a commit that leaves the value dirty: it falls one short. -/
theorem count_change {family : Family ι α} (exact : family.IsExact) (index : ι)
    (move : Latched.Move α) :
    (family.change index move).count + ((family.values index).misses move).toNat
      = (family.change index move).dirty := by
  have counted : (family.values index).isDirty.toNat ≤ family.count := by
    rw [exact]
    exact family.isDirty_le_dirty index
  have effect := (family.values index).applyTo_apply move counted
  have dirty := family.dirty_change index move
  change ((family.values index).apply move).2.applyTo family.count + _ = _
  unfold IsExact at exact
  omega

theorem isExact_change_iff {family : Family ι α} (exact : family.IsExact) (index : ι)
    (move : Latched.Move α) :
    (family.change index move).IsExact ↔ (family.values index).misses move = false := by
  have effect := count_change exact index move
  unfold IsExact
  cases missed : (family.values index).misses move with
  | false =>
      rw [missed, Bool.toNat_false] at effect
      exact iff_of_true effect rfl
  | true =>
      rw [missed, Bool.toNat_true] at effect
      apply iff_of_false
      · omega
      · exact Bool.noConfusion

theorem count_change_le {family : Family ι α} (below : family.count ≤ family.dirty) (index : ι)
    (move : Latched.Move α) :
    (family.change index move).count ≤ (family.change index move).dirty := by
  have dirty := family.dirty_change index move
  change ((family.values index).apply move).2.applyTo family.count ≤ _
  by_cases counted : (family.values index).isDirty.toNat ≤ family.count
  · have effect := (family.values index).applyTo_apply move counted
    omega
  · -- a dirty value beside a count of zero: there is nothing left to take away
    have missed : (family.values index).isDirty = true := by
      cases isDirty : (family.values index).isDirty with
      | true => rfl
      | false =>
          rw [isDirty] at counted
          exact absurd (Nat.zero_le _) counted
    have zero : family.count = 0 := by
      rw [missed, Bool.toNat_true] at counted
      omega
    rw [zero, Latched.applyTo_apply_zero missed]
    exact Nat.zero_le _

/-! ## Sequences of moves -/

omit [Fintype ι] in
theorem after_concat (family : Family ι α) (moves : List (ι × Latched.Move α)) (index : ι)
    (move : Latched.Move α) :
    family.after (moves ++ [(index, move)]) = (family.after moves).change index move := by
  induction moves generalizing family with
  | nil => rfl
  | cons first rest ih =>
      obtain ⟨other, earlier⟩ := first
      exact ih (family.change other earlier)

/-- Throughout these moves, no commit leaves its value dirty. -/
def Settles (family : Family ι α) (moves : List (ι × Latched.Move α)) : Prop :=
  ∀ first index, first ++ [(index, .latch)] <+: moves →
    ((family.after first).values index).isFutile = false

theorem exact_of_settles {family : Family ι α} (start : family.IsExact)
    {moves : List (ι × Latched.Move α)} (settles : family.Settles moves) :
    (family.after moves).IsExact := by
  induction moves using List.reverseRecOn with
  | nil => exact start
  | append_singleton first last ih =>
      obtain ⟨index, move⟩ := last
      have exact : (family.after first).IsExact := by
        apply ih
        intro earlier other inside
        exact settles earlier other (inside.trans (List.prefix_append first _))
      rw [after_concat]
      apply (isExact_change_iff exact index move).mpr
      cases move with
      | set value => rfl
      | latch => exact settles first index List.prefix_rfl

theorem count_after_le {family : Family ι α} (start : family.IsExact)
    (moves : List (ι × Latched.Move α)) :
    (family.after moves).count ≤ (family.after moves).dirty := by
  induction moves using List.reverseRecOn with
  | nil => exact Nat.le_of_eq start
  | append_singleton first last ih =>
      obtain ⟨index, move⟩ := last
      rw [after_concat]
      exact count_change_le ih index move

omit [Fintype ι] in
theorem isDirty_after_latch (family : Family ι α) (moves : List (ι × Latched.Move α)) (index : ι) :
    ((family.after (moves ++ [(index, .latch)])).values index).isDirty
      = ((family.after moves).values index).isFutile := by
  rw [after_concat]
  simp only [change, Counted.step, Function.update_self]
  exact Latched.isDirty_latch _

/-- Where every value equals itself, the count is always exact and commits make clean. -/
theorem exact_of_refl [ReflBEq α] {family : Family ι α} (start : family.IsExact)
    (moves : List (ι × Latched.Move α)) :
    (family.after moves).IsExact
      ∧ ∀ index, ((family.after (moves ++ [(index, .latch)])).values index).isDirty = false := by
  have never : ∀ latched : Latched α, latched.isFutile = false := by
    intro latched
    simp [Latched.isFutile, bne]
  constructor
  · apply exact_of_settles start
    intro first index _
    exact never _
  · intro index
    rw [isDirty_after_latch]
    exact never _

/-- **A count of dirty values is exact throughout exactly if no commit leaves its value dirty**, and
a commit does so exactly if the value differs from itself. The count never exceeds the number of
dirty values. -/
theorem exact_after {family : Family ι α} (start : family.IsExact)
    (moves : List (ι × Latched.Move α)) :
    ((∀ first, first <+: moves → (family.after first).IsExact) ↔ family.Settles moves)
      ∧ (∀ first, first <+: moves → (family.after first).count ≤ (family.after first).dirty)
      ∧ ∀ first index, first ++ [(index, .latch)] <+: moves →
        (((family.after (first ++ [(index, .latch)])).values index).isDirty = true
          ↔ ((family.after first).values index).isDirty = true
            ∧ (((family.after first).values index).pending
              == ((family.after first).values index).pending) = false) := by
  refine ⟨⟨?_, ?_⟩, ?_, ?_⟩
  · intro exact first index inside
    have before := exact first ((List.prefix_append first _).trans inside)
    have committed := exact _ inside
    rw [after_concat] at committed
    exact (isExact_change_iff before index .latch).mp committed
  · intro settles first inside
    apply exact_of_settles start
    intro earlier index within
    exact settles earlier index (within.trans inside)
  · intro first _
    exact count_after_le start first
  · intro first index _
    rw [isDirty_after_latch]
    simp [Latched.isFutile, bne]

/-- Two clean numbers. -/
def twoZeros : Family Bool Float := { values := fun _ => .ofValue 0.0, count := 0 }

/-- One number is asked for and committed; the other one, asked to be no number, stays dirty. -/
def oneCommitted : List (Bool × Latched.Move Float) :=
  [(false, .set 1.5), (true, .set (0.0 / 0.0)), (false, .latch)]

theorem exact_after_oneCommitted :
    twoZeros.IsExact ∧ twoZeros.Settles oneCommitted
      ∧ (twoZeros.after oneCommitted).count = 1
      ∧ ((twoZeros.after oneCommitted).values false).isDirty = false := by
  have start : twoZeros.IsExact := by decide +kernel
  have exact : ∀ first ∈ oneCommitted.inits, (twoZeros.after first).IsExact := by decide +kernel
  obtain ⟨throughout, _, committed⟩ := exact_after start oneCommitted
  refine ⟨start, ?_, by decide +kernel, ?_⟩
  · apply throughout.mp
    intro first inside
    exact exact first ((List.mem_inits _ _).mpr inside)
  · apply Bool.eq_false_iff.mpr
    intro dirty
    have missed := (committed [(false, .set 1.5), (true, .set (0.0 / 0.0))] false
      List.prefix_rfl).mp dirty
    exact absurd missed.2 (by decide +kernel)

/-- A number that is none is committed: it stays dirty, and the count is one short. -/
theorem inexact_after_nan :
    let asked := twoZeros.after [(true, .set (0.0 / 0.0))]
    let committed := twoZeros.after [(true, .set (0.0 / 0.0)), (true, .latch)]
    twoZeros.IsExact ∧ asked.IsExact ∧ ¬committed.IsExact
      ∧ (committed.values true).isDirty = true := by
  decide +kernel

end Family

end Scanout
