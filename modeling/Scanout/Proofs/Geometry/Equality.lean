import Mathlib
import Scanout.Layer.Attributes

/-!
# Equality of numbers and of geometries

A geometry is compared with `==`, which takes zeros of either sign for one number and finds a number
that is not one different from everything. `SameNumber` is what such a comparison leaves open: two
numbers are the same, or both are zeros.

`sameNumber_of_beq` reads this off the bits. A word is determined by its sign, its exponent and its
fraction, and only words of zeros compare as equal without being equal.
-/

set_option autoImplicit false

namespace Scanout

open Float.Model (Format UnpackedFloat)
open Float.Model.UnpackedFloat (Sign unpackSign unpackExponent unpackMantissa)

section Words

variable {spec : Format} {word other : BitVec spec.numBits}

theorem word_eq_of_fields (sign : unpackSign word = unpackSign other)
    (exponent : unpackExponent word = unpackExponent other)
    (fraction : unpackMantissa word = unpackMantissa other) : word = other := by
  apply BitVec.eq_of_getLsbD_eq
  intro place bound
  have fractionWidth := spec.hm
  have exponentWidth := spec.he
  by_cases inFraction : place < spec.mantissaBitsWithoutImplicit
  · have bit := congrArg (fun field => field.getLsbD place) fraction
    simpa [unpackMantissa, inFraction] using bit
  · by_cases inExponent : place < spec.mantissaBitsWithoutImplicit + spec.exponentBits
    · have bit := congrArg
        (fun field => field.getLsbD (place - spec.mantissaBitsWithoutImplicit)) exponent
      have inside : place ≤ spec.mantissaBitsWithoutImplicit + spec.exponentBits - 1
          - spec.mantissaBitsWithoutImplicit + spec.mantissaBitsWithoutImplicit := by omega
      have position : spec.mantissaBitsWithoutImplicit
          + (place - spec.mantissaBitsWithoutImplicit) = place := by omega
      simpa [unpackExponent, inside, position] using bit
    · have last : place = spec.mantissaBitsWithoutImplicit + spec.exponentBits := by
        unfold Format.numBits at bound
        omega
      have bit := congrArg (fun field => field.getLsbD 0) sign
      simpa [unpackSign, last] using bit

theorem sign_ofBitVec_injective {sign other : BitVec 1}
    (same : Sign.ofBitVec sign = Sign.ofBitVec other) : sign = other := by
  have zeroOrOne : ∀ bit : BitVec 1, bit = 0#1 ∨ bit = 1#1 := by decide
  rcases zeroOrOne sign with rfl | rfl <;> rcases zeroOrOne other with rfl | rfl
  · rfl
  · exact absurd same (by simp [Sign.ofBitVec])
  · exact absurd same (by simp [Sign.ofBitVec])
  · rfl

/-- The leading bit of a normal number lies above every fraction. -/
theorem fraction_lt_normal {width : Nat} (fraction other : BitVec width) :
    fraction.toNat < (1#1 ++ other).toNat := by
  have below := fraction.isLt
  rw [BitVec.toNat_append, ← Nat.shiftLeft_add_eq_or_of_lt other.isLt, Nat.shiftLeft_eq]
  simp
  omega

theorem fraction_eq_of_normal {width : Nat} {fraction other : BitVec width}
    (same : (1#1 ++ fraction).toNat = (1#1 ++ other).toNat) : fraction = other := by
  rw [BitVec.toNat_append, BitVec.toNat_append, ← Nat.shiftLeft_add_eq_or_of_lt fraction.isLt,
    ← Nat.shiftLeft_add_eq_or_of_lt other.isLt] at same
  exact BitVec.eq_of_toNat_eq (Nat.add_left_cancel same)

/-- Valid words have only one that is not a number, so no two of them unpack alike. -/
theorem word_eq_of_unpack_eq (valid : spec.Valid word) (validOther : spec.Valid other)
    (same : UnpackedFloat.unpack spec word = UnpackedFloat.unpack spec other) : word = other := by
  unfold UnpackedFloat.unpack at same
  dsimp only at same
  split_ifs at same
  · -- infinities
    rename_i exponent fraction exponent' fraction'
    injection same with sign
    exact word_eq_of_fields (sign_ofBitVec_injective sign) (exponent.trans exponent'.symm)
      (fraction.trans fraction'.symm)
  · -- words that are not numbers
    rename_i exponent fraction exponent' fraction'
    rw [valid.eq_packedNaN exponent fraction, validOther.eq_packedNaN exponent' fraction']
  · -- zeros
    rename_i exponent fraction _ exponent' fraction'
    injection same with sign
    exact word_eq_of_fields (sign_ofBitVec_injective sign) (exponent.trans exponent'.symm)
      (fraction.trans fraction'.symm)
  · -- numbers without a leading bit
    rename_i exponent _ _ exponent' _
    injection same with sign fraction
    exact word_eq_of_fields (sign_ofBitVec_injective sign) (exponent.trans exponent'.symm)
      (BitVec.eq_of_toNat_eq fraction)
  · injection same with _ fraction
    exact absurd fraction (Nat.ne_of_lt (fraction_lt_normal _ _))
  · injection same with _ fraction
    exact absurd fraction (Nat.ne_of_gt (fraction_lt_normal _ _))
  · -- numbers with a leading bit
    injection same with sign fraction exponent
    exact word_eq_of_fields (sign_ofBitVec_injective sign) (BitVec.eq_of_toNat_eq (by omega))
      (fraction_eq_of_normal fraction)

end Words

/-- Unpacked numbers in the order of their format compare as equal only if they are equal or both
zeros. -/
theorem eq_or_zeros_of_beq {number other : UnpackedFloat} (equal : number.beq other = true) :
    number = other ∨ ∃ sign sign', number = .zero sign ∧ other = .zero sign' := by
  cases number with
  | infinity sign =>
      cases other with
      | infinity sign' =>
          cases sign <;> cases sign' <;>
            simp_all [UnpackedFloat.beq, UnpackedFloat.compare, compare]
      | notANumber => cases sign <;> simp [UnpackedFloat.beq, UnpackedFloat.compare] at equal
      | zero sign' => cases sign <;> simp [UnpackedFloat.beq, UnpackedFloat.compare] at equal
      | finite => cases sign <;> simp [UnpackedFloat.beq, UnpackedFloat.compare] at equal
  | notANumber => simp [UnpackedFloat.beq, UnpackedFloat.compare] at equal
  | zero sign =>
      cases other with
      | infinity sign' => cases sign' <;> simp [UnpackedFloat.beq, UnpackedFloat.compare] at equal
      | notANumber => simp [UnpackedFloat.beq, UnpackedFloat.compare] at equal
      | zero sign' => exact Or.inr ⟨sign, sign', rfl, rfl⟩
      | finite sign' =>
          cases sign' <;> simp [UnpackedFloat.beq, UnpackedFloat.compare] at equal
  | finite sign =>
      cases other with
      | infinity sign' =>
          cases sign <;> cases sign' <;>
            simp [UnpackedFloat.beq, UnpackedFloat.compare] at equal
      | notANumber => cases sign <;> simp [UnpackedFloat.beq, UnpackedFloat.compare] at equal
      | zero sign' => cases sign <;> simp [UnpackedFloat.beq, UnpackedFloat.compare] at equal
      | finite sign' =>
          cases sign <;> cases sign' <;>
            simp_all [UnpackedFloat.beq, UnpackedFloat.compare, Ordering.then_eq_eq]

/-- The same number; zeros of either sign are one number. -/
def SameNumber {α : Type} [BEq α] [OfScientific α] (number other : α) : Prop :=
  number = other ∨ (number == (0.0 : α)) = true ∧ (other == (0.0 : α)) = true

theorem SameNumber.refl {α : Type} [BEq α] [OfScientific α] (number : α) :
    SameNumber number number := Or.inl rfl

theorem SameNumber.symm {α : Type} [BEq α] [OfScientific α] {number other : α}
    (same : SameNumber number other) : SameNumber other number := by
  rcases same with rfl | ⟨zero, zero'⟩
  · exact Or.inl rfl
  · exact Or.inr ⟨zero', zero⟩

theorem SameNumber.trans {α : Type} [BEq α] [OfScientific α] {first second third : α}
    (left : SameNumber first second) (right : SameNumber second third) :
    SameNumber first third := by
  rcases left with rfl | ⟨firstZero, _⟩
  · exact right
  · rcases right with rfl | ⟨_, thirdZero⟩
    · exact Or.inr ⟨firstZero, ‹_›⟩
    · exact Or.inr ⟨firstZero, thirdZero⟩

theorem sameNumber_of_beq {number other : Float} (equal : (number == other) = true) :
    SameNumber number other := by
  rcases eq_or_zeros_of_beq equal with same | ⟨sign, sign', zero, zero'⟩
  · obtain ⟨⟨word, valid⟩⟩ := number
    obtain ⟨⟨word', valid'⟩⟩ := other
    have words : word = word' :=
      UInt64.eq_of_toBitVec_eq (word_eq_of_unpack_eq valid valid' same)
    subst words
    exact SameNumber.refl _
  · refine Or.inr ⟨?_, ?_⟩
    · change number.toModel.unpack.beq (.zero .positive) = true
      rw [zero]
      rfl
    · change other.toModel.unpack.beq (.zero .positive) = true
      rw [zero']
      rfl

theorem sameNumber32_of_beq {number other : Float32} (equal : (number == other) = true) :
    SameNumber number other := by
  rcases eq_or_zeros_of_beq equal with same | ⟨sign, sign', zero, zero'⟩
  · obtain ⟨⟨word, valid⟩⟩ := number
    obtain ⟨⟨word', valid'⟩⟩ := other
    have words : word = word' :=
      UInt32.eq_of_toBitVec_eq (word_eq_of_unpack_eq valid valid' same)
    subst words
    exact SameNumber.refl _
  · refine Or.inr ⟨?_, ?_⟩
    · change number.toModel.unpack.beq (.zero .positive) = true
      rw [zero]
      rfl
    · change other.toModel.unpack.beq (.zero .positive) = true
      rw [zero']
      rfl

/-! ## Rectangles and geometries -/

/-- Rectangles with the same corners. -/
structure Rect.Same (rect other : Rect) : Prop where
  x0 : SameNumber rect.x0 other.x0
  y0 : SameNumber rect.y0 other.y0
  x1 : SameNumber rect.x1 other.x1
  y1 : SameNumber rect.y1 other.y1

theorem Rect.Same.refl (rect : Rect) : rect.Same rect :=
  ⟨SameNumber.refl _, SameNumber.refl _, SameNumber.refl _, SameNumber.refl _⟩

theorem Rect.Same.symm {rect other : Rect} (same : rect.Same other) : other.Same rect :=
  ⟨same.x0.symm, same.y0.symm, same.x1.symm, same.y1.symm⟩

theorem Rect.Same.trans {first second third : Rect} (left : first.Same second)
    (right : second.Same third) : first.Same third :=
  ⟨left.x0.trans right.x0, left.y0.trans right.y0, left.x1.trans right.x1,
    left.y1.trans right.y1⟩

theorem Rect.same_of_beq {rect other : Rect} (equal : (rect == other) = true) :
    rect.Same other := by
  obtain ⟨x0, y0, x1, y1⟩ := rect
  obtain ⟨x0', y0', x1', y1'⟩ := other
  change (x0 == x0' && (y0 == y0' && (x1 == x1' && y1 == y1'))) = true at equal
  simp only [Bool.and_eq_true] at equal
  obtain ⟨left, top, right, bottom⟩ := equal
  exact ⟨sameNumber_of_beq left, sameNumber_of_beq top,
    sameNumber_of_beq right, sameNumber_of_beq bottom⟩

/-- What a geometry says beside the place on the display. -/
structure LayerGeometry.SameLook (geometry other : LayerGeometry) : Prop where
  sourceCrop : geometry.sourceCrop.Same other.sourceCrop
  planeAlpha : SameNumber geometry.planeAlpha other.planeAlpha
  blend : geometry.blend = other.blend
  transform : geometry.transform = other.transform
  color : geometry.color = other.color

namespace LayerGeometry.SameLook

theorem refl (geometry : LayerGeometry) : geometry.SameLook geometry :=
  ⟨Rect.Same.refl _, SameNumber.refl _, rfl, rfl, rfl⟩

theorem symm {geometry other : LayerGeometry} (same : geometry.SameLook other) :
    other.SameLook geometry :=
  ⟨same.sourceCrop.symm, same.planeAlpha.symm, same.blend.symm, same.transform.symm,
    same.color.symm⟩

theorem trans {first second third : LayerGeometry} (left : first.SameLook second)
    (right : second.SameLook third) : first.SameLook third :=
  ⟨left.sourceCrop.trans right.sourceCrop, left.planeAlpha.trans right.planeAlpha,
    left.blend.trans right.blend, left.transform.trans right.transform,
    left.color.trans right.color⟩

end LayerGeometry.SameLook

theorem LayerGeometry.sameLook_displayFrame (geometry : LayerGeometry) (rect : Rect) :
    geometry.SameLook { geometry with displayFrame := rect } :=
  ⟨Rect.Same.refl _, SameNumber.refl _, rfl, rfl, rfl⟩

theorem LayerGeometry.sameLook_of_beq {geometry other : LayerGeometry}
    (equal : (geometry == other) = true) : geometry.SameLook other := by
  obtain ⟨frame, crop, alpha, blend, transform, color⟩ := geometry
  obtain ⟨frame', crop', alpha', blend', transform', color'⟩ := other
  change (frame == frame' && (crop == crop' && (alpha == alpha' && (blend == blend'
    && (transform == transform' && color == color'))))) = true at equal
  simp only [Bool.and_eq_true, beq_iff_eq] at equal
  obtain ⟨_, sameCrop, sameAlpha, sameBlend, sameTransform, sameColor⟩ := equal
  exact ⟨Rect.same_of_beq sameCrop, sameNumber32_of_beq sameAlpha, sameBlend,
    sameTransform, sameColor⟩

end Scanout
