import Mathlib
import Reckoner.Double

/-!
# The fields of a double

A double is a sign bit, an exponent field and a fraction field.  Taking the opposite of a
finite double, or its absolute value, sets the sign bit and leaves the two fields as they
are.

* `Double.sign`, `Double.exponentField`, `Double.fractionField` — the three parts;
* `Double.ext` — a double is determined by them;
* `Double.fields_neg`, `Double.fields_abs` — what becomes of them;
* `Double.isFinite_iff_magnitude` — a finite double has a finite magnitude;
* `Double.magnitude_abs`, `Double.isNegative_abs` — the absolute value taken apart;
* `Double.abs_of_not_isNegative`, `Double.neg_abs` — a double put together again.
-/

namespace Reckoner.Double

open Float.Model (Format UnpackedFloat)
open Float.Model.UnpackedFloat (Sign unpackSign unpackExponent unpackMantissa packComponents pack
  unpack isNaNBits unpackSign_packComponents unpackExponent_packComponents
  unpackMantissa_packComponents)

/-- The 64 bits of a double. -/
def bits (r : Float) : BitVec Format.binary64.numBits :=
  r.toBits.toBitVec

/-- The sign that the first bit stands for. -/
def sign (r : Float) : Sign :=
  .ofBitVec (unpackSign (bits r))

/-- The 11 bits after the sign. -/
def exponentField (r : Float) : BitVec 11 :=
  unpackExponent (bits r)

/-- The last 52 bits. -/
def fractionField (r : Float) : BitVec 52 :=
  unpackMantissa (bits r)

/-- The parts of a double make it up. -/
theorem bits_eq (r : Float) :
    bits r = packComponents .binary64 (sign r) (exponentField r) (fractionField r) :=
  (Float.Model.UnpackedFloat.packComponents_unpackSign_unpackExponent_unpackMantissa (bits r)).symm

/-- A double is determined by its bits. -/
theorem bits_inj {r s : Float} (h : bits r = bits s) : r = s :=
  Float.toBits_inj.1 (UInt64.toBitVec_inj.1 h)

/-- A double is determined by its parts. -/
theorem ext {r s : Float} (hsign : sign r = sign s) (hexponent : exponentField r = exponentField s)
    (hfraction : fractionField r = fractionField s) : r = s := by
  apply bits_inj
  rw [bits_eq r, bits_eq s, hsign, hexponent, hfraction]

/-- A double that is put together has the parts that it is put together from. -/
theorem fields_of_bits_eq {r : Float} {s : Sign} {exponent : BitVec 11} {fraction : BitVec 52}
    (h : bits r = packComponents .binary64 s exponent fraction) :
    sign r = s ∧ exponentField r = exponent ∧ fractionField r = fraction := by
  unfold sign exponentField fractionField
  rw [h]
  exact ⟨by simp, unpackExponent_packComponents, unpackMantissa_packComponents⟩

/-- Only a full exponent field stands for no finite number. -/
theorem isFinite_iff (r : Float) : r.isFinite = true ↔ exponentField r ≠ -1#11 := by
  change (unpack .binary64 (bits r)).isFinite = true ↔ unpackExponent (bits r) ≠ -1#11
  unfold unpack
  dsimp only
  split
  next hfull => split <;> exact iff_of_false Bool.false_ne_true (not_not_intro hfull)
  next hfull =>
    split
    · split <;> exact iff_of_true rfl hfull
    · exact iff_of_true rfl hfull

/-! ### Signs -/

/-- A number with another sign.  NaN has none. -/
def withSign (s : Sign) : UnpackedFloat → UnpackedFloat
  | .notANumber => .notANumber
  | .infinity _ => .infinity s
  | .zero _ => .zero s
  | .finite _ m e h => .finite s m e h

/-- The absolute value is positive. -/
theorem abs_eq_withSign (u : UnpackedFloat) : u.abs = withSign .positive u := by
  cases u <;> rfl

/-- The opposite has the other sign. -/
theorem neg_unpack (b : BitVec Format.binary64.numBits) :
    (unpack .binary64 b).neg = withSign (-Sign.ofBitVec (unpackSign b)) (unpack .binary64 b) := by
  unfold unpack
  dsimp only
  split
  · split <;> rfl
  · split
    · split <;> rfl
    · rfl

/-- A number with another sign is what the same fields stand for after another sign bit. -/
theorem withSign_unpack (s : Sign) (b : BitVec Format.binary64.numBits) :
    withSign s (unpack .binary64 b)
      = unpack .binary64 (packComponents .binary64 s (unpackExponent b) (unpackMantissa b)) := by
  unfold unpack
  simp only [unpackExponent_packComponents, unpackMantissa_packComponents,
    unpackSign_packComponents, Sign.ofBitVec_toBitVec]
  split
  · split <;> rfl
  · split
    · split <;> rfl
    · rfl

/-- A finite number with another sign has another sign bit, and the other parts stay. -/
theorem pack_withSign_unpack (s : Sign) {b : BitVec Format.binary64.numBits}
    (h : unpackExponent b ≠ -1#11) :
    pack .binary64 (withSign s (unpack .binary64 b))
      = packComponents .binary64 s (unpackExponent b) (unpackMantissa b) := by
  have hnan : isNaNBits (packComponents .binary64 s (unpackExponent b) (unpackMantissa b))
      = false := by
    refine decide_eq_false fun hfull => h ?_
    rw [← hfull.1, unpackExponent_packComponents]
  rw [withSign_unpack, Float.Model.UnpackedFloat.pack_unpack, hnan]
  rfl

/-- The opposite of a finite double has the other sign and the same fields. -/
theorem fields_neg {r : Float} (h : r.isFinite = true) :
    sign (-r) = -sign r ∧ exponentField (-r) = exponentField r
      ∧ fractionField (-r) = fractionField r := by
  apply fields_of_bits_eq
  change pack .binary64 (unpack .binary64 (bits r)).neg = _
  rw [neg_unpack]
  exact pack_withSign_unpack _ ((isFinite_iff r).1 h)

/-- The absolute value of a finite double is positive and has the same fields. -/
theorem fields_abs {r : Float} (h : r.isFinite = true) :
    sign r.abs = .positive ∧ exponentField r.abs = exponentField r
      ∧ fractionField r.abs = fractionField r := by
  apply fields_of_bits_eq
  change pack .binary64 (unpack .binary64 (bits r)).abs = _
  rw [abs_eq_withSign]
  exact pack_withSign_unpack _ ((isFinite_iff r).1 h)

/-! ### Reading the fields off the bits -/

/-- The sign bit is the highest one. -/
theorem sign_eq (r : Float) : sign r = if isNegative r then .negative else .positive := by
  have hnegative : isNegative r = ((bits r).extractLsb' 63 1 == 1#1) :=
    BitVec.getLsbD_eq_extractLsb' (bits r) 63
  change Sign.ofBitVec ((bits r).extractLsb' 63 1) = _
  rw [hnegative]
  rcases BitVec.eq_zero_or_eq_one ((bits r).extractLsb' 63 1) with hbit | hbit <;>
    (rw [hbit]; rfl)

/-- The magnitude depends on the two fields alone. -/
theorem magnitude_eq (r : Float) :
    magnitude r =
      if (exponentField r).toNat = 2047 then
        if (fractionField r).toNat = 0 then .infinite else .nan
      else if (exponentField r).toNat = 0 then
        .finite (fractionField r).toNat (-1074)
      else
        .finite (leadingOne + (fractionField r).toNat)
          (((exponentField r).toNat : Int) - 1075) := by
  have hexponent : (exponentField r).toNat = r.toBits.toNat / leadingOne % 2048 := by
    simp [exponentField, unpackExponent, bits, leadingOne, Nat.shiftRight_eq_div_pow]
  have hfraction : (fractionField r).toNat = r.toBits.toNat % leadingOne := by
    simp [fractionField, unpackMantissa, bits, leadingOne]
  rw [hexponent, hfraction]
  rfl

/-- The magnitude of a finite double is finite, and of no other. -/
theorem isFinite_iff_magnitude (r : Float) :
    r.isFinite = true ↔ ∃ m q, magnitude r = .finite m q := by
  have hfull : exponentField r ≠ -1#11 ↔ (exponentField r).toNat ≠ 2047 :=
    not_congr (BitVec.toNat_inj (y := -1#11)).symm
  rw [isFinite_iff, hfull, magnitude_eq]
  split
  next h => split <;> simp [h]
  next h => split <;> simp [h]

/-- The absolute value of a finite double has its magnitude. -/
theorem magnitude_abs {r : Float} (h : r.isFinite = true) : magnitude r.abs = magnitude r := by
  obtain ⟨-, hexponent, hfraction⟩ := fields_abs h
  rw [magnitude_eq, magnitude_eq, hexponent, hfraction]

/-- The absolute value of a finite double has no sign bit. -/
theorem isNegative_abs {r : Float} (h : r.isFinite = true) : isNegative r.abs = false := by
  have hsign := (fields_abs h).1
  rw [sign_eq] at hsign
  cases hnegative : isNegative r.abs with
  | false => rfl
  | true => simp [hnegative] at hsign

/-- A finite double without a sign bit is its absolute value. -/
theorem abs_of_not_isNegative {r : Float} (h : r.isFinite = true) (hsign : isNegative r = false) :
    r.abs = r := by
  obtain ⟨habs, hexponent, hfraction⟩ := fields_abs h
  exact ext (by rw [habs, sign_eq, hsign]; rfl) hexponent hfraction

/-- A finite double with a sign bit is the opposite of its absolute value. -/
theorem neg_abs {r : Float} (h : r.isFinite = true) (hsign : isNegative r = true) :
    -r.abs = r := by
  obtain ⟨habs, hexponent, hfraction⟩ := fields_abs h
  have hfinite : r.abs.isFinite = true := by
    rw [isFinite_iff, hexponent]
    exact (isFinite_iff r).1 h
  obtain ⟨hneg, hexponent', hfraction'⟩ := fields_neg hfinite
  refine ext ?_ (hexponent'.trans hexponent) (hfraction'.trans hfraction)
  rw [hneg, habs, sign_eq, hsign]
  rfl

end Reckoner.Double
