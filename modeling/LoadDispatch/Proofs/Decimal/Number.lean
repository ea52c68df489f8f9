import LoadDispatch.Decimal.Binary
import Mathlib.Data.EReal.Basic

/-!
# The number that a float is

A float that is a number is a real number or one of the two infinities, so its value is an extended
real.  The decoding gives that value, and what compares floats goes by the format of a bit pattern.
Both take a float apart in the same way, up to the names of the parts, so a float compares with zero
exactly as its number does; one that is not a number compares with nothing.
-/

namespace LoadDispatch.Decimal

open Float.Model (Format UnpackedFloat)
open Float.Model.UnpackedFloat (Sign unpackSign unpackExponent unpackMantissa)

/-! ## Decoding and unpacking -/

/-- Whether a sign is a minus. -/
def isMinus : Sign → Bool
  | .negative => true
  | .positive => false

/-- A float taken apart by its format, and the same float decoded. -/
inductive Denotes : UnpackedFloat → Bool × Magnitude → Prop where
  | notANumber (negative : Bool) : Denotes .notANumber (negative, .notANumber)
  | infinity (sign : Sign) : Denotes (.infinity sign) (isMinus sign, .infinite)
  | zero (sign : Sign) : Denotes (.zero sign) (isMinus sign, .finite ⟨0, -1074⟩)
  | finite (sign : Sign) (mantissa : Nat) (exponent : Int) (pos : 0 < mantissa) :
      Denotes (.finite sign mantissa exponent pos) (isMinus sign, .finite ⟨mantissa, exponent⟩)

section Fields

variable (b : BitVec 64)

theorem toNat_unpackMantissa :
    (@unpackMantissa .binary64 b).toNat = b.toNat % 2 ^ 52 := by
  simp [unpackMantissa]

theorem toNat_unpackExponent :
    (@unpackExponent .binary64 b).toNat = b.toNat / 2 ^ 52 % 2 ^ 11 := by
  simp [unpackExponent, Nat.shiftRight_eq_div_pow]

theorem toNat_unpackSign :
    (@unpackSign .binary64 b).toNat = b.toNat / 2 ^ 63 := by
  have hlast : (@unpackSign .binary64 b).toNat = b.toNat >>> 63 % 2 ^ 1 := rfl
  have hlt := b.isLt
  rw [hlast, Nat.shiftRight_eq_div_pow]
  omega

theorem isMinus_unpackSign :
    isMinus (Sign.ofBitVec (@unpackSign .binary64 b)) =
      decide (Nat.pow 2 63 ≤ b.toNat) := by
  have hsign := toNat_unpackSign b
  unfold Sign.ofBitVec
  split
  · next hzero =>
    rw [hzero] at hsign
    simp only [isMinus, Nat.pow_eq, false_eq_decide_iff]
    simp at hsign
    omega
  · next hone =>
    simp only [isMinus, Nat.pow_eq, true_eq_decide_iff]
    by_contra hlt
    apply hone
    apply BitVec.eq_of_toNat_eq
    rw [hsign, BitVec.toNat_zero]
    omega

/-- The magnitude of a bit pattern by the fields of its format. -/
theorem ofBits_eq : Magnitude.ofBits (b.toNat % Nat.pow 2 63) =
    let field := (@unpackExponent .binary64 b).toNat
    let fraction := (@unpackMantissa .binary64 b).toNat
    if field = 0 then .finite ⟨fraction, -1074⟩
    else if field < 0x7FF then .finite ⟨fraction + 2 ^ 52, (field : Int) - 1075⟩
    else if fraction = 0 then .infinite
    else .notANumber := by
  have hfield : b.toNat % 2 ^ 63 / 2 ^ 52 = b.toNat / 2 ^ 52 % 2 ^ 11 := by omega
  have hfraction : b.toNat % 2 ^ 63 % 2 ^ 52 = b.toNat % 2 ^ 52 := by omega
  rw [toNat_unpackExponent, toNat_unpackMantissa, Magnitude.ofBits]
  simp only [Nat.pow_eq, hfield, hfraction]

/-- A bit pattern is decoded as its format says. -/
theorem denotes_ofBits : Denotes (UnpackedFloat.unpack Format.binary64 b)
    (decide (Nat.pow 2 63 ≤ b.toNat), .ofBits (b.toNat % Nat.pow 2 63)) := by
  rw [← isMinus_unpackSign, ofBits_eq]
  have hfraction : (@unpackMantissa .binary64 b).toNat = 0 ↔ @unpackMantissa .binary64 b = 0#52 :=
    ⟨fun h => BitVec.eq_of_toNat_eq h, fun h => by rw [h]; rfl⟩
  unfold UnpackedFloat.unpack
  dsimp only
  by_cases hfull : @unpackExponent .binary64 b = -1#11
  · have hfield : (@unpackExponent .binary64 b).toNat = 0x7FF := by rw [hfull]; rfl
    rw [if_pos hfull, hfield, if_neg (show ¬ 0x7FF = 0 by decide),
      if_neg (show ¬ 0x7FF < 0x7FF by decide)]
    by_cases hzero : @unpackMantissa .binary64 b = 0#52
    · rw [if_pos hzero, if_pos (hfraction.mpr hzero)]
      exact .infinity _
    · rw [if_neg hzero, if_neg (mt hfraction.mp hzero)]
      exact .notANumber _
  · rw [if_neg hfull]
    by_cases hnone : @unpackExponent .binary64 b = 0#11
    · have hfield : (@unpackExponent .binary64 b).toNat = 0 := by rw [hnone]; rfl
      rw [if_pos hnone, if_pos hfield]
      by_cases hzero : @unpackMantissa .binary64 b = 0#52
      · rw [dif_pos hzero, hfraction.mpr hzero]
        exact .zero _
      · rw [dif_neg hzero, hfield]
        exact .finite _ _ _ _
    · have hpos : (@unpackExponent .binary64 b).toNat ≠ 0 := fun h =>
        hnone (BitVec.eq_of_toNat_eq h)
      have hlt : (@unpackExponent .binary64 b).toNat < 0x7FF := by
        have hne : (@unpackExponent .binary64 b).toNat ≠ 0x7FF := fun h =>
          hfull (BitVec.eq_of_toNat_eq h)
        have hbound : (@unpackExponent .binary64 b).toNat < 2048 :=
          (@unpackExponent .binary64 b).isLt
        omega
      -- The leading one is no part of the pattern.
      have hleading : (1#1 ++ @unpackMantissa .binary64 b).toNat =
          (@unpackMantissa .binary64 b).toNat + 2 ^ 52 := by
        rw [BitVec.toNat_append,
          ← Nat.shiftLeft_add_eq_or_of_lt (@unpackMantissa .binary64 b).isLt]
        exact Nat.add_comm _ _
      have hmantissa : 0 < (1#1 ++ @unpackMantissa .binary64 b).toNat := by omega
      have hdenotes := Denotes.finite (Sign.ofBitVec (@unpackSign .binary64 b)) _
        (((@unpackExponent .binary64 b).toNat : Int) - 1075) hmantissa
      rw [if_neg hnone, if_neg hpos, if_pos hlt, ← hleading]
      exact hdenotes

end Fields

/-- A float is decoded as its format says. -/
theorem denotes_decode (x : Float) : Denotes x.toModel.unpack (decode x) :=
  denotes_ofBits x.toModel.toBits.toBitVec

/-! ## Numbers -/

/-- The value of a finite float without its sign. -/
noncomputable def Binary.value (x : Binary) : ℝ :=
  x.mantissa * 2 ^ x.exponent

/-- The number with a magnitude and a sign, if it is one. -/
noncomputable def Magnitude.number? (negative : Bool) : Magnitude → Option EReal
  | .finite x => some ((if negative then -x.value else x.value : ℝ) : EReal)
  | .infinite => some (if negative then ⊥ else ⊤)
  | .notANumber => none

/-- The number that a float is, if it is one: a real number, or one of the infinities. -/
noncomputable def number? (x : Float) : Option EReal :=
  (decode x).2.number? (decode x).1

theorem Binary.value_of_zero (exponent : Int) : Binary.value ⟨0, exponent⟩ = 0 := by
  simp [Binary.value]

theorem Binary.value_pos {mantissa : Nat} (exponent : Int) (h : 0 < mantissa) :
    0 < Binary.value ⟨mantissa, exponent⟩ :=
  mul_pos (Nat.cast_pos.mpr h) (zpow_pos two_pos _)

section Zero

variable {u : UnpackedFloat} {d : Bool × Magnitude}

/-- A float compares with zero as its number does, and not at all if it is none. -/
theorem Denotes.compare_zero (h : Denotes u d) :
    u.compare (.zero .positive) = (d.2.number? d.1).map (cmp · 0) := by
  cases h with
  | notANumber negative => rfl
  | infinity sign =>
      cases sign with
      | negative => exact congrArg some ((cmp_eq_lt_iff _ _).mpr EReal.bot_lt_zero).symm
      | positive => exact congrArg some ((cmp_eq_gt_iff _ _).mpr EReal.zero_lt_top).symm
  | zero sign =>
      refine congrArg some ((cmp_eq_eq_iff _ _).mpr ?_).symm
      exact EReal.coe_eq_zero.mpr (by simp [Binary.value_of_zero])
  | finite sign mantissa exponent pos =>
      have hpos := Binary.value_pos exponent pos
      cases sign with
      | negative =>
          refine congrArg some ((cmp_eq_lt_iff _ _).mpr ?_).symm
          exact EReal.coe_neg'.mpr (neg_neg_of_pos hpos)
      | positive =>
          refine congrArg some ((cmp_eq_gt_iff _ _).mpr ?_).symm
          exact EReal.coe_pos.mpr hpos

end Zero

/-- Comparing the other way round turns the answer round. -/
theorem zero_compare_eq_swap (u : UnpackedFloat) :
    UnpackedFloat.compare (.zero .positive) u =
      (u.compare (.zero .positive)).map Ordering.swap := by
  cases u with
  | notANumber => rfl
  | infinity sign => cases sign <;> rfl
  | zero sign => rfl
  | finite sign mantissa exponent pos => cases sign <;> rfl

section Order

variable {x : Float}

theorem compare_zero (x : Float) :
    x.toModel.unpack.compare (0.0 : Float).toModel.unpack = (number? x).map (cmp · 0) :=
  (denotes_decode x).compare_zero

theorem zero_compare (x : Float) :
    (0.0 : Float).toModel.unpack.compare x.toModel.unpack = (number? x).map (cmp 0) := by
  refine (zero_compare_eq_swap x.toModel.unpack).trans ?_
  rw [(denotes_decode x).compare_zero, Option.map_map]
  exact congrArg (Option.map · (number? x)) (funext fun v => cmp_swap v 0)

theorem le_zero_iff : x ≤ 0.0 ↔ ∃ v, number? x = some v ∧ v ≤ 0 := by
  have h : x ≤ 0.0 ↔
      Option.any (·.isLE) (x.toModel.unpack.compare (0.0 : Float).toModel.unpack) = true :=
    decide_eq_true_iff
  rw [h, compare_zero]
  cases number? x with
  | none =>
      rw [Option.map_none]
      simp
  | some v =>
      have hle : (cmp v 0).isLE = true ↔ v ≤ 0 := by
        rw [← Ordering.ne_gt_iff_isLE, cmp_eq_gt_iff, not_lt]
      rw [Option.map_some, Option.any_some, hle]
      simp

theorem lt_zero_iff : x < 0.0 ↔ ∃ v, number? x = some v ∧ v < 0 := by
  have h : x < 0.0 ↔
      (x.toModel.unpack.compare (0.0 : Float).toModel.unpack == some .lt) = true :=
    decide_eq_true_iff
  rw [h, compare_zero, beq_iff_eq]
  cases number? x with
  | none =>
      rw [Option.map_none]
      simp
  | some v =>
      rw [Option.map_some, Option.some_inj, cmp_eq_lt_iff]
      simp

theorem zero_lt_iff : 0.0 < x ↔ ∃ v, number? x = some v ∧ 0 < v := by
  have h : 0.0 < x ↔
      ((0.0 : Float).toModel.unpack.compare x.toModel.unpack == some .lt) = true :=
    decide_eq_true_iff
  rw [h, zero_compare, beq_iff_eq]
  cases number? x with
  | none =>
      rw [Option.map_none]
      simp
  | some v =>
      rw [Option.map_some, Option.some_inj, cmp_eq_lt_iff]
      simp

theorem number?_zero : number? 0.0 = some 0 := by
  have hdecode : decode 0.0 = (false, .finite ⟨0, -1074⟩) := by decide
  rw [number?, hdecode]
  exact congrArg some (by simp [Binary.value_of_zero])

end Order

end LoadDispatch.Decimal
