import Mathlib
import TensorGraph.Number.Real

/-!
# Floats that hold whole numbers

A float of double precision has 53 significant bits. A whole number of no more bits is held as it is, and so are the sum of two
such numbers and a quotient without a remainder, where they need no more bits.
-/

namespace TensorGraph

open Float.Model (Format UnpackedFloat)
open Float.Model.UnpackedFloat

/-- The number that a float stands for, if it is finite. -/
def floatValue? (x : Float) : Option ℚ :=
  match x.toModel.unpack with
  | .zero _ => some 0
  | .finite .positive m e _ => some (m * 2 ^ e)
  | .finite .negative m e _ => some (-(m * 2 ^ e))
  | _ => none

/-! ## Bits -/

theorem toNat_packComponents {e : BitVec 11} {m : BitVec 52} :
    (packComponents .binary64 .positive e m).toNat = e.toNat * 2 ^ 52 + m.toNat := by
  change ((0#1 ++ e) ++ m).toNat = _
  rw [BitVec.toNat_append, BitVec.toNat_append, ← Nat.shiftLeft_add_eq_or_of_lt m.isLt, Nat.shiftLeft_eq]
  simp

/-- The sign is the bit above the 63 of the exponent and the mantissa. -/
theorem unpackSign_positive {e : BitVec 11} {m : BitVec 52} : unpackSign (packComponents .binary64 .positive e m) = 0#1 := by
  have he := e.isLt
  have hm := m.isLt
  refine BitVec.eq_of_toNat_eq ?_
  rw [unpackSign, BitVec.toNat_cast, BitVec.extractLsb_toNat, toNat_packComponents, Nat.shiftRight_eq_div_pow]
  change (e.toNat * 2 ^ 52 + m.toNat) / 2 ^ 63 % 2 ^ 1 = 0
  omega

theorem bitLength_eq {n : Nat} (hn : n ≠ 0) : bitLength n = n.log2 + 1 := if_neg (by simpa using hn)

theorem roundDivEven_mul (q : Nat) {d : Nat} (hd : 0 < d) : roundDivEven (q * d) d = q := by
  simp [roundDivEven, Nat.mul_div_cancel _ hd, hd]

theorem shiftRight_exact (m n : Nat) : (⟨m * 2 ^ n, false, false⟩ : ExtendedMantissa) >>> n = ⟨m, false, false⟩ := by
  induction n generalizing m with
  | zero => simp [HShiftRight.hShiftRight, Nat.repeat]
  | succ n ih =>
    change ExtendedMantissa.shiftRightOne ((⟨m * 2 ^ (n + 1), false, false⟩ : ExtendedMantissa) >>> n) = _
    rw [Nat.pow_succ', ← Nat.mul_assoc, ih (m * 2)]
    simp [ExtendedMantissa.shiftRightOne]

/-! ## Mantissas of 53 bits -/

/-- A mantissa that uses all its bits. With any exponent that a float can have it is held as it is. -/
structure Normal (m : Nat) : Prop where
  le : 2 ^ 52 ≤ m
  lt : m < 2 ^ 53

namespace Normal

variable {m : Nat} {e : Int} (hm : Normal m)

include hm

theorem pos : 0 < m := (Nat.two_pow_pos 52).trans_le hm.le

theorem log2_shifted (n : Nat) : (m * 2 ^ n).log2 = 52 + n := by
  have h : 0 < 2 ^ n := Nat.two_pow_pos n
  refine (Nat.log2_eq_iff (Nat.mul_pos hm.pos h).ne').mpr ⟨?_, ?_⟩
  · rw [Nat.pow_add]
    exact Nat.mul_le_mul_right _ hm.le
  · rw [show 52 + n + 1 = 53 + n by omega, Nat.pow_add]
    exact Nat.mul_lt_mul_of_pos_right hm.lt h

theorem log2_eq : m.log2 = 52 := by
  have h := hm.log2_shifted 0
  rwa [Nat.pow_zero, Nat.mul_one] at h

theorem targetExponent_eq {n : Nat} (he : -1074 ≤ e + n) :
    Format.targetExponent .binary64 (Float.Model.totalExponent (m * 2 ^ n) e) = e + n := by
  rw [Float.Model.totalExponent, hm.log2_shifted]
  change max ((52 + n : Nat) + 1 + e - 53) (-1074) = e + n
  omega

theorem shiftToTargetExponent_exact {n : Nat} (he : -1074 ≤ e + n) :
    shiftToTargetExponent .binary64 (m * 2 ^ n) e .exact = (⟨m, false, false⟩, e + n) := by
  rw [shiftToTargetExponent, hm.targetExponent_eq he, shiftToExponent, show (e + n - e).toNat = n by omega]
  exact congrArg (·, e + (n : Int)) (shiftRight_exact m n)

theorem roundWithAccuracy_exact {n : Nat} (he : -1074 ≤ e + n) :
    roundWithAccuracy .binary64 .positive (m * 2 ^ n) e .exact = .finite .positive m (e + n) hm.pos := by
  have h := hm.shiftToTargetExponent_exact (n := 0) (e := e + n) (by omega)
  rw [Nat.pow_zero, Nat.mul_one] at h
  simp only [roundWithAccuracy, hm.shiftToTargetExponent_exact he, ExtendedMantissa.roundedMantissa,
    ExtendedMantissa.accuracy, Accuracy.roundToNearestEven, h, dif_neg hm.pos.ne', Nat.cast_zero, add_zero]

/-- Rounding takes off the bits beyond 53, if they are zero. -/
theorem round_exact {n : Nat} (he : -1074 ≤ e + n) :
    UnpackedFloat.round .binary64 .positive (m * 2 ^ n) e = .finite .positive m (e + n) hm.pos := by
  have hshift : (e - (e + n)).toNat = 0 := by omega
  simp only [UnpackedFloat.round, hm.targetExponent_eq he, decreaseExponent, hshift, Nat.shiftLeft_zero, Nat.cast_zero, sub_zero]
  exact hm.roundWithAccuracy_exact he

theorem pack_eq (he : -1074 ≤ e) (he' : e < 972) : UnpackedFloat.pack .binary64 (.finite .positive m e hm.pos) =
    packComponents .binary64 .positive (.ofNat 11 (e + 1075).toNat) (.ofNat 52 m) := by
  have hb : (e + (Format.exponentBias .binary64 : Int) + (52 : Nat)).toNat = (e + 1075).toNat := by
    change (e + 1023 + 52).toNat = _
    omega
  simp only [UnpackedFloat.pack, hb, hm.log2_eq]
  rw [if_neg (show ¬ 2 ^ 11 ≤ (e + 1075).toNat + 1 by omega)]
  rfl

theorem unpack_eq (he : -1074 ≤ e) (he' : e < 972) : UnpackedFloat.unpack .binary64
    (packComponents .binary64 .positive (.ofNat 11 (e + 1075).toNat) (.ofNat 52 m)) = .finite .positive m e hm.pos := by
  have hk : (BitVec.ofNat 11 (e + 1075).toNat).toNat = (e + 1075).toNat := by
    rw [BitVec.toNat_ofNat]
    omega
  have hne (j : Nat) (hj : (j : Int) ≠ e + 1075) (hj' : j < 2 ^ 11) : BitVec.ofNat 11 (e + 1075).toNat ≠ .ofNat 11 j := by
    intro h
    have := congrArg BitVec.toNat h
    rw [hk, BitVec.toNat_ofNat] at this
    omega
  have hmant : (1#1 ++ BitVec.ofNat 52 m).toNat = m := by
    have hle := hm.le
    have hlt := hm.lt
    rw [BitVec.toNat_append, ← Nat.shiftLeft_add_eq_or_of_lt (BitVec.isLt _), BitVec.toNat_ofNat, BitVec.toNat_ofNat,
      Nat.shiftLeft_eq]
    omega
  simp only [UnpackedFloat.unpack, unpackExponent_packComponents, unpackMantissa_packComponents, unpackSign_positive, hk, hmant]
  -- neither the exponent of what is not finite nor that of zero and of smaller mantissas
  rw [if_neg (show BitVec.ofNat 11 (e + 1075).toNat ≠ -1#11 from hne 2047 (by omega) (by omega)),
    if_neg (hne 0 (by omega) (by omega))]
  change UnpackedFloat.finite _ m (((e + 1075).toNat : Int) - (1023 + 52)) _ = _
  congr 1
  omega

theorem unpack_pack (he : -1074 ≤ e) (he' : e < 972) :
    (Float.Model.pack (.finite .positive m e hm.pos)).unpack = .finite .positive m e hm.pos := by
  change UnpackedFloat.unpack .binary64 (UnpackedFloat.pack .binary64 _) = _
  rw [hm.pack_eq he he', hm.unpack_eq he he']

/-- The bits of a float: its exponent, and the mantissa without its first bit. -/
theorem unpack_ofBits (he : -1074 ≤ e) (he' : e < 972) :
    (Float.ofBits (.ofNat ((e + 1075).toNat * 2 ^ 52 + (m - 2 ^ 52)))).toModel.unpack = .finite .positive m e hm.pos := by
  have hbits : (UInt64.ofNat ((e + 1075).toNat * 2 ^ 52 + (m - 2 ^ 52))).toBitVec =
      packComponents .binary64 .positive (.ofNat 11 (e + 1075).toNat) (.ofNat 52 m) := by
    have hle := hm.le
    have hlt := hm.lt
    refine BitVec.eq_of_toNat_eq ?_
    rw [toNat_packComponents, UInt64.toNat_toBitVec, UInt64.toNat_ofNat', BitVec.toNat_ofNat, BitVec.toNat_ofNat]
    omega
  change (Float.Model.pack (UnpackedFloat.unpack .binary64 _)).unpack = _
  rw [hbits, hm.unpack_eq he he', hm.unpack_pack he he']

theorem double_round {n : Nat} (he : -1074 ≤ e + n) (he' : e + n ≤ 971) :
    BinaryFormat.double.round (m * 2 ^ n) e = some (m, e + n) := by
  have hne : m * 2 ^ n ≠ 0 := (Nat.mul_pos hm.pos (Nat.two_pow_pos n)).ne'
  have ht : max (-1074) (e + bitLength (m * 2 ^ n) - (53 : Nat)) = e + n := by
    rw [bitLength_eq hne, hm.log2_shifted]
    omega
  have hround : roundToExp (m * 2 ^ n) e (e + n) = m := by
    rw [roundToExp]
    split
    · obtain rfl : n = 0 := by omega
      simp
    · rw [show (e + n - e).toNat = n by omega]
      exact roundDivEven_mul m (Nat.two_pow_pos n)
  have hm53 : (m == 2 ^ 53) = false := by simpa using hm.lt.ne
  simp only [BinaryFormat.round, BinaryFormat.double, beq_eq_false_iff_ne.mpr hne, ht, hround, Nat.pow_eq, hm53,
    Bool.false_eq_true, if_false]
  exact if_neg (by omega)

theorem unpack_floatOfParts (he : -1074 ≤ e) (he' : e < 972) :
    (floatOfParts false m e).toModel.unpack = .finite .positive m e hm.pos := by
  have hshift : min (53 - bitLength m) (e + 1074).toNat = 0 := by
    rw [bitLength_eq hm.pos.ne', hm.log2_eq]
    omega
  simp only [floatOfParts, hshift, beq_eq_false_iff_ne.mpr hm.pos.ne', Nat.pow_eq, Nat.pow_zero, Nat.mul_one, not_lt.mpr hm.le,
    if_false, Bool.false_eq_true, Nat.zero_add, Nat.cast_zero, sub_zero]
  exact hm.unpack_ofBits he he'

end Normal

/-! ## Whole numbers -/

section Whole

variable {n : Nat} (hn : 0 < n)

include hn

/-- A number of at most 53 bits, shifted to the left until it has 53. -/
theorem exists_normal (hn' : n < 2 ^ 53) : ∃ k, n.log2 + k = 52 ∧ Normal (n * 2 ^ k) := by
  have hlog := (Nat.log2_lt hn.ne').mpr hn'
  obtain ⟨k, hk⟩ : ∃ k, n.log2 + k = 52 := ⟨52 - n.log2, by omega⟩
  refine ⟨k, hk, ?_, ?_⟩
  · rw [← hk, Nat.pow_add]
    exact Nat.mul_le_mul_right _ (Nat.log2_self_le hn.ne')
  · rw [show 53 = n.log2 + 1 + k by omega, Nat.pow_add]
    exact Nat.mul_lt_mul_of_pos_right Nat.lt_log2_self (Nat.two_pow_pos k)

/-- A number up to `2 ^ 53` as a mantissa and a shift of its first bit. -/
theorem exists_mantissa (hn' : n ≤ 2 ^ 53) : ∃ m j, Normal m ∧ j ≤ 53 ∧ m * 2 ^ j = n * 2 ^ 52 := by
  rcases hn'.lt_or_eq with hlt | rfl
  · obtain ⟨k, hk, hm⟩ := exists_normal hn hlt
    refine ⟨n * 2 ^ k, 52 - k, hm, by omega, ?_⟩
    rw [Nat.mul_assoc, ← Nat.pow_add, show k + (52 - k) = 52 by omega]
  · exact ⟨2 ^ 52, 53, ⟨le_rfl, by omega⟩, le_rfl, by norm_num⟩

/-- A number of 53 bits is converted without rounding. -/
theorem ofNat_exact (hn' : n < 2 ^ 53) : ∃ k : Nat, ∃ hm : Normal (n * 2 ^ k), k ≤ 52 ∧
    UnpackedFloat.ofNat .binary64 n = .finite .positive (n * 2 ^ k) (-k) hm.pos := by
  obtain ⟨k, hk, hm⟩ := exists_normal hn hn'
  have hc : compare (n : Int) 0 = .gt := compare_gt_iff_gt.mpr (by omega)
  have ht : Format.targetExponent .binary64 (Float.Model.totalExponent n 0) = -(k : Int) := by
    change max ((n.log2 : Int) + 1 + 0 - 53) (-1074) = -(k : Int)
    omega
  have hr := hm.roundWithAccuracy_exact (n := 0) (e := -(k : Int)) (by omega)
  rw [Nat.pow_zero, Nat.mul_one, Nat.cast_zero, add_zero] at hr
  refine ⟨k, hm, by omega, ?_⟩
  simp only [UnpackedFloat.ofNat, UnpackedFloat.ofInt, UnpackedFloat.normalize, hc, UnpackedFloat.round, Int.toNat_natCast, ht,
    decreaseExponent, zero_sub, neg_neg, Nat.shiftLeft_eq, hr]

end Whole

/-- A float that holds a number above zero and up to `2 ^ 53`. -/
def HoldsNat (x : Float) (n : Nat) : Prop :=
  ∃ m e hp, 2 ^ 52 ≤ m ∧ m < 2 ^ 53 ∧ -52 ≤ e ∧ e ≤ 1 ∧ x.toModel.unpack = .finite .positive m e hp ∧
    m * 2 ^ (e + 52).toNat = n * 2 ^ 52

namespace HoldsNat

variable {x y : Float} {a b n : Nat}

theorem value (h : HoldsNat x n) : floatValue? x = some (n : ℚ) := by
  obtain ⟨m, e, _, -, -, he, -, hx, hn⟩ := h
  have hn' : (m : ℚ) * 2 ^ (e + 52) = n * 2 ^ (52 : Int) := by
    rw [← Int.toNat_of_nonneg (show 0 ≤ e + 52 by omega), zpow_natCast]
    exact_mod_cast hn
  rw [zpow_add₀ two_ne_zero, ← mul_assoc] at hn'
  simp only [floatValue?, hx]
  exact congrArg some (mul_right_cancel₀ (zpow_ne_zero 52 two_ne_zero) hn')

theorem pos (h : HoldsNat x n) : 0 < n := by
  obtain ⟨m, e, hp, -, -, -, -, -, hn⟩ := h
  refine Nat.pos_of_ne_zero fun h => ?_
  rw [h, Nat.zero_mul, Nat.mul_eq_zero] at hn
  exact hn.elim hp.ne' (Nat.two_pow_pos _).ne'

/-- A mantissa of at least 53 bits and an exponent that stand for a number up to `2 ^ 53` are rounded to it. -/
theorem of_round {M : Nat} {e : Int} (hn : 0 < n) (hn' : n ≤ 2 ^ 53) (hM : 2 ^ 52 ≤ M) (he : -52 ≤ e)
    (hvalue : M * 2 ^ (e + 52).toNat = n * 2 ^ 52)
    (hx : x.toModel = Float.Model.pack (UnpackedFloat.round .binary64 .positive M e)) : HoldsNat x n := by
  obtain ⟨m, j, hm, hj, hmj⟩ := exists_mantissa hn hn'
  -- the two mantissas differ by a shift, since both have their first bit
  obtain ⟨d, hd⟩ : ∃ d, j = (e + 52).toNat + d := by
    refine Nat.exists_eq_add_of_le (Nat.not_lt.mp fun hlt => ?_)
    have h := Nat.mul_le_mul hM (Nat.pow_le_pow_right (n := 2) two_pos hlt)
    have h' := Nat.mul_lt_mul_of_pos_right hm.lt (Nat.two_pow_pos j)
    rw [hvalue, ← hmj, Nat.pow_succ] at h
    omega
  have hMd : M = m * 2 ^ d := by
    refine Nat.eq_of_mul_eq_mul_right (Nat.two_pow_pos (e + 52).toNat) ?_
    rw [hvalue, ← hmj, Nat.mul_assoc, ← Nat.pow_add, hd, Nat.add_comm]
  refine ⟨m, e + d, hm.pos, hm.le, hm.lt, by omega, by omega, ?_, ?_⟩
  · rw [hx, hMd, hm.round_exact (by omega), hm.unpack_pack (by omega) (by omega)]
  · rw [show (e + d + 52).toNat = j by omega, hmj]

/-- The sum of two numbers that are held is held, up to `2 ^ 53`. -/
theorem add (hx : HoldsNat x a) (hy : HoldsNat y b) (hab : a + b ≤ 2 ^ 53) : HoldsNat (x + y) (a + b) := by
  have ha := hx.pos
  obtain ⟨m, e, _, hm, -, he, -, hx, hma⟩ := hx
  obtain ⟨m', e', _, -, -, he', -, hy, hmb⟩ := hy
  -- the mantissas are aligned at the smaller exponent
  set d := min e e'
  set M := m * 2 ^ (e - d).toNat + m' * 2 ^ (e' - d).toNat
  have hM : 2 ^ 52 ≤ M := (hm.trans (Nat.le_mul_of_pos_right m (Nat.two_pow_pos _))).trans (Nat.le_add_right _ _)
  have hvalue : M * 2 ^ (d + 52).toNat = (a + b) * 2 ^ 52 := by
    have h : (e - d).toNat + (d + 52).toNat = (e + 52).toNat := by omega
    have h' : (e' - d).toNat + (d + 52).toNat = (e' + 52).toNat := by omega
    rw [Nat.add_mul, Nat.add_mul, Nat.mul_assoc, Nat.mul_assoc, ← Nat.pow_add, ← Nat.pow_add, h, h', hma, hmb]
  have hc : compare ((m * 2 ^ (e - d).toNat : Nat) + (m' * 2 ^ (e' - d).toNat : Nat) : Int) 0 = .gt :=
    compare_gt_iff_gt.mpr (by omega)
  refine of_round (by omega) hab hM (by omega) hvalue ?_
  change Float.Model.pack (UnpackedFloat.add .binary64 _ _) = _
  rw [hx, hy]
  simp only [UnpackedFloat.add, decreaseExponent, Nat.shiftLeft_eq, Sign.apply, UnpackedFloat.normalize]
  rw [hc]
  rfl

theorem zero_add (hx : x.toModel.unpack = .zero .positive) (hy : HoldsNat y b) : HoldsNat (x + y) b := by
  obtain ⟨m, e, hp, hm, hm', he, he', hy, hb⟩ := hy
  refine ⟨m, e, hp, hm, hm', he, he', ?_, hb⟩
  change (Float.Model.pack (UnpackedFloat.add .binary64 _ _)).unpack = _
  rw [hx, hy]
  exact Normal.unpack_pack ⟨hm, hm'⟩ (by omega) (by omega)

end HoldsNat

/-! ## Quotients -/

theorem floatOfRatio_zero (d : Nat) : floatOfRatio false 0 d = .ofBits 0 := rfl

section Ratio

variable {q d : Nat} (hq : 0 < q) (hd : 0 < d)

include hq hd

theorem log2_mul_bounds : q.log2 + d.log2 ≤ (q * d).log2 ∧ (q * d).log2 ≤ q.log2 + d.log2 + 1 := by
  have hne : q * d ≠ 0 := (Nat.mul_pos hq hd).ne'
  constructor
  · rw [Nat.le_log2 hne, Nat.pow_add]
    exact Nat.mul_le_mul (Nat.log2_self_le hq.ne') (Nat.log2_self_le hd.ne')
  · rw [← Nat.lt_succ_iff, Nat.log2_lt hne, show (q.log2 + d.log2 + 1).succ = (q.log2 + 1) + (d.log2 + 1) by omega, Nat.pow_add]
    exact Nat.mul_lt_mul'' Nat.lt_log2_self Nat.lt_log2_self

/-- A quotient without a remainder is held, if it has no more than 53 bits. -/
theorem floatOfRatio_mul (hq' : q < 2 ^ 53) : HoldsNat (floatOfRatio false (q * d) d) q := by
  obtain ⟨k, hk, hm⟩ := exists_normal hq hq'
  have hbounds := log2_mul_bounds hq hd
  have hne : q * d ≠ 0 := (Nat.mul_pos hq hd).ne'
  -- the quotient is scaled to a few bits more than 53
  obtain ⟨r, hr⟩ : ∃ r : Nat, 56 + (bitLength d : Int) - bitLength (q * d) = (k + r : Nat) := by
    rw [bitLength_eq hd.ne', bitLength_eq hne]
    exact ⟨56 + d.log2 - (q * d).log2 - k, by omega⟩
  have hscaled : q * d * 2 ^ (k + r) = q * 2 ^ (k + r) * d := by ring
  have hround : BinaryFormat.double.round (q * 2 ^ (k + r) * 2) (-((k + r : Nat) : Int) - 1) = some (q * 2 ^ k, -(k : Int)) := by
    have h := hm.double_round (n := r + 1) (e := -((k + r : Nat) : Int) - 1) (by omega) (by omega)
    rw [show q * 2 ^ k * 2 ^ (r + 1) = q * 2 ^ (k + r) * 2 by ring,
      show -((k + r : Nat) : Int) - 1 + (r + 1 : Nat) = -k by omega] at h
    exact h
  refine ⟨q * 2 ^ k, -k, hm.pos, hm.le, hm.lt, by omega, by omega, ?_, ?_⟩
  · simp only [floatOfRatio, beq_eq_false_iff_ne.mpr hne, hr, Nat.pow_eq, ge_iff_le, Int.natCast_nonneg, if_true,
      Int.toNat_natCast, hscaled, Nat.mul_div_cancel _ hd, Nat.mul_mod_left, BEq.rfl, Nat.add_zero, hround,
      Bool.false_eq_true, if_false]
    exact hm.unpack_floatOfParts (by omega) (by omega)
  · rw [Nat.mul_assoc, ← Nat.pow_add, show k + (-(k : Int) + 52).toNat = 52 by omega]

end Ratio

end TensorGraph
