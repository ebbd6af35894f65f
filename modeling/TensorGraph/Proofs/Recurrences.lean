import TensorGraph.Proofs.Floats
import TensorGraph.Random.Streams

/-!
# One step of a stream

A step multiplies by shifts and masks in words of 32 bits. Sums that leave the words are brought back by one subtraction, so each
recurrence is exact modulo its prime. The sample is scaled by a power of two, which no rounding touches.
-/

namespace TensorGraph.Random

/-! ## Words -/

theorem toNat_toBitVec {x : Int32} (h : 0 ≤ x.toInt) : (x.toBitVec.toNat : Int) = x.toInt := by
  have hx := x.toBitVec.isLt
  rw [← Int32.toInt_toBitVec, BitVec.toInt_eq_toNat_cond] at h ⊢
  split at h <;> omega

/-- The low bits of a word, shifted to the left. -/
theorem toInt_shiftLeft_and {x mask n : Int32} {k j : Nat} (h : 0 ≤ x.toInt) (hk : mask.toBitVec.toNat = 2 ^ k - 1)
    (hj : (n.toBitVec.smod 32).toNat = j) : ((x &&& mask) <<< n).toInt = (x.toInt % 2 ^ k * 2 ^ j).bmod (2 ^ 32) := by
  rw [← Int32.toInt_toBitVec, Int32.toBitVec_shiftLeft, Int32.toBitVec_and, BitVec.shiftLeft_eq', BitVec.toInt_shiftLeft,
    BitVec.toNat_and, hk, hj, Nat.and_two_pow_sub_one_eq_mod, Nat.shiftLeft_eq, ← toNat_toBitVec h]
  push_cast
  rfl

/-- The high bits of a word. -/
theorem toInt_shiftRight {x n : Int32} {j : Nat} (hj : (n.toBitVec.smod 32).toNat = j) : (x >>> n).toInt = x.toInt / 2 ^ j := by
  rw [← Int32.toInt_toBitVec, Int32.toBitVec_shiftRight, BitVec.sshiftRight', hj, BitVec.toInt_sshiftRight,
    Int.shiftRight_eq_div_pow, Int32.toInt_toBitVec]
  push_cast
  rfl

theorem toInt_modulus1 : modulus1.toInt = 2147483647 := rfl
theorem toInt_modulus2 : modulus2.toInt = 2147462579 := rfl

section Reduction

variable {m x y : Int32} (hm : 0 < m.toInt)

include hm

/-- A sum below twice the modulus is reduced, although the word may have lost a multiple of `2 ^ 32`. -/
theorem toInt_reduceOnce {t : Int} (ht : 0 ≤ t) (htm : t < 2 * m.toInt) (hy : y.toInt = t.bmod (2 ^ 32)) :
    (reduceOnce m y).toInt = t % m.toInt := by
  have hmod : t % m.toInt = if t < m.toInt then t else t - m.toInt := by
    split
    case isTrue h => exact Int.emod_eq_of_lt ht h
    case isFalse h => rw [← Int.sub_emod_right, Int.emod_eq_of_lt (by omega) (by omega)]
  have hlt := m.toInt_lt
  rw [hmod]
  simp only [reduceOnce, Bool.or_eq_true, decide_eq_true_eq, Int32.lt_iff_toInt_lt, ge_iff_le, Int32.le_iff_toInt_le]
  rw [show (0 : Int32).toInt = 0 from rfl]
  rw [Int.bmod] at hy
  split
  · rw [Int32.toInt_sub, Int.bmod]
    omega
  · omega

theorem toInt_reduceOnce_add {a b : Int} (hx : x.toInt = a % m.toInt) (hy : y.toInt = b % m.toInt) :
    (reduceOnce m (x + y)).toInt = (a + b) % m.toInt := by
  have ha := Int.emod_nonneg a hm.ne'
  have hb := Int.emod_nonneg b hm.ne'
  have ha' := Int.emod_lt_of_pos a hm
  have hb' := Int.emod_lt_of_pos b hm
  rw [toInt_reduceOnce hm (t := x.toInt + y.toInt) (by omega) (by omega) (Int32.toInt_add x y), hx, hy, ← Int.add_emod]

end Reduction

section Recurrences

variable {x y : Int32}

theorem toInt_first (hx : 0 ≤ x.toInt ∧ x.toInt < 2 ^ 31 - 1) (hy : 0 ≤ y.toInt ∧ y.toInt < 2 ^ 31 - 1) :
    (reduceOnce modulus1 (reduceOnce modulus1
      (((x &&& 511) <<< 22) + (x >>> 9) + ((y &&& 16777215) <<< 7) + (y >>> 24)) + y)).toInt =
      (4194304 * x.toInt + 129 * y.toInt) % modulus1.toInt := by
  obtain ⟨hx0, hx1⟩ := hx
  obtain ⟨hy0, hy1⟩ := hy
  have h : (reduceOnce modulus1 (((x &&& 511) <<< 22) + (x >>> 9) + ((y &&& 16777215) <<< 7) + (y >>> 24))).toInt =
      (x.toInt % 2 ^ 9 * 2 ^ 22 + x.toInt / 2 ^ 9 + (y.toInt % 2 ^ 24 * 2 ^ 7 + y.toInt / 2 ^ 24)) % modulus1.toInt := by
    refine toInt_reduceOnce (by decide) (by omega) (by rw [toInt_modulus1]; omega) ?_
    rw [Int32.toInt_add, Int32.toInt_add, Int32.toInt_add, toInt_shiftLeft_and hx0 (k := 9) (j := 22) rfl rfl,
      toInt_shiftLeft_and hy0 (k := 24) (j := 7) rfl rfl, toInt_shiftRight (j := 9) rfl, toInt_shiftRight (j := 24) rfl]
    simp only [Int.bmod_add_bmod, Int.add_bmod_bmod]
    congr 1
    omega
  rw [toInt_reduceOnce_add (by decide) h (Int.emod_eq_of_lt hy0 hy1).symm, toInt_modulus1]
  omega

theorem toInt_half (hx : 0 ≤ x.toInt ∧ x.toInt < 2 ^ 31 - 21069) :
    (reduceOnce modulus2 (((x &&& 65535) <<< 15) + (x >>> 16) * 21069)).toInt = 32768 * x.toInt % modulus2.toInt := by
  obtain ⟨hx0, hx1⟩ := hx
  rw [toInt_reduceOnce (t := x.toInt % 2 ^ 16 * 2 ^ 15 + x.toInt / 2 ^ 16 * 21069) (by decide) (by omega)
    (by rw [toInt_modulus2]; omega), toInt_modulus2]
  · omega
  · rw [Int32.toInt_add, Int32.toInt_mul, toInt_shiftLeft_and hx0 (k := 16) (j := 15) rfl rfl, toInt_shiftRight (j := 16) rfl]
    simp only [Int.bmod_add_bmod, Int.add_bmod_bmod]
    rfl

theorem toInt_second (hx : 0 ≤ x.toInt ∧ x.toInt < 2 ^ 31 - 21069) (hy : 0 ≤ y.toInt ∧ y.toInt < 2 ^ 31 - 21069) :
    (reduceOnce modulus2 (reduceOnce modulus2 (reduceOnce modulus2 (((y &&& 65535) <<< 15) + (y >>> 16) * 21069) + y) +
      reduceOnce modulus2 (((x &&& 65535) <<< 15) + (x >>> 16) * 21069))).toInt =
      (32768 * x.toInt + 32769 * y.toInt) % modulus2.toInt := by
  have hsum := toInt_reduceOnce_add (by decide) (toInt_half hy) (Int.emod_eq_of_lt hy.1 hy.2).symm
  rw [toInt_reduceOnce_add (by decide) hsum (toInt_half hx)]
  congr 1
  omega

theorem toInt_difference (hx : 0 ≤ x.toInt ∧ x.toInt < 2 ^ 31 - 1) (hy : 0 ≤ y.toInt ∧ y.toInt < 2 ^ 31 - 21069) :
    1 ≤ (difference x y).toInt ∧ (difference x y).toInt ≡ x.toInt - y.toInt [ZMOD 2 ^ 31 - 1] := by
  rw [difference, Int.ModEq]
  split
  case isTrue h =>
    rw [Int32.le_iff_toInt_le] at h
    rw [Int32.toInt_add, Int32.toInt_sub, toInt_modulus1, Int.bmod_add_bmod, Int.bmod_eq_of_le (by omega) (by omega)]
    omega
  case isFalse h =>
    rw [Int32.le_iff_toInt_le] at h
    rw [Int32.toInt_sub, Int.bmod_eq_of_le (by omega) (by omega)]
    omega

end Recurrences

namespace StreamState

variable (s : StreamState)

def first : List Int := [s.x11, s.x12, s.x13].map Int32.toInt
def second : List Int := [s.x21, s.x22, s.x23].map Int32.toInt

/-- The numbers of a state lie below the moduli of their recurrences. -/
structure InRange (s : StreamState) : Prop where
  first : ∀ x ∈ s.first, 0 ≤ x ∧ x < 2 ^ 31 - 1
  second : ∀ x ∈ s.second, 0 ≤ x ∧ x < 2 ^ 31 - 21069

/-- Neither recurrence stands still at zero. -/
structure Moving (s : StreamState) : Prop where
  first : ∃ x ∈ s.first, x ≠ 0
  second : ∃ x ∈ s.second, x ≠ 0

end StreamState

section Step

open StreamState

variable {s : StreamState} (h : s.InRange)

include h

theorem toInts_step : (step s).1.toInts = [(4194304 * s.x12.toInt + 129 * s.x13.toInt) % (2 ^ 31 - 1), s.x11.toInt, s.x12.toInt,
    (32768 * s.x21.toInt + 32769 * s.x23.toInt) % (2 ^ 31 - 21069), s.x21.toInt, s.x22.toInt] := by
  have ha := toInt_first (h.first s.x12.toInt (by simp [StreamState.first])) (h.first s.x13.toInt (by simp [StreamState.first]))
  have hb := toInt_second (h.second s.x21.toInt (by simp [StreamState.second])) (h.second s.x23.toInt (by simp [StreamState.second]))
  simp only [StreamState.toInts, step, List.map, ha, hb]
  rfl

theorem inRange_step : (step s).1.InRange := by
  have hs := toInts_step h
  obtain ⟨h1, h2⟩ := h
  generalize (step s).1 = t at hs ⊢
  simp only [toInts, first, second, List.map, List.cons.injEq, List.forall_mem_cons] at h1 h2 hs
  constructor <;> simp only [first, second, List.map, List.forall_mem_cons] <;> grind

/-- The coefficients of the oldest numbers are units, so no state leads to zero. -/
theorem moving_step (hm : s.Moving) : (step s).1.Moving := by
  have hs := toInts_step h
  obtain ⟨h1, h2⟩ := h
  obtain ⟨m1, m2⟩ := hm
  generalize (step s).1 = t at hs ⊢
  simp only [toInts, first, second, List.map, List.cons.injEq, List.forall_mem_cons, List.exists_mem_cons_iff] at h1 h2 hs m1 m2
  constructor <;> simp only [first, second, List.map, List.exists_mem_cons_iff] <;> grind

end Step

/-! ## Scaling -/

open Float.Model (Format UnpackedFloat)
open Float.Model.UnpackedFloat

/-- A positive word divided by `2 ^ 31`, without rounding. -/
theorem floatValue?_scaled {z : Int32} (hz : 0 < z.toInt) :
    floatValue? (z.toUInt32.toFloat * 4.656612873077392578125e-10) = some ((z.toInt : ℚ) / 2 ^ 31) := by
  have hz' : (z.toUInt32.toNat : Int) = z.toInt := toNat_toBitVec hz.le
  obtain ⟨k, hm, hk, h⟩ := ofNat_exact (n := z.toUInt32.toNat) (by omega) (by have := z.toInt_lt; omega)
  have hint : z.toUInt32.toFloat.toModel.unpack = .finite .positive (z.toUInt32.toNat * 2 ^ k) (-k) hm.pos := by
    change (Float.Model.pack (UnpackedFloat.ofNat .binary64 z.toUInt32.toNat)).unpack = _
    rw [h, hm.unpack_pack (by omega) (by omega)]
  have hnorm : (4.656612873077392578125e-10 : Float).toModel.unpack = .finite .positive (2 ^ 52) (-83) (by decide) := rfl
  have hmul : (z.toUInt32.toFloat * 4.656612873077392578125e-10).toModel.unpack =
      .finite .positive (z.toUInt32.toNat * 2 ^ k) (-k - 31) hm.pos := by
    change (Float.Model.pack (UnpackedFloat.mul .binary64 _ _)).unpack = _
    rw [hint, hnorm]
    change (Float.Model.pack (roundWithAccuracy .binary64 .positive (_ * 2 ^ 52) (-k + -83) .exact)).unpack = _
    rw [hm.roundWithAccuracy_exact (by omega), hm.unpack_pack (by omega) (by omega)]
    congr 1
    omega
  simp only [floatValue?, hmul, Nat.cast_mul, Nat.cast_pow, Nat.cast_ofNat]
  rw [mul_assoc, ← zpow_natCast, ← zpow_add₀ two_ne_zero, ← hz', div_eq_mul_inv, ← zpow_natCast, ← zpow_neg]
  congr 3
  omega

/-- A step of a stream in range is exact, and so is its sample in double precision. -/
theorem step_exact {s : StreamState} (h : s.InRange) (hm : s.Moving) :
    (step s).1.toInts = [(4194304 * s.x12.toInt + 129 * s.x13.toInt) % (2 ^ 31 - 1), s.x11.toInt, s.x12.toInt,
      (32768 * s.x21.toInt + 32769 * s.x23.toInt) % (2 ^ 31 - 21069), s.x21.toInt, s.x22.toInt] ∧
    (step s).1.InRange ∧ (step s).1.Moving ∧
    ∃ z : Int, 1 ≤ z ∧ z ≤ 2 ^ 31 - 1 ∧ z ≡ (step s).1.x11.toInt - (step s).1.x21.toInt [ZMOD 2 ^ 31 - 1] ∧
      ∃ x, fraction .float64 (step s).2 = .flt x ∧ floatValue? x = some ((z : ℚ) / 2 ^ 31) := by
  have hr := inRange_step h
  have hd : (step s).2 = difference (step s).1.x11 (step s).1.x21 := by dsimp only [step]
  have hf (z : Int32) : fraction .float64 z = .flt (z.toUInt32.toFloat * 4.656612873077392578125e-10) := rfl
  obtain ⟨hz, hmod⟩ := toInt_difference (x := (step s).1.x11) (y := (step s).1.x21) (hr.first _ (by simp [StreamState.first]))
    (hr.second _ (by simp [StreamState.second]))
  rw [hd]
  exact ⟨toInts_step h, hr, moving_step h hm, _, hz, Int.le_sub_one_of_lt (Int32.toInt_lt _), hmod, _, hf _, floatValue?_scaled hz⟩

/-- The state with the largest numbers. -/
def largest : StreamState := ⟨2147483646, 2147483646, 2147483646, 2147462578, 2147462578, 2147462578⟩

theorem step_exact_largest : (largest.InRange ∧ largest.Moving) ∧ (step largest).1.InRange ∧
    (step largest).1.toInts.head? = some ((4194304 * 2147483646 + 129 * 2147483646) % (2 ^ 31 - 1)) := by
  have h : largest.InRange := by constructor <;> decide
  have hm : largest.Moving := by constructor <;> decide
  have hstep := step_exact h hm
  exact ⟨⟨h, hm⟩, hstep.2.1, by rw [hstep.1]; rfl⟩

end TensorGraph.Random
