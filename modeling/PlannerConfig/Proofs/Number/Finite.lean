import Mathlib
import PlannerConfig.Number.Numeral

/-!
Which quotients have a finite `Float`. Rounding goes beyond the largest one half a step above it, where
the tie goes to the even neighbour, and so away from it.
-/
namespace PlannerConfig.Number

lemma twoTo_pos (i : Nat) : 0 < twoTo i := Nat.two_pow_pos i

lemma twoTo_succ (i : Nat) : twoTo (i + 1) = 2 * twoTo i := by
  show 2 ^ (i + 1) = 2 * 2 ^ i
  rw [Nat.pow_succ, Nat.mul_comm]

lemma cast_twoTo (i : Nat) : ((twoTo i : Nat) : ℚ) = 2 ^ i := Nat.cast_pow 2 i

section roundHalfEven

variable {n d c : Nat}

lemma roundHalfEven_le_succ (n d : Nat) : roundHalfEven n d ≤ n / d + 1 := by
  unfold roundHalfEven
  have parity : n / d % 2 < 2 := Nat.mod_lt _ (by decide)
  dsimp only
  split
  · omega
  · split <;> omega

lemma roundHalfEven_le (hd : 0 < d) (h : n < c * d) : roundHalfEven n d ≤ c := by
  have quotient : n / d < c := (Nat.div_lt_iff_lt_mul hd).mpr h
  have step := roundHalfEven_le_succ n d
  omega

/-- Below the successor of an odd number a quotient is rounded up to it from half a step before. -/
lemma roundHalfEven_eq_succ_iff (hd : 0 < d) (hc : c % 2 = 1) (h : n < (c + 1) * d) :
    roundHalfEven n d = c + 1 ↔ (2 * c + 1) * d ≤ 2 * n := by
  have quotient : n / d ≤ c := Nat.lt_succ_iff.mp ((Nat.div_lt_iff_lt_mul hd).mpr h)
  have remainder : n % d < d := Nat.mod_lt n hd
  have whole : d * (n / d) + n % d = n := Nat.div_add_mod n d
  rcases quotient.lt_or_eq with below | rfl
  · -- then the quotient is at least a whole step below
    have rounded := roundHalfEven_le_succ n d
    have far : d * (n / d) + d ≤ d * c := by
      rw [← Nat.mul_succ]
      exact Nat.mul_le_mul_left d below
    have twice : (2 * c + 1) * d = 2 * (d * c) + d := by ring
    rw [twice]
    omega
  · have twice : (2 * (n / d) + 1) * d = 2 * (d * (n / d)) + d := by ring
    rw [twice]
    unfold roundHalfEven
    dsimp only
    split
    · omega
    · split <;> omega

end roundHalfEven

section quotient

/-- A power as the quotient of two powers of natural numbers, one of which is one. -/
lemma zpow_eq_div (B : Nat) (k : Int) :
    (B : ℚ) ^ k = (Nat.pow B k.toNat : Nat) / (Nat.pow B (-k).toNat : Nat) := by
  have cast : ∀ i, ((Nat.pow B i : Nat) : ℚ) = B ^ i := Nat.cast_pow B
  rw [cast, cast]
  rcases Int.le_total 0 k with h | h
  · obtain ⟨i, rfl⟩ := Int.eq_ofNat_of_zero_le h
    simp
  · obtain ⟨i, hi⟩ := Int.eq_ofNat_of_zero_le (Int.neg_nonneg.mpr h)
    obtain rfl : k = -(i : Int) := by omega
    simp

lemma two_zpow_eq (k : Int) : (2 : ℚ) ^ k = twoTo k.toNat / twoTo (-k).toNat := by
  exact_mod_cast zpow_eq_div 2 k

variable {n d : Nat}

lemma mul_pow_le_iff {B : Nat} (hB : 0 < B) (hd : 0 < d) (k : Int) :
    d * Nat.pow B k.toNat ≤ n * Nat.pow B (-k).toNat ↔ (B : ℚ) ^ k ≤ n / d := by
  have hd' : (0 : ℚ) < d := by exact_mod_cast hd
  have hp : (0 : ℚ) < (Nat.pow B (-k).toNat : Nat) := by exact_mod_cast Nat.pow_pos hB
  rw [zpow_eq_div, div_le_div_iff₀ hp hd', mul_comm ((Nat.pow B k.toNat : Nat) : ℚ)]
  exact_mod_cast Iff.rfl

lemma mul_twoTo_le_iff (hd : 0 < d) (k : Int) :
    d * twoTo k.toNat ≤ n * twoTo (-k).toNat ↔ (2 : ℚ) ^ k ≤ n / d := by
  exact_mod_cast mul_pow_le_iff two_pos hd k

namespace Binary

/-- The quotient lies between the power of two that is found and the next one. -/
lemma log2Quotient_spec (hn : 0 < n) (hd : 0 < d) :
    (2 : ℚ) ^ log2Quotient n d ≤ n / d ∧ (n / d : ℚ) < 2 ^ (log2Quotient n d + 1) := by
  have hn' : (0 : ℚ) < n := by exact_mod_cast hn
  have hd' : (0 : ℚ) < d := by exact_mod_cast hd
  have lower : ∀ m : Nat, 0 < m → (2 : ℚ) ^ (m.log2 : Int) ≤ m := fun m hm => by
    rw [zpow_natCast]
    exact_mod_cast Nat.log2_self_le hm.ne'
  have upper : ∀ m : Nat, (m : ℚ) < 2 ^ ((m.log2 : Int) + 1) := fun m => by
    rw [← Int.natCast_succ, zpow_natCast]
    exact_mod_cast Nat.lt_log2_self
  have two : (2 : ℚ) ≠ 0 := two_ne_zero
  -- the difference of the logarithms is right or one too large
  have low : (2 : ℚ) ^ ((n.log2 : Int) - d.log2 - 1) ≤ n / d := by
    have split : ((n.log2 : Int) - d.log2 - 1) = n.log2 - (d.log2 + 1) := by ring
    rw [split, zpow_sub₀ two]
    exact div_le_div₀ hn'.le (lower n hn) hd' (upper d).le
  have high : (n / d : ℚ) < 2 ^ ((n.log2 : Int) - d.log2 + 1) := by
    have split : ((n.log2 : Int) - d.log2 + 1) = n.log2 + 1 - d.log2 := by ring
    rw [split, zpow_sub₀ two]
    exact div_lt_div₀ (upper n) (lower d hd) (by positivity) (by positivity)
  unfold log2Quotient
  dsimp only
  split
  · rename_i h
    exact ⟨(mul_twoTo_le_iff hd _).mp h, high⟩
  · rename_i h
    rw [mul_twoTo_le_iff hd, not_le] at h
    exact ⟨low, by rwa [Int.sub_add_cancel]⟩

/-- The power of two of the unit in which a quotient is rounded. -/
def unitExponent (n d : Nat) : Int := max (log2Quotient n d - 52) (-1074)

/-- The quotient in that unit. -/
def rounded (n d : Nat) : Nat :=
  roundHalfEven (n * twoTo (-unitExponent n d).toNat) (d * twoTo (unitExponent n d).toNat)

lemma nearest_eq (hn : 0 < n) : nearest n d =
    let e := unitExponent n d
    let b : Binary := if rounded n d = twoTo 53 then ⟨twoTo 52, e + 1⟩ else ⟨rounded n d, e⟩
    if b.exponent ≤ 971 then some b else none := by
  unfold nearest
  rw [if_neg hn.ne']
  rfl

/-- A quotient in units is below a number exactly if it is below as many units. -/
lemma scaled_lt_iff (hd : 0 < d) (e : Int) (c : Nat) :
    n * twoTo (-e).toNat < c * (d * twoTo e.toNat) ↔ (n / d : ℚ) < c * 2 ^ e := by
  have hd' : (0 : ℚ) < d := by exact_mod_cast hd
  have hp : (0 : ℚ) < (twoTo (-e).toNat : Nat) := by exact_mod_cast twoTo_pos _
  rw [two_zpow_eq, ← mul_div_assoc, div_lt_div_iff₀ hd' hp, mul_assoc (c : ℚ), mul_comm _ (d : ℚ)]
  exact_mod_cast Iff.rfl

lemma scaled_lt (hn : 0 < n) (hd : 0 < d) : n * twoTo (-unitExponent n d).toNat
    < twoTo 53 * (d * twoTo (unitExponent n d).toNat) := by
  apply (scaled_lt_iff hd _ _).mpr
  calc (n / d : ℚ) < 2 ^ (log2Quotient n d + 1) := (log2Quotient_spec hn hd).2
    _ ≤ 2 ^ (53 + unitExponent n d) := by
      apply zpow_le_zpow_right₀ one_le_two
      unfold unitExponent
      omega
    _ = (twoTo 53 : Nat) * 2 ^ unitExponent n d := by
      rw [zpow_add₀ two_ne_zero]
      norm_num

lemma rounded_le (hn : 0 < n) (hd : 0 < d) : rounded n d ≤ twoTo 53 :=
  roundHalfEven_le (Nat.mul_pos hd (twoTo_pos _)) (scaled_lt hn hd)

/-- What is nearest to a quotient fits into the bits of a `Float`. -/
lemma nearest_fits (hd : 0 < d) {b : Binary} (h : nearest n d = some b) :
    b.significand < twoTo 53 ∧ -1074 ≤ b.exponent ∧ b.exponent ≤ 971 := by
  rcases Nat.eq_zero_or_pos n with rfl | hn
  · obtain rfl : ⟨0, -1074⟩ = b := by simpa [nearest] using h
    exact ⟨by decide, by decide, by decide⟩
  · have unit : -1074 ≤ unitExponent n d := Int.le_max_right _ _
    have bound := rounded_le hn hd
    simp only [nearest_eq hn, Option.ite_none_right_eq_some, Option.some.injEq] at h
    by_cases hm : rounded n d = twoTo 53
    · simp only [if_pos hm] at h
      obtain ⟨hle, rfl⟩ := h
      exact ⟨Nat.lt_of_succ_le (by decide : twoTo 52 + 1 ≤ twoTo 53), Int.le_add_one unit, hle⟩
    · simp only [if_neg hm] at h
      obtain ⟨hle, rfl⟩ := h
      exact ⟨lt_of_le_of_ne bound hm, unit, hle⟩

/-- Numbers from here on are rounded to infinity: half a step beyond the largest finite one. -/
def limit : Nat := (twoTo 54 - 1) * twoTo 970

lemma limit_mul_le_iff (hd : 0 < d) : limit * d ≤ n ↔ ((2 ^ 54 - 1) * 2 ^ 970 : ℚ) ≤ n / d := by
  have hd' : (0 : ℚ) < d := by exact_mod_cast hd
  have value : ((limit : Nat) : ℚ) = (2 ^ 54 - 1) * 2 ^ 970 := by
    rw [limit, Nat.cast_mul, cast_twoTo, Nat.cast_sub (twoTo_pos 54), cast_twoTo, Nat.cast_one]
  rw [le_div_iff₀ hd', ← value]
  exact_mod_cast Iff.rfl

/-- In the largest unit the rounding decides. -/
lemma rounded_eq_iff_limit (hn : 0 < n) (hd : 0 < d) (he : unitExponent n d = 971) :
    rounded n d = twoTo 53 ↔ limit * d ≤ n := by
  have below : n * twoTo (-971 : Int).toNat < (twoTo 53 - 1 + 1) * (d * twoTo (971 : Int).toNat) := by
    have h := scaled_lt hn hd
    rwa [he] at h
  have step := roundHalfEven_eq_succ_iff (Nat.mul_pos hd (twoTo_pos _)) (by decide) below
  have unit : d * twoTo (971 : Int).toNat = 2 * (twoTo 970 * d) := by
    have exponent : (971 : Int).toNat = 970 + 1 := rfl
    rw [exponent, twoTo_succ, Nat.mul_comm d, Nat.mul_assoc]
  unfold rounded
  rw [he]
  refine step.trans ?_
  rw [unit, limit, Nat.mul_assoc (twoTo 54 - 1)]
  have steps : 2 * (twoTo 53 - 1) + 1 = twoTo 54 - 1 := by decide
  have whole : n * twoTo (-971 : Int).toNat = n := Nat.mul_one n
  rw [steps, whole, Nat.mul_left_comm]
  exact Nat.mul_le_mul_left_iff two_pos

lemma not_limit_mul_le (hd : 0 < d) {k : Int} (hk : k ≤ 1023) (h : (n / d : ℚ) < 2 ^ k) :
    ¬ limit * d ≤ n := by
  rw [limit_mul_le_iff hd, not_le]
  calc (n / d : ℚ) < 2 ^ k := h
    _ ≤ 2 ^ (1023 : Int) := zpow_le_zpow_right₀ one_le_two hk
    _ = 2 ^ 53 * 2 ^ 970 := by
      rw [← pow_add]
      exact zpow_natCast 2 1023
    _ ≤ (2 ^ 54 - 1) * 2 ^ 970 := by
      apply mul_le_mul_of_nonneg_right _ (by positivity)
      norm_num

/-- A quotient is too large for a `Float` exactly from the limit on. -/
theorem nearest_eq_none_iff (hd : 0 < d) : nearest n d = none ↔ limit * d ≤ n := by
  rcases Nat.eq_zero_or_pos n with rfl | hn
  · refine iff_of_false (by simp [nearest]) ?_
    have positive : 0 < limit * d := Nat.mul_pos (by decide +kernel) hd
    omega
  · obtain ⟨lower, upper⟩ := log2Quotient_spec hn hd
    have beyond : nearest n d = none
        ↔ 971 < (if rounded n d = twoTo 53 then unitExponent n d + 1 else unitExponent n d) := by
      simp only [nearest_eq hn, ite_eq_right_iff, reduceCtorEq, imp_false, not_le]
      split <;> rfl
    rw [beyond]
    rcases lt_trichotomy (unitExponent n d) 971 with he | he | he
    · refine iff_of_false (by split <;> omega) ?_
      have small : log2Quotient n d + 1 ≤ 1023 := by
        unfold unitExponent at he
        omega
      exact not_limit_mul_le hd small upper
    · rw [← rounded_eq_iff_limit hn hd he, he]
      split <;> simp_all
    · refine iff_of_true (by split <;> omega) ?_
      have large : 1024 ≤ log2Quotient n d := by
        unfold unitExponent at he
        omega
      rw [limit_mul_le_iff hd]
      calc ((2 ^ 54 - 1) * 2 ^ 970 : ℚ) ≤ 2 ^ 54 * 2 ^ 970 := by
            apply mul_le_mul_of_nonneg_right _ (by positivity)
            norm_num
        _ = 2 ^ (1024 : Int) := by
          rw [← pow_add]
          exact (zpow_natCast 2 1024).symm
        _ ≤ 2 ^ log2Quotient n d := zpow_le_zpow_right₀ one_le_two large
        _ ≤ n / d := lower

end Binary
end quotient

section bits

open Float.Model

/-- The bits of a `Float` are those it was made of, unless they are all those of no number. -/
lemma toBits_ofBits {u : UInt64} (h : u.toNat / twoTo 52 % twoTo 11 ≠ 2047) :
    (Float.ofBits u).toBits = u := by
  have number : @UnpackedFloat.isNaNBits Format.binary64 u.toBitVec = false := by
    have exponent : (@UnpackedFloat.unpackExponent Format.binary64 u.toBitVec).toNat
        = u.toNat / twoTo 52 % twoTo 11 := by
      unfold UnpackedFloat.unpackExponent
      rw [BitVec.toNat_cast, BitVec.extractLsb_toNat, Nat.shiftRight_eq_div_pow]
      rfl
    unfold UnpackedFloat.isNaNBits
    rw [decide_eq_false_iff_not]
    rintro ⟨hexponent, -⟩
    rw [hexponent] at exponent
    exact h exponent.symm
  have same := @UnpackedFloat.pack_unpack Format.binary64 u.toBitVec
  rw [number] at same
  show (Float.Model.pack _).toBits = u
  unfold Float.Model.pack
  simp [same]

/-- A sign before the bits of a size is the sign of what that size stands for. -/
lemma Datum.ofFloat_ofBits {size : Nat} (negative : Bool) (h : size < 2047 * twoTo 52) :
    Datum.ofFloat (Float.ofBits (UInt64.ofNat (signBit negative + size))) = .finite negative
      (if size / twoTo 52 = 0 then ⟨size % twoTo 52, -1074⟩
        else ⟨size % twoTo 52 + twoTo 52, (size / twoTo 52 : Nat) - 1075⟩) := by
  have unit : twoTo 52 = 4503599627370496 := rfl
  have exponents : twoTo 11 = 2048 := rfl
  have half : twoTo 63 = 2048 * twoTo 52 := rfl
  have words : UInt64.size = 4096 * twoTo 52 := rfl
  have sign : signBit negative = if negative then 2048 * twoTo 52 else 0 := rfl
  have small : signBit negative + size < UInt64.size := by
    rw [sign]
    split <;> omega
  have bits : (UInt64.ofNat (signBit negative + size)).toNat = signBit negative + size :=
    UInt64.toNat_ofNat_of_lt' small
  have first : (signBit negative + size) / twoTo 63 = if negative then 1 else 0 := by
    rw [sign, half, unit]
    split <;> omega
  have exponent : (signBit negative + size) / twoTo 52 % twoTo 11 = size / twoTo 52 := by
    rw [sign, exponents, unit]
    split <;> omega
  have fraction : (signBit negative + size) % twoTo 52 = size % twoTo 52 := by
    rw [sign, unit]
    split <;> omega
  have finite : size / twoTo 52 ≠ 2047 := (Nat.div_lt_of_lt_mul (Nat.mul_comm _ _ ▸ h)).ne
  unfold Datum.ofFloat
  rw [toBits_ofBits (by rwa [bits, exponent]), bits]
  dsimp only
  rw [first, exponent, fraction, if_neg finite]
  have shown : ((if negative then 1 else 0) == 1) = negative := by cases negative <;> rfl
  rw [shown]
  split <;> rfl

lemma isFinite_ofBits_size {size : Nat} (negative : Bool) (h : size < 2047 * twoTo 52) :
    isFinite (Float.ofBits (UInt64.ofNat (signBit negative + size))) = true := by
  rw [isFinite, Datum.ofFloat_ofBits negative h]

end bits

/-- A number that fits is finite as a `Float`. -/
lemma Binary.isFinite_toFloat {b : Binary} (negative : Bool) (hs : b.significand < twoTo 53)
    (he : -1074 ≤ b.exponent ∧ b.exponent ≤ 971) : isFinite (b.toFloat negative) = true := by
  apply isFinite_ofBits_size
  have unit : twoTo 52 = 4503599627370496 := rfl
  have next : twoTo 53 = 2 * twoTo 52 := twoTo_succ 52
  split
  · omega
  · -- one below the exponent of what is not finite
    have exponent : (b.exponent + 1075).toNat ≤ 2046 := by omega
    have product := Nat.mul_le_mul_right (twoTo 52) exponent
    omega

@[simp] lemma isFinite_infinity (negative : Bool) : isFinite (infinity negative) = false := by
  cases negative <;> decide +kernel

/-- An integer that has a `Float` has a finite one. -/
lemma isFinite_of_floatOfInt? {n : Int} {x : Float} (h : floatOfInt? n = some x) :
    isFinite x = true := by
  obtain ⟨b, hb, rfl⟩ := Option.map_eq_some_iff.mp h
  obtain ⟨significand, exponent⟩ := Binary.nearest_fits Nat.one_pos hb
  exact Binary.isFinite_toFloat _ significand exponent

/-- A plain decimal has a finite `Float` exactly below the limit. -/
theorem Plain.isFinite_toFloat_iff (x : Plain) (negative : Bool) :
    isFinite (x.toFloat negative) = true ↔ x.numerator < Binary.limit * x.denominator := by
  have hd : 0 < x.denominator := Nat.pow_pos (by decide)
  rw [← not_le, ← Binary.nearest_eq_none_iff hd]
  unfold toFloat floatOfQuotient
  cases h : Binary.nearest x.numerator x.denominator with
  | none => simp
  | some b =>
    obtain ⟨significand, exponent⟩ := Binary.nearest_fits hd h
    simp [Binary.isFinite_toFloat negative significand exponent]

end PlannerConfig.Number
