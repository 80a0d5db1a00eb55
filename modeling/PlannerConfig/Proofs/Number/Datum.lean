import PlannerConfig.Proofs.Number.Nearest

/-!
A `Float` stands for the number that it was made of, and the `Float` of a quotient depends on nothing but
the quotient.
-/
namespace PlannerConfig.Number

section roundHalfEven

variable {n d c : Nat}

lemma le_roundHalfEven (hd : 0 < d) (h : c * d ≤ n) : c ≤ roundHalfEven n d := by
  have quotient : c ≤ n / d := (Nat.le_div_iff_mul_le hd).mpr h
  unfold roundHalfEven
  dsimp only
  split
  · omega
  · split <;> omega

lemma roundHalfEven_mul_left (hc : 0 < c) (n d : Nat) :
    roundHalfEven (c * n) (c * d) = roundHalfEven n d := by
  have twice : ∀ r, 2 * (c * r) = c * (2 * r) := fun r => Nat.mul_left_comm 2 c r
  unfold roundHalfEven
  dsimp only
  rw [Nat.mul_div_mul_left n d hc, Nat.mul_mod_mul_left, twice]
  simp only [Nat.mul_lt_mul_left hc]

end roundHalfEven

namespace Binary

/-- A number as the bits of a `Float` hold it: a significand of 53 bits, or a shorter one with the least
exponent. -/
structure Fits (b : Binary) : Prop where
  significand_lt : b.significand < twoTo 53
  least_le : -1074 ≤ b.exponent
  le_greatest : b.exponent ≤ 971
  least_of_lt : b.significand < twoTo 52 → b.exponent = -1074

section nearest

variable {n d n' d' : Nat} {b : Binary}

lemma fits_of_nearest (hd : 0 < d) (h : nearest n d = some b) : b.Fits := by
  obtain ⟨significand, least, greatest⟩ := nearest_fits hd h
  refine ⟨significand, least, greatest, fun hshort => ?_⟩
  rcases Nat.eq_zero_or_pos n with rfl | hn
  · obtain rfl : ⟨0, -1074⟩ = b := by simpa [nearest] using h
    rfl
  · simp only [nearest_eq hn, Option.ite_none_right_eq_some, Option.some.injEq] at h
    obtain ⟨-, rfl⟩ := h
    by_cases hm : rounded n d = twoTo 53
    · rw [if_pos hm] at hshort
      exact absurd hshort (Nat.lt_irrefl _)
    · rw [if_neg hm] at hshort ⊢
      by_contra hne
      -- in a unit above the least one the quotient has 53 bits
      have unit : unitExponent n d + 52 = log2Quotient n d := by
        change unitExponent n d ≠ -1074 at hne
        unfold unitExponent at hne ⊢
        omega
      have large : ¬ (n / d : ℚ) < (twoTo 52 : Nat) * 2 ^ unitExponent n d := by
        rw [not_lt]
        calc ((twoTo 52 : Nat) : ℚ) * 2 ^ unitExponent n d = 2 ^ log2Quotient n d := by
              rw [← unit, zpow_add₀ two_ne_zero, cast_twoTo, mul_comm]
              rfl
          _ ≤ n / d := (log2Quotient_spec hn hd).1
      rw [← scaled_lt_iff hd, not_lt] at large
      have bits := le_roundHalfEven (Nat.mul_pos hd (twoTo_pos _)) large
      exact absurd hshort (Nat.not_lt.mpr bits)

/-- There is one power of two that a quotient reaches without reaching the next. -/
lemma log2Quotient_congr (hn : 0 < n) (hd : 0 < d) (hn' : 0 < n') (hd' : 0 < d')
    (h : (n / d : ℚ) = n' / d') : log2Quotient n d = log2Quotient n' d' := by
  obtain ⟨lower, upper⟩ := log2Quotient_spec hn hd
  obtain ⟨lower', upper'⟩ := log2Quotient_spec hn' hd'
  rw [h] at lower upper
  have below := (zpow_lt_zpow_iff_right₀ (one_lt_two : (1 : ℚ) < 2)).mp (lower.trans_lt upper')
  have above := (zpow_lt_zpow_iff_right₀ (one_lt_two : (1 : ℚ) < 2)).mp (lower'.trans_lt upper)
  omega

lemma nearest_congr (hd : 0 < d) (hd' : 0 < d') (h : (n / d : ℚ) = n' / d') :
    nearest n d = nearest n' d' := by
  have hd₀ : (d : ℚ) ≠ 0 := by exact_mod_cast hd.ne'
  have hd₀' : (d' : ℚ) ≠ 0 := by exact_mod_cast hd'.ne'
  have product : n * d' = n' * d := by
    rw [div_eq_div_iff hd₀ hd₀'] at h
    exact_mod_cast h
  rcases Nat.eq_zero_or_pos n with rfl | hn
  · obtain rfl : n' = 0 := by
      rw [Nat.zero_mul] at product
      exact (Nat.mul_eq_zero.mp product.symm).resolve_right hd.ne'
    rfl
  · have hn' : 0 < n' := by
      apply Nat.pos_of_mul_pos_right
      rw [← product]
      exact Nat.mul_pos hn hd'
    have unit : unitExponent n d = unitExponent n' d' := by
      rw [unitExponent, unitExponent, log2Quotient_congr hn hd hn' hd' h]
    have same : rounded n d = rounded n' d' := by
      unfold rounded
      rw [unit, ← roundHalfEven_mul_left hd', ← roundHalfEven_mul_left hd (n' * _)]
      generalize twoTo (-unitExponent n' d').toNat = A
      generalize twoTo (unitExponent n' d').toNat = B
      have numerators : d' * (n * A) = d * (n' * A) := by
        calc d' * (n * A) = n * d' * A := by ring
          _ = n' * d * A := by rw [product]
          _ = d * (n' * A) := by ring
      have denominators : d' * (d * B) = d * (d' * B) := Nat.mul_left_comm d' d B
      rw [numerators, denominators]
    rw [nearest_eq hn, nearest_eq hn', unit, same]

/-- A quotient of 53 bits is rounded by half a unit of the last one. -/
lemma abs_value_sub_le (hd : 0 < d) (hnormal : (2 : ℚ) ^ (-1022 : Int) ≤ n / d)
    (h : nearest n d = some b) : |b.value - n / d| ≤ n / d * 2 ^ (-53 : Int) := by
  have hn : 0 < n := by
    by_contra hzero
    obtain rfl : n = 0 := by omega
    rw [Nat.cast_zero, zero_div] at hnormal
    exact absurd hnormal (not_le.mpr (by positivity))
  obtain ⟨lower, upper⟩ := log2Quotient_spec hn hd
  have large := (zpow_lt_zpow_iff_right₀ (one_lt_two : (1 : ℚ) < 2)).mp (hnormal.trans_lt upper)
  have unit : unitExponent n d = log2Quotient n d - 52 := by
    unfold unitExponent
    omega
  have parts : (-53 : Int) = -52 - 1 := rfl
  calc |b.value - n / d| ≤ 2 ^ unitExponent n d / 2 := abs_value_sub_le_unit hn hd h
    _ = 2 ^ log2Quotient n d * 2 ^ (-53 : Int) := by
      rw [unit, sub_eq_add_neg, zpow_add₀ two_ne_zero, parts, zpow_sub_one₀ two_ne_zero]
      ring
    _ ≤ n / d * 2 ^ (-53 : Int) := mul_le_mul_of_nonneg_right lower (by positivity)

end nearest

/-- What fits is neither very small nor very large. -/
lemma Fits.value_bounds {b : Binary} (h : b.Fits) (hs : b.significand ≠ 0) :
    (2 : ℚ) ^ (-1100 : Int) ≤ b.value ∧ b.value < 2 ^ (1100 : Int) := by
  have one : (1 : ℚ) ≤ b.significand := by exact_mod_cast Nat.pos_of_ne_zero hs
  have bits : (b.significand : ℚ) < 2 ^ (53 : Int) := by exact_mod_cast h.significand_lt
  have unit : (0 : ℚ) < 2 ^ b.exponent := by positivity
  constructor
  · calc (2 : ℚ) ^ (-1100 : Int) ≤ 2 ^ b.exponent := by
          apply zpow_le_zpow_right₀ one_le_two
          have := h.least_le
          omega
      _ ≤ b.value := le_mul_of_one_le_left unit.le one
  · calc b.value < 2 ^ (53 : Int) * 2 ^ b.exponent := mul_lt_mul_of_pos_right bits unit
      _ = 2 ^ (53 + b.exponent) := (zpow_add₀ two_ne_zero _ _).symm
      _ ≤ 2 ^ (1100 : Int) := by
        apply zpow_le_zpow_right₀ one_le_two
        have := h.le_greatest
        omega

end Binary

/-- The `Float` of a quotient does not depend on how the quotient is written. -/
lemma floatOfQuotient_congr {n d n' d' : Nat} (hd : 0 < d) (hd' : 0 < d')
    (h : (n / d : ℚ) = n' / d') (negative : Bool) :
    floatOfQuotient negative n d = floatOfQuotient negative n' d' := by
  rw [floatOfQuotient, floatOfQuotient, Binary.nearest_congr hd hd' h]

section bits

variable {b : Binary} {x : Float} {negative : Bool}

lemma Datum.ofFloat_toFloat (h : b.Fits) (negative : Bool) :
    Datum.ofFloat (b.toFloat negative) = .finite negative b := by
  obtain ⟨significand, exponent⟩ := b
  obtain ⟨bits, least, greatest, short⟩ := h
  dsimp only at bits least greatest short
  have unit : twoTo 52 = 4503599627370496 := rfl
  have next : twoTo 53 = 2 * twoTo 52 := twoTo_succ 52
  unfold Binary.toFloat
  dsimp only
  by_cases hshort : significand < twoTo 52
  · have zero : significand / twoTo 52 = 0 := Nat.div_eq_of_lt hshort
    rw [if_pos hshort, Datum.ofFloat_ofBits negative (by omega), if_pos zero,
      Nat.mod_eq_of_lt hshort, short hshort]
  · obtain ⟨k, hk⟩ := Int.eq_ofNat_of_zero_le (by omega : 0 ≤ exponent + 1075)
    have count : (exponent + 1075).toNat = k := by omega
    have quotient : (k * twoTo 52 + (significand - twoTo 52)) / twoTo 52 = k := by
      rw [unit]
      omega
    have rest : (k * twoTo 52 + (significand - twoTo 52)) % twoTo 52 = significand - twoTo 52 := by
      rw [unit]
      omega
    have whole : significand - twoTo 52 + twoTo 52 = significand := by omega
    have place : (k : Int) - 1075 = exponent := by omega
    have small : k * twoTo 52 + (significand - twoTo 52) < 2047 * twoTo 52 := by
      rw [unit] at next ⊢
      omega
    rw [if_neg hshort, count, Datum.ofFloat_ofBits negative small, quotient, rest, whole, place,
      if_neg (by omega)]

lemma Datum.fits_of_ofFloat (h : Datum.ofFloat x = .finite negative b) : b.Fits := by
  have unit : twoTo 53 = 2 * twoTo 52 := twoTo_succ 52
  have fraction : x.toBits.toNat % twoTo 52 < twoTo 52 := Nat.mod_lt _ (twoTo_pos 52)
  have exponent : x.toBits.toNat / twoTo 52 % twoTo 11 < 2048 := Nat.mod_lt _ (by decide)
  unfold Datum.ofFloat at h
  dsimp only at h
  split at h
  · split at h <;> cases h
  · split at h
    · cases h
      exact ⟨by dsimp only; omega, le_rfl, show (-1074 : Int) ≤ 971 by decide, fun _ => rfl⟩
    · cases h
      refine ⟨?_, ?_, ?_, fun hshort => ?_⟩ <;> dsimp only at * <;> omega

end bits
end PlannerConfig.Number
