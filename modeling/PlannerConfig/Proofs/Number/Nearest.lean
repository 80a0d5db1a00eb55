import PlannerConfig.Proofs.Number.Finite

/-!
How far rounding moves a number: a quotient that is rounded to an integer moves by half at most, one that
is rounded to `binary64` by half a unit of its last bit, and an integer of at most 53 bits stays.
-/
namespace PlannerConfig.Number

/-- Natural numbers less than a step apart are the same. -/
lemma eq_of_abs_natCast_sub_lt_one {k m : Nat} (h : |(k : ℚ) - m| < 1) : k = m := by
  have integers : |((k : ℤ) - (m : ℤ))| < 1 := by exact_mod_cast h
  have := Int.abs_lt_one_iff.mp integers
  omega

section roundHalfEven

variable {n d : Nat}

lemma abs_roundHalfEven_sub_le (hd : 0 < d) : |(roundHalfEven n d : ℚ) - n / d| ≤ 1 / 2 := by
  have hd' : (0 : ℚ) < d := by exact_mod_cast hd
  have whole : d * (n / d) + n % d = n := Nat.div_add_mod n d
  have remainder : n % d < d := Nat.mod_lt n hd
  -- twice the distance is at most a step, in the integers
  have product : ∀ k, d * (n / d + k) = d * (n / d) + d * k := fun k => Nat.mul_add d _ _
  have near : 2 * (d * roundHalfEven n d) ≤ 2 * n + d ∧ 2 * n ≤ 2 * (d * roundHalfEven n d) + d := by
    unfold roundHalfEven
    dsimp only
    split
    · omega
    · split
      · rw [product, Nat.mul_one]
        omega
      · have tie : 2 * (n % d) = d := by omega
        obtain h | h : n / d % 2 = 0 ∨ n / d % 2 = 1 := by omega
        · rw [h, Nat.add_zero]
          omega
        · rw [h, product, Nat.mul_one]
          omega
  obtain ⟨above, below⟩ := near
  have above' : 2 * ((d : ℚ) * roundHalfEven n d) ≤ 2 * n + d := by exact_mod_cast above
  have below' : 2 * (n : ℚ) ≤ 2 * (d * roundHalfEven n d) + d := by exact_mod_cast below
  have quotient : (n : ℚ) = d * (n / d) := by field_simp
  generalize (n / d : ℚ) = q at quotient ⊢
  rw [quotient] at above' below'
  rw [abs_sub_le_iff]
  constructor
  · apply le_of_mul_le_mul_left _ hd'
    linarith
  · apply le_of_mul_le_mul_left _ hd'
    linarith

/-- What is nearer than half a step is what is rounded to. -/
lemma roundHalfEven_eq (hd : 0 < d) {m : Nat} (h : |(n / d : ℚ) - m| < 1 / 2) :
    roundHalfEven n d = m := by
  have rounded := abs_roundHalfEven_sub_le (n := n) hd
  apply eq_of_abs_natCast_sub_lt_one
  calc |(roundHalfEven n d : ℚ) - m| ≤ |(roundHalfEven n d : ℚ) - n / d| + |(n / d : ℚ) - m| :=
        abs_sub_le _ _ _
    _ < 1 := by linarith

end roundHalfEven

namespace Binary

/-- The number that is meant. -/
def value (b : Binary) : ℚ := b.significand * 2 ^ b.exponent

variable {n d : Nat} {b : Binary}

lemma denominator_pos (b : Binary) : 0 < b.denominator := twoTo_pos _

lemma value_eq (b : Binary) : b.value = b.numerator / b.denominator := by
  rw [value, two_zpow_eq, numerator, denominator, Nat.cast_mul, mul_div_assoc]

/-- The integer part and what is left of a number. -/
lemma value_eq_whole_add (b : Binary) :
    b.value = b.whole + (b.fractionNumerator / b.denominator : ℚ) := by
  have hd : (b.denominator : ℚ) ≠ 0 := by exact_mod_cast b.denominator_pos.ne'
  have parts : (b.numerator : ℚ) = b.denominator * b.whole + b.fractionNumerator := by
    exact_mod_cast (Nat.div_add_mod b.numerator b.denominator).symm
  rw [value_eq, parts]
  field_simp

lemma value_of_nearest (hn : 0 < n) (h : nearest n d = some b) :
    b.value = rounded n d * 2 ^ unitExponent n d := by
  simp only [nearest_eq hn, Option.ite_none_right_eq_some, Option.some.injEq] at h
  obtain ⟨-, rfl⟩ := h
  split
  · rename_i hm
    -- a full significand is written with the next exponent
    rw [value, hm, zpow_add_one₀ two_ne_zero, cast_twoTo, cast_twoTo]
    ring
  · rfl

lemma abs_value_sub_le_unit (hn : 0 < n) (hd : 0 < d) (h : nearest n d = some b) :
    |b.value - n / d| ≤ 2 ^ unitExponent n d / 2 := by
  have unit : (0 : ℚ) < 2 ^ unitExponent n d := by positivity
  have scaled : ((n * twoTo (-unitExponent n d).toNat : Nat) : ℚ)
      / (d * twoTo (unitExponent n d).toNat : Nat) = n / d / 2 ^ unitExponent n d := by
    rw [two_zpow_eq]
    push_cast
    field_simp
  have step := abs_roundHalfEven_sub_le (n := n * twoTo (-unitExponent n d).toNat)
    (Nat.mul_pos hd (twoTo_pos (unitExponent n d).toNat))
  rw [scaled] at step
  rw [value_of_nearest hn h]
  calc |(rounded n d : ℚ) * 2 ^ unitExponent n d - n / d|
      = |(rounded n d : ℚ) - n / d / 2 ^ unitExponent n d| * 2 ^ unitExponent n d := by
        rw [← abs_of_pos unit, ← abs_mul, abs_of_pos unit, sub_mul, div_mul_cancel₀ _ unit.ne']
    _ ≤ 1 / 2 * 2 ^ unitExponent n d := mul_le_mul_of_nonneg_right step unit.le
    _ = 2 ^ unitExponent n d / 2 := by ring

/-- Below a power of two the bound is the same for all quotients. -/
lemma exists_nearest (hd : 0 < d) {k : Int} (hk : -1021 ≤ k ∧ k ≤ 1023) (h : (n / d : ℚ) < 2 ^ k) :
    ∃ b, nearest n d = some b ∧ |b.value - n / d| ≤ 2 ^ (k - 54) := by
  rcases Nat.eq_zero_or_pos n with rfl | hn
  · exact ⟨⟨0, -1074⟩, rfl, by simp [value]; positivity⟩
  · have finite : nearest n d ≠ none :=
      mt (nearest_eq_none_iff hd).mp (not_limit_mul_le hd hk.2 h)
    obtain ⟨b, hb⟩ := Option.ne_none_iff_exists'.mp finite
    refine ⟨b, hb, (abs_value_sub_le_unit hn hd hb).trans ?_⟩
    have small : log2Quotient n d < k :=
      (zpow_lt_zpow_iff_right₀ one_lt_two).mp ((log2Quotient_spec hn hd).1.trans_lt h)
    have unit : unitExponent n d ≤ k - 53 := by
      unfold unitExponent
      omega
    calc (2 : ℚ) ^ unitExponent n d / 2 ≤ 2 ^ (k - 53) / 2 := by
          apply div_le_div_of_nonneg_right _ (by norm_num)
          exact zpow_le_zpow_right₀ one_le_two unit
      _ = 2 ^ (k - 54) := by
        have split : k - 53 = k - 54 + 1 := by ring
        rw [split, zpow_add_one₀ two_ne_zero]
        ring

/-- An integer of at most 53 bits is its own nearest number. -/
lemma nearest_natCast {N : Nat} (h : N < 2 ^ 53) : ∃ b, nearest N 1 = some b ∧ b.value = N := by
  have quotient : ((N : ℚ) / (1 : Nat)) = N := by simp
  obtain ⟨b, hb, -⟩ := exists_nearest (n := N) Nat.one_pos (k := 53) (by decide) (by
    rw [quotient]
    exact_mod_cast h)
  refine ⟨b, hb, ?_⟩
  rcases Nat.eq_zero_or_pos N with rfl | hN
  · obtain rfl : ⟨0, -1074⟩ = b := by simpa [nearest] using hb
    simp [value]
  · have lower := (log2Quotient_spec hN Nat.one_pos).1
    rw [quotient] at lower
    have small : log2Quotient N 1 < 53 := by
      apply (zpow_lt_zpow_iff_right₀ (one_lt_two : (1 : ℚ) < 2)).mp
      exact lower.trans_lt (by exact_mod_cast h)
    have unit : unitExponent N 1 ≤ 0 := by
      unfold unitExponent
      omega
    have one : 1 * twoTo (unitExponent N 1).toNat = 1 := by
      rw [Int.toNat_of_nonpos unit]
      rfl
    rw [value_of_nearest hN hb, rounded, one, roundHalfEven_one, two_zpow_eq,
      Int.toNat_of_nonpos unit, Nat.cast_mul]
    have positive : (0 : ℚ) < (twoTo (-unitExponent N 1).toNat : Nat) := by
      exact_mod_cast twoTo_pos _
    have nothing : ((twoTo 0 : Nat) : ℚ) = 1 := by simp
    rw [nothing, mul_one_div, mul_div_cancel_right₀ _ positive.ne']

/-- What is nearest to a number from one on is at least half of it. -/
lemma half_le_value (hd : 0 < d) (h : nearest n d = some b) (hone : (1 : ℚ) ≤ n / d) :
    (n / d / 2 : ℚ) ≤ b.value := by
  have hn : 0 < n := by
    by_contra hzero
    obtain rfl : n = 0 := by omega
    norm_num at hone
  have upper := (log2Quotient_spec hn hd).2
  have nonneg : 0 ≤ log2Quotient n d := by
    have := (zpow_lt_zpow_iff_right₀ (one_lt_two : (1 : ℚ) < 2)).mp
      (show (2 : ℚ) ^ (0 : Int) < 2 ^ (log2Quotient n d + 1) by simpa using hone.trans_lt upper)
    omega
  have unit : (2 : ℚ) ^ unitExponent n d ≤ n / d := by
    refine le_trans ?_ (log2Quotient_spec hn hd).1
    apply zpow_le_zpow_right₀ one_le_two
    unfold unitExponent
    omega
  have near := abs_sub_le_iff.mp (abs_value_sub_le_unit hn hd h)
  linarith [near.2]

end Binary
end PlannerConfig.Number
