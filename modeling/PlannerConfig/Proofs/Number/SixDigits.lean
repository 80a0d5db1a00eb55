import PlannerConfig.Proofs.Number.Nearest
import PlannerConfig.Proofs.Text.Numeral

/-!
Six significant digits: which number they stand for, how far that is from the number they were made
from, and the plain decimal that is written for it.
-/
namespace PlannerConfig.Number

open PlannerConfig.Text

namespace Decimal

/-- The number that a decimal stands for. -/
def value (x : Decimal) : ℚ := natOfDigits x.digits * 10 ^ (x.point - x.digits.length)

/-- The same decimal with the digits before its point and those after it. -/
def plain (x : Decimal) : Plain :=
  let before := x.digits.take x.point.toNat
    ++ List.replicate (x.point.toNat - x.digits.length) 0
  ⟨if before = [] then [0] else before,
    List.replicate (-x.point).toNat 0 ++ x.digits.drop x.point.toNat⟩

lemma value_plain (x : Decimal) : (x.plain.numerator : ℚ) / x.plain.denominator = x.value := by
  obtain ⟨ds, point⟩ := x
  have ten : (10 : ℚ) ≠ 0 := by norm_num
  have denominator : ∀ y : Plain, (y.denominator : ℚ) = 10 ^ y.fraction.length := fun y =>
    Nat.cast_pow 10 _
  have numerator : (plain ⟨ds, point⟩).numerator
      = natOfDigits (ds.take point.toNat ++ List.replicate (point.toNat - ds.length) 0
          ++ (List.replicate (-point).toNat 0 ++ ds.drop point.toNat)) := by
    unfold plain Plain.numerator
    dsimp only
    split
    · rename_i h
      -- a zero in front adds nothing
      rw [h, natOfDigits_append]
      simp [natOfDigits]
    · rfl
  rw [numerator, denominator, value]
  dsimp only [plain]
  rcases Int.le_total point 0 with h | h
  · obtain ⟨k, hk⟩ := Int.eq_ofNat_of_zero_le (Int.neg_nonneg.mpr h)
    obtain rfl : point = -(k : Int) := by omega
    have exponent : -(k : Int) - ds.length = -((k + ds.length : Nat) : Int) := by omega
    have before : (-(k : Int)).toNat = 0 := by omega
    have after : (-(-(k : Int))).toNat = k := by omega
    rw [before, after, exponent, zpow_neg, zpow_natCast, div_eq_mul_inv]
    simp [natOfDigits_append]
  · obtain ⟨k, rfl⟩ := Int.eq_ofNat_of_zero_le h
    rcases Nat.le_total ds.length k with hlen | hlen
    · have exponent : (k : Int) - ds.length = ((k - ds.length : Nat) : Int) := by omega
      simp [natOfDigits_append, exponent, List.take_of_length_le hlen, List.drop_of_length_le hlen]
    · have exponent : (k : Int) - ds.length = -((ds.length - k : Nat) : Int) := by omega
      have nothing : k - ds.length = 0 := by omega
      simp [exponent, nothing, zpow_neg, div_eq_mul_inv]

end Decimal

/-- A plain decimal as it is written, with a point only before digits. -/
def Plain.chars (x : Plain) : List Char :=
  digitChars x.whole ++ if x.fraction = [] then [] else '.' :: digitChars x.fraction

lemma positional_eq (x : Decimal) : positional false x = x.plain.chars := by
  have written : ∀ ds : List Nat, (digitChars ds).isEmpty = decide (ds = []) := by
    intro ds
    cases ds <;> rfl
  have zeros : ∀ k, List.replicate k '0' = digitChars (List.replicate k 0) := by
    intro k
    rw [digitChars, List.map_replicate]
  unfold positional
  simp only [zeros, ← digitChars_append, written, Decimal.plain, Plain.chars]
  congr 1
  · by_cases h : x.digits.take x.point.toNat ++ List.replicate (x.point.toNat - x.digits.length) 0 = []
    · simp only [h, if_true, decide_true]
      rfl
    · simp only [h, if_false, decide_false, Bool.false_eq_true]
  · by_cases h : List.replicate (-x.point).toNat 0 ++ x.digits.drop x.point.toNat = []
    · simp only [h, if_true, decide_true, Bool.false_eq_true, if_false]
    · simp only [h, if_false, decide_false, Bool.false_eq_true]

lemma exists_trimZeros (ds : List Nat) : ∃ k, ds = trimZeros ds ++ List.replicate k 0 := by
  refine ⟨(ds.reverse.takeWhile (· == 0)).length, ?_⟩
  have zeros : ds.reverse.takeWhile (· == 0)
      = List.replicate (ds.reverse.takeWhile (· == 0)).length 0 := by
    apply List.eq_replicate_of_mem
    intro d hd
    simpa using List.mem_takeWhile_imp hd
  have both := List.takeWhile_append_dropWhile (p := (· == 0)) (l := ds.reverse)
  rw [zeros] at both
  apply List.reverse_injective
  rw [trimZeros, List.reverse_append, List.reverse_reverse, List.reverse_replicate, both]

section log10

variable {n d : Nat}

lemma mul_tenTo_le_iff (hd : 0 < d) (k : Int) :
    d * tenTo k.toNat ≤ n * tenTo (-k).toNat ↔ (10 : ℚ) ^ k ≤ n / d := by
  exact_mod_cast mul_pow_le_iff (B := 10) (by decide) hd k

/-- Powers compare as their exponents do if two fixed powers bound one base by the other. -/
lemma zpow_le_zpow_of_pow_le {x y : ℚ} (hx : 1 ≤ x) (hy : 0 < y) {i j : Nat} (hj : j ≠ 0)
    (hpow : x ^ i ≤ y ^ j) {a k : Int} (hk : 0 ≤ k) (h : j * a ≤ i * k) : x ^ a ≤ y ^ k := by
  obtain ⟨m, rfl⟩ := Int.eq_ofNat_of_zero_le hk
  have positive : 0 < x := one_pos.trans_le hx
  apply (pow_le_pow_iff_left₀ (by positivity) (by positivity) hj).mp
  calc (x ^ a) ^ j = x ^ ((j : Int) * a) := by rw [mul_comm, zpow_mul, zpow_natCast]
    _ ≤ x ^ ((i * m : Nat) : Int) := zpow_le_zpow_right₀ hx (by exact_mod_cast h)
    _ = (x ^ i) ^ m := by rw [zpow_natCast, pow_mul]
    _ ≤ (y ^ j) ^ m := pow_le_pow_left₀ (by positivity) hpow m
    _ = (y ^ (m : Int)) ^ j := by rw [zpow_natCast, pow_right_comm]

lemma zpow_le_zpow_of_neg {x y : ℚ} (hx : 0 < x) (hy : 0 < y) {a k : Int} (h : y ^ (-k) ≤ x ^ (-a)) :
    x ^ a ≤ y ^ k := by
  rw [zpow_neg, zpow_neg] at h
  exact (inv_le_inv₀ (by positivity) (by positivity)).mp h

/-- What is guessed from the binary logarithm is the decimal one, up to one. The constants are quotients
that bound the logarithm of two from either side. -/
lemma pow_guess_bounds {k : Int} (hk : -1100 ≤ k ∧ k ≤ 1100) :
    (10 : ℚ) ^ (k * 30103 / 100000 - 1) ≤ 2 ^ k ∧
      (2 : ℚ) ^ (k + 1) ≤ 10 ^ (k * 30103 / 100000 + 2) := by
  have below : (10 : ℚ) ^ 59 ≤ 2 ^ 196 := by norm_num
  have above : (2 : ℚ) ^ 93 ≤ 10 ^ 28 := by norm_num
  have ten : (1 : ℚ) ≤ 10 := by norm_num
  rcases Int.le_total 0 k with h | h
  · exact ⟨zpow_le_zpow_of_pow_le ten two_pos (by decide) below h (by omega),
      zpow_le_zpow_of_pow_le one_le_two (by norm_num) (by decide) above (by omega) (by omega)⟩
  · refine ⟨zpow_le_zpow_of_neg (by norm_num) two_pos ?_, ?_⟩
    · exact zpow_le_zpow_of_pow_le one_le_two (by norm_num) (by decide) above (by omega) (by omega)
    · rcases h.lt_or_eq with h | rfl
      · apply zpow_le_zpow_of_neg two_pos (by norm_num)
        exact zpow_le_zpow_of_pow_le ten two_pos (by decide) below (by omega) (by omega)
      · norm_num

/-- The quotient lies between the power of ten that is found and the next one. -/
lemma log10Quotient_spec (hn : 0 < n) (hd : 0 < d) (hlow : (2 : ℚ) ^ (-1100 : Int) ≤ n / d)
    (hhigh : (n / d : ℚ) < 2 ^ (1100 : Int)) :
    (10 : ℚ) ^ log10Quotient n d ≤ n / d ∧ (n / d : ℚ) < 10 ^ (log10Quotient n d + 1) := by
  obtain ⟨lower, upper⟩ := Binary.log2Quotient_spec hn hd
  have range : -1100 ≤ Binary.log2Quotient n d ∧ Binary.log2Quotient n d ≤ 1100 := by
    have low := (zpow_lt_zpow_iff_right₀ (one_lt_two : (1 : ℚ) < 2)).mp (hlow.trans_lt upper)
    have high := (zpow_lt_zpow_iff_right₀ (one_lt_two : (1 : ℚ) < 2)).mp (lower.trans_lt hhigh)
    omega
  obtain ⟨low, high⟩ := pow_guess_bounds range
  unfold log10Quotient
  simp only [decide_eq_true_eq, mul_tenTo_le_iff hd]
  generalize Binary.log2Quotient n d * 30103 / 100000 = guess at low high ⊢
  split
  · rename_i h
    refine ⟨h, (upper.trans_le high).trans_eq ?_⟩
    rw [Int.add_assoc]
    rfl
  · rename_i hsmall
    split
    · rename_i h
      exact ⟨h, not_le.mp hsmall⟩
    · rename_i h
      rw [Int.sub_add_cancel]
      exact ⟨low.trans lower, not_le.mp h⟩

end log10

section sixDigits

variable (b : Binary)

/-- The place of the sixth digit. -/
def lastPlace : Int := log10Quotient b.numerator b.denominator - 5

/-- The number that the six digits make. -/
def rounded : Nat :=
  roundHalfEven (b.numerator * tenTo (-lastPlace b).toNat) (b.denominator * tenTo (lastPlace b).toNat)

lemma sixDigits_eq : sixDigits b =
    ⟨trimZeros (digitsOf (rounded b)), (digitsOf (rounded b)).length + lastPlace b⟩ := rfl

lemma value_sixDigits : (sixDigits b).value = rounded b * 10 ^ lastPlace b := by
  obtain ⟨k, hk⟩ := exists_trimZeros (digitsOf (rounded b))
  have ten : (10 : ℚ) ≠ 0 := by norm_num
  have number : (rounded b : ℚ) = natOfDigits (trimZeros (digitsOf (rounded b))) * 10 ^ k := by
    have digits := congrArg natOfDigits hk
    rw [natOfDigits_digitsOf, natOfDigits_append, List.length_replicate, natOfDigits_replicate_zero,
      Nat.add_zero] at digits
    exact_mod_cast digits
  have length : (digitsOf (rounded b)).length = (trimZeros (digitsOf (rounded b))).length + k := by
    have lengths := congrArg List.length hk
    simpa using lengths
  have exponent : ((digitsOf (rounded b)).length + lastPlace b
      - (trimZeros (digitsOf (rounded b))).length : Int) = k + lastPlace b := by
    rw [length]
    push_cast
    ring
  rw [sixDigits_eq, Decimal.value]
  dsimp only
  rw [exponent, zpow_add₀ ten, zpow_natCast, number]
  ring

/-- The point stands before the first digit. -/
lemma point_sixDigits (h : 0 < rounded b) :
    (10 : ℚ) ^ ((sixDigits b).point - 1) ≤ (sixDigits b).value ∧
      (sixDigits b).value < 10 ^ (sixDigits b).point := by
  have ten : (10 : ℚ) ≠ 0 := by norm_num
  have place : (0 : ℚ) < 10 ^ lastPlace b := by positivity
  have upper : (rounded b : ℚ) < 10 ^ (digitsOf (rounded b)).length := by
    exact_mod_cast lt_pow_length_digitsOf (rounded b)
  have lower : (10 : ℚ) ^ (digitsOf (rounded b)).length ≤ 10 * rounded b := by
    exact_mod_cast pow_length_digitsOf_le h
  have point : (sixDigits b).point = (digitsOf (rounded b)).length + lastPlace b := rfl
  rw [value_sixDigits, point, zpow_sub_one₀ ten, zpow_add₀ ten, zpow_natCast]
  constructor
  · calc (10 : ℚ) ^ (digitsOf (rounded b)).length * 10 ^ lastPlace b * 10⁻¹
        ≤ 10 * rounded b * 10 ^ lastPlace b * 10⁻¹ := by gcongr
      _ = rounded b * 10 ^ lastPlace b := by ring
  · exact mul_lt_mul_of_pos_right upper place

lemma scaled_eq : ((b.numerator * tenTo (-lastPlace b).toNat : Nat) : ℚ)
    / (b.denominator * tenTo (lastPlace b).toNat : Nat) = b.value / 10 ^ lastPlace b := by
  have ten : ((10 : Nat) : ℚ) = 10 := rfl
  have powers := zpow_eq_div 10 (lastPlace b)
  rw [ten] at powers
  rw [Binary.value_eq, powers]
  push_cast
  have positive : ∀ i, ((Nat.pow 10 i : Nat) : ℚ) ≠ 0 := fun i => by
    exact_mod_cast (Nat.pow_pos (n := i) (by decide : 0 < 10)).ne'
  have hd : (b.denominator : ℚ) ≠ 0 := by exact_mod_cast b.denominator_pos.ne'
  have h₁ := positive (lastPlace b).toNat
  have h₂ := positive (-lastPlace b).toNat
  field_simp

lemma abs_rounded_sub_le : |(rounded b : ℚ) - b.value / 10 ^ lastPlace b| ≤ 1 / 2 := by
  rw [← scaled_eq]
  exact abs_roundHalfEven_sub_le (Nat.mul_pos b.denominator_pos (Nat.pow_pos (by decide)))

variable {b}

lemma rounded_eq {m : Nat} (h : |b.value / 10 ^ lastPlace b - m| < 1 / 2) : rounded b = m := by
  have positive : 0 < b.denominator * tenTo (lastPlace b).toNat :=
    Nat.mul_pos b.denominator_pos (Nat.pow_pos (by decide))
  apply roundHalfEven_eq positive
  rwa [scaled_eq]

/-- The sixth digit counts the fifth power of ten below the first one. -/
lemma lastPlace_spec (hlow : (2 : ℚ) ^ (-1100 : Int) ≤ b.value)
    (hhigh : b.value < 2 ^ (1100 : Int)) :
    (10 : ℚ) ^ (lastPlace b + 5) ≤ b.value ∧ b.value < 10 ^ (lastPlace b + 6) := by
  rw [Binary.value_eq] at hlow hhigh ⊢
  have positive : 0 < b.numerator := by
    by_contra hzero
    obtain h : b.numerator = 0 := by omega
    rw [h, Nat.cast_zero, zero_div] at hlow
    exact absurd hlow (not_le.mpr (by positivity))
  have place : lastPlace b + 5 = log10Quotient b.numerator b.denominator := Int.sub_add_cancel _ _
  have next : lastPlace b + 6 = log10Quotient b.numerator b.denominator + 1 := by omega
  rw [place, next]
  exact log10Quotient_spec positive b.denominator_pos hlow hhigh

lemma lt_ten_of_mem_sixDigits {d : Nat} (h : d ∈ (sixDigits b).digits) : d < 10 := by
  rw [sixDigits_eq] at h
  dsimp only at h
  obtain ⟨k, hk⟩ := exists_trimZeros (digitsOf (rounded b))
  apply lt_ten_of_mem_digitsOf (n := rounded b)
  rw [hk]
  exact List.mem_append_left _ h

end sixDigits

namespace Decimal

/-- A plain decimal has digits before its point, and nothing but digits. -/
lemma isNumeral_plain {x : Decimal} (h : ∀ d ∈ x.digits, d < 10) :
    IsNumeral x.plain.whole ∧ ∀ d ∈ x.plain.fraction, d < 10 := by
  have zeros : ∀ k, ∀ d ∈ List.replicate k 0, d < 10 := fun k d hd => by
    rw [List.eq_of_mem_replicate hd]
    decide
  unfold plain
  dsimp only
  refine ⟨?_, ?_⟩
  · split
    · exact ⟨by simp, by simp⟩
    · rename_i hne
      refine ⟨hne, fun d hd => ?_⟩
      rcases List.mem_append.mp hd with hd | hd
      · exact h d (List.mem_of_mem_take hd)
      · exact zeros _ d hd
  · intro d hd
    rcases List.mem_append.mp hd with hd | hd
    · exact zeros _ d hd
    · exact h d (List.mem_of_mem_drop hd)

end Decimal
end PlannerConfig.Number
