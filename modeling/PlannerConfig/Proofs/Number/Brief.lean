import PlannerConfig.Proofs.Number.Datum
import PlannerConfig.Proofs.Number.SixDigits

/-!
Which numbers read back from their brief text: those that are nearest to a decimal of at most six digits
which needs no exponent.
-/
namespace PlannerConfig.Number

open PlannerConfig.Text

namespace Decimal

variable {x : Decimal}

lemma length_fraction_plain (x : Decimal) :
    x.plain.fraction.length = (x.digits.length - x.point : Int).toNat := by
  simp only [plain, List.length_append, List.length_replicate, List.length_drop]
  omega

/-- The digits are the number but for the zeros up to the point. -/
lemma numerator_plain (x : Decimal) : x.plain.numerator
    = natOfDigits x.digits * 10 ^ (x.point - x.digits.length : Int).toNat := by
  have ten : (10 : ℚ) ≠ 0 := by norm_num
  have value := x.value_plain
  have denominator : (x.plain.denominator : ℚ) = 10 ^ (x.digits.length - x.point : Int).toNat := by
    rw [← length_fraction_plain]
    exact Nat.cast_pow 10 _
  have places : (x.point - x.digits.length : Int) + (x.digits.length - x.point : Int).toNat
      = (x.point - x.digits.length : Int).toNat := by omega
  rw [denominator, Decimal.value, div_eq_iff (by positivity), mul_assoc, ← zpow_natCast (10 : ℚ),
    ← zpow_add₀ ten, places, zpow_natCast] at value
  exact_mod_cast value

lemma numerator_plain_lt (h : ∀ d ∈ x.digits, d < 10) {k : Nat} (hlength : x.digits.length ≤ k)
    (hpoint : x.point ≤ k) : x.plain.numerator < 10 ^ k := by
  have digits : natOfDigits x.digits < 10 ^ x.digits.length := by
    rw [natOfDigits_eq, ← List.length_reverse]
    exact Nat.ofDigits_lt_base_pow_length (by decide) fun d hd => h d (List.mem_reverse.mp hd)
  rw [numerator_plain]
  calc natOfDigits x.digits * 10 ^ (x.point - x.digits.length : Int).toNat
      < 10 ^ x.digits.length * 10 ^ (x.point - x.digits.length : Int).toNat :=
        Nat.mul_lt_mul_of_pos_right digits (Nat.pow_pos (by decide))
    _ = 10 ^ (x.digits.length + (x.point - x.digits.length : Int).toNat) := (Nat.pow_add ..).symm
    _ ≤ 10 ^ k := Nat.pow_le_pow_right (by decide) (by omega)

end Decimal

section sixDigits

variable {b : Binary} (h : b.Fits) (hs : b.significand ≠ 0)
include h hs

lemma lastPlace_bounds :
    (10 : ℚ) ^ (lastPlace b + 5) ≤ b.value ∧ b.value < 10 ^ (lastPlace b + 6) :=
  lastPlace_spec (h.value_bounds hs).1 (h.value_bounds hs).2

/-- There are six digits before trimming, or the rounding goes up to seven of them. -/
lemma rounded_bounds : 0 < rounded b ∧ rounded b ≤ 1000000 := by
  have ten : (10 : ℚ) ≠ 0 := by norm_num
  have place : (0 : ℚ) < 10 ^ lastPlace b := by positivity
  obtain ⟨low, high⟩ := lastPlace_bounds h hs
  rw [zpow_add₀ ten, mul_comm, ← le_div_iff₀ place] at low
  rw [zpow_add₀ ten, mul_comm, ← div_lt_iff₀ place] at high
  obtain ⟨above, below⟩ := abs_sub_le_iff.mp (abs_rounded_sub_le b)
  norm_num at low high
  have positive : (0 : ℚ) < rounded b := by linarith
  have bound : (rounded b : ℚ) < 1000001 := by linarith
  have bound' : rounded b < 1000001 := by exact_mod_cast bound
  exact ⟨by exact_mod_cast positive, by omega⟩

lemma length_sixDigits_le : (sixDigits b).digits.length ≤ 6 := by
  obtain ⟨positive, bound⟩ := rounded_bounds h hs
  rw [sixDigits_eq]
  dsimp only
  rcases bound.lt_or_eq with hlt | heq
  · obtain ⟨k, hk⟩ := exists_trimZeros (digitsOf (rounded b))
    have length := congrArg List.length hk
    rw [List.length_append] at length
    have digits : 10 ^ (digitsOf (rounded b)).length < 10 ^ 7 :=
      (pow_length_digitsOf_le positive).trans_lt (by omega)
    have := (Nat.pow_lt_pow_iff_right (by decide : 1 < 10)).mp digits
    omega
  · rw [heq]
    decide +kernel

end sixDigits

/-- A `Float` that is nearest to a decimal of at most six digits, which is zero or at least a ten
thousandth. -/
def IsBrief (x : Float) : Prop :=
  ∃ (negative : Bool) (c k : Nat), c < 10 ^ 6 ∧ (c = 0 ∨ 10 ^ k ≤ 10 ^ 4 * c)
    ∧ x = floatOfQuotient negative c (tenTo k)

/-- The sign and the decimal that are written of a `Float`, if there is no exponent. -/
def plainOf? (x : Float) : Option (Bool × Plain) :=
  match Datum.ofFloat x with
  | .finite negative b =>
    if b.significand = 0 then some (negative, ⟨[0], []⟩)
    else
      let d := sixDigits b
      if -4 < d.point && d.point ≤ 6 then some (negative, d.plain) else none
  | _ => none

section written

variable {x : Float} {negative : Bool} {p : Plain}

/-- What a decimal is written of: zero, or a number whose point is not too far from its first digit. -/
lemma plainOf?_eq_some_iff : plainOf? x = some (negative, p) ↔
    ∃ b, Datum.ofFloat x = .finite negative b ∧ (b.significand = 0 ∧ p = ⟨[0], []⟩
      ∨ b.significand ≠ 0 ∧ (-4 < (sixDigits b).point ∧ (sixDigits b).point ≤ 6)
        ∧ p = (sixDigits b).plain) := by
  unfold plainOf?
  cases Datum.ofFloat x with
  | notANumber => simp
  | infinite n => simp
  | finite n b =>
    by_cases hzero : b.significand = 0
    · simp [hzero, eq_comm]
    · by_cases hpoint : -4 < (sixDigits b).point ∧ (sixDigits b).point ≤ 6
      · simp [hzero, hpoint, eq_comm]
      · have other : ¬ (-4 < (sixDigits b).point && (sixDigits b).point ≤ 6) = true := by simpa using hpoint
        dsimp only
        rw [if_neg hzero, if_neg other]
        refine iff_of_false (by simp) ?_
        rintro ⟨_, hb, ⟨h, -⟩ | ⟨-, h, -⟩⟩
        · cases hb
          exact hzero h
        · cases hb
          exact hpoint h

/-- What is written without an exponent. -/
lemma toList_briefText (h : plainOf? x = some (negative, p)) :
    (briefText x).toList = withSign negative p.chars ∧ IsNumeral p.whole ∧ ∀ d ∈ p.fraction, d < 10 := by
  obtain ⟨b, hx, ⟨hzero, rfl⟩ | ⟨hne, hpoint, rfl⟩⟩ := plainOf?_eq_some_iff.mp h
  · unfold briefText briefChars
    rw [hx]
    dsimp only
    rw [if_pos hzero]
    exact ⟨String.toList_ofList, ⟨by simp, by simp⟩, by simp⟩
  · unfold briefText briefChars
    rw [hx]
    dsimp only
    rw [if_neg hne, if_pos (by simpa using hpoint), positional_eq]
    exact ⟨String.toList_ofList, Decimal.isNumeral_plain fun d => lt_ten_of_mem_sixDigits⟩

lemma mem_withSign {c : Char} {cs : List Char} (h : c ∈ cs) : c ∈ withSign negative cs := by
  cases negative
  · exact h
  · exact List.mem_cons_of_mem _ h

/-- What is written otherwise has a letter in it. -/
lemma exists_mem_briefText (h : plainOf? x = none) : ∃ c ∈ ['e', 'n'], c ∈ (briefText x).toList := by
  unfold plainOf? at h
  unfold briefText briefChars
  rw [String.toList_ofList]
  split at h
  · rename_i hx
    rw [hx]
    dsimp only at h ⊢
    split at h
    · cases h
    · rename_i hne
      split at h
      · cases h
      · rename_i hpoint
        rw [if_neg hne, if_neg hpoint]
        exact ⟨'e', by simp, mem_withSign (List.mem_append_right _ List.mem_cons_self)⟩
  · rename_i hx
    refine ⟨'n', by simp, ?_⟩
    cases hdatum : Datum.ofFloat x with
    | notANumber => simp
    | infinite negative => exact mem_withSign (by simp)
    | finite negative b => exact absurd hdatum (hx negative b)

/-- A decimal that is written has few digits and is not very small. -/
lemma isBrief_of_plainOf? (h : plainOf? x = some (negative, p)) : IsBrief (p.toFloat negative) := by
  obtain ⟨b, hx, ⟨-, rfl⟩ | ⟨hne, ⟨hlow, hhigh⟩, rfl⟩⟩ := plainOf?_eq_some_iff.mp h
  · exact ⟨negative, 0, 0, by decide, .inl rfl, rfl⟩
  · have fits := Datum.fits_of_ofFloat hx
    have small : (sixDigits b).plain.numerator < 10 ^ 6 :=
      Decimal.numerator_plain_lt (fun d => lt_ten_of_mem_sixDigits) (length_sixDigits_le fits hne) hhigh
    refine ⟨negative, (sixDigits b).plain.numerator, (sixDigits b).plain.fraction.length, small,
      .inr ?_, rfl⟩
    have least : (10 : ℚ) ^ (-4 : Int) ≤ (sixDigits b).value :=
      (zpow_le_zpow_right₀ (by norm_num) (by omega)).trans
        (point_sixDigits b (rounded_bounds fits hne).1).1
    have denominator : ((sixDigits b).plain.denominator : ℚ)
        = 10 ^ (sixDigits b).plain.fraction.length := Nat.cast_pow 10 _
    rw [← Decimal.value_plain, denominator, le_div_iff₀ (by positivity)] at least
    norm_num at least
    have product : (10 : ℚ) ^ (sixDigits b).plain.fraction.length
        ≤ 10 ^ 4 * (sixDigits b).plain.numerator := by linarith
    exact_mod_cast product

end written

section nearest

variable {b : Binary} {c k : Nat}

/-- A number that is nearest to a decimal of few digits, and not to a very small one. -/
structure NearDecimal (b : Binary) (c k : Nat) : Prop where
  digits : c < 10 ^ 6
  large : 10 ^ k ≤ 10 ^ 4 * c
  nearest : Binary.nearest c (tenTo k) = some b

namespace NearDecimal

variable (h : NearDecimal b c k)
include h

lemma fits : b.Fits := Binary.fits_of_nearest (Nat.pow_pos (by decide)) h.nearest

lemma least_le : (10 : ℚ) ^ (-4 : Int) ≤ c / 10 ^ k := by
  have cast : (10 : ℚ) ^ k ≤ 10 ^ 4 * c := by exact_mod_cast h.large
  rw [le_div_iff₀ (by positivity)]
  norm_num
  linarith

lemma cast_le : (c : ℚ) ≤ 999999 := by exact_mod_cast Nat.le_sub_one_of_lt h.digits

lemma abs_le : |b.value - c / 10 ^ k| ≤ c / 10 ^ k * 2 ^ (-53 : Int) := by
  have quotient : (c / (tenTo k : Nat) : ℚ) = c / 10 ^ k := by
    rw [show ((tenTo k : Nat) : ℚ) = 10 ^ k from Nat.cast_pow 10 k]
  have near := Binary.abs_value_sub_le (n := c) (d := tenTo k) (Nat.pow_pos (by decide)) (by
    rw [quotient]
    refine le_trans ?_ h.least_le
    calc (2 : ℚ) ^ (-1022 : Int) ≤ 2 ^ (-14 : Int) := zpow_le_zpow_right₀ one_le_two (by decide)
      _ ≤ 10 ^ (-4 : Int) := by norm_num) h.nearest
  rwa [quotient] at near

lemma value_bounds : c / 10 ^ k * (1 - 2 ^ (-53 : Int)) ≤ b.value
    ∧ b.value ≤ c / 10 ^ k * (1 + 2 ^ (-53 : Int)) := by
  obtain ⟨above, below⟩ := abs_sub_le_iff.mp h.abs_le
  constructor <;> linarith

lemma significand_ne_zero : b.significand ≠ 0 := by
  intro hzero
  have positive : (0 : ℚ) < c / 10 ^ k := lt_of_lt_of_le (by positivity) h.least_le
  have low := h.value_bounds.1
  rw [Binary.value, hzero, Nat.cast_zero, zero_mul] at low
  norm_num at low
  linarith

/-- The sixth digit counts at most what the last digit of the decimal counts. -/
lemma lastPlace_le : lastPlace b ≤ -(k : Int) := by
  have ten : (10 : ℚ) ≠ 0 := by norm_num
  have first := (lastPlace_bounds h.fits h.significand_ne_zero).1
  have bound : (10 : ℚ) ^ (lastPlace b + 5) < 10 ^ (6 - (k : Int)) := by
    calc (10 : ℚ) ^ (lastPlace b + 5) ≤ b.value := first
      _ ≤ c / 10 ^ k * (1 + 2 ^ (-53 : Int)) := h.value_bounds.2
      _ ≤ 999999 / 10 ^ k * (1 + 2 ^ (-53 : Int)) := by
        gcongr
        exact h.cast_le
      _ < 1000000 / 10 ^ k := by
        rw [div_mul_eq_mul_div]
        gcongr
        norm_num
      _ = 10 ^ (6 - (k : Int)) := by
        rw [zpow_sub₀ ten, zpow_natCast]
        norm_num
  have := (zpow_lt_zpow_iff_right₀ (by norm_num : (1 : ℚ) < 10)).mp bound
  omega

/-- Six digits are exact for it. -/
lemma value_sixDigits_eq : (sixDigits b).value = c / 10 ^ k := by
  have ten : (10 : ℚ) ≠ 0 := by norm_num
  obtain ⟨i, hi⟩ := Int.eq_ofNat_of_zero_le (Int.sub_nonneg.mpr h.lastPlace_le)
  have place : lastPlace b = -(i : Int) - k := by omega
  have unit : (0 : ℚ) < 10 ^ lastPlace b := by positivity
  have multiple : (c / 10 ^ k : ℚ) = (c * 10 ^ i : Nat) * 10 ^ lastPlace b := by
    rw [place, zpow_sub₀ ten, zpow_neg, zpow_natCast, zpow_natCast]
    push_cast
    field_simp
  have last := (lastPlace_bounds h.fits h.significand_ne_zero).2
  have twice : (c / 10 ^ k : ℚ) ≤ 2 * b.value := by
    have low := h.value_bounds.1
    have positive : (0 : ℚ) < c / 10 ^ k := lt_of_lt_of_le (by positivity) h.least_le
    norm_num at low ⊢
    linarith
  -- the decimal is on the grid of the six digits, and the rounding to bits moves it by far less than a step
  have exact : rounded b = c * 10 ^ i := by
    apply rounded_eq
    have apart : b.value / 10 ^ lastPlace b - (c * 10 ^ i : Nat)
        = (b.value - c / 10 ^ k) / 10 ^ lastPlace b := by
      rw [multiple]
      field_simp
    rw [apart, abs_div, abs_of_pos unit, div_lt_iff₀ unit]
    calc |b.value - c / 10 ^ k| ≤ c / 10 ^ k * 2 ^ (-53 : Int) := h.abs_le
      _ ≤ 2 * b.value * 2 ^ (-53 : Int) := by gcongr
      _ < 2 * 10 ^ (lastPlace b + 6) * 2 ^ (-53 : Int) := by gcongr
      _ = 2 * 10 ^ 6 * 2 ^ (-53 : Int) * 10 ^ lastPlace b := by
        rw [zpow_add₀ ten]
        norm_num
        ring
      _ < 1 / 2 * 10 ^ lastPlace b := by
        gcongr
        norm_num
  rw [value_sixDigits, exact, multiple]

/-- No exponent is needed for it. -/
lemma point_bounds : -4 < (sixDigits b).point ∧ (sixDigits b).point ≤ 6 := by
  obtain ⟨low, high⟩ := point_sixDigits b (rounded_bounds h.fits h.significand_ne_zero).1
  rw [h.value_sixDigits_eq] at low high
  have above := (zpow_lt_zpow_iff_right₀ (by norm_num : (1 : ℚ) < 10)).mp (h.least_le.trans_lt high)
  have million : (c / 10 ^ k : ℚ) < 10 ^ (6 : Int) := by
    have one : (1 : ℚ) ≤ 10 ^ k := one_le_pow₀ (by norm_num)
    rw [div_lt_iff₀ (by positivity)]
    calc (c : ℚ) ≤ 999999 := h.cast_le
      _ < 10 ^ (6 : Int) := by norm_num
      _ ≤ 10 ^ (6 : Int) * 10 ^ k := le_mul_of_one_le_right (by positivity) one
  have below := (zpow_lt_zpow_iff_right₀ (by norm_num : (1 : ℚ) < 10)).mp (low.trans_lt million)
  omega

end NearDecimal
end nearest

lemma exists_nearDecimal {c k : Nat} (hc : c < 10 ^ 6) (hlarge : 10 ^ k ≤ 10 ^ 4 * c) :
    ∃ b, NearDecimal b c k := by
  have hd : 0 < tenTo k := Nat.pow_pos (by decide)
  have small : (c / (tenTo k : Nat) : ℚ) < 2 ^ (20 : Int) := by
    have bound : c < 2 ^ 20 * tenTo k := hc.trans_le (Nat.le_mul_of_pos_right _ hd |>.trans' (by decide))
    rw [div_lt_iff₀ (by exact_mod_cast hd)]
    exact_mod_cast bound
  obtain ⟨b, hb, -⟩ := Binary.exists_nearest hd (by decide) small
  exact ⟨b, hc, hlarge, hb⟩

/-- What is written of a `Float` without an exponent stands for the `Float` exactly if it is brief. -/
theorem exists_plainOf?_iff (x : Float) :
    (∃ negative p, plainOf? x = some (negative, p) ∧ p.toFloat negative = x) ↔ IsBrief x := by
  constructor
  · rintro ⟨negative, p, hp, hx⟩
    rw [← hx]
    exact isBrief_of_plainOf? hp
  · rintro ⟨negative, c, k, hc, hlow, rfl⟩
    have hd : 0 < tenTo k := Nat.pow_pos (by decide)
    rcases Nat.eq_zero_or_pos c with rfl | hpos
    · have zero : Binary.nearest 0 (tenTo k) = some ⟨0, -1074⟩ := rfl
      refine ⟨negative, ⟨[0], []⟩, plainOf?_eq_some_iff.mpr ⟨⟨0, -1074⟩, ?_, .inl ⟨rfl, rfl⟩⟩, rfl⟩
      rw [floatOfQuotient, zero]
      exact Datum.ofFloat_toFloat (Binary.fits_of_nearest hd zero) negative
    · obtain ⟨b, near⟩ := exists_nearDecimal hc (hlow.resolve_left hpos.ne')
      refine ⟨negative, (sixDigits b).plain, plainOf?_eq_some_iff.mpr
        ⟨b, ?_, .inr ⟨near.significand_ne_zero, near.point_bounds, rfl⟩⟩, ?_⟩
      · rw [floatOfQuotient, near.nearest]
        exact Datum.ofFloat_toFloat near.fits negative
      · have decimal : ((sixDigits b).plain.numerator / (sixDigits b).plain.denominator : ℚ)
            = c / (tenTo k : Nat) := by
          rw [Decimal.value_plain, near.value_sixDigits_eq]
          exact congrArg _ (Nat.cast_pow 10 k).symm
        exact floatOfQuotient_congr (Nat.pow_pos (by decide)) hd decimal negative

end PlannerConfig.Number
