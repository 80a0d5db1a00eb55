import PlannerConfig.Duration.Reader
import PlannerConfig.Proofs.Number.Nearest
import PlannerConfig.Proofs.Text.Numeral

/-!
How many microseconds are read. Seconds go through `binary64`, which is exact enough as long as there is a
duration of that many seconds; beyond it a text is refused whatever number is read.
-/
namespace PlannerConfig.Duration

open PlannerConfig.Text PlannerConfig.Number

section microsecondsOf

lemma abs_microsecondsOf_sub_le (b : Binary) :
    |(microsecondsOf b : ℚ) - b.value * 1000000| ≤ 1 / 2 + 2 ^ (-34 : Int) := by
  have positive : (0 : ℚ) < b.denominator := by exact_mod_cast b.denominator_pos
  have proper : (b.fractionNumerator / b.denominator : ℚ) < 1 := by
    rw [div_lt_one positive]
    exact_mod_cast Nat.mod_lt _ b.denominator_pos
  have scaled : ((b.fractionNumerator * 1000000 : Nat) : ℚ) / b.denominator
      = b.fractionNumerator / b.denominator * 1000000 := by
    push_cast
    ring
  obtain ⟨x, hx, near⟩ := Binary.exists_nearest (n := b.fractionNumerator * 1000000)
    b.denominator_pos (k := 20) (by decide) (by
      rw [scaled]
      norm_num
      linarith)
  have rounded := abs_roundHalfEven_sub_le (n := x.numerator) x.denominator_pos
  rw [← x.value_eq] at rounded
  have parts : microsecondsOf b
      = b.whole * 1000000 + roundHalfEven x.numerator x.denominator := by
    unfold microsecondsOf
    rw [hx]
    rfl
  rw [scaled] at near
  have exponent : (20 : Int) - 54 = -34 := rfl
  rw [exponent] at near
  rw [parts, b.value_eq_whole_add]
  push_cast
  calc |(b.whole * 1000000 + roundHalfEven x.numerator x.denominator
        - (b.whole + b.fractionNumerator / b.denominator) * 1000000 : ℚ)|
      = |(roundHalfEven x.numerator x.denominator : ℚ)
          - b.fractionNumerator / b.denominator * 1000000| := by
        congr 1
        ring
    _ ≤ |(roundHalfEven x.numerator x.denominator : ℚ) - x.value|
          + |x.value - b.fractionNumerator / b.denominator * 1000000| := abs_sub_le _ _ _
    _ ≤ 1 / 2 + 2 ^ (-34 : Int) := add_le_add rounded near

/-- A number near enough to whole microseconds is read as these. -/
lemma microsecondsOf_eq {b : Binary} {M : Nat} (h : |b.value * 1000000 - M| ≤ 1 / 4) :
    microsecondsOf b = M := by
  have near := abs_microsecondsOf_sub_le b
  -- how they are counted does not matter any more
  generalize microsecondsOf b = k at near ⊢
  apply eq_of_abs_natCast_sub_lt_one
  calc |(k : ℚ) - M| ≤ |(k : ℚ) - b.value * 1000000| + |b.value * 1000000 - M| := abs_sub_le _ _ _
    _ ≤ 1 / 2 + 2 ^ (-34 : Int) + 1 / 4 := add_le_add near h
    _ < 1 := by norm_num

end microsecondsOf

section secondsOf

/-- Whole microseconds are read as they are up to some seventy years. -/
lemma secondsOf?_eq {x : Plain} {M : Nat} (h : x.numerator * 1000000 = M * x.denominator)
    (hM : M < 2 ^ 51) : secondsOf? (some x) = some M := by
  have hd : 0 < x.denominator := Nat.pow_pos (by decide)
  have positive : (0 : ℚ) < x.denominator := by exact_mod_cast hd
  have quotient : (x.numerator / x.denominator : ℚ) = M / 1000000 := by
    rw [div_eq_div_iff positive.ne' (by norm_num)]
    exact_mod_cast h
  have small : (M / 1000000 : ℚ) < 2 ^ (32 : Int) := by
    rw [div_lt_iff₀ (by norm_num)]
    calc (M : ℚ) < 2 ^ 51 := by exact_mod_cast hM
      _ ≤ 2 ^ (32 : Int) * 1000000 := by norm_num
  obtain ⟨b, hb, near⟩ := Binary.exists_nearest hd (k := 32) (by decide) (quotient ▸ small)
  rw [quotient] at near
  have exact : microsecondsOf b = M := by
    have scaled : b.value * 1000000 - M = (b.value - M / 1000000) * 1000000 := by ring
    apply microsecondsOf_eq
    rw [scaled, abs_mul, abs_of_pos (by norm_num : (0 : ℚ) < 1000000)]
    calc |b.value - M / 1000000| * 1000000
        ≤ 2 ^ ((32 : Int) - 54) * 1000000 := mul_le_mul_of_nonneg_right near (by norm_num)
      _ ≤ 1 / 4 := by norm_num
  rw [secondsOf?, hb, Option.map_some, exact]

end secondsOf

/-- What is found is a number, or both are more than the microseconds of any duration; nothing is found
where a number is beyond all bounds. -/
def StandsFor (found : Option Int) (n : Int) : Prop :=
  0 ≤ n ∧ (found = some n ∨ greatest < n ∧ ∀ m ∈ found, greatest < m)

namespace StandsFor

variable {f g : Option Int} {n m : Int}

lemma exact (hn : 0 ≤ n) : StandsFor (some n) n := ⟨hn, .inl rfl⟩

lemma pos_of_mem (h : StandsFor f n) {k : Int} (hk : k ∈ f) : 0 ≤ k := by
  have limit : 0 ≤ greatest := by decide
  obtain ⟨hn, rfl | ⟨-, beyond⟩⟩ := h
  · cases hk
    exact hn
  · have := beyond k hk
    omega

lemma add (h : StandsFor f n) (h' : StandsFor g m) :
    StandsFor (Option.map₂ (· + ·) f g) (n + m) := by
  refine ⟨Int.add_nonneg h.1 h'.1, ?_⟩
  obtain ⟨hn, rfl | ⟨hlarge, beyond⟩⟩ := id h
  · obtain ⟨hm, rfl | ⟨hlarge, beyond⟩⟩ := id h'
    · exact .inl rfl
    · refine .inr ⟨by omega, fun k hk => ?_⟩
      obtain ⟨a, b, ha, hb, rfl⟩ := Option.mem_map₂_iff.mp hk
      have := h.pos_of_mem ha
      have := beyond b hb
      omega
  · refine .inr ⟨by have := h'.1; omega, fun k hk => ?_⟩
    obtain ⟨a, b, ha, hb, rfl⟩ := Option.mem_map₂_iff.mp hk
    have := h'.pos_of_mem hb
    have := beyond a ha
    omega

lemma mul (h : StandsFor f n) {k : Int} (hk : 1 ≤ k) : StandsFor (f.map fun a => a * k) (n * k) := by
  have grows : ∀ a, 0 ≤ a → a ≤ a * k := fun a ha => le_mul_of_one_le_right ha hk
  refine ⟨h.1.trans (grows n h.1), ?_⟩
  obtain ⟨hn, rfl | ⟨hlarge, beyond⟩⟩ := id h
  · exact .inl rfl
  · refine .inr ⟨hlarge.trans_le (grows n hn), fun m hm => ?_⟩
    obtain ⟨a, ha, rfl⟩ := Option.mem_map.mp hm
    exact (beyond a ha).trans_le (grows a (h.pos_of_mem ha))

/-- A number longer than any duration has none with either sign. -/
lemma ofMicroseconds?_eq_none_of_lt {negative : Bool} (h : greatest < n) :
    ofMicroseconds? (if negative then -n else n) = none := by
  have limits : -greatest ≤ least := by decide
  rw [ofMicroseconds?_eq_none_iff]
  cases negative
  · exact .inr h
  · exact .inl (show -n < least by omega)

/-- The duration of what is found is the duration of the number. -/
lemma bind_ofMicroseconds? (h : StandsFor f n) (negative : Bool) :
    (f.bind fun n => ofMicroseconds? (if negative then -n else n))
      = ofMicroseconds? (if negative then -n else n) := by
  obtain ⟨hn, rfl | ⟨hlarge, beyond⟩⟩ := h
  · rfl
  · rw [ofMicroseconds?_eq_none_of_lt hlarge]
    cases f with
    | none => rfl
    | some m => exact ofMicroseconds?_eq_none_of_lt (beyond m rfl)

end StandsFor

section parts

/-- The microseconds of a count of units, if it can be read. -/
def countedOf (unit : Int) (count : Option (List Nat)) : Option Int :=
  ((countOf count).toOption.map Nat.cast).map fun n => n * unit

/-- A count is read as the number it is written for. -/
lemma standsFor_countedOf {unit : Int} (hunit : 1 ≤ unit) (count : Option Nat) :
    StandsFor (countedOf unit (count.map numeral)) ((count.getD 0 : Nat) * unit) := by
  apply StandsFor.mul _ hunit
  cases count with
  | none => exact .exact le_rfl
  | some n =>
    show StandsFor ((countOf (some (numeral n))).toOption.map Nat.cast) (n : Nat)
    unfold countOf
    dsimp only
    split
    · rename_i hmany
      have large := pow_le_of_lt_length_numeral (by decide) hmany
      have limit : greatest < (10 ^ maxIntegerDigits : Nat) := by decide +kernel
      refine ⟨Int.natCast_nonneg n, .inr ⟨limit.trans_le (by exact_mod_cast large), ?_⟩⟩
      intro m hm
      cases hm
    · show StandsFor (some ((natOfDigits (numeral n) : Nat) : Int)) n
      rw [natOfDigits_numeral]
      exact .exact (Int.natCast_nonneg n)

/-- Whole seconds are read as the number they are written for. -/
lemma standsFor_secondsOf? (count : Option Nat) :
    StandsFor ((secondsOf? (count.map fun n => ⟨numeral n, []⟩)).map Nat.cast)
      ((count.getD 0 : Nat) * second) := by
  cases count with
  | none => exact .exact le_rfl
  | some n =>
    have quotient : secondsOf? (some ⟨numeral n, []⟩) = (Binary.nearest n 1).map microsecondsOf := by
      show (Binary.nearest (natOfDigits (numeral n ++ [])) 1).map microsecondsOf = _
      rw [List.append_nil, natOfDigits_numeral]
    show StandsFor ((secondsOf? (some ⟨numeral n, []⟩)).map Nat.cast) ((n : Nat) * second)
    rw [quotient]
    refine ⟨Int.mul_nonneg (Int.natCast_nonneg n) (by decide), ?_⟩
    by_cases hn : n < 2 ^ 53
    · obtain ⟨b, hb, hvalue⟩ := Binary.nearest_natCast hn
      have exact : microsecondsOf b = n * 1000000 := by
        apply microsecondsOf_eq
        rw [hvalue]
        push_cast
        norm_num
      rw [hb, Option.map_some, exact]
      exact .inl rfl
    · have limit : greatest < 2 ^ 52 * second - 1 := by decide
      refine .inr ⟨?_, fun m hm => ?_⟩
      · unfold second at limit ⊢
        omega
      · -- half of so many seconds is still longer than any duration
        obtain ⟨k, hk, rfl⟩ := Option.mem_map.mp hm
        obtain ⟨b, hb, rfl⟩ := Option.mem_map.mp hk
        have large : (2 ^ 53 : ℚ) ≤ n := by exact_mod_cast not_lt.mp hn
        have half := Binary.half_le_value Nat.one_pos hb (by
          norm_num
          linarith)
        have near := (abs_sub_le_iff.mp (abs_microsecondsOf_sub_le b)).2
        have microseconds : (2 ^ 52 * 1000000 - 1 : ℚ) ≤ microsecondsOf b := by
          norm_num at half near
          linarith
        have integers : 2 ^ 52 * second - 1 ≤ microsecondsOf b := by
          unfold second
          exact_mod_cast microseconds
        exact limit.trans_le integers

/-- The sign does not make a duration of what is none without it. -/
lemma ofMicroseconds?_signed_eq_none {n : Int} (hn : 0 ≤ n) (negative : Bool)
    (h : ofMicroseconds? n = none) : ofMicroseconds? (if negative then -n else n) = none := by
  have negatives : least < 0 := by decide
  apply StandsFor.ofMicroseconds?_eq_none_of_lt
  have := ofMicroseconds?_eq_none_iff.mp h
  omega

/-- Where a second value is found only beside a first one, that is the value of both. -/
lemma toOption_of_both {x y : Option Duration} (h : x = none → y = none) (e : Error) :
    Except.toOption (match x, y with
      | some _, some d => Except.ok d
      | _, _ => Except.error e) = y := by
  cases x with
  | none =>
    rw [h rfl]
    rfl
  | some d => cases y <;> rfl

namespace Components

variable (c : Components)

/-- The microseconds of the parts without the sign, as far as they are found. -/
def found : Option Int :=
  Option.map₂ (· + ·)
    (Option.map₂ (· + ·)
      (Option.map₂ (· + ·) (countedOf day c.days) (countedOf hour c.hours))
      (countedOf minute c.minutes))
    ((secondsOf? c.seconds).map Nat.cast)

/-- The duration that parts stand for is that of their sum. -/
lemma toOption_total (raw : String) : (c.total raw).toOption
    = c.found.bind fun n => ofMicroseconds? (if c.negative then -n else n) := by
  have signed := @ofMicroseconds?_signed_eq_none
  -- with names for the range and the units none of them is evaluated below
  obtain ⟨inRange, hin⟩ : ∃ f, f = ofMicroseconds? := ⟨_, rfl⟩
  obtain ⟨u, hu⟩ : ∃ u, u = day := ⟨_, rfl⟩
  obtain ⟨v, hv⟩ : ∃ v, v = hour := ⟨_, rfl⟩
  obtain ⟨w, hw⟩ : ∃ w, w = minute := ⟨_, rfl⟩
  have days_nonneg : 0 ≤ u := hu ▸ (by decide : 0 ≤ day)
  have hours_nonneg : 0 ≤ v := hv ▸ (by decide : 0 ≤ hour)
  have minutes_nonneg : 0 ≤ w := hw ▸ (by decide : 0 ≤ minute)
  unfold total found countedOf
  rw [← hin] at signed ⊢
  rw [← hu, ← hv, ← hw]
  cases countOf c.days with
  | error e => rfl
  | ok days =>
  cases countOf c.hours with
  | error e => rfl
  | ok hours =>
  cases countOf c.minutes with
  | error e => rfl
  | ok minutes =>
  cases secondsOf? c.seconds with
  | none => rfl
  | some rest =>
  have nonneg : 0 ≤ days * u + hours * v + minutes * w + rest := by positivity
  exact toOption_of_both (signed nonneg c.negative) _

end Components

end parts

end PlannerConfig.Duration
