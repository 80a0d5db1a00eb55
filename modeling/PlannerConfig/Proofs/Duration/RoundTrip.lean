import PlannerConfig.Duration.Printer
import PlannerConfig.Proofs.Duration.Spellings

/-!
Which durations read back from their text. Days, hours, minutes and whole seconds do; a fraction of a
second is written with six significant digits of all seconds, and that is all that is read of it.
-/
namespace PlannerConfig

open PlannerConfig.Text

namespace Number

/-- The millionths that the last of six significant digits counts, or one. -/
def lastCount (N : Nat) : Nat := if N < 1000000 then 1 else if N < 10000000 then 10 else 100

lemma lastCount_bounds (N : Nat) : 1 ≤ lastCount N ∧ lastCount N ≤ 100 := by
  unfold lastCount
  split_ifs <;> decide

/-- The point stands before the first digit of so many millionths. -/
lemma point_bounds {b : Binary} {M : Nat} (hM : (sixDigits b).value = M / 1000000) (hpos : 0 < M) :
    (10 : ℚ) ^ ((sixDigits b).point - 1) ≤ M / 1000000 ∧
      (M / 1000000 : ℚ) < 10 ^ (sixDigits b).point := by
  have positive : 0 < rounded b := by
    by_contra hzero
    obtain hzero : rounded b = 0 := by omega
    rw [value_sixDigits, hzero, Nat.cast_zero, zero_mul] at hM
    have : (0 : ℚ) < M / 1000000 := by positivity
    exact this.ne hM
  have bounds := point_sixDigits b positive
  rwa [hM] at bounds

/-- A number of less than a minute that is not a whole second, as near as it is to so many millionths. -/
structure Near (b : Binary) (N : Nat) : Prop where
  abs_le : |b.value - N / 1000000| ≤ 2 ^ (-47 : Int)
  lt_minute : N < 60000000
  not_whole : N % 1000000 ≠ 0

namespace Near

variable {b : Binary} {N : Nat} (h : Near b N)
include h

lemma lower {m : Nat} (hm : m ≤ N) : (m / 1000000 : ℚ) - 2 ^ (-47 : Int) ≤ b.value := by
  have cast : (m : ℚ) ≤ N := by exact_mod_cast hm
  have step : (m / 1000000 : ℚ) ≤ N / 1000000 := by gcongr
  linarith [(abs_sub_le_iff.mp h.abs_le).2]

lemma upper {m : Nat} (hm : N ≤ m) : b.value ≤ (m / 1000000 : ℚ) + 2 ^ (-47 : Int) := by
  have cast : (N : ℚ) ≤ m := by exact_mod_cast hm
  have step : (N / 1000000 : ℚ) ≤ m / 1000000 := by gcongr
  linarith [(abs_sub_le_iff.mp h.abs_le).1]

lemma pos : 1 ≤ N := by
  have := h.not_whole
  omega

lemma lastPlace_bounds :
    (10 : ℚ) ^ (lastPlace b + 5) ≤ b.value ∧ b.value < 10 ^ (lastPlace b + 6) := by
  apply lastPlace_spec
  · calc (2 : ℚ) ^ (-1100 : Int) ≤ 2 ^ (-21 : Int) := zpow_le_zpow_right₀ one_le_two (by decide)
      _ ≤ (1 : Nat) / 1000000 - 2 ^ (-47 : Int) := by norm_num
      _ ≤ b.value := h.lower h.pos
  · calc b.value ≤ (60000000 : Nat) / 1000000 + 2 ^ (-47 : Int) := h.upper h.lt_minute.le
      _ < 2 ^ (7 : Int) := by norm_num
      _ ≤ 2 ^ (1100 : Int) := zpow_le_zpow_right₀ one_le_two (by decide)

lemma lastPlace_lt {j : Int} (hb : b.value < 10 ^ j) : lastPlace b + 5 < j :=
  (zpow_lt_zpow_iff_right₀ (by norm_num : (1 : ℚ) < 10)).mp (h.lastPlace_bounds.1.trans_lt hb)

lemma lt_lastPlace {j : Int} (hb : 10 ^ j ≤ b.value) : j < lastPlace b + 6 :=
  (zpow_lt_zpow_iff_right₀ (by norm_num : (1 : ℚ) < 10)).mp (hb.trans_lt h.lastPlace_bounds.2)

lemma le_lastPlace : -12 ≤ lastPlace b := by
  have := h.lt_lastPlace (j := -7) (by
    refine le_trans ?_ (h.lower h.pos)
    norm_num)
  omega

lemma lastPlace_le (hN : N < 1000000) : lastPlace b ≤ -6 := by
  have := h.lastPlace_lt (j := 0) (by
    refine (h.upper (Nat.le_sub_one_of_lt hN)).trans_lt ?_
    norm_num)
  omega

/-- From one second on the last digit counts what it counts of millionths. -/
lemma lastCount_eq (hN : 1000000 ≤ N) :
    ((lastCount N : Nat) : ℚ) = 10 ^ lastPlace b * 1000000 := by
  have whole := h.not_whole
  have minute := h.lt_minute
  have ten : (1 : ℚ) < 10 := by norm_num
  unfold lastCount
  rw [if_neg (Nat.not_lt.mpr hN)]
  split
  · rename_i hsmall
    have low := h.lt_lastPlace (j := 0) (by
      refine le_trans ?_ (h.lower (m := 1000001) (by omega))
      norm_num)
    have high := h.lastPlace_lt (j := 1) (by
      refine (h.upper (m := 9999999) (by omega)).trans_lt ?_
      norm_num)
    obtain place : lastPlace b = -5 := by omega
    rw [place]
    norm_num
  · have low := h.lt_lastPlace (j := 1) (by
      refine le_trans ?_ (h.lower (m := 10000001) (by omega))
      norm_num)
    have high := h.lastPlace_lt (j := 2) (by
      refine (h.upper (m := 60000000) (by omega)).trans_lt ?_
      norm_num)
    obtain place : lastPlace b = -4 := by omega
    rw [place]
    norm_num

/-- What the last digit counts in whole numbers is written as it is. -/
lemma rounded_eq_of_eq {m : Nat} (hm : (N / 1000000 : ℚ) = m * 10 ^ lastPlace b) : rounded b = m := by
  have place : (0 : ℚ) < 10 ^ lastPlace b := by positivity
  have fine : (10 : ℚ) ^ (-12 : Int) ≤ 10 ^ lastPlace b :=
    zpow_le_zpow_right₀ (by norm_num) h.le_lastPlace
  have apart : b.value / 10 ^ lastPlace b - m = (b.value - N / 1000000) / 10 ^ lastPlace b := by
    rw [hm]
    field_simp
  apply rounded_eq
  rw [apart, abs_div, abs_of_pos place, div_lt_iff₀ place]
  refine h.abs_le.trans_lt ?_
  calc (2 : ℚ) ^ (-47 : Int) < 1 / 2 * 10 ^ (-12 : Int) := by norm_num
    _ ≤ 1 / 2 * 10 ^ lastPlace b := by gcongr

/-- From one second on six digits are off by what the last one counts at most. -/
lemma abs_rounded_mul_sub_le (hN : 1000000 ≤ N) :
    |(rounded b * lastCount N - N : ℚ)| ≤ lastCount N := by
  have count := h.lastCount_eq hN
  have positive : (0 : ℚ) < 10 ^ lastPlace b := by positivity
  have one : (1 : ℚ) ≤ lastCount N := by exact_mod_cast (lastCount_bounds N).1
  have scaled : (rounded b * lastCount N - N : ℚ)
      = (rounded b - b.value / 10 ^ lastPlace b) * lastCount N
        + (b.value - N / 1000000) * 1000000 := by
    rw [count]
    field_simp
    ring
  rw [scaled]
  refine (abs_add_le _ _).trans ?_
  rw [abs_mul, abs_mul, abs_of_pos (by linarith : (0 : ℚ) < lastCount N),
    abs_of_pos (by norm_num : (0 : ℚ) < 1000000)]
  calc |rounded b - b.value / 10 ^ lastPlace b| * lastCount N + |b.value - N / 1000000| * 1000000
      ≤ 1 / 2 * lastCount N + 2 ^ (-47 : Int) * 1000000 := by
        gcongr
        · exact abs_rounded_sub_le b
        · exact h.abs_le
    _ ≤ lastCount N := by
      norm_num
      linarith

/-- Six digits stand for a multiple of what the last one counts, as near as that allows. -/
lemma exists_value_sixDigits : ∃ M : Nat, (sixDigits b).value = M / 1000000 ∧
    (M = N ↔ lastCount N ∣ N) ∧ M ≤ N + lastCount N ∧ N ≤ M + lastCount N := by
  by_cases hN : N < 1000000
  · have one : lastCount N = 1 := if_pos hN
    obtain ⟨i, hi⟩ := Int.eq_ofNat_of_zero_le (Int.sub_nonneg.mpr (h.lastPlace_le hN))
    have place : lastPlace b = -6 - (i : Int) := by omega
    have multiple : (N / 1000000 : ℚ) = (N * 10 ^ i : Nat) * 10 ^ lastPlace b := by
      rw [place, zpow_sub₀ (by norm_num), zpow_natCast]
      push_cast
      field_simp
      norm_num
    refine ⟨N, ?_, ?_, by omega, by omega⟩
    · rw [value_sixDigits, h.rounded_eq_of_eq multiple, multiple]
    · rw [one]
      exact iff_of_true rfl (one_dvd N)
  · have count := h.lastCount_eq (not_lt.mp hN)
    refine ⟨rounded b * lastCount N, ?_, ?_, ?_⟩
    · rw [value_sixDigits, Nat.cast_mul, count]
      ring
    · constructor
      · exact Dvd.intro_left (rounded b)
      · rintro ⟨m, hm⟩
        have multiple : (N / 1000000 : ℚ) = m * 10 ^ lastPlace b := by
          rw [hm, Nat.cast_mul, count]
          ring
        rw [h.rounded_eq_of_eq multiple, Nat.mul_comm]
        exact hm.symm
    · obtain ⟨above, below⟩ := abs_sub_le_iff.mp (h.abs_rounded_mul_sub_le (not_lt.mp hN))
      have above' : (rounded b * lastCount N : ℚ) ≤ N + lastCount N := by linarith
      have below' : (N : ℚ) ≤ rounded b * lastCount N + lastCount N := by linarith
      exact ⟨by exact_mod_cast above', by exact_mod_cast below'⟩

/-- From a tenth of a thousandth on the six digits are written with a point, and an exponent is written
below. -/
lemma positional_iff : (-4 < (sixDigits b).point && (sixDigits b).point ≤ 6) = true ↔ 100 ≤ N := by
  have ten : (1 : ℚ) < 10 := by norm_num
  have minute := h.lt_minute
  have positive := h.pos
  obtain ⟨M, hM, hsame, above, below⟩ := h.exists_value_sixDigits
  have counts := (lastCount_bounds N).2
  have small : N < 1000000 → M = N := fun hN => hsame.mpr (by simp [lastCount, hN])
  have hpos : 0 < M := by omega
  obtain ⟨low, high⟩ := point_bounds hM hpos
  rw [Bool.and_eq_true, decide_eq_true_eq, decide_eq_true_eq]
  constructor
  · rintro ⟨hpoint, -⟩
    by_contra hN
    have cast : (M : ℚ) ≤ 99 := by exact_mod_cast (by omega : M ≤ 99)
    have tiny : (10 : ℚ) ^ ((sixDigits b).point - 1) < 10 ^ (-4 : Int) := by
      refine low.trans_lt ?_
      norm_num
      linarith
    have := (zpow_lt_zpow_iff_right₀ ten).mp tiny
    omega
  · intro hN
    have low' : (100 : ℚ) ≤ M := by exact_mod_cast (by omega : 100 ≤ M)
    have high' : (M : ℚ) ≤ 60000100 := by exact_mod_cast (by omega : M ≤ 60000100)
    have above : (10 : ℚ) ^ (-4 : Int) < 10 ^ (sixDigits b).point := by
      refine lt_of_le_of_lt ?_ high
      norm_num
      linarith
    have below : (10 : ℚ) ^ ((sixDigits b).point - 1) < 10 ^ (2 : Int) := by
      refine low.trans_lt ?_
      norm_num
      linarith
    have := (zpow_lt_zpow_iff_right₀ ten).mp above
    have := (zpow_lt_zpow_iff_right₀ ten).mp below
    omega

lemma significand_ne_zero : b.significand ≠ 0 := by
  intro hzero
  have positive : (0 : ℚ) < b.value := by
    refine lt_of_lt_of_le ?_ (h.lower h.pos)
    norm_num
  rw [Binary.value, hzero, Nat.cast_zero, zero_mul] at positive
  exact positive.false

lemma briefChars_of_le (hN : 100 ≤ N) : briefChars b = (sixDigits b).plain.chars := by
  unfold briefChars
  rw [if_neg h.significand_ne_zero]
  dsimp only
  rw [if_pos (h.positional_iff.mpr hN), positional_eq]

lemma mem_briefChars_of_lt (hN : N < 100) : 'e' ∈ briefChars b := by
  unfold briefChars
  rw [if_neg h.significand_ne_zero]
  dsimp only
  rw [if_neg (fun hpos => absurd (h.positional_iff.mp hpos) (Nat.not_le.mpr hN))]
  exact List.mem_append_right _ List.mem_cons_self

end Near
end Number

namespace Duration

open PlannerConfig.Number

lemma near_fractionalSeconds {s us : Nat} (hs : s < 60) (hus : us < 1000000) (hpos : 0 < us) :
    Near (fractionalSeconds s us) (s * 1000000 + us) where
  abs_le := by
    have part : (us / (1000000 : Nat) : ℚ) < 2 ^ (0 : Int) := by
      rw [div_lt_iff₀ (by norm_num)]
      norm_num
      exact_mod_cast hus
    obtain ⟨f, hf, near⟩ := Binary.exists_nearest (by decide : 0 < 1000000) (by decide) part
    have quotient : ((s * f.denominator + f.numerator : Nat) : ℚ) / f.denominator = s + f.value := by
      have hd : (f.denominator : ℚ) ≠ 0 := by exact_mod_cast f.denominator_pos.ne'
      rw [Binary.value_eq]
      push_cast
      field_simp
    have cast : (s : ℚ) ≤ 59 := by exact_mod_cast Nat.le_of_lt_succ hs
    obtain ⟨above, below⟩ := abs_sub_le_iff.mp near
    have whole : ((s * f.denominator + f.numerator : Nat) : ℚ) / f.denominator < 2 ^ (6 : Int) := by
      rw [quotient]
      norm_num at above part ⊢
      linarith
    obtain ⟨b, hb, near'⟩ := Binary.exists_nearest f.denominator_pos (by decide) whole
    have sum : fractionalSeconds s us = b := by
      unfold fractionalSeconds
      rw [hf]
      dsimp only [Option.getD_some]
      rw [hb]
      rfl
    rw [quotient] at near'
    rw [sum]
    have parts : (b.value - (s * 1000000 + us : Nat) / 1000000 : ℚ)
        = (b.value - (s + f.value)) + (f.value - us / (1000000 : Nat)) := by
      push_cast
      ring
    rw [parts]
    refine (abs_add_le _ _).trans ((add_le_add near' near).trans ?_)
    norm_num
  lt_minute := by omega
  not_whole := by omega

/-- A count that is written unless it is zero. -/
def nonzero? (n : Nat) : Option Nat := if n = 0 then none else some n

lemma nonzero?_eq_none_iff {n : Nat} : nonzero? n = none ↔ n = 0 := by simp [nonzero?]

@[simp] lemma getD_nonzero? (n : Nat) : (nonzero? n).getD 0 = n := by
  unfold nonzero?
  split
  · rename_i h
    exact h.symm
  · rfl

lemma isNumeral_of_mem_nonzero? {n : Nat} : ∀ ds ∈ (nonzero? n).map numeral, IsNumeral ds := by
  intro ds hds
  obtain ⟨k, -, rfl⟩ := Option.mem_map.mp hds
  exact isNumeral_numeral k

lemma toList_component (unit : String) (c : Char) (h : unit.toList = [c]) (n : Nat) :
    (component n unit).toList = countChars c ((nonzero? n).map numeral) := by
  unfold component nonzero?
  split
  · rfl
  · rw [String.toList_append, toList_toString, h]
    rfl

section seconds

/-- The seconds and microseconds of a text without an exponent. -/
def writtenSeconds (s us : Nat) : Option Plain :=
  if us = 0 then (nonzero? s).map fun n => ⟨numeral n, []⟩
  else some (sixDigits (fractionalSeconds s us)).plain

variable {s us : Nat}

lemma writtenSeconds_eq_none_iff : writtenSeconds s us = none ↔ us = 0 ∧ s = 0 := by
  unfold writtenSeconds
  split <;> simp_all [nonzero?_eq_none_iff]

lemma isWritten_writtenSeconds :
    ∀ x ∈ writtenSeconds s us, IsNumeral x.whole ∧ ∀ d ∈ x.fraction, d < 10 := by
  intro x hx
  unfold writtenSeconds at hx
  split at hx
  · obtain ⟨k, -, rfl⟩ := Option.mem_map.mp hx
    exact ⟨isNumeral_numeral k, fun d hd => absurd hd List.not_mem_nil⟩
  · cases hx
    exact Decimal.isNumeral_plain fun d => lt_ten_of_mem_sixDigits

variable (hs : s < 60) (hus : us < 1000000)
include hs hus

lemma toList_secondsText (h : us = 0 ∨ 100 ≤ s * 1000000 + us) :
    (secondsText s us).toList = decimalChars 's' (writtenSeconds s us) := by
  unfold secondsText writtenSeconds
  by_cases hzero : us = 0
  · rw [if_pos hzero, if_pos hzero, toList_component "s" 's' rfl]
    cases nonzero? s with
    | none => rfl
    | some n => simp [countChars, decimalChars, Plain.chars]
  · have near := near_fractionalSeconds hs hus (Nat.pos_of_ne_zero hzero)
    rw [if_neg hzero, if_neg hzero, String.toList_append, String.toList_ofList,
      near.briefChars_of_le (h.resolve_left hzero)]
    rfl

/-- What is read of the seconds, and when that is all. -/
lemma exists_secondsOf? : ∃ M, secondsOf? (writtenSeconds s us) = some M ∧
    (M = s * 1000000 + us ↔ us = 0 ∨ lastCount (s * 1000000 + us) ∣ s * 1000000 + us) := by
  unfold writtenSeconds
  by_cases hzero : us = 0
  · refine ⟨s * 1000000 + us, ?_, iff_of_true rfl (.inl hzero)⟩
    rw [if_pos hzero, hzero, Nat.add_zero]
    unfold nonzero?
    split
    · rename_i h
      rw [h]
      rfl
    · apply secondsOf?_eq
      · show natOfDigits (numeral s ++ []) * 1000000 = s * 1000000 * 1
        rw [List.append_nil, natOfDigits_numeral, Nat.mul_one]
      · omega
  · obtain ⟨M, hM, hsame, above, -⟩ :=
      (near_fractionalSeconds hs hus (Nat.pos_of_ne_zero hzero)).exists_value_sixDigits
    have count := (lastCount_bounds (s * 1000000 + us)).2
    refine ⟨M, ?_, hsame.trans (or_iff_right hzero).symm⟩
    rw [if_neg hzero]
    apply secondsOf?_eq
    · rw [← Decimal.value_plain, div_eq_div_iff _ (by norm_num)] at hM
      · exact_mod_cast hM
      · exact_mod_cast (Nat.pow_pos (by decide) : 0 < tenTo _).ne'
    · omega

end seconds

lemma parse_eq_ok_iff {raw : String} {d : Duration} :
    parse raw = .ok d ↔ (parse raw).toOption = some d := by
  cases parse raw <;> simp [Except.toOption]

lemma parse_text_zero : parse zero.text = .ok zero := by
  have text : zero.text = (Counts.ofSeconds 0).compactText := by
    rw [Counts.compactText_ofSeconds]
    rfl
  rw [parse_eq_ok_iff, text, Counts.toOption_parse_compactText, Counts.microseconds_ofSeconds]
  rfl

section text

variable (d : Duration)

/-- The microseconds of a duration without its sign and beyond its minutes. -/
def beyondMinutes : Nat := d.microseconds.natAbs % 60000000

/-- Whether six significant digits tell the seconds beyond the minutes, and that without an exponent. -/
def IsBrief : Prop :=
  100 ∣ d.beyondMinutes ∨ 100 ≤ d.beyondMinutes ∧
    (d.beyondMinutes < 1000000 ∨ d.beyondMinutes < 10000000 ∧ 10 ∣ d.beyondMinutes)

instance : Decidable d.IsBrief := inferInstanceAs (Decidable (_ ∨ _))

/-- The parts of the text of a duration other than zero. -/
def written : Components :=
  let n := d.microseconds.natAbs
  let seconds := n / 1000000
  { negative := decide (d.microseconds < 0)
    days := (nonzero? (seconds / 86400)).map numeral
    hours := (nonzero? (seconds % 86400 / 3600)).map numeral
    minutes := (nonzero? (seconds % 3600 / 60)).map numeral
    seconds := writtenSeconds (seconds % 60) (n % 1000000) }

lemma isWritten_written : d.written.IsWritten :=
  ⟨isNumeral_of_mem_nonzero?, isNumeral_of_mem_nonzero?, isNumeral_of_mem_nonzero?,
    isWritten_writtenSeconds⟩

/-- The microseconds beyond the minutes are those of the seconds and of their fraction. -/
lemma beyondMinutes_eq : d.microseconds.natAbs / 1000000 % 60 * 1000000
    + d.microseconds.natAbs % 1000000 = d.beyondMinutes := by
  unfold beyondMinutes
  omega

lemma isBrief_iff : d.IsBrief ↔ d.microseconds.natAbs % 1000000 = 0 ∨
    100 ≤ d.beyondMinutes ∧ lastCount d.beyondMinutes ∣ d.beyondMinutes := by
  have parts := d.beyondMinutes_eq
  have small : d.microseconds.natAbs % 1000000 < 1000000 := Nat.mod_lt _ (by decide)
  unfold IsBrief lastCount
  split_ifs <;> omega

variable {d} (hd : d.microseconds ≠ 0)
include hd

lemma isEmpty_written : d.written.isEmpty = false := by
  rw [← Bool.not_eq_true]
  intro hempty
  simp only [written, Components.isEmpty, Bool.and_eq_true, Option.isNone_map, Option.isNone_iff_eq_none,
    nonzero?_eq_none_iff, writtenSeconds_eq_none_iff] at hempty
  omega

lemma toList_text (h : d.microseconds.natAbs % 1000000 = 0 ∨ 100 ≤ d.beyondMinutes) :
    d.text.toList = d.written.compactChars := by
  have beyond : d.microseconds.natAbs / 1000000 % 60 < 60 := Nat.mod_lt _ (by decide)
  have below : d.microseconds.natAbs % 1000000 < 1000000 := Nat.mod_lt _ (by decide)
  have seconds := toList_secondsText beyond below (by rwa [d.beyondMinutes_eq])
  have sign : (if d.microseconds < 0 then "-" else "").toList = d.written.signChars := by
    by_cases hn : d.microseconds < 0 <;> simp [written, Components.signChars, hn]
  unfold text
  rw [if_neg hd]
  dsimp only
  simp only [String.toList_append, seconds, sign, toList_component "d" 'd' rfl,
    toList_component "h" 'h' rfl, toList_component "m" 'm' rfl]
  simp [written, Components.compactChars, Components.partChars]

omit hd in
/-- The sum of the parts that are written and what is read of the seconds. -/
lemma standsFor_written {M : Nat} (hM : secondsOf? d.written.seconds = some M) :
    StandsFor d.written.found (d.microseconds.natAbs - d.beyondMinutes + M) := by
  have seconds : StandsFor ((secondsOf? d.written.seconds).map Nat.cast) M := by
    rw [hM]
    exact .exact (Int.natCast_nonneg M)
  have found : StandsFor d.written.found _ :=
    (((standsFor_countedOf (by decide) (nonzero? _)).add
      (standsFor_countedOf (by decide) (nonzero? _))).add
      (standsFor_countedOf (by decide) (nonzero? _))).add seconds
  have minutes : ∀ n rest : Nat, n % 60000000 = rest →
      ((n / 1000000 / 86400 : Nat) * day + (n / 1000000 % 86400 / 3600 : Nat) * hour
        + (n / 1000000 % 3600 / 60 : Nat) * minute : Int) = n - rest := by
    intro n rest hrest
    have minute_eq : minute = 60000000 := rfl
    have hour_eq : hour = 3600000000 := rfl
    have day_eq : day = 86400000000 := rfl
    rw [minute_eq, hour_eq, day_eq]
    omega
  simp only [getD_nonzero?] at found
  rwa [minutes _ d.beyondMinutes rfl] at found

/-- A text without an exponent reads back if all of its seconds are read. -/
lemma parse_text_eq_iff (h : d.microseconds.natAbs % 1000000 = 0 ∨ 100 ≤ d.beyondMinutes) {M : Nat}
    (hM : secondsOf? d.written.seconds = some M) : parse d.text = .ok d ↔ M = d.beyondMinutes := by
  have total := parse_of_compactChars d.isWritten_written (isEmpty_written hd) (toList_text hd h)
  have read := (standsFor_written hM).bind_ofMicroseconds? d.written.negative
  rw [← Components.toOption_total d.written d.text, ← total] at read
  have negative : d.written.negative = decide (d.microseconds < 0) := rfl
  rw [parse_eq_ok_iff, read, ofMicroseconds?_eq_some_iff, negative]
  by_cases hn : d.microseconds < 0
  · rw [if_pos (decide_eq_true hn)]
    omega
  · rw [if_neg (by simpa using hn)]
    omega

omit hd in
/-- A text with an exponent does not read back. -/
lemma parse_text_of_lt (hus : 0 < d.microseconds.natAbs % 1000000) (h : d.beyondMinutes < 100) :
    parse d.text = .error (.malformed d.text) := by
  have parts := d.beyondMinutes_eq
  have near := near_fractionalSeconds (s := d.microseconds.natAbs / 1000000 % 60)
    (Nat.mod_lt _ (by decide)) (Nat.mod_lt _ (by decide)) hus
  have mark : 'e' ∈ (secondsText (d.microseconds.natAbs / 1000000 % 60)
      (d.microseconds.natAbs % 1000000)).toList := by
    unfold secondsText
    rw [if_neg hus.ne', String.toList_append, String.toList_ofList]
    exact List.mem_append_left _ (near.mem_briefChars_of_lt (by omega))
  apply parse_of_mem_e
  unfold text
  rw [if_neg (by omega)]
  dsimp only
  rw [String.toList_append]
  exact List.mem_append_right _ mark

end text

/-- A duration reads back from its text exactly if its seconds beyond the minutes have no more than six
significant digits and need no exponent. -/
theorem parse_text_iff (d : Duration) : parse d.text = .ok d ↔ d.IsBrief := by
  by_cases hd : d.microseconds = 0
  · obtain ⟨n, least_le, le_greatest⟩ := d
    obtain rfl : n = 0 := hd
    exact iff_of_true parse_text_zero (by decide : zero.IsBrief)
  rw [isBrief_iff]
  by_cases h : d.microseconds.natAbs % 1000000 = 0 ∨ 100 ≤ d.beyondMinutes
  · have beyond : d.microseconds.natAbs / 1000000 % 60 < 60 := Nat.mod_lt _ (by decide)
    have below : d.microseconds.natAbs % 1000000 < 1000000 := Nat.mod_lt _ (by decide)
    obtain ⟨M, hM, hsame⟩ := exists_secondsOf? beyond below
    rw [beyondMinutes_eq] at hsame
    rw [parse_text_eq_iff hd h hM, hsame, or_and_left]
    exact (and_iff_right h).symm
  · rw [not_or, not_le] at h
    rw [parse_text_of_lt (Nat.pos_of_ne_zero h.1) h.2]
    refine iff_of_false (by simp) ?_
    omega

/-- The text of a microsecond is refused, and the text of a longer fraction is that of another duration. -/
theorem fractions_not_read_back :
    (({ microseconds := 1 } : Duration).text = "1e-06s"
      ∧ parse "1e-06s" = .error (.malformed "1e-06s"))
    ∧ ({ microseconds := 12345678 } : Duration).text = "12.3457s"
      ∧ parse "12.3457s" = .ok { microseconds := 12345700 } := by decide +kernel

end Duration
end PlannerConfig
