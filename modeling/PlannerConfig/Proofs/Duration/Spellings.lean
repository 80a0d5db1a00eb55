import PlannerConfig.Proofs.Duration.Notation
import PlannerConfig.Proofs.Duration.Seconds

/-!
Whole days, hours, minutes and seconds in all the ways to write them. Whichever is chosen, what is read is
the duration of their sum, and nothing is read if there is no such duration.
-/
namespace PlannerConfig

open PlannerConfig.Text

namespace Number

lemma toList_toString_int (n : Int) :
    (toString n).toList = (if n < 0 then ['-'] else []) ++ digitChars (numeral n.natAbs) := by
  cases n with
  | ofNat k =>
    have nonneg : ¬ Int.ofNat k < 0 := Int.not_lt.mpr (Int.natCast_nonneg k)
    rw [if_neg nonneg]
    exact toList_toString k
  | negSucc k =>
    rw [if_pos (Int.negSucc_lt_zero k)]
    show ("-" ++ toString (k + 1)).toList = _
    rw [String.toList_append, toList_toString]
    rfl

lemma optionalSign_digitChars {ds : List Nat} (h : ∀ d ∈ ds, d < 10) :
    optionalSign (digitChars ds) = (false, digitChars ds) := by
  have unsigned : ∀ c ∈ digitChars ds, c ≠ '-' ∧ c ≠ '+' :=
    forall_mem_digitChars (fun d hd => by interval_cases d <;> decide) h
  unfold optionalSign
  split
  · rename_i heq
    exact absurd rfl (unsigned '-' (heq ▸ List.mem_cons_self)).1
  · rename_i heq
    exact absurd rfl (unsigned '+' (heq ▸ List.mem_cons_self)).2
  · rfl

/-- A numeral with its sign is read as it is. -/
lemma signedPlain?_digitChars {ds : List Nat} (h : IsNumeral ds) (negative : Bool) :
    signedPlain? ((if negative then ['-'] else []) ++ digitChars ds) = some (negative, ⟨ds, []⟩) := by
  have sign : optionalSign ((if negative then ['-'] else []) ++ digitChars ds)
      = (negative, digitChars ds) := by
    cases negative with
    | true => rfl
    | false => exact optionalSign_digitChars h.lt_ten
  have span : spanDigits (digitChars ds) = (ds, []) := by
    have whole : spanDigits (digitChars ds ++ []) = (ds, []) := spanDigits_digitChars h.lt_ten rfl
    rwa [List.append_nil] at whole
  have plain : plain? (digitChars ds) = some (⟨ds, []⟩, []) := by
    obtain ⟨d, ds, rfl⟩ := List.exists_cons_of_ne_nil h.ne_nil
    unfold plain?
    rw [span]
  unfold signedPlain?
  rw [sign]
  dsimp only
  rw [plain]

end Number

namespace Duration

open PlannerConfig.Number

/-- Days, hours, minutes and seconds of any size, as far as they are told; at least one of them is. -/
structure Counts where
  negative : Bool := false
  days : Option Nat := none
  hours : Option Nat := none
  minutes : Option Nat := none
  seconds : Option Nat := none
  isSome : (days.isSome || hours.isSome || minutes.isSome || seconds.isSome) = true := by rfl

namespace Counts

variable (c : Counts)

/-- The counts as they are written, without zeros in front. -/
def components : Components where
  negative := c.negative
  days := c.days.map numeral
  hours := c.hours.map numeral
  minutes := c.minutes.map numeral
  seconds := c.seconds.map fun n => ⟨numeral n, []⟩

/-- The counts in the compact notation. -/
def compactText : String := String.ofList c.components.compactChars

/-- The counts in the ISO notation. -/
def isoText : String := String.ofList c.components.isoChars

example : compactText { negative := true, days := some 1, seconds := some 40 } = "-1d40s" := by cbv

example : isoText { negative := true, days := some 1, seconds := some 40 } = "-P1DT40S" := by cbv

/-- The sum of the counts without the sign. -/
def size : Int :=
  (c.days.getD 0 : Nat) * day + (c.hours.getD 0 : Nat) * hour + (c.minutes.getD 0 : Nat) * minute
    + (c.seconds.getD 0 : Nat) * second

def microseconds : Int := if c.negative then -c.size else c.size

lemma isWritten_components : c.components.IsWritten := by
  have count : ∀ (n : Option Nat), ∀ ds ∈ n.map numeral, IsNumeral ds := by
    intro n ds hds
    obtain ⟨k, -, rfl⟩ := Option.mem_map.mp hds
    exact isNumeral_numeral k
  refine ⟨count _, count _, count _, fun x hx => ?_⟩
  obtain ⟨k, -, rfl⟩ := Option.mem_map.mp hx
  exact ⟨isNumeral_numeral k, fun d hd => absurd hd List.not_mem_nil⟩

lemma isEmpty_components : c.components.isEmpty = false := by
  obtain ⟨negative, days, hours, minutes, seconds, told⟩ := c
  unfold components Components.isEmpty
  simp only [Option.isNone_map]
  cases days <;> cases hours <;> cases minutes <;> cases seconds <;> simp_all

lemma standsFor_found : StandsFor c.components.found c.size :=
  (((standsFor_countedOf (by decide) c.days).add (standsFor_countedOf (by decide) c.hours)).add
    (standsFor_countedOf (by decide) c.minutes)).add (standsFor_secondsOf? c.seconds)

/-- What is written is read as the duration of the sum. -/
lemma toOption_total (raw : String) :
    (c.components.total raw).toOption = ofMicroseconds? c.microseconds := by
  rw [Components.toOption_total, c.standsFor_found.bind_ofMicroseconds?]
  rfl

lemma toOption_parse_compactText :
    (parse c.compactText).toOption = ofMicroseconds? c.microseconds := by
  have read : parse c.compactText = _ := parse_of_compactChars c.isWritten_components
    c.isEmpty_components String.toList_ofList
  rw [read, c.toOption_total]

lemma toOption_parse_isoText : (parse c.isoText).toOption = ofMicroseconds? c.microseconds := by
  have read : parse c.isoText = _ := parse_of_isoChars c.isWritten_components
    c.isEmpty_components String.toList_ofList
  rw [read, c.toOption_total]

/-- Nothing but seconds. -/
def ofSeconds (n : Int) : Counts where
  negative := decide (n < 0)
  seconds := some n.natAbs

lemma signed_natAbs (n k : Int) :
    (if decide (n < 0) then -(n.natAbs * k) else n.natAbs * k : Int) = n * k := by
  by_cases hn : n < 0
  · rw [if_pos (decide_eq_true hn), ← Int.neg_mul, Int.ofNat_natAbs_of_nonpos hn.le, Int.neg_neg]
  · rw [if_neg (by simpa using hn), Int.natAbs_of_nonneg (not_lt.mp hn)]

lemma microseconds_ofSeconds (n : Int) : (ofSeconds n).microseconds = n * second := by
  have size : (ofSeconds n).size = n.natAbs * second := by
    simp [ofSeconds, Counts.size]
  unfold microseconds
  rw [size]
  exact signed_natAbs n second

/-- The text of an integer with the unit is the compact notation of its seconds. -/
lemma compactText_ofSeconds (n : Int) : (ofSeconds n).compactText = toString n ++ "s" := by
  apply String.toList_injective
  rw [compactText, String.toList_ofList, String.toList_append, toList_toString_int]
  by_cases hn : n < 0 <;> simp [ofSeconds, components, Components.compactChars, Components.signChars,
    Components.partChars, countChars, decimalChars, Plain.chars, hn]

end Counts

section integers

variable (n : Int)

lemma toOption_read_int : (read (some (.int n))).toOption = ofMicroseconds? (n * second) := by
  unfold read
  dsimp only
  split
  · rename_i hd
    rw [hd]
    rfl
  · rename_i hnone
    rw [hnone]
    rfl

/-- A number that is read becomes a duration as seconds do. -/
lemma toOption_ofSeconds (raw : String) (x : Plain) (negative : Bool) :
    (ofSeconds raw (x.toDatum negative)).toOption
      = ((secondsOf? (some x)).map Nat.cast).bind fun n : Int =>
        ofMicroseconds? (if negative then -n else n) := by
  unfold Plain.toDatum secondsOf?
  dsimp only
  cases Binary.nearest x.numerator x.denominator with
  | none => rfl
  | some b =>
    show (ofSeconds raw (.finite negative b)).toOption = ofMicroseconds? (signed negative (microsecondsOf b))
    unfold ofSeconds
    dsimp only
    cases ofMicroseconds? (signed negative (microsecondsOf b)) <;> rfl

/-- The text of an integer is read as that many seconds. -/
lemma toOption_parse_toString : (parse (toString n)).toOption = ofMicroseconds? (n * second) := by
  have chars : (toString n).toList
      = (if decide (n < 0) then ['-'] else []) ++ digitChars (numeral n.natAbs) := by
    rw [toList_toString_int]
    simp
  have numeral_chars : ∀ c ∈ (toString n).toList, isBlank c = false := by
    rw [chars]
    intro c hc
    rcases List.mem_append.mp hc with hc | hc
    · split at hc
      · exact List.mem_singleton.mp hc ▸ rfl
      · cases hc
    · exact forall_mem_digitChars (P := fun c => isBlank c = false) isBlank_ofNat
        (isNumeral_numeral _).lt_ten c hc
  have read : parse (toString n)
      = ofSeconds (toString n) (Plain.toDatum (decide (n < 0)) ⟨numeral n.natAbs, []⟩) := by
    unfold parse
    dsimp only
    rw [trimChars_eq_self numeral_chars, chars, signedPlain?_digitChars (isNumeral_numeral _)]
  have seconds := standsFor_secondsOf? (some n.natAbs)
  rw [read, toOption_ofSeconds]
  refine (seconds.bind_ofMicroseconds? _).trans ?_
  rw [Option.getD_some, Counts.signed_natAbs]

end integers

/-- Counts of any size read the same in both notations, and so does an integer as a number, as a text
and in both notations: as the duration of exactly that size if there is one, and else as none. -/
theorem spellings_agree :
    (∀ c : Counts, (parse c.compactText).toOption = ofMicroseconds? c.microseconds
      ∧ (parse c.isoText).toOption = ofMicroseconds? c.microseconds)
    ∧ ∀ n : Int, (read (some (.int n))).toOption = ofMicroseconds? (n * second)
      ∧ (parse (toString n)).toOption = ofMicroseconds? (n * second)
      ∧ (parse (toString n ++ "s")).toOption = ofMicroseconds? (n * second)
      ∧ (parse (Counts.ofSeconds n).isoText).toOption = ofMicroseconds? (n * second) := by
  refine ⟨fun c => ⟨c.toOption_parse_compactText, c.toOption_parse_isoText⟩, fun n => ?_⟩
  refine ⟨toOption_read_int n, toOption_parse_toString n, ?_, ?_⟩
  · rw [← Counts.compactText_ofSeconds, Counts.toOption_parse_compactText,
      Counts.microseconds_ofSeconds]
  · rw [Counts.toOption_parse_isoText, Counts.microseconds_ofSeconds]

end Duration
end PlannerConfig
