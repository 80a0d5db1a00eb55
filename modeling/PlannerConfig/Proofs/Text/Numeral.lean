import Mathlib.Data.Nat.Digits.Lemmas
import PlannerConfig.Number.Numeral
import PlannerConfig.Number.Shortest

/-!
Decimal digits written and read: the digits of a number are those of its text, a run of digits reads
back as they are, and their number is the one they were made of.
-/
namespace PlannerConfig

open PlannerConfig.Text

namespace Text

lemma natOfDigits_eq (ds : List Nat) : natOfDigits ds = Nat.ofDigits 10 ds.reverse := by
  rw [Nat.ofDigits_eq_foldr, natOfDigits, List.foldr_reverse]
  simp only [Nat.cast_id, Nat.add_comm]

lemma natOfDigits_append (ds es : List Nat) :
    natOfDigits (ds ++ es) = natOfDigits ds * 10 ^ es.length + natOfDigits es := by
  rw [natOfDigits_eq, natOfDigits_eq, natOfDigits_eq, List.reverse_append, Nat.ofDigits_append,
    List.length_reverse, Nat.mul_comm, Nat.add_comm]

@[simp] lemma natOfDigits_nil : natOfDigits [] = 0 := rfl

@[simp] lemma natOfDigits_replicate_zero (k : Nat) : natOfDigits (List.replicate k 0) = 0 := by
  rw [natOfDigits_eq, List.reverse_replicate, Nat.ofDigits_replicate_zero]

end Text

namespace Number

/-- Digits that may be written, at least one of them. -/
structure IsNumeral (ds : List Nat) : Prop where
  ne_nil : ds ≠ []
  lt_ten : ∀ d ∈ ds, d < 10

section digitsOf

lemma go_eq {fuel n : Nat} (h : n ≤ fuel) (ds : List Nat) :
    digitsOf.go fuel n ds = (Nat.digits 10 n).reverse ++ ds := by
  induction fuel generalizing n ds with
  | zero =>
    obtain rfl : n = 0 := by omega
    rfl
  | succ fuel ih =>
    unfold digitsOf.go
    by_cases hn : n = 0
    · simp [hn]
    · have smaller : n / 10 ≤ fuel := by omega
      rw [if_neg hn, ih smaller, Nat.digits_def' (by decide) (Nat.pos_of_ne_zero hn)]
      simp

lemma digitsOf_eq (n : Nat) : digitsOf n = (Nat.digits 10 n).reverse := by
  rw [digitsOf, go_eq le_rfl, List.append_nil]

variable {n : Nat}

lemma lt_ten_of_mem_digitsOf {d : Nat} (h : d ∈ digitsOf n) : d < 10 := by
  rw [digitsOf_eq, List.mem_reverse] at h
  exact Nat.digits_lt_base (by decide) h

@[simp] lemma natOfDigits_digitsOf (n : Nat) : natOfDigits (digitsOf n) = n := by
  rw [natOfDigits_eq, digitsOf_eq, List.reverse_reverse, Nat.ofDigits_digits]

lemma lt_pow_length_digitsOf (n : Nat) : n < 10 ^ (digitsOf n).length := by
  rw [digitsOf_eq, List.length_reverse]
  exact Nat.lt_base_pow_length_digits (by decide)

lemma pow_length_digitsOf_le (hn : 0 < n) : 10 ^ (digitsOf n).length ≤ 10 * n := by
  rw [digitsOf_eq, List.length_reverse]
  exact Nat.base_pow_length_digits_le 10 n (by decide) hn.ne'

lemma digitsOf_ne_nil (hn : 0 < n) : digitsOf n ≠ [] := by
  rw [digitsOf_eq, ne_eq, List.reverse_eq_nil_iff]
  exact Nat.digits_ne_nil_iff_ne_zero.mpr hn.ne'

end digitsOf

/-- The digits of a number, with one zero for zero. -/
def numeral (n : Nat) : List Nat := if n = 0 then [0] else digitsOf n

section numeral

variable {n : Nat}

@[simp] lemma natOfDigits_numeral (n : Nat) : natOfDigits (numeral n) = n := by
  unfold numeral
  split
  · rename_i h
    rw [h]
    rfl
  · exact natOfDigits_digitsOf n

lemma isNumeral_numeral (n : Nat) : IsNumeral (numeral n) := by
  unfold numeral
  split
  · exact ⟨by simp, by simp⟩
  · rename_i h
    exact ⟨digitsOf_ne_nil (Nat.pos_of_ne_zero h), fun d hd => lt_ten_of_mem_digitsOf hd⟩

/-- There are no digits in front that say nothing, so many digits make a large number. -/
lemma pow_le_of_lt_length_numeral {k : Nat} (hk : 0 < k) (h : k < (numeral n).length) : 10 ^ k ≤ n := by
  unfold numeral at h
  split at h
  · simp at h
    omega
  · rename_i hn
    have size := pow_length_digitsOf_le (Nat.pos_of_ne_zero hn)
    have more : 10 ^ (k + 1) ≤ 10 ^ (digitsOf n).length := Nat.pow_le_pow_right (by decide) h
    rw [Nat.pow_succ] at more
    omega

lemma digitChars_append (ds es : List Nat) : digitChars (ds ++ es) = digitChars ds ++ digitChars es :=
  List.map_append

lemma digitChar_eq {d : Nat} (h : d < 10) : Nat.digitChar d = Char.ofNat (48 + d) := by
  interval_cases d <;> rfl

lemma toDigits_eq_digitChars (n : Nat) : Nat.toDigits 10 n = digitChars (numeral n) := by
  induction n using Nat.strong_induction_on with
  | _ n ih =>
    rw [Nat.toDigits_eq_if (by decide)]
    by_cases hn : n < 10
    · rw [if_pos hn, digitChar_eq hn]
      interval_cases n <;> rfl
    · have quotient : n / 10 ≠ 0 := by omega
      have digits : numeral n = numeral (n / 10) ++ [n % 10] := by
        have hpos : 0 < n := by omega
        rw [numeral, numeral, if_neg hpos.ne', if_neg quotient, digitsOf_eq, digitsOf_eq,
          Nat.digits_def' (by decide) hpos, List.reverse_cons]
      rw [if_neg hn, ih (n / 10) (by omega), digits, digitChars_append,
        digitChar_eq (Nat.mod_lt n (by decide))]
      rfl

lemma toList_toString (n : Nat) : (toString n).toList = digitChars (numeral n) := by
  show n.repr.toList = _
  rw [Nat.toList_repr, toDigits_eq_digitChars]

end numeral

/-- A digit that is written is the digit that is read. -/
lemma digitValue?_ofNat {d : Nat} (h : d < 10) : digitValue? (Char.ofNat (48 + d)) = some d := by
  interval_cases d <;> rfl

lemma spanDigits_of_digitValue? {c : Char} (h : digitValue? c = none) (rest : List Char) :
    spanDigits (c :: rest) = ([], c :: rest) := by
  rw [spanDigits, h]

/-- A run of digits is read up to what does not start with one. -/
lemma spanDigits_digitChars {ds : List Nat} (h : ∀ d ∈ ds, d < 10) {rest : List Char}
    (hrest : spanDigits rest = ([], rest)) : spanDigits (digitChars ds ++ rest) = (ds, rest) := by
  induction ds with
  | nil => exact hrest
  | cons d ds ih =>
    have tail : spanDigits (digitChars ds ++ rest) = (ds, rest) :=
      ih fun e he => h e (List.mem_cons_of_mem d he)
    show spanDigits (Char.ofNat (48 + d) :: (digitChars ds ++ rest)) = _
    rw [spanDigits, digitValue?_ofNat (h d List.mem_cons_self)]
    simp only [tail]

/-- What is no digit is not read among digits. -/
lemma mem_spanDigits {c : Char} (hc : digitValue? c = none) {cs : List Char} (h : c ∈ cs) :
    c ∈ (spanDigits cs).2 := by
  induction cs with
  | nil => cases h
  | cons a cs ih =>
    unfold spanDigits
    cases ha : digitValue? a with
    | none => exact h
    | some d =>
      rcases List.mem_cons.mp h with rfl | h
      · cases hc.symm.trans ha
      · exact ih h

/-- What holds of the ten digits holds of all characters of a numeral. -/
lemma forall_mem_digitChars {P : Char → Prop} (hP : ∀ d < 10, P (Char.ofNat (48 + d)))
    {ds : List Nat} (h : ∀ d ∈ ds, d < 10) : ∀ c ∈ digitChars ds, P c := by
  intro c hc
  obtain ⟨d, hd, rfl⟩ := List.mem_map.mp hc
  exact hP d (h d hd)

end Number
end PlannerConfig
