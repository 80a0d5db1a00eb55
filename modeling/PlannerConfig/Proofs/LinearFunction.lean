import PlannerConfig.LinearFunction
import PlannerConfig.Proofs.Duration.Notation
import PlannerConfig.Proofs.Number.Brief

/-!
Linear functions and their text. Both parts are written with six significant digits, and an exponent that is
written is not read, so a function reads back exactly if both of its parts are brief.
-/
namespace PlannerConfig

open PlannerConfig.Text PlannerConfig.Number

namespace LinearFunction

section reading

variable {cs rest : List Char} {c : Char} {x : Float} {p : Plain}

/-- What belongs to no part of a linear function. -/
structure IsForeign (c : Char) : Prop where
  no_digit : digitValue? c = none
  not_blank : isBlank c = false
  not_mem : c ∉ ['-', '+', '.', 'x']

lemma IsForeign.mem_term? (hc : IsForeign c) (h : c ∈ cs) (hx : term? cs = some (x, rest)) :
    c ∈ rest := by
  have other := hc.not_mem
  simp only [List.mem_cons, List.not_mem_nil, or_false, not_or] at other
  obtain ⟨hminus, hplus, hpoint, -⟩ := other
  obtain ⟨⟨p, tail⟩, hp, heq⟩ := Option.map_eq_some_iff.mp hx
  obtain ⟨-, rfl⟩ := Prod.mk.inj heq
  exact mem_plain? hc.no_digit hpoint
    (mem_optionalSign hminus hplus (mem_dropWhile hc.not_blank h)) hp

/-- A text with a character that belongs to no part is no linear function. -/
lemma IsForeign.ofChars?_eq_none (hc : IsForeign c) (h : c ∈ cs) : ofChars? cs = none := by
  have other := hc.not_mem
  simp only [List.mem_cons, List.not_mem_nil, or_false, not_or] at other
  obtain ⟨-, hplus, -, hx⟩ := other
  by_contra hne
  obtain ⟨f, hf⟩ := Option.ne_none_iff_exists'.mp hne
  unfold ofChars? at hf
  obtain ⟨⟨constant, rest⟩, hconstant, hf⟩ := Option.bind_eq_some_iff.mp hf
  have left := mem_dropWhile hc.not_blank (hc.mem_term? h hconstant)
  dsimp only at hf
  split at hf
  · rename_i hrest
    rw [hrest] at left
    obtain ⟨⟨coefficient, tail⟩, hcoefficient, hf⟩ := Option.bind_eq_some_iff.mp hf
    have more := mem_dropWhile hc.not_blank
      (hc.mem_term? ((List.mem_cons.mp left).resolve_left hplus) hcoefficient)
    dsimp only at hf
    split at hf
    · rename_i htail
      rw [htail] at more
      split at hf
      · rename_i hblank
        have := List.all_eq_true.mp hblank c ((List.mem_cons.mp more).resolve_left hx)
        rw [hc.not_blank] at this
        cases this
      · cases hf
    · cases hf
  · cases hf

lemma isForeign_e : IsForeign 'e' := ⟨rfl, rfl, by decide⟩

lemma isForeign_n : IsForeign 'n' := ⟨rfl, rfl, by decide⟩

lemma term?_blank (cs : List Char) : term? (' ' :: cs) = term? cs := rfl

/-- A decimal with its sign is read up to what does not go on with it. -/
lemma term?_chars (hw : IsNumeral p.whole) (hf : ∀ d ∈ p.fraction, d < 10) (hc : digitValue? c = none)
    (hpoint : c ≠ '.') (negative : Bool) (rest : List Char) :
    term? (withSign negative p.chars ++ c :: rest) = some (p.toFloat negative, c :: rest) := by
  have read : plain? (p.chars ++ c :: rest) = some (p, c :: rest) :=
    plain?_of_strictPlain? (strictPlain?_chars hw hf hc hpoint rest) fun tail heq =>
      hpoint (List.cons.inj heq).1
  obtain ⟨d, ds, hwhole⟩ := List.exists_cons_of_ne_nil hw.ne_nil
  obtain ⟨tail, htail⟩ : ∃ tail, p.chars ++ c :: rest = Char.ofNat (48 + d) :: tail := by
    rw [Plain.chars, hwhole]
    exact ⟨_, rfl⟩
  have hd : d < 10 := hw.lt_ten d (hwhole ▸ List.mem_cons_self)
  have sign : optionalSign ((withSign negative p.chars ++ c :: rest).dropWhile isBlank)
      = (negative, p.chars ++ c :: rest) := by
    cases negative
    · show optionalSign ((p.chars ++ c :: rest).dropWhile isBlank) = _
      rw [htail]
      interval_cases d <;> rfl
    · rfl
  unfold term?
  rw [sign]
  dsimp only
  rw [read]
  rfl

end reading

section text

variable {f : LinearFunction} {p q : Plain} {negative negative' : Bool}

lemma toList_text (f : LinearFunction) : f.text.toList = (briefText f.constant).toList
    ++ ' ' :: '+' :: ' ' :: ((briefText f.coefficient).toList ++ [' ', 'x']) := by
  simp [text]

/-- Two decimals that are written are read as they are. -/
lemma parse?_text_of_plain (hp : plainOf? f.constant = some (negative, p))
    (hq : plainOf? f.coefficient = some (negative', q)) :
    parse? f.text = some ⟨p.toFloat negative, q.toFloat negative'⟩ := by
  obtain ⟨constant, hw, hf⟩ := toList_briefText hp
  obtain ⟨coefficient, hw', hf'⟩ := toList_briefText hq
  have first := term?_chars hw hf (by rfl : digitValue? ' ' = none) (by decide) negative
  have second := term?_chars hw' hf' (by rfl : digitValue? ' ' = none) (by decide) negative'
  rw [parse?, toList_text, constant, coefficient, ofChars?, first]
  show (term? (' ' :: _)).bind _ = _
  rw [term?_blank, second]
  rfl

lemma parse?_text_of_none (h : plainOf? f.constant = none ∨ plainOf? f.coefficient = none) :
    parse? f.text = none := by
  obtain ⟨c, hc, hmem⟩ : ∃ c ∈ ['e', 'n'], c ∈ f.text.toList := by
    rw [toList_text]
    rcases h with h | h
    · obtain ⟨c, hc, hmem⟩ := exists_mem_briefText h
      exact ⟨c, hc, List.mem_append_left _ hmem⟩
    · obtain ⟨c, hc, hmem⟩ := exists_mem_briefText h
      exact ⟨c, hc, by simp [hmem]⟩
  have foreign : IsForeign c := by
    simp only [List.mem_cons, List.not_mem_nil, or_false] at hc
    rcases hc with rfl | rfl
    · exact isForeign_e
    · exact isForeign_n
  exact foreign.ofChars?_eq_none hmem

end text

/-- A linear function reads back from its text exactly if each of its parts is nearest to a decimal of at most
six digits that needs no exponent. -/
theorem parse?_text_iff (f : LinearFunction) :
    parse? f.text = some f ↔ IsBrief f.constant ∧ IsBrief f.coefficient := by
  rw [← exists_plainOf?_iff, ← exists_plainOf?_iff]
  constructor
  · intro h
    cases hp : plainOf? f.constant with
    | none => cases h.symm.trans (parse?_text_of_none (.inl hp))
    | some sp =>
      cases hq : plainOf? f.coefficient with
      | none => cases h.symm.trans (parse?_text_of_none (.inr hq))
      | some sq =>
        have same := Option.some.inj ((parse?_text_of_plain hp hq).symm.trans h)
        exact ⟨⟨_, _, rfl, congrArg constant same⟩, _, _, rfl, congrArg coefficient same⟩
  · rintro ⟨⟨negative, p, hp, hconstant⟩, negative', q, hq, hcoefficient⟩
    rw [parse?_text_of_plain hp hq, hconstant, hcoefficient]

/-- The text of a million is refused, and the text of seven digits is that of another function. -/
theorem numbers_not_read_back :
    (isFinite (floatOfQuotient false 1000000 1) = true ∧ isFinite (floatOfQuotient false 1 1) = true
      ∧ text ⟨floatOfQuotient false 1000000 1, floatOfQuotient false 1 1⟩ = "1e+06 + 1 x"
      ∧ parse? "1e+06 + 1 x" = none)
    ∧ isFinite (floatOfQuotient false 1234567 10000) = true
      ∧ text ⟨floatOfQuotient false 1234567 10000, floatOfQuotient false 1 1⟩ = "123.457 + 1 x"
      ∧ parse? "123.457 + 1 x" = some ⟨floatOfQuotient false 123457 1000, floatOfQuotient false 1 1⟩
      ∧ floatOfQuotient false 1234567 10000 ≠ floatOfQuotient false 123457 1000 := by decide +kernel

end LinearFunction
end PlannerConfig
