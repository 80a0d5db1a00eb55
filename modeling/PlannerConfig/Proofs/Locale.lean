import PlannerConfig.Locale
import PlannerConfig.Proofs.Text.Case
import PlannerConfig.Proofs.Text.OneLine
import PlannerConfig.Proofs.Text.Pieces

/-!
Locales and their text. What is read of a locale's text is the locale that was read before, unless it has a
variant without a country, or a country that ends in a blank and no variant.
-/
namespace PlannerConfig

open PlannerConfig.Text

namespace Text

lemma isLetter_of_isBlank {c : Char} (h : isBlank c = true) : isLetter c = false := by
  have code : c.toNat ∈ List.range' 9 5 ++ List.range' 28 5 ++ List.range' 0x2000 11
      ++ [0x85, 0xA0, 0x1680, 0x2028, 0x2029, 0x202F, 0x205F, 0x3000] := by
    simp only [isBlank, Bool.or_eq_true, Bool.and_eq_true, decide_eq_true_eq, beq_iff_eq] at h
    simp only [List.mem_append, List.mem_range'_1, List.mem_cons, List.not_mem_nil]
    omega
  have none : ∀ n ∈ List.range' 9 5 ++ List.range' 28 5 ++ List.range' 0x2000 11
      ++ [0x85, 0xA0, 0x1680, 0x2028, 0x2029, 0x202F, 0x205F, 0x3000],
      inRanges letterRanges n = false := by decide +kernel
  exact none _ code

/-- A letter is neither blank nor a separator. -/
lemma isLetter_spec {c : Char} (h : isLetter c = true) :
    isBlank c = false ∧ c ≠ '_' ∧ c ≠ '-' := by
  refine ⟨?_, ?_, ?_⟩
  · by_contra hblank
    rw [isLetter_of_isBlank (by simpa using hblank)] at h
    cases h
  · rintro rfl
    revert h
    decide +kernel
  · rintro rfl
    revert h
    decide +kernel

end Text

namespace Locale

/-- Characters without the separators of a locale's parts. -/
def NoSeparator (cs : List Char) : Prop := '_' ∉ cs ∧ '-' ∉ cs

/-- The parts that a text is cut into. -/
def parts (cs : List Char) : List (List Char) :=
  splitWhere (· == '_') (replaceChar '-' '_' (trimChars cs))

section parts

variable {language country variant part cs : List Char}

@[simp] lemma noSeparator_nil : NoSeparator [] := ⟨List.not_mem_nil, List.not_mem_nil⟩

lemma noSeparator_of_mem_parts (h : part ∈ parts cs) : NoSeparator part := by
  refine ⟨not_mem_of_mem_splitWhere rfl h, fun hc => ?_⟩
  obtain ⟨c, -, hc⟩ := List.mem_map.mp (of_mem_splitWhere h hc).1
  split at hc
  · exact absurd hc (by decide)
  · rename_i hne
    exact hne hc

/-- The last part ends as the trimmed text does. -/
lemma isBlank_of_parts (h : (parts cs).getLast? = some part) :
    ∀ c, part.getLast? = some c → isBlank c = false := by
  intro c hc
  obtain ⟨before, hbefore⟩ := suffix_of_splitWhere h
  have last : (replaceChar '-' '_' (trimChars cs)).getLast? = some c := by
    rw [← hbefore, List.getLast?_append, hc]
    rfl
  rw [replaceChar, List.getLast?_map] at last
  obtain ⟨d, hd, rfl⟩ := Option.map_eq_some_iff.mp last
  split
  · decide
  · exact getLast?_trimWhere hd

lemma NoSeparator.of_subset (h : NoSeparator cs) (hsub : ∀ c ∈ part, c ∈ cs) : NoSeparator part :=
  ⟨fun hc => h.1 (hsub _ hc), fun hc => h.2 (hsub _ hc)⟩

lemma NoSeparator.trimEnd (h : NoSeparator cs) : NoSeparator (trimEnd cs) :=
  h.of_subset fun _ => mem_of_mem_trimEnd

lemma NoSeparator.forall_ne (h : NoSeparator cs) : ∀ c ∈ cs, (c == '_') = false := by
  intro c hc
  rw [beq_eq_false_iff_ne]
  rintro rfl
  exact h.1 hc

lemma replaceChar_eq_self (h : '-' ∉ cs) : replaceChar '-' '_' cs = cs := by
  conv_rhs => rw [← List.map_id cs]
  refine List.map_congr_left fun c hc => if_neg ?_
  rintro rfl
  exact h hc

section word

variable {word x : List Char}

/-- Nothing is trimmed in front of letters. -/
lemma trimChars_append (h : ∀ c ∈ word, isLetter c = true) (hne : word ≠ []) :
    trimChars (word ++ x) = word ++ trimEnd x := by
  obtain ⟨first, more, rfl⟩ := List.exists_cons_of_ne_nil hne
  have front : trimChars (first :: more ++ x) = trimEnd (first :: more ++ x) :=
    trimWhere_cons (isLetter_spec (h first List.mem_cons_self)).1
  obtain hnil | ⟨init, last, hlast⟩ := (first :: more).eq_nil_or_concat'
  · exact absurd hnil hne
  · have stays : isBlank last = false := (isLetter_spec (h last (by simp [hlast]))).1
    rw [front, hlast, List.append_assoc, List.append_assoc]
    exact trimEndWhere_append_cons stays

lemma noSeparator_of_letters (h : ∀ c ∈ word, isLetter c = true) : NoSeparator word :=
  ⟨fun hc => (isLetter_spec (h _ hc)).2.1 rfl, fun hc => (isLetter_spec (h _ hc)).2.2 rfl⟩

lemma parts_word (h : ∀ c ∈ word, isLetter c = true) (hne : word ≠ []) : parts word = [word] := by
  have plain := noSeparator_of_letters h
  have trimmed : trimChars word = word := by
    simpa [trimEnd, trimEndWhere] using trimChars_append (x := []) h hne
  rw [parts, trimmed, replaceChar_eq_self plain.2, splitWhere_of_forall plain.forall_ne]

/-- The parts after letters and a separator. -/
lemma parts_word_append (h : ∀ c ∈ word, isLetter c = true) (hne : word ≠ []) :
    parts (word ++ '_' :: x)
      = word :: splitWhere (· == '_') (replaceChar '-' '_' (trimEnd x)) := by
  have plain := noSeparator_of_letters h
  have trimmed : trimChars (word ++ '_' :: x) = word ++ '_' :: trimEnd x := by
    rw [trimChars_append h hne]
    exact congrArg (word ++ ·) (@trimEndWhere_append_cons isBlank '_' [] x (by decide))
  have joined : replaceChar '-' '_' (word ++ '_' :: trimEnd x)
      = word ++ '_' :: replaceChar '-' '_' (trimEnd x) := by
    conv_rhs => rw [← replaceChar_eq_self plain.2]
    simp [replaceChar]
  rw [parts, trimmed, joined, splitWhere_append_cons plain.forall_ne rfl]

end word

end parts

section parse

variable {s language country variant : String} {l : Locale} {a b c : List Char}

lemma ofParts_eq_ok : ofParts language country variant = .ok l ↔
    isLanguageCode (lower language).toList = true
      ∧ (⟨lower language, upper country, variant⟩ : Locale) = l := by
  unfold ofParts
  dsimp only
  split
  · rename_i h
    simp [h, pure, Except.pure]
  · rename_i h
    simp [h, throw, throwThe, MonadExceptOf.throw]

lemma parse_of_one (h : parts s.toList = [a]) : parse s = ofParts (.ofList a) := by
  rw [parse, show splitWhere _ _ = [a] from h]
  rfl

lemma parse_of_two (h : parts s.toList = [a, b]) :
    parse s = ofParts (.ofList a) (.ofList b) := by
  rw [parse, show splitWhere _ _ = [a, b] from h]
  rfl

lemma parse_of_three (h : parts s.toList = [a, b, c]) :
    parse s = ofParts (.ofList a) (.ofList b) (.ofList c) := by
  rw [parse, show splitWhere _ _ = [a, b, c] from h]
  rfl

/-- What is known of a locale that is read. -/
structure Settled (l : Locale) : Prop where
  code : isLanguageCode l.language.toList = true
  lower : lower l.language = l.language
  upper : ∀ c ∈ l.country.toList, upperChar c = [c]
  country : NoSeparator l.country.toList
  variant : NoSeparator l.variant.toList
  ends : ∀ c, l.variant.toList.getLast? = some c → isBlank c = false

lemma settled_of_ofParts (h : ofParts language country variant = .ok l)
    (hcountry : NoSeparator country.toList) (hvariant : NoSeparator variant.toList)
    (hends : ∀ c, variant.toList.getLast? = some c → isBlank c = false) : l.Settled := by
  obtain ⟨hcode, rfl⟩ := ofParts_eq_ok.mp h
  have fixed : (upper country).toList = upperChars country.toList := by simp [Text.upper]
  refine ⟨hcode, lower_lower language, fun c hc => ?_, ⟨fun hc => ?_, fun hc => ?_⟩, hvariant, hends⟩
  · exact upperChar_of_mem (fixed ▸ hc)
  · exact hcountry.1 (mem_of_mem_upperChars (by simp) (fixed ▸ hc))
  · exact hcountry.2 (mem_of_mem_upperChars (by simp) (fixed ▸ hc))

lemma settled_of_parse (h : parse s = .ok l) : l.Settled := by
  have plain : ∀ part ∈ parts s.toList, NoSeparator part := fun part => noSeparator_of_mem_parts
  have ends : ∀ part, (parts s.toList).getLast? = some part → _ := fun part => isBlank_of_parts
  match hparts : parts s.toList with
  | [] => exact absurd hparts (splitWhere_ne_nil _ _)
  | [a] =>
    rw [parse_of_one hparts] at h
    exact settled_of_ofParts h noSeparator_nil noSeparator_nil (by simp)
  | [a, b] =>
    rw [parse_of_two hparts] at h
    exact settled_of_ofParts h (by simpa using plain b (by simp [hparts])) noSeparator_nil (by simp)
  | [a, b, c] =>
    rw [parse_of_three hparts] at h
    exact settled_of_ofParts h (by simpa using plain b (by simp [hparts]))
      (by simpa using plain c (by simp [hparts])) (by simpa using ends c (by simp [hparts]))
  | a :: b :: c :: d :: rest =>
    rw [parse, show splitWhere _ _ = a :: b :: c :: d :: rest from hparts] at h
    cases h

/-- Letters of a language that is in lower case are read as that language. -/
lemma ofParts_language (h : l.Settled) : ofParts l.language country variant
    = .ok ⟨l.language, Text.upper country, variant⟩ :=
  ofParts_eq_ok.mpr ⟨h.lower.symm ▸ h.code, by rw [h.lower]⟩

lemma Settled.letters (h : l.Settled) :
    l.language.toList ≠ [] ∧ ∀ c ∈ l.language.toList, isLetter c = true := by
  have code := h.code
  simp only [isLanguageCode, Bool.and_eq_true, decide_eq_true_eq, List.all_eq_true] at code
  refine ⟨fun hnil => ?_, code.2⟩
  rw [hnil] at code
  simp at code

lemma Settled.upper_eq (h : l.Settled) (hsub : ∀ c ∈ a, c ∈ l.country.toList) :
    Text.upper (.ofList a) = .ofList a := by
  rw [Text.upper, String.toList_ofList]
  exact congrArg String.ofList (flatMap_eq_self fun c hc => h.upper c (hsub c hc))

lemma Settled.language_ne_empty (h : l.Settled) : l.language ≠ "" :=
  fun hempty => h.letters.1 (by rw [hempty]; rfl)

/-- What follows a language and one separator is read as the country, without the blanks at its end. -/
lemma Settled.parse_two (h : l.Settled) (hx : NoSeparator country.toList)
    (htext : l.text = l.language ++ "_" ++ country) :
    parse l.text = .ok ⟨l.language, Text.upper (.ofList (trimEnd country.toList)), ""⟩ := by
  have chars : l.text.toList = l.language.toList ++ '_' :: country.toList := by simp [htext]
  have last := hx.trimEnd
  have cut : parts l.text.toList = [l.language.toList, trimEnd country.toList] := by
    rw [chars, parts_word_append h.letters.2 h.letters.1, replaceChar_eq_self last.2,
      splitWhere_of_forall last.forall_ne]
  rw [parse_of_two cut, String.ofList_toList, ofParts_language h]

lemma Settled.parse_text_of_neither (h : l.Settled) (hcountry : l.country = "")
    (hvariant : l.variant = "") : parse l.text = .ok l := by
  have text : l.text = l.language := by
    simp [Locale.text, hcountry, hvariant, h.language_ne_empty]
  rw [text, parse_of_one (parts_word h.letters.2 h.letters.1), String.ofList_toList,
    ofParts_language h]
  congr 1
  cases l
  simp_all [Text.upper, upperChars]

/-- A country without a variant is read without the blanks at its end. -/
lemma Settled.parse_text_of_country (h : l.Settled) (hcountry : l.country ≠ "")
    (hvariant : l.variant = "") :
    parse l.text = .ok ⟨l.language, .ofList (trimEnd l.country.toList), ""⟩ := by
  have text : l.text = l.language ++ "_" ++ l.country := by
    simp [Locale.text, hcountry, hvariant, h.language_ne_empty]
  rw [h.parse_two h.country text, h.upper_eq fun _ => mem_of_mem_trimEnd]

/-- A variant without a country is read as a country. -/
lemma Settled.parse_text_of_variant (h : l.Settled) (hcountry : l.country = "")
    (hvariant : l.variant ≠ "") :
    parse l.text = .ok ⟨l.language, Text.upper l.variant, ""⟩ := by
  have text : l.text = l.language ++ "_" ++ l.variant := by
    simp [Locale.text, hcountry, hvariant, h.language_ne_empty]
  have trimmed : trimEnd l.variant.toList = l.variant.toList := trimEndWhere_eq_self_iff.mpr h.ends
  rw [h.parse_two h.variant text, trimmed, String.ofList_toList]

lemma Settled.parse_text_of_both (h : l.Settled) (hcountry : l.country ≠ "")
    (hvariant : l.variant ≠ "") : parse l.text = .ok l := by
  have chars : l.text.toList
      = l.language.toList ++ '_' :: (l.country.toList ++ '_' :: l.variant.toList) := by
    simp [Locale.text, hcountry, hvariant, h.language_ne_empty]
  have trimmed : trimEnd (l.country.toList ++ '_' :: l.variant.toList)
      = l.country.toList ++ '_' :: l.variant.toList := by
    refine (trimEndWhere_append_cons (by decide)).trans ?_
    rw [trimEndWhere_eq_self_iff.mpr h.ends]
  have cut : parts l.text.toList
      = [l.language.toList, l.country.toList, l.variant.toList] := by
    rw [chars, parts_word_append h.letters.2 h.letters.1, trimmed,
      replaceChar_eq_self (by simp [h.country.2, h.variant.2]),
      splitWhere_append_cons h.country.forall_ne rfl, splitWhere_of_forall h.variant.forall_ne]
  have country : Text.upper l.country = l.country := by
    simpa using h.upper_eq (a := l.country.toList) fun c hc => hc
  rw [parse_of_three cut]
  simp only [String.ofList_toList]
  rw [ofParts_language h, country]

end parse

/-- Every locale that is read has a text that is read again, in the same language. It is read as the locale
itself unless the locale has a variant without a country, which is read as the country then, or no
variant after a country that ends in a blank. -/
theorem reads_back_iff {s : String} {l : Locale} (h : parse s = .ok l) :
    (∃ again, parse l.text = .ok again ∧ again.language = l.language)
      ∧ (parse l.text = .ok l ↔ (l.variant ≠ "" → l.country ≠ "")
        ∧ (l.variant = "" → ∀ c, l.country.toList.getLast? = some c → isBlank c = false)) := by
  have settled := settled_of_parse h
  -- one case for each pattern of empty parts, since the text leaves them out
  by_cases hvariant : l.variant = "" <;> by_cases hcountry : l.country = ""
  · have reads := settled.parse_text_of_neither hcountry hvariant
    exact ⟨⟨l, reads, rfl⟩, by simp [reads, hvariant, hcountry]⟩
  · have reads := settled.parse_text_of_country hcountry hvariant
    refine ⟨⟨_, reads, rfl⟩, ?_⟩
    rw [reads, ← trimEndWhere_eq_self_iff]
    constructor
    · intro heq
      have country : String.ofList (trimEnd l.country.toList) = l.country :=
        congrArg Locale.country (Except.ok.inj heq)
      refine ⟨fun h => absurd hvariant h, fun _ => ?_⟩
      exact (String.toList_ofList).symm.trans (congrArg String.toList country)
    · rintro ⟨-, trimmed⟩
      rw [show trimEnd l.country.toList = _ from trimmed hvariant, String.ofList_toList, ← hvariant]
  · have reads := settled.parse_text_of_variant hcountry hvariant
    refine ⟨⟨_, reads, rfl⟩, ?_⟩
    constructor
    · intro heq
      rw [reads] at heq
      exact absurd (congrArg Locale.variant (Except.ok.inj heq)).symm hvariant
    · rintro ⟨hboth, -⟩
      exact absurd hcountry (hboth hvariant)
  · have reads := settled.parse_text_of_both hcountry hvariant
    exact ⟨⟨l, reads, rfl⟩, by simp [reads, hvariant, hcountry]⟩

theorem reads_back_iff_three_parts : parse " NO-no_Ny" = .ok ⟨"no", "NO", "Ny"⟩
    ∧ parse (text ⟨"no", "NO", "Ny"⟩) = .ok ⟨"no", "NO", "Ny"⟩ := by
  have read : parse " NO-no_Ny" = .ok ⟨"no", "NO", "Ny"⟩ := by decide +kernel
  exact ⟨read, (reads_back_iff read).2.mpr (by decide +kernel)⟩

/-- A variant without a country moves into the place of the country, and a country loses its last blank. -/
theorem parts_not_read_back :
    (parse "en__POSIX" = .ok ⟨"en", "", "POSIX"⟩ ∧ text ⟨"en", "", "POSIX"⟩ = "en_POSIX"
      ∧ parse "en_POSIX" = .ok ⟨"en", "POSIX", ""⟩)
    ∧ parse "en_US _" = .ok ⟨"en", "US ", ""⟩ ∧ text ⟨"en", "US ", ""⟩ = "en_US "
      ∧ parse "en_US " = .ok ⟨"en", "US", ""⟩ := by decide +kernel

end Locale
end PlannerConfig
