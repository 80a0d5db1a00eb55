import PlannerConfig.Duration.Reader
import PlannerConfig.Proofs.Number.SixDigits
import PlannerConfig.Proofs.Text.Pieces

/-!
The two notations of durations, written and read. Parts that are written read back as they are in either
notation, and a character that belongs to none of them is left over by each reader.
-/
namespace PlannerConfig

open PlannerConfig.Text PlannerConfig.Number

namespace Number

lemma mem_plain? {c : Char} (hc : digitValue? c = none) (hpoint : c ≠ '.') {cs rest : List Char}
    {x : Plain} (h : c ∈ cs) (hx : plain? cs = some (x, rest)) : c ∈ rest := by
  have left : c ∈ (spanDigits cs).2 := mem_spanDigits hc h
  unfold plain? at hx
  split at hx
  · cases hx
  · rename_i hspan
    rw [hspan] at left
    have more := (List.mem_cons.mp left).resolve_left hpoint
    cases hx
    exact mem_spanDigits hc more
  · rename_i hspan
    rw [hspan] at left
    cases hx
    exact left

lemma mem_strictPlain? {c : Char} (hc : digitValue? c = none) (hpoint : c ≠ '.') {cs rest : List Char}
    {x : Plain} (h : c ∈ cs) (hx : strictPlain? cs = some (x, rest)) : c ∈ rest := by
  have left : c ∈ (spanDigits cs).2 := mem_spanDigits hc h
  unfold strictPlain? at hx
  split at hx
  · cases hx
  · rename_i hspan
    rw [hspan] at left
    have more := mem_spanDigits hc ((List.mem_cons.mp left).resolve_left hpoint)
    split at hx
    · cases hx
      exact left
    · rename_i hmore
      rw [hmore] at more
      cases hx
      exact more
  · rename_i hspan
    rw [hspan] at left
    cases hx
    exact left

lemma mem_optionalSign {c : Char} (hminus : c ≠ '-') (hplus : c ≠ '+') {cs : List Char} (h : c ∈ cs) :
    c ∈ (optionalSign cs).2 := by
  unfold optionalSign
  split
  · exact (List.mem_cons.mp h).resolve_left hminus
  · exact (List.mem_cons.mp h).resolve_left hplus
  · exact h

/-- A text with anything but digits, signs and points is no number. -/
lemma signedPlain?_eq_none {c : Char} (hc : digitValue? c = none) (hother : c ∉ ['-', '+', '.'])
    {cs : List Char} (h : c ∈ cs) : signedPlain? cs = none := by
  simp only [List.mem_cons, List.not_mem_nil, or_false, not_or] at hother
  obtain ⟨hminus, hplus, hpoint⟩ := hother
  have left := mem_optionalSign hminus hplus h
  unfold signedPlain?
  dsimp only
  split
  · rename_i x hx
    exact absurd (mem_plain? hc hpoint left hx) List.not_mem_nil
  · rfl

/-- A plain decimal is read up to what does not go on with it. -/
lemma strictPlain?_chars {x : Plain} (hw : IsNumeral x.whole) (hf : ∀ d ∈ x.fraction, d < 10)
    {c : Char} (hc : digitValue? c = none) (hpoint : c ≠ '.') (rest : List Char) :
    strictPlain? (x.chars ++ c :: rest) = some (x, c :: rest) := by
  obtain ⟨whole, fraction⟩ := x
  have stop := spanDigits_of_digitValue? hc rest
  obtain ⟨d, ds, rfl⟩ := List.exists_cons_of_ne_nil hw.ne_nil
  unfold Plain.chars strictPlain?
  cases fraction with
  | nil =>
    have read := spanDigits_digitChars hw.lt_ten stop
    simp only [if_true, List.append_nil, read]
    split
    · rename_i heq
      cases heq
    · rename_i heq
      cases heq
      exact absurd rfl hpoint
    · rename_i heq
      cases heq
      rfl
  | cons e es =>
    have more := spanDigits_digitChars hf stop
    have point : spanDigits ('.' :: (digitChars (e :: es) ++ c :: rest))
        = ([], '.' :: (digitChars (e :: es) ++ c :: rest)) := spanDigits_of_digitValue? rfl _
    have read := spanDigits_digitChars hw.lt_ten point
    simp only [reduceCtorEq, if_false, List.append_assoc, List.cons_append, read, more]

/-- Both forms of a decimal are read alike if no point is left over. -/
lemma plain?_of_strictPlain? {cs rest : List Char} {x : Plain} (h : strictPlain? cs = some (x, rest))
    (hpoint : ∀ tail, rest ≠ '.' :: tail) : plain? cs = some (x, rest) := by
  unfold strictPlain? at h
  unfold plain?
  split at h
  · cases h
  · split at h
    · cases h
      exact absurd rfl (hpoint _)
    · rename_i hmore
      rw [hmore]
      exact h
  · exact h

end Number

namespace Duration

section taking

variable {isUnit : Char → Bool}

lemma takeCount_of_next {ds : List Nat} (h : ∀ d ∈ ds, d < 10) {c : Char}
    (hc : digitValue? c = none) (hunit : isUnit c = false) (rest : List Char) :
    takeCount isUnit (digitChars ds ++ c :: rest) = (none, digitChars ds ++ c :: rest) := by
  have read := spanDigits_digitChars h (spanDigits_of_digitValue? hc rest)
  unfold takeCount
  rw [read]
  cases ds <;> simp [hunit]

/-- Digits with a unit after them. -/
def countChars (unit : Char) : Option (List Nat) → List Char
  | none => []
  | some ds => digitChars ds ++ [unit]

/-- A plain decimal with a unit after it. -/
def decimalChars (unit : Char) : Option Plain → List Char
  | none => []
  | some x => x.chars ++ [unit]

/-- A count that is written is taken, and none is taken where none is written. -/
lemma takeCount_countChars {unit : Char} (hunit : isUnit unit = true) (hdigit : digitValue? unit = none)
    {count : Option (List Nat)} (h : ∀ ds ∈ count, IsNumeral ds) {rest : List Char}
    (hrest : takeCount isUnit rest = (none, rest)) :
    takeCount isUnit (countChars unit count ++ rest) = (count, rest) := by
  cases count with
  | none => exact hrest
  | some ds =>
    have numeral := h ds rfl
    have read := spanDigits_digitChars numeral.lt_ten (spanDigits_of_digitValue? hdigit rest)
    obtain ⟨d, ds, rfl⟩ := List.exists_cons_of_ne_nil numeral.ne_nil
    unfold takeCount countChars
    rw [List.append_assoc, List.singleton_append, read]
    simp [hunit]

/-- A count with another unit is not taken. -/
lemma takeCount_of_other {unit : Char} (hunit : isUnit unit = false) (hdigit : digitValue? unit = none)
    {count : Option (List Nat)} (h : ∀ ds ∈ count, IsNumeral ds) {rest : List Char}
    (hrest : takeCount isUnit rest = (none, rest)) :
    takeCount isUnit (countChars unit count ++ rest) = (none, countChars unit count ++ rest) := by
  cases count with
  | none => exact hrest
  | some ds =>
    unfold countChars
    rw [List.append_assoc, List.singleton_append]
    exact takeCount_of_next (h ds rfl).lt_ten hdigit hunit rest

lemma takeCount_decimalChars {unit : Char} (hunit : isUnit unit = false) (hpoint : isUnit '.' = false)
    (hdigit : digitValue? unit = none) {seconds : Option Plain}
    (h : ∀ x ∈ seconds, IsNumeral x.whole) :
    takeCount isUnit (decimalChars unit seconds) = (none, decimalChars unit seconds) := by
  cases seconds with
  | none => rfl
  | some x =>
    have digits := (h x rfl).lt_ten
    show takeCount isUnit (x.chars ++ [unit]) = (none, x.chars ++ [unit])
    unfold Plain.chars
    by_cases hf : x.fraction = []
    · rw [if_pos hf, List.append_nil]
      exact takeCount_of_next digits hdigit hunit []
    · rw [if_neg hf, List.append_assoc]
      exact takeCount_of_next digits rfl hpoint _

lemma takeDecimal_decimalChars {unit : Char} (hunit : isUnit unit = true)
    (hdigit : digitValue? unit = none) (hpoint : unit ≠ '.') {seconds : Option Plain}
    (h : ∀ x ∈ seconds, IsNumeral x.whole ∧ ∀ d ∈ x.fraction, d < 10) :
    takeDecimal isUnit (decimalChars unit seconds) = (seconds, []) := by
  cases seconds with
  | none => rfl
  | some x =>
    obtain ⟨hw, hf⟩ := h x rfl
    unfold takeDecimal decimalChars
    rw [strictPlain?_chars hw hf hdigit hpoint]
    simp [hunit]

variable {c : Char} (hc : digitValue? c = none) (hunit : isUnit c = false)
include hc hunit

lemma mem_takeCount {cs : List Char} (h : c ∈ cs) : c ∈ (takeCount isUnit cs).2 := by
  have left := mem_spanDigits hc h
  unfold takeCount
  split
  · exact h
  · rename_i ds a rest _ hspan
    split
    · rename_i ha
      rw [hspan] at left
      apply (List.mem_cons.mp left).resolve_left
      rintro rfl
      rw [hunit] at ha
      cases ha
    · exact h
  · exact h

lemma mem_takeDecimal (hpoint : c ≠ '.') {cs : List Char} (h : c ∈ cs) :
    c ∈ (takeDecimal isUnit cs).2 := by
  unfold takeDecimal
  split
  · rename_i hx
    have left := mem_strictPlain? hc hpoint h hx
    split
    · rename_i ha
      apply (List.mem_cons.mp left).resolve_left
      rintro rfl
      rw [hunit] at ha
      cases ha
    · exact h
  · exact h

end taking

/-- A text with a character of no duration is none in the compact notation. -/
lemma compact?_eq_none {c : Char} (hc : digitValue? c = none)
    (hother : c ∉ ['-', '.', 'd', 'h', 'm', 's']) {cs : List Char} (h : c ∈ cs) : compact? cs = none := by
  simp only [List.mem_cons, List.not_mem_nil, or_false, not_or] at hother
  obtain ⟨hminus, hpoint, hd, hh, hm, hs⟩ := hother
  have unread : ∀ ds : List Char, c ∈ ds →
      c ∈ (takeDecimal (· == 's') (takeCount (· == 'm') (takeCount (· == 'h')
        (takeCount (· == 'd') ds).2).2).2).2 := fun ds hds =>
    mem_takeDecimal hc (beq_false_of_ne hs :) hpoint <| mem_takeCount hc (beq_false_of_ne hm :) <|
      mem_takeCount hc (beq_false_of_ne hh :) <| mem_takeCount hc (beq_false_of_ne hd :) hds
  have left : ∀ ds : List Char, c ∈ ds → ds.isEmpty = false := by
    intro ds hds
    cases ds with
    | nil => cases hds
    | cons d ds => rfl
  unfold compact?
  split
  rename_i negative ds hsign
  have rest : c ∈ ds := by
    split at hsign
    · cases hsign
      exact (List.mem_cons.mp h).resolve_left hminus
    · cases hsign
      exact h
  dsimp only
  rw [left _ (unread ds rest)]
  rfl

/-- A text with a character of no duration is none in the ISO notation. -/
lemma iso?_eq_none_of_mem {c : Char} (hc : digitValue? c = none) (hother : c ∉ ['-', '+', '.'])
    (hletter : ∀ l ∈ ['P', 'D', 'T', 'H', 'M', 'S'], isIsoLetter l c = false) {cs : List Char}
    (h : c ∈ cs) : iso? cs = none := by
  simp only [List.mem_cons, List.not_mem_nil, or_false, not_or] at hother
  obtain ⟨hminus, hplus, hpoint⟩ := hother
  have other : ∀ l ∈ ['P', 'D', 'T', 'H', 'M', 'S'], ∀ a ds, isIsoLetter l a = true → c ∈ a :: ds →
      c ∈ ds := by
    intro l hl a ds ha hmem
    apply (List.mem_cons.mp hmem).resolve_left
    rintro rfl
    rw [hletter l hl] at ha
    cases ha
  have time : ∀ negative days ds, c ∈ ds → isoTime? negative days ds = none := by
    intro negative days ds hds
    cases ds with
    | nil => cases hds
    | cons a ds =>
      dsimp only [isoTime?]
      split
      · rename_i ha
        have noHours : c ∈ (takeCount (isIsoLetter 'H') ds).2 :=
          mem_takeCount hc (hletter 'H' (by simp)) (other 'T' (by simp) a ds ha hds)
        have noMinutes : c ∈ (takeCount (isIsoLetter 'M') (takeCount (isIsoLetter 'H') ds).2).2 :=
          mem_takeCount hc (hletter 'M' (by simp)) noHours
        have unread := mem_takeDecimal hc (hletter 'S' (by simp)) hpoint noMinutes
        rw [if_neg]
        rw [List.isEmpty_iff]
        exact List.ne_nil_of_mem unread
      · rfl
  have left := mem_optionalSign hminus hplus h
  unfold iso?
  split
  · rename_i negative a rest hsign
    rw [hsign] at left
    split
    · rename_i ha
      exact time _ _ _ (mem_takeCount hc (hletter 'D' (by simp)) (other 'P' (by simp) a rest ha left))
    · rfl
  · rfl

lemma iso?_eq_none {cs : List Char} (h : ∀ c ∈ cs, isIsoLetter 'P' c = false) : iso? cs = none := by
  have rest : ∀ c ∈ (optionalSign cs).2, isIsoLetter 'P' c = false := by
    intro c hc
    apply h
    unfold optionalSign at hc
    split at hc
    · exact List.mem_cons_of_mem _ hc
    · exact List.mem_cons_of_mem _ hc
    · exact hc
  unfold iso?
  split
  · rename_i negative c more hsign
    rw [hsign] at rest
    rw [rest c List.mem_cons_self]
    rfl
  · rfl

namespace Components

/-- The parts consist of digits, and there are digits wherever a part is. -/
structure IsWritten (c : Components) : Prop where
  days : ∀ ds ∈ c.days, IsNumeral ds
  hours : ∀ ds ∈ c.hours, IsNumeral ds
  minutes : ∀ ds ∈ c.minutes, IsNumeral ds
  seconds : ∀ x ∈ c.seconds, IsNumeral x.whole ∧ ∀ d ∈ x.fraction, d < 10

def signChars (c : Components) : List Char := if c.negative then ['-'] else []

/-- The parts one after the other, each with its unit. -/
def partChars (c : Components) : List Char :=
  countChars 'd' c.days ++ (countChars 'h' c.hours ++ (countChars 'm' c.minutes
    ++ decimalChars 's' c.seconds))

/-- The parts in the compact notation. -/
def compactChars (c : Components) : List Char := c.signChars ++ c.partChars

/-- The parts after the days in the ISO notation. -/
def isoTimeChars (c : Components) : List Char :=
  countChars 'H' c.hours ++ (countChars 'M' c.minutes ++ decimalChars 'S' c.seconds)

/-- The parts in the ISO notation; a `T` stands before the parts of a day only if there are any. -/
def isoChars (c : Components) : List Char :=
  c.signChars ++ 'P' :: (countChars 'D' c.days
    ++ if c.isoTimeChars = [] then [] else 'T' :: c.isoTimeChars)

variable {c : Components}

section forall_mem

variable {P : Char → Prop} (hdigit : ∀ d < 10, P (Char.ofNat (48 + d)))

lemma forall_mem_signChars (hminus : P '-') : ∀ x ∈ c.signChars, P x := by
  intro x hx
  unfold signChars at hx
  split at hx
  · exact List.mem_singleton.mp hx ▸ hminus
  · cases hx

include hdigit

lemma forall_mem_countChars {unit : Char} (hunit : P unit) {count : Option (List Nat)}
    (h : ∀ ds ∈ count, IsNumeral ds) : ∀ x ∈ countChars unit count, P x := by
  intro x hx
  cases count with
  | none => cases hx
  | some ds =>
    rcases List.mem_append.mp hx with hx | hx
    · exact forall_mem_digitChars hdigit (h ds rfl).lt_ten x hx
    · exact List.mem_singleton.mp hx ▸ hunit

lemma forall_mem_decimalChars {unit : Char} (hunit : P unit) (hpoint : P '.') {seconds : Option Plain}
    (h : ∀ y ∈ seconds, IsNumeral y.whole ∧ ∀ d ∈ y.fraction, d < 10) :
    ∀ x ∈ decimalChars unit seconds, P x := by
  intro x hx
  cases seconds with
  | none => cases hx
  | some y =>
    obtain ⟨hw, hf⟩ := h y rfl
    rcases List.mem_append.mp hx with hx | hx
    · rcases List.mem_append.mp hx with hx | hx
      · exact forall_mem_digitChars hdigit hw.lt_ten x hx
      · split at hx
        · cases hx
        · rcases List.mem_cons.mp hx with rfl | hx
          · exact hpoint
          · exact forall_mem_digitChars hdigit hf x hx
    · exact List.mem_singleton.mp hx ▸ hunit

/-- What holds of digits, points and units holds of all characters of the parts. -/
lemma forall_mem_partChars (hother : ∀ c ∈ ['.', 'd', 'h', 'm', 's'], P c) (h : c.IsWritten) :
    ∀ x ∈ c.partChars, P x := by
  intro x hx
  simp only [partChars, List.mem_append] at hx
  rcases hx with hx | hx | hx | hx
  · exact forall_mem_countChars hdigit (hother 'd' (by simp)) h.days x hx
  · exact forall_mem_countChars hdigit (hother 'h' (by simp)) h.hours x hx
  · exact forall_mem_countChars hdigit (hother 'm' (by simp)) h.minutes x hx
  · exact forall_mem_decimalChars hdigit (hother 's' (by simp)) (hother '.' (by simp)) h.seconds x hx

lemma forall_mem_compactChars (hother : ∀ c ∈ ['-', '.', 'd', 'h', 'm', 's'], P c) (h : c.IsWritten) :
    ∀ x ∈ c.compactChars, P x := by
  intro x hx
  rcases List.mem_append.mp hx with hx | hx
  · exact forall_mem_signChars (hother '-' (by simp)) x hx
  · exact forall_mem_partChars hdigit (fun c hc => hother c (List.mem_cons_of_mem _ hc)) h x hx

lemma forall_mem_isoChars (hother : ∀ c ∈ ['-', '.', 'P', 'T', 'D', 'H', 'M', 'S'], P c)
    (h : c.IsWritten) : ∀ x ∈ c.isoChars, P x := by
  have time : ∀ x ∈ c.isoTimeChars, P x := by
    intro x hx
    simp only [isoTimeChars, List.mem_append] at hx
    rcases hx with hx | hx | hx
    · exact forall_mem_countChars hdigit (hother 'H' (by simp)) h.hours x hx
    · exact forall_mem_countChars hdigit (hother 'M' (by simp)) h.minutes x hx
    · exact forall_mem_decimalChars hdigit (hother 'S' (by simp)) (hother '.' (by simp)) h.seconds x hx
  intro x hx
  rcases List.mem_append.mp hx with hx | hx
  · exact forall_mem_signChars (hother '-' (by simp)) x hx
  rcases List.mem_cons.mp hx with rfl | hx
  · exact hother 'P' (by simp)
  rcases List.mem_append.mp hx with hx | hx
  · exact forall_mem_countChars hdigit (hother 'D' (by simp)) h.days x hx
  split at hx
  · cases hx
  rcases List.mem_cons.mp hx with rfl | hx
  · exact hother 'T' (by simp)
  · exact time x hx

end forall_mem

/-- Parts in the compact notation are read as they are. -/
theorem compact?_compactChars (h : c.IsWritten) : compact? c.compactChars = some c := by
  have unsigned : ∀ x ∈ c.partChars, x ≠ '-' :=
    forall_mem_partChars (fun d hd => by interval_cases d <;> decide) (by simp) h
  have whole : ∀ x ∈ c.seconds, IsNumeral x.whole := fun x hx => (h.seconds x hx).1
  unfold compact?
  split
  rename_i negative cs hsign
  have sign : (negative, cs) = (c.negative, c.partChars) := by
    rw [← hsign]
    unfold compactChars signChars
    cases c.negative with
    | true => rfl
    | false =>
      split
      · rename_i rest hparts
        have minus : c.partChars = '-' :: rest := hparts
        exact absurd rfl (unsigned '-' (minus ▸ List.mem_cons_self))
      · rfl
  obtain ⟨rfl, rfl⟩ := Prod.mk.inj sign
  dsimp only [partChars]
  rw [takeCount_countChars rfl rfl h.days
    (takeCount_of_other rfl rfl h.hours
      (takeCount_of_other rfl rfl h.minutes (takeCount_decimalChars rfl rfl rfl whole)))]
  dsimp only
  rw [takeCount_countChars rfl rfl h.hours
    (takeCount_of_other rfl rfl h.minutes (takeCount_decimalChars rfl rfl rfl whole))]
  dsimp only
  rw [takeCount_countChars rfl rfl h.minutes (takeCount_decimalChars rfl rfl rfl whole)]
  dsimp only
  rw [takeDecimal_decimalChars rfl rfl (by decide) h.seconds]
  rfl

lemma countChars_eq_nil {unit : Char} {count : Option (List Nat)} (h : countChars unit count = []) :
    count = none := by
  cases count with
  | none => rfl
  | some ds => simp [countChars] at h

lemma decimalChars_eq_nil {unit : Char} {seconds : Option Plain} (h : decimalChars unit seconds = []) :
    seconds = none := by
  cases seconds with
  | none => rfl
  | some x => simp [decimalChars] at h

/-- Parts in the ISO notation are read as they are. -/
theorem iso?_isoChars (h : c.IsWritten) : iso? c.isoChars = some c := by
  have whole : ∀ x ∈ c.seconds, IsNumeral x.whole := fun x hx => (h.seconds x hx).1
  have sign : ∀ rest, optionalSign (c.signChars ++ 'P' :: rest) = (c.negative, 'P' :: rest) := by
    intro rest
    unfold signChars
    cases c.negative <;> rfl
  have letter : ∀ l, isIsoLetter l l = true := by
    intro l
    simp [isIsoLetter]
  unfold iso? isoChars
  rw [sign]
  dsimp only
  rw [if_pos (letter 'P')]
  by_cases htime : c.isoTimeChars = []
  · have parts := htime
    unfold isoTimeChars at parts
    obtain ⟨hhours, parts⟩ := List.append_eq_nil_iff.mp parts
    obtain ⟨hminutes, hseconds⟩ := List.append_eq_nil_iff.mp parts
    rw [if_pos htime, takeCount_countChars (letter 'D') rfl h.days rfl]
    show some (Components.mk c.negative c.days none none none)
      = some ⟨c.negative, c.days, c.hours, c.minutes, c.seconds⟩
    rw [countChars_eq_nil hhours, countChars_eq_nil hminutes, decimalChars_eq_nil hseconds]
  · have next : takeCount (isIsoLetter 'D') ('T' :: c.isoTimeChars) = (none, 'T' :: c.isoTimeChars) :=
      rfl
    rw [if_neg htime, takeCount_countChars (letter 'D') rfl h.days next]
    dsimp only [isoTime?, isoTimeChars]
    rw [if_pos (letter 'T'), takeCount_countChars (letter 'H') rfl h.hours
      (takeCount_of_other rfl rfl h.minutes (takeCount_decimalChars rfl rfl rfl whole))]
    dsimp only
    rw [takeCount_countChars (letter 'M') rfl h.minutes (takeCount_decimalChars rfl rfl rfl whole)]
    dsimp only
    rw [takeDecimal_decimalChars (letter 'S') rfl (by decide) h.seconds]
    rfl

end Components

lemma isBlank_ofNat : ∀ d < 10, isBlank (Char.ofNat (48 + d)) = false := by
  intro d hd
  interval_cases d <;> rfl

/-- A text with an exponent is no duration. -/
lemma parse_of_mem_e {raw : String} (h : 'e' ∈ raw.toList) : parse raw = .error (.malformed raw) := by
  have letter : 'e' ∈ trimChars raw.toList := mem_trimWhere rfl h
  unfold parse
  dsimp only
  have no_number : signedPlain? (trimChars raw.toList) = none :=
    signedPlain?_eq_none rfl (by decide) letter
  have no_iso : iso? (trimChars raw.toList) = none :=
    iso?_eq_none_of_mem rfl (by decide) (fun l hl => by fin_cases hl <;> rfl) letter
  have no_compact : compact? (trimChars raw.toList) = none := compact?_eq_none rfl (by decide) letter
  rw [no_number, no_iso, no_compact]
  rfl

/-- Without blanks nothing is trimmed. -/
lemma trimChars_eq_self {cs : List Char} (h : ∀ c ∈ cs, isBlank c = false) : trimChars cs = cs :=
  trimWhere_eq_self h

section parse

variable {c : Components} {raw : String}

lemma parse_of_components (h : signedPlain? (trimChars raw.toList) = none)
    (hc : (iso? (trimChars raw.toList)).orElse (fun _ => compact? (trimChars raw.toList)) = some c)
    (hne : c.isEmpty = false) : parse raw = c.total raw := by
  unfold parse
  dsimp only
  rw [h, hc]
  simp [hne]

lemma mem_countChars {unit : Char} {count : Option (List Nat)} (h : count ≠ none) :
    unit ∈ countChars unit count := by
  obtain ⟨ds, rfl⟩ := Option.ne_none_iff_exists'.mp h
  exact List.mem_append_right _ List.mem_cons_self

/-- A text in the compact notation is no number. -/
lemma signedPlain?_compactChars (hne : c.isEmpty = false) : signedPlain? c.compactChars = none := by
  have parts : c.days ≠ none ∨ c.hours ≠ none ∨ c.minutes ≠ none ∨ c.seconds ≠ none := by
    by_contra hnone
    push Not at hnone
    obtain ⟨hd, hh, hm, hs⟩ := hnone
    simp [Components.isEmpty, hd, hh, hm, hs] at hne
  have part : ∀ u ∈ ['d', 'h', 'm', 's'], u ∈ c.partChars → signedPlain? c.compactChars = none := by
    intro u hu hmem
    have letter : digitValue? u = none ∧ u ∉ ['-', '+', '.'] := by
      fin_cases hu <;> exact ⟨rfl, by decide⟩
    exact signedPlain?_eq_none letter.1 letter.2 (List.mem_append_right _ hmem)
  unfold Components.partChars at part
  simp only [List.mem_append] at part
  rcases parts with h | h | h | h
  · exact part 'd' (by simp) (.inl (mem_countChars h))
  · exact part 'h' (by simp) (.inr (.inl (mem_countChars h)))
  · exact part 'm' (by simp) (.inr (.inr (.inl (mem_countChars h))))
  · obtain ⟨x, hx⟩ := Option.ne_none_iff_exists'.mp h
    have unit : 's' ∈ decimalChars 's' c.seconds := by
      rw [hx]
      exact List.mem_append_right _ List.mem_cons_self
    exact part 's' (by simp) (.inr (.inr (.inr unit)))

/-- A text in the compact notation stands for the sum of its parts. -/
theorem parse_of_compactChars (h : c.IsWritten) (hne : c.isEmpty = false)
    (hraw : raw.toList = c.compactChars) : parse raw = c.total raw := by
  have kept : trimChars raw.toList = c.compactChars := by
    rw [hraw]
    exact trimChars_eq_self (Components.forall_mem_compactChars isBlank_ofNat (by simp [isBlank]) h)
  apply parse_of_components _ _ hne
  · rw [kept]
    exact signedPlain?_compactChars hne
  · have other : iso? c.compactChars = none :=
      iso?_eq_none (Components.forall_mem_compactChars
        (fun d hd => by interval_cases d <;> rfl) (by simp [isIsoLetter]) h)
    rw [kept, other]
    exact Components.compact?_compactChars h

/-- A text in the ISO notation stands for the sum of its parts. -/
theorem parse_of_isoChars (h : c.IsWritten) (hne : c.isEmpty = false)
    (hraw : raw.toList = c.isoChars) : parse raw = c.total raw := by
  have kept : trimChars raw.toList = c.isoChars := by
    rw [hraw]
    exact trimChars_eq_self (Components.forall_mem_isoChars isBlank_ofNat (by simp [isBlank]) h)
  have letter : 'P' ∈ c.isoChars := List.mem_append_right _ List.mem_cons_self
  apply parse_of_components _ _ hne
  · rw [kept]
    exact signedPlain?_eq_none rfl (by decide) letter
  · rw [kept, Components.iso?_isoChars h]
    rfl

end parse
end Duration
end PlannerConfig
