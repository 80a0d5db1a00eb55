import Mathlib.Data.List.Nodup
import PlannerConfig.Proofs.Traversal
import PlannerConfig.Routing.Modes

/-!
Mode lists as unordered lists. Which texts are mode lists, and the modes of a request, follow from the
words that stand between the commas: from the street word, if there is one, and from the set of transit
words.
-/
namespace PlannerConfig

open PlannerConfig.Text

/-- The street word with a spelling in upper case. -/
def StreetWord.ofSpelling? (word : String) : Option StreetWord := StreetWord.spellings.lookup word

namespace TransitMode

lemma map_name : (Choice.all TransitMode).map Choice.name = ["RAIL", "COACH", "SUBWAY", "BUS", "TRAM",
    "FERRY", "AIRPLANE", "CABLE_CAR", "GONDOLA", "FUNICULAR", "TROLLEYBUS", "MONORAIL", "CARPOOL",
    "TAXI"] := by decide +kernel

lemma name_mem (t : TransitMode) : Choice.name t ∈ (Choice.all TransitMode).map Choice.name :=
  List.mem_map_of_mem (Choice.mem_all t)

lemma name_injective : Function.Injective (Choice.name : TransitMode → String) := by
  have distinct : ((Choice.all TransitMode).map Choice.name).Nodup := by
    rw [map_name]
    decide
  intro t u h
  exact List.inj_on_of_nodup_map distinct (Choice.mem_all t) (Choice.mem_all u) h

lemma ofName?_eq_some_iff {word : String} {t : TransitMode} :
    Choice.ofName? word = some t ↔ word = Choice.name t := by
  constructor
  · intro h
    have found := List.find?_some (p := fun u => Choice.name u == word) h
    exact (beq_iff_eq.mp found).symm
  · rintro rfl
    cases h : (Choice.ofName? (Choice.name t) : Option TransitMode) with
    | none =>
      have unequal := List.find?_eq_none.mp h t (Choice.mem_all t)
      simp at unequal
    | some u =>
      have found := List.find?_some (p := fun v => Choice.name v == Choice.name t) h
      rw [name_injective (beq_iff_eq.mp found)]

end TransitMode

/-- Whether a word in upper case allows transit modes, all of them or the one it names. -/
def IsTransitWord (word : String) : Prop := word = "TRANSIT" ∨ ∃ t : TransitMode, word = Choice.name t

/-- No transit mode is named as a street word, as all modes or by nothing. -/
lemma forall_name_transitMode (t : TransitMode) : StreetWord.ofSpelling? (Choice.name t) = none
    ∧ Choice.name t ≠ "TRANSIT" ∧ Choice.name t ≠ "" := by
  have each : ∀ word ∈ (Choice.all TransitMode).map Choice.name,
      StreetWord.ofSpelling? word = none ∧ word ≠ "TRANSIT" ∧ word ≠ "" := by
    rw [TransitMode.map_name]
    decide
  exact each _ t.name_mem

lemma IsTransitWord.not_street {word : String} (h : IsTransitWord word) :
    StreetWord.ofSpelling? word = none := by
  rcases h with rfl | ⟨t, rfl⟩
  · decide
  · exact (forall_name_transitMode t).1

lemma not_isTransitWord_empty : ¬ IsTransitWord "" := by
  rintro (h | ⟨t, ht⟩)
  · exact absurd h (by decide)
  · exact (forall_name_transitMode t).2.2 ht.symm

namespace ModeWord

variable {word : String}

lemma ofSpelling_of_street {street : StreetWord} (h : StreetWord.ofSpelling? word = some street) :
    ofSpelling word = .ok (.street word street) := by
  unfold ofSpelling
  rw [show StreetWord.spellings.lookup word = some street from h]
  rfl

lemma ofSpelling_of_all (h : word = "TRANSIT") : ofSpelling word = .ok .allTransit := by
  have street : StreetWord.spellings.lookup word = none := IsTransitWord.not_street (.inl h)
  unfold ofSpelling
  rw [street, if_pos h]
  rfl

lemma ofSpelling_of_name {t : TransitMode} (h : word = Choice.name t) :
    ofSpelling word = .ok (.transit t) := by
  have street : StreetWord.spellings.lookup word = none := IsTransitWord.not_street (.inr ⟨t, h⟩)
  have other : word ≠ "TRANSIT" := h ▸ (forall_name_transitMode t).2.1
  unfold ofSpelling
  rw [street, if_neg other, TransitMode.ofName?_eq_some_iff.mpr h]
  rfl

/-- What a word means is a street word with its spelling, or a transit word. -/
lemma ofSpelling_eq_ok {meaning : ModeWord} (h : ofSpelling word = .ok meaning) :
    (∃ street, StreetWord.ofSpelling? word = some street ∧ meaning = .street word street)
      ∨ (word = "TRANSIT" ∧ meaning = .allTransit)
      ∨ ∃ t, word = Choice.name t ∧ meaning = .transit t := by
  unfold ofSpelling at h
  split at h
  · rename_i street hstreet
    exact .inl ⟨street, hstreet, (Except.ok.inj h).symm⟩
  · split at h
    · rename_i hall
      exact .inr (.inl ⟨hall, (Except.ok.inj h).symm⟩)
    · split at h
      · rename_i t ht
        exact .inr (.inr ⟨t, TransitMode.ofName?_eq_some_iff.mp ht, (Except.ok.inj h).symm⟩)
      · cases h

lemma exists_ofSpelling_iff : (∃ meaning, ofSpelling word = .ok meaning)
    ↔ (StreetWord.ofSpelling? word).isSome ∨ IsTransitWord word := by
  constructor
  · rintro ⟨meaning, h⟩
    obtain ⟨street, hstreet, -⟩ | ⟨hall, -⟩ | ⟨t, ht, -⟩ := ofSpelling_eq_ok h
    · exact .inl (by rw [hstreet]; rfl)
    · exact .inr (.inl hall)
    · exact .inr (.inr ⟨t, ht⟩)
  · rintro (h | hall | ⟨t, ht⟩)
    · obtain ⟨street, hstreet⟩ := Option.isSome_iff_exists.mp h
      exact ⟨_, ofSpelling_of_street hstreet⟩
    · exact ⟨_, ofSpelling_of_all hall⟩
    · exact ⟨_, ofSpelling_of_name ht⟩

variable {words : List String} {meanings : List ModeWord}

/-- The street words among the meanings are those that are spelled. -/
lemma filterMap_street? (h : words.map ofSpelling = meanings.map .ok) :
    (meanings.filterMap street?).map Prod.snd = words.filterMap StreetWord.ofSpelling? := by
  induction words generalizing meanings with
  | nil =>
    obtain rfl : meanings = [] := List.map_eq_nil_iff.mp h.symm
    rfl
  | cons word words ih =>
    obtain ⟨meaning, meanings, rfl, hword, hwords⟩ := List.map_eq_cons_iff.mp h.symm
    obtain ⟨street, hstreet, rfl⟩ | ⟨hall, rfl⟩ | ⟨t, ht, rfl⟩ := ofSpelling_eq_ok hword.symm
    · rw [List.filterMap_cons_some hstreet, ← ih hwords.symm]
      rfl
    · rw [List.filterMap_cons_none (IsTransitWord.not_street (.inl hall)), ← ih hwords.symm]
      rfl
    · rw [List.filterMap_cons_none (IsTransitWord.not_street (.inr ⟨t, ht⟩)), ← ih hwords.symm]
      rfl

/-- A transit mode is allowed by a word that names it and by the word for all. -/
lemma mem_transitModes_iff {meaning : ModeWord} (h : ofSpelling word = .ok meaning) {t : TransitMode} :
    t ∈ meaning.transitModes ↔ word = "TRANSIT" ∨ word = Choice.name t := by
  constructor
  · intro ht
    obtain ⟨street, -, rfl⟩ | ⟨hall, -⟩ | ⟨u, hu, rfl⟩ := ofSpelling_eq_ok h
    · cases ht
    · exact .inl hall
    · exact .inr (List.mem_singleton.mp ht ▸ hu)
  · rintro (hall | ht)
    · obtain rfl : .allTransit = meaning := Except.ok.inj ((ofSpelling_of_all hall).symm.trans h)
      exact Choice.mem_all t
    · obtain rfl : .transit t = meaning := Except.ok.inj ((ofSpelling_of_name ht).symm.trans h)
      exact List.mem_singleton_self t

lemma mem_flatMap_transitModes_iff (h : words.map ofSpelling = meanings.map .ok) {t : TransitMode} :
    t ∈ meanings.flatMap transitModes ↔ ∃ word ∈ words, word = "TRANSIT" ∨ word = Choice.name t := by
  induction words generalizing meanings with
  | nil =>
    obtain rfl : meanings = [] := List.map_eq_nil_iff.mp h.symm
    simp
  | cons word words ih =>
    obtain ⟨meaning, meanings, rfl, hword, hwords⟩ := List.map_eq_cons_iff.mp h.symm
    rw [List.flatMap_cons, List.mem_append, mem_transitModes_iff hword.symm, ih hwords.symm]
    simp only [List.mem_cons, exists_eq_or_imp]

end ModeWord

namespace RequestModes

/-- The pieces of a mode list between its commas. -/
def pieces (s : String) : List String := splitOnChar ',' s

/-- A piece as it is compared with words: trimmed, in upper case and with underscores for hyphens. -/
def spelling (piece : String) : String :=
  String.ofList (replaceChar '-' '_' (upperChars (trimChars piece.toList)))

/-- The street words among pieces, each as often as it stands there. -/
def streetWords (pieces : List String) : List StreetWord :=
  pieces.filterMap fun piece => StreetWord.ofSpelling? (spelling piece)

/-- Whether pieces make a mode list: not all of them are blank, those that are not are words, and at most
one is a street word. -/
structure IsModeList (pieces : List String) : Prop where
  not_blank : ∃ p ∈ pieces, trim p ≠ ""
  known : ∀ p ∈ pieces, trim p ≠ "" →
    (StreetWord.ofSpelling? (spelling p)).isSome ∨ IsTransitWord (spelling p)
  one_street : (streetWords pieces).length ≤ 1

/-- Whether the modes of a request are those that pieces name. Without a street word they are those of
walking. -/
structure NamedBy (m : RequestModes) (pieces : List String) : Prop where
  street : (m.access, m.egress, m.direct) = ((streetWords pieces).head?.getD .walk).modes
  transfer : m.transfer = if m.access = .bike then .bike else .walk
  transit : ∀ t, t ∈ m.transit ↔ ∃ p ∈ pieces, spelling p = "TRANSIT" ∨ spelling p = Choice.name t

lemma spelling_of_blank {piece : String} (h : trim piece = "") : spelling piece = "" := by
  have blank : trimChars piece.toList = [] := by
    rw [← toList_trim, h]
    rfl
  rw [spelling, blank]
  rfl

/-- The words of pieces, without those that are blank. -/
def wordsOf (pieces : List String) : List String :=
  (pieces.filter fun p => trim p ≠ "").map spelling

section wordsOf

variable {ps qs extra : List String} {word : String}

lemma mem_wordsOf_iff : word ∈ wordsOf ps ↔ ∃ p ∈ ps, trim p ≠ "" ∧ spelling p = word := by
  simp [wordsOf, and_assoc]

/-- A blank piece has no part in what is said of words. -/
lemma exists_mem_wordsOf_iff {P : String → Prop} (h : ¬ P "") :
    (∃ word ∈ wordsOf ps, P word) ↔ ∃ p ∈ ps, P (spelling p) := by
  simp only [mem_wordsOf_iff]
  constructor
  · rintro ⟨word, ⟨p, hp, -, rfl⟩, hword⟩
    exact ⟨p, hp, hword⟩
  · rintro ⟨p, hp, hword⟩
    refine ⟨_, ⟨p, hp, fun hblank => ?_, rfl⟩, hword⟩
    rw [spelling_of_blank hblank] at hword
    exact h hword

lemma ofSpelling?_of_blank {p : String} (h : trim p = "") :
    StreetWord.ofSpelling? (spelling p) = none := by
  rw [spelling_of_blank h]
  decide +kernel

lemma streetWords_eq (ps : List String) :
    streetWords ps = (wordsOf ps).filterMap StreetWord.ofSpelling? := by
  rw [wordsOf, List.filterMap_map, List.filterMap_filter, streetWords]
  refine congrArg (List.filterMap · ps) (funext fun p => ?_)
  rw [Function.comp_apply]
  split
  · rfl
  · rename_i hblank
    exact ofSpelling?_of_blank (by simpa using hblank)

/-- Whether pieces have the same words: the same street words as often, and all words at least once. -/
structure SameWords (ps qs : List String) : Prop where
  street : (streetWords ps).Perm (streetWords qs)
  mem_iff : ∀ word, word ∈ wordsOf ps ↔ word ∈ wordsOf qs

lemma streetWords_append (ps qs : List String) :
    streetWords (ps ++ qs) = streetWords ps ++ streetWords qs :=
  List.filterMap_append

/-- Blank pieces and transit words that stand there already make no difference, nor does the order. -/
lemma sameWords_of_perm (h : qs.Perm (extra ++ ps))
    (hextra : ∀ p ∈ extra, trim p = "" ∨ IsTransitWord (spelling p) ∧ ∃ q ∈ ps, spelling q = spelling p) :
    SameWords ps qs where
  street := by
    have nothing : streetWords extra = [] := by
      apply List.filterMap_eq_nil_iff.mpr
      intro p hp
      rcases hextra p hp with hblank | ⟨htransit, -⟩
      · exact ofSpelling?_of_blank hblank
      · exact htransit.not_street
    have perm : (streetWords qs).Perm (streetWords (extra ++ ps)) := h.filterMap _
    rw [streetWords_append, nothing, List.nil_append] at perm
    exact perm.symm
  mem_iff := by
    intro word
    simp only [mem_wordsOf_iff, h.mem_iff, List.mem_append]
    constructor
    · rintro ⟨p, hp, hword⟩
      exact ⟨p, .inr hp, hword⟩
    · rintro ⟨p, hp | hp, hblank, rfl⟩
      · obtain ⟨htransit, q, hq, hsame⟩ := (hextra p hp).resolve_left hblank
        refine ⟨q, hq, fun hq' => not_isTransitWord_empty ?_, hsame⟩
        rwa [← spelling_of_blank hq', hsame]
      · exact ⟨p, hp, hblank, rfl⟩

lemma SameWords.symm (h : SameWords ps qs) : SameWords qs ps :=
  ⟨h.street.symm, fun word => (h.mem_iff word).symm⟩

/-- One street word has no order. -/
lemma SameWords.streetWords_eq (h : SameWords ps qs) (hone : (streetWords ps).length ≤ 1) :
    streetWords qs = streetWords ps := by
  have perm := h.street
  generalize streetWords ps = streets at perm hone
  match streets with
  | [] => exact List.nil_perm.mp perm
  | [street] => exact List.perm_singleton.mp perm.symm
  | _ :: _ :: _ => simp at hone

lemma SameWords.isModeList (h : SameWords ps qs) (hps : IsModeList ps) : IsModeList qs where
  not_blank := by
    obtain ⟨p, hp, hblank⟩ := hps.not_blank
    obtain ⟨q, hq, hblank', -⟩ :=
      mem_wordsOf_iff.mp ((h.mem_iff _).mp (mem_wordsOf_iff.mpr ⟨p, hp, hblank, rfl⟩))
    exact ⟨q, hq, hblank'⟩
  known := by
    intro q hq hblank
    obtain ⟨p, hp, hblank', hsame⟩ :=
      mem_wordsOf_iff.mp ((h.mem_iff _).mpr (mem_wordsOf_iff.mpr ⟨q, hq, hblank, rfl⟩))
    rw [← hsame]
    exact hps.known p hp hblank'
  one_street := h.street.length_eq ▸ hps.one_street

/-- A transit mode is named by a word exactly if it is named by a piece. -/
lemma exists_naming_iff (t : TransitMode) :
    (∃ word ∈ wordsOf ps, word = "TRANSIT" ∨ word = Choice.name t)
      ↔ ∃ p ∈ ps, spelling p = "TRANSIT" ∨ spelling p = Choice.name t :=
  exists_mem_wordsOf_iff fun hempty => not_isTransitWord_empty (hempty.imp id fun ht => ⟨t, ht⟩)

/-- Pieces with the same words name the same modes. -/
lemma SameWords.eq_of_namedBy (h : SameWords ps qs) (hps : IsModeList ps) {m m' : RequestModes}
    (hm : m.NamedBy ps) (hm' : m'.NamedBy qs) : m = m' := by
  have modes : (m.access, m.egress, m.direct) = (m'.access, m'.egress, m'.direct) := by
    rw [hm.street, hm'.street, h.streetWords_eq hps.one_street]
  obtain ⟨access, hrest⟩ := Prod.mk.inj modes
  obtain ⟨egress, direct⟩ := Prod.mk.inj hrest
  have transit : m.transit = m'.transit := by
    apply ChoiceSet.eq_of_mem_iff
    intro t
    simp only [hm.transit, hm'.transit, ← exists_naming_iff, h.mem_iff]
  have transfer : m.transfer = m'.transfer := by
    rw [hm.transfer, hm'.transfer, access]
  cases m
  cases m'
  simp_all

end wordsOf

variable {s s' : String} {m : RequestModes}

lemma spellings_eq (s : String) : spellings s.toList = wordsOf (pieces s) := by
  have blank : ∀ cs, trim (.ofList cs) = "" ↔ trimChars cs = [] := by simp [trim]
  simp [spellings, wordsOf, pieces, splitOnChar, List.filter_map, Function.comp_def, blank, spelling]

/-- A mode list is read as what its words mean, if at most one of them is a street word. -/
lemma parse_eq_ok_iff : parse s = .ok m ↔ wordsOf (pieces s) ≠ []
    ∧ ∃ meanings : List ModeWord, (wordsOf (pieces s)).map ModeWord.ofSpelling = meanings.map .ok
      ∧ (meanings.filterMap ModeWord.street?).length ≤ 1
      ∧ m = ofWords (((meanings.filterMap ModeWord.street?).map Prod.snd).head?.getD .walk)
        (meanings.flatMap ModeWord.transitModes) := by
  unfold parse
  rw [spellings_eq]
  by_cases hempty : wordsOf (pieces s) = []
  · simp only [hempty, if_true, ne_eq, not_true, false_and, iff_false]
    exact nofun
  · simp only [hempty, if_false, ne_eq, not_false_eq_true, true_and]
    show (_ >>= _) = _ ↔ _
    rw [bind_eq_ok]
    simp only [mapM_eq_ok_iff]
    refine exists_congr fun meanings => and_congr_right fun _ => ?_
    generalize meanings.filterMap ModeWord.street? = streets
    match streets with
    | [] => simp [pure, Except.pure, eq_comm]
    | [(word, street)] => simp [pure, Except.pure, eq_comm]
    | _ :: _ :: _ => simp [throw, throwThe, MonadExceptOf.throw]

lemma mem_transit_ofWords_iff {street : StreetWord} {transit : List TransitMode} {t : TransitMode} :
    t ∈ (ofWords street transit).transit ↔ t ∈ transit :=
  ChoiceSet.mem_ofList

lemma of_parse_eq_ok (h : parse s = .ok m) : IsModeList (pieces s) ∧ m.NamedBy (pieces s) := by
  obtain ⟨hne, meanings, hmeanings, hone, rfl⟩ := parse_eq_ok_iff.mp h
  have street := ModeWord.filterMap_street? hmeanings
  rw [← streetWords_eq] at street
  refine ⟨⟨?_, ?_, ?_⟩, ⟨?_, ?_, ?_⟩⟩
  · obtain ⟨word, hword⟩ := List.exists_mem_of_ne_nil _ hne
    obtain ⟨p, hp, hblank, -⟩ := mem_wordsOf_iff.mp hword
    exact ⟨p, hp, hblank⟩
  · intro p hp hblank
    have hword := mem_wordsOf_iff.mpr ⟨p, hp, hblank, rfl⟩
    have hmem := List.mem_map_of_mem (f := ModeWord.ofSpelling) hword
    rw [hmeanings] at hmem
    obtain ⟨meaning, -, hmeaning⟩ := List.mem_map.mp hmem
    exact ModeWord.exists_ofSpelling_iff.mp ⟨meaning, hmeaning.symm⟩
  · rwa [← street, List.length_map]
  · rw [← street]
    rfl
  · rfl
  · intro t
    rw [mem_transit_ofWords_iff, ModeWord.mem_flatMap_transitModes_iff hmeanings, exists_naming_iff]

lemma exists_parse (h : IsModeList (pieces s)) : ∃ m, parse s = .ok m := by
  have each : ∀ word ∈ wordsOf (pieces s), ∃ meaning, ModeWord.ofSpelling word = .ok meaning := by
    intro word hword
    obtain ⟨p, hp, hblank, rfl⟩ := mem_wordsOf_iff.mp hword
    exact ModeWord.exists_ofSpelling_iff.mpr (h.known p hp hblank)
  obtain ⟨meanings, hmeanings⟩ := exists_map_eq_map_ok each
  have street := ModeWord.filterMap_street? hmeanings
  rw [← streetWords_eq] at street
  refine ⟨_, parse_eq_ok_iff.mpr ⟨?_, meanings, hmeanings, ?_, rfl⟩⟩
  · obtain ⟨p, hp, hblank⟩ := h.not_blank
    exact List.ne_nil_of_mem (mem_wordsOf_iff.mpr ⟨p, hp, hblank, rfl⟩)
  · rw [← List.length_map, street]
    exact h.one_street

lemma parse_of_sameWords (same : SameWords (pieces s) (pieces s')) (h : parse s = .ok m) :
    parse s' = .ok m := by
  obtain ⟨hs, hm⟩ := of_parse_eq_ok h
  obtain ⟨m', hm'⟩ := exists_parse (same.isModeList hs)
  rw [hm', same.eq_of_namedBy hs hm (of_parse_eq_ok hm').2]

/-- A text is read as a mode list exactly if its pieces make one, and its modes are those that the pieces
name. So neither their order matters, nor blank pieces, nor transit words that are repeated. -/
theorem parse_unordered (s : String) :
    ((∃ m, parse s = .ok m) ↔ IsModeList (pieces s))
    ∧ (∀ m, parse s = .ok m → m.NamedBy (pieces s))
    ∧ ∀ s' extra, (pieces s').Perm (extra ++ pieces s) →
      (∀ p ∈ extra, trim p = "" ∨
        IsTransitWord (spelling p) ∧ ∃ q ∈ pieces s, spelling q = spelling p) →
      (parse s').toOption = (parse s).toOption := by
  refine ⟨⟨fun ⟨m, hm⟩ => (of_parse_eq_ok hm).1, exists_parse⟩, fun m hm => (of_parse_eq_ok hm).2, ?_⟩
  intro s' extra hperm hextra
  have same := sameWords_of_perm hperm hextra
  cases hs : parse s with
  | ok m => rw [parse_of_sameWords same hs]
  | error e =>
    cases hs' : parse s' with
    | ok m => exact absurd (parse_of_sameWords same.symm hs') (by rw [hs]; nofun)
    | error e' => rfl

/-- Another order, blank pieces and a transit word in two spellings. -/
theorem parse_unordered_shuffled :
    let s := "bus, TRANSIT ,car-park"
    let s' := " ,car-park,,Bus,bus, TRANSIT "
    (∃ m, parse s = .ok m ∧ m.NamedBy (pieces s) ∧ m.egress = .walk ∧ .ferry ∈ m.transit)
      ∧ (pieces s').Perm ([" ", "", "Bus"] ++ pieces s)
      ∧ (parse s').toOption = (parse s).toOption := by
  intro s s'
  have hpieces : pieces s = ["bus", " TRANSIT ", "car-park"] := by decide +kernel
  have perm : (pieces s').Perm ([" ", "", "Bus"] ++ pieces s) := by decide +kernel
  have modeList : IsModeList (pieces s) := by
    rw [hpieces]
    refine ⟨⟨"bus", List.mem_cons_self, by decide +kernel⟩, ?_, by decide +kernel⟩
    intro p hp _
    obtain rfl | rfl | rfl : p = "bus" ∨ p = " TRANSIT " ∨ p = "car-park" := by simpa using hp
    · exact .inr (.inr ⟨.bus, by decide +kernel⟩)
    · exact .inr (.inl (by decide +kernel))
    · exact .inl (by decide +kernel)
  obtain ⟨read, named, shuffled⟩ := parse_unordered s
  obtain ⟨m, hm⟩ := read.mpr modeList
  have hnamed := named m hm
  refine ⟨⟨m, hm, hnamed, ?_, ?_⟩, perm, shuffled s' _ perm ?_⟩
  · have street : (m.access, m.egress, m.direct) = (.carToPark, .walk, .carToPark) :=
      hnamed.street.trans (by rw [hpieces]; decide +kernel)
    simp_all
  · refine (hnamed.transit .ferry).mpr ⟨" TRANSIT ", ?_, .inl (by decide +kernel)⟩
    simp [hpieces]
  · intro p hp
    obtain rfl | rfl | rfl : p = " " ∨ p = "" ∨ p = "Bus" := by simpa using hp
    · exact .inl (by decide +kernel)
    · exact .inl (by decide +kernel)
    · exact .inr ⟨.inr ⟨.bus, by decide +kernel⟩, "bus", by simp [hpieces], by decide +kernel⟩

end RequestModes
end PlannerConfig
