import PlannerConfig.Parameter.Generic
import PlannerConfig.Proofs.Text.Case
import PlannerConfig.Proofs.Text.Pieces

/-!
Members and their spellings. A text is read as the first member of which its normal form is a spelling; if
no two members share a spelling, that is the one member that it spells. A label may be written in any case,
with hyphens for underscores and the other way round, and with blanks around it.
-/
namespace PlannerConfig

open PlannerConfig.Text

namespace Text

/-- One character for all that may be written for it in a spelling: the underscore for both separators, and
the small one for an ASCII letter. -/
def looseChar (c : Char) : Char := if c = '-' then '_' else c.toLower

@[simp] lemma isBlank_toLower (c : Char) : isBlank c.toLower = isBlank c :=
  toLower_induction (P := fun d c => isBlank d = isBlank c) (fun _ => rfl) (by decide) c

lemma isBlank_looseChar (c : Char) : isBlank (looseChar c) = isBlank c := by
  unfold looseChar
  split
  · rename_i h
    rw [h]
    rfl
  · exact isBlank_toLower c

lemma looseChar_ne_hyphen (c : Char) : looseChar c ≠ '-' := by
  unfold looseChar
  split
  · decide
  · rename_i h
    exact toLower_induction (P := fun d c => c ≠ '-' → d ≠ '-') (fun _ => id) (by decide) c h

lemma upperChar_looseChar (c : Char) :
    upperChar (looseChar c) = upperChar (if c = '-' then '_' else c) := by
  unfold looseChar
  split
  · rfl
  · exact upperChar_toLower c

end Text

/-- The normal form of a spelling says nothing of what `looseChar` makes alike. -/
lemma spellingKey_map_looseChar (cs : List Char) : spellingKey (cs.map looseChar) = spellingKey cs := by
  unfold spellingKey replaceChar upperChars
  rw [List.map_map, List.flatMap_map, List.flatMap_map]
  refine List.flatMap_congr fun c _ => ?_
  show upperChar (if looseChar c = '-' then '_' else looseChar c) = _
  rw [if_neg (looseChar_ne_hyphen c), upperChar_looseChar]

/-- Whether a text is a label with blanks around it, but for the separators between words and the case of
ASCII letters. -/
def Respells (label s : String) : Prop :=
  ∃ before word after, s.toList = before ++ word ++ after ∧ (∀ c ∈ before ++ after, isBlank c = true)
    ∧ word.map looseChar = label.toList.map looseChar

lemma Respells.refl (label : String) : Respells label label :=
  ⟨[], label.toList, [], by simp, by simp, rfl⟩

lemma Respells.spellingKey_eq {label s : String} (h : Respells label s) :
    spellingKey (trimChars s.toList) = spellingKey (trimChars label.toList) := by
  obtain ⟨before, word, after, hs, hblank, hword⟩ := h
  have inner : trimChars s.toList = trimChars word := by
    rw [hs]
    exact trimWhere_append_append (fun c hc => hblank c (List.mem_append_left _ hc))
      fun c hc => hblank c (List.mem_append_right _ hc)
  have loose : ∀ cs, (trimChars cs).map looseChar = trimChars (cs.map looseChar) := fun cs =>
    (trimWhere_map isBlank_looseChar).symm
  calc spellingKey (trimChars s.toList)
      = spellingKey ((trimChars word).map looseChar) := by rw [inner, spellingKey_map_looseChar]
    _ = spellingKey ((trimChars label.toList).map looseChar) := by rw [loose, hword, loose]
    _ = spellingKey (trimChars label.toList) := spellingKey_map_looseChar _

namespace Symbol

variable {x : Symbol} {s : String}

/-- The spellings of a member in normal form: the name in upper case, and the label in upper case with
underscores for hyphens. -/
def spellings (x : Symbol) : List (List Char) := [upperChars x.name.toList, spellingKey x.label.toList]

/-- Whether a text without the blanks around it spells a member. -/
def IsSpelledBy (x : Symbol) (s : String) : Prop := spellingKey (trimChars s.toList) ∈ x.spellings

instance (x : Symbol) (s : String) : Decidable (x.IsSpelledBy s) := inferInstanceAs (Decidable (_ ∈ _))

lemma answersTo_iff {key : List Char} : x.answersTo key = true ↔ key ∈ x.spellings := by
  simp [answersTo, spellings]

lemma isSpelledBy_of_respells (htrim : trim x.label = x.label) (h : Respells x.label s) :
    x.IsSpelledBy s := by
  have key : spellingKey (trimChars s.toList) = spellingKey x.label.toList := by
    rw [h.spellingKey_eq, ← toList_trim, htrim]
  rw [IsSpelledBy, key]
  exact List.mem_cons_of_mem _ List.mem_cons_self

end Symbol

namespace Enumeration

variable {α : Type} {e : Enumeration α} {a : α} {s : String}

/-- Whether no two members share a spelling. -/
def Unambiguous (e : Enumeration α) : Prop :=
  ∀ a ∈ e.members, ∀ b ∈ e.members, a ≠ b →
    ∀ key ∈ (e.symbol a).spellings, key ∉ (e.symbol b).spellings

instance [DecidableEq α] (e : Enumeration α) : Decidable e.Unambiguous :=
  inferInstanceAs (Decidable (∀ a ∈ e.members, ∀ b ∈ e.members, a ≠ b → _))

lemma spells_of_find? (h : e.find? s = some a) : a ∈ e.members ∧ (e.symbol a).IsSpelledBy s := by
  have answers := List.find?_some
    (p := fun b => (e.symbol b).answersTo (spellingKey (trimChars s.toList))) h
  exact ⟨List.mem_of_find?_eq_some h, Symbol.answersTo_iff.mp answers⟩

lemma find?_eq_none_iff : e.find? s = none ↔ ∀ a ∈ e.members, ¬ (e.symbol a).IsSpelledBy s := by
  unfold find?
  simp only [List.find?_eq_none, Symbol.answersTo_iff]
  rfl

/-- The first member that is spelled is the only one. -/
lemma find?_eq_some_iff (h : e.Unambiguous) (ha : a ∈ e.members) :
    e.find? s = some a ↔ (e.symbol a).IsSpelledBy s := by
  constructor
  · exact fun hfind => (spells_of_find? hfind).2
  · intro hspelled
    cases hfind : e.find? s with
    | none => exact absurd hspelled (find?_eq_none_iff.mp hfind a ha)
    | some b =>
      obtain ⟨hb, hother⟩ := spells_of_find? hfind
      by_contra hne
      have different : b ≠ a := fun heq => hne (congrArg some heq)
      exact h b hb a ha different _ hother hspelled

lemma read_of_find? (h : e.find? s = some a) : e.read s = .ok a := by
  rw [read, h]
  rfl

lemma read_of_none (h : e.find? s = none) : e.read s = .error (.because e.notAMemberText) := by
  rw [read, h]
  rfl

lemma read_eq_ok_iff : e.read s = .ok a ↔ e.find? s = some a := by
  cases hfind : e.find? s with
  | none => simp [read_of_none hfind]
  | some b => simp [read_of_find? hfind]

lemma read_eq_error_iff {refusal : Refusal} :
    e.read s = .error refusal ↔ e.find? s = none ∧ refusal = .because e.notAMemberText := by
  cases hfind : e.find? s with
  | none => simp [read_of_none hfind, eq_comm]
  | some b => simp [read_of_find? hfind]

end Enumeration

namespace EnumType

/-- What may be relied on where texts are read as members. -/
structure FindsSpellings (t : EnumType) : Prop where
  /-- A text is read as the member that it spells. -/
  read_eq_ok_iff : ∀ m ∈ t.enumeration.members, ∀ s,
    t.read (.text s) = .ok m ↔ m.symbol.IsSpelledBy s
  /-- It is refused if it spells none, and told which labels there are. -/
  read_eq_error_iff : ∀ s refusal, t.read (.text s) = .error refusal
    ↔ (∀ m ∈ t.enumeration.members, ¬ m.symbol.IsSpelledBy s)
      ∧ refusal = .because t.enumeration.notAMemberText
  /-- A label that no blank is trimmed off is read as its member, however it is written. -/
  read_label : ∀ m ∈ t.enumeration.members, trim m.symbol.label = m.symbol.label →
    t.read (.text m.symbol.label) = .ok m
      ∧ ∀ s, Respells m.symbol.label s → t.read (.text s) = .ok m

/-- Members that share no spelling are all found under theirs. -/
theorem findsSpellings (t : EnumType) (h : t.enumeration.Unambiguous) : t.FindsSpellings := by
  have ok_iff : ∀ m ∈ t.enumeration.members, ∀ s,
      t.read (.text s) = .ok m ↔ m.symbol.IsSpelledBy s := fun m hm s =>
    Enumeration.read_eq_ok_iff.trans (Enumeration.find?_eq_some_iff h hm)
  exact {
    read_eq_ok_iff := ok_iff
    read_eq_error_iff := fun s refusal =>
      Enumeration.read_eq_error_iff.trans (and_congr_left' Enumeration.find?_eq_none_iff)
    read_label := fun m hm htrim =>
      ⟨(ok_iff m hm _).mpr (Symbol.isSpelledBy_of_respells htrim (.refl _)), fun s hs =>
        (ok_iff m hm s).mpr (Symbol.isSpelledBy_of_respells htrim hs)⟩ }

/-- The name of one member has a hyphen in its label, another has no label of its own, and the upper case of
the third is longer than its label. -/
theorem findsSpellings_of_three :
    let t : EnumType :=
      ⟨"Way", [⟨"CABLE_CAR", "cable-car"⟩, ⟨"Two_Wheels", none⟩, ⟨"STREET", "straße"⟩]⟩
    t.enumeration.Unambiguous ∧ t.FindsSpellings
      ∧ t.read (.text "\tCable_cAR ") = .ok ⟨t, ⟨"CABLE_CAR", "cable-car"⟩⟩
      ∧ t.read (.text "two-wheels") = .ok ⟨t, ⟨"Two_Wheels", none⟩⟩
      ∧ t.read (.text "STRASSE") = .ok ⟨t, ⟨"STREET", "straße"⟩⟩ := by
  intro t
  have h : t.enumeration.Unambiguous := by decide +kernel
  have found := findsSpellings t h
  refine ⟨h, found, ?_, ?_, ?_⟩
  · exact (found.read_eq_ok_iff _ (by decide) _).mpr (by decide +kernel)
  · exact (found.read_eq_ok_iff _ (by decide) _).mpr (by decide +kernel)
  · exact (found.read_eq_ok_iff _ (by decide) _).mpr (by decide +kernel)

end EnumType
end PlannerConfig
