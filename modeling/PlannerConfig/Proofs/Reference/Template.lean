import PlannerConfig.Proofs.Text.Search
import PlannerConfig.Proofs.Traversal
import PlannerConfig.Reference.Template

/-!
Filling the sections of a template. The text that is put between two markers starts and ends with a
line break, so no marker reaches into it from outside: the other section is found where it was, and
the same section is found again. Sections whose regions lie apart are filled in either order.
-/
namespace PlannerConfig

open PlannerConfig.Text

/-- A marker that filling a section neither makes nor hides: it has no line break and does not stand in
the note. -/
structure IsMarker (marker : List Char) : Prop where
  ne_nil : marker ≠ []
  oneLine : '\n' ∉ marker
  not_infix_note : ¬ marker <:+: Section.note.toList

lemma IsMarker.clear_content_iff {marker xs ys : List Char} (h : IsMarker marker) {text : String} :
    Clear marker (xs ++ (Section.content text).toList ++ ys)
      ↔ ¬ marker <:+: xs ∧ ¬ marker <:+: text.toList ∧ Clear marker ys := by
  have parts : xs ++ (Section.content text).toList ++ ys
      = xs ++ '\n' :: (Section.note.toList ++ '\n' :: ([] ++ '\n' :: (text.toList ++ '\n' :: ys))) := by
    simp [Section.content]
  have empty : ¬ marker <:+: [] := fun hin => h.ne_nil (List.eq_nil_of_infix_nil hin)
  rw [parts, clear_append_cons_iff h.oneLine, clear_append_cons_iff h.oneLine,
    clear_append_cons_iff h.oneLine, clear_append_cons_iff h.oneLine]
  simp [h.not_infix_note, empty]

namespace Section

variable {s t : Section} {before inside after : List Char}

lemma beginMarker_ne_nil (s : Section) : s.beginMarker.toList ≠ [] := by simp [beginMarker]

lemma endMarker_ne_nil (s : Section) : s.endMarker.toList ≠ [] := by simp [endMarker]

/-- Whether the name of a section stands on one line. -/
def OneLine (s : Section) : Prop := '\n' ∉ s.name.toList

lemma oneLine_parametersTable : parametersTable.OneLine := by simp [OneLine, parametersTable]

lemma oneLine_parametersDetails : parametersDetails.OneLine := by simp [OneLine, parametersDetails]

/-- No marker ends within the note: its last words do not. -/
lemma isMarker_of_end {s : Section} (h : s.OneLine) (last : String) (hline : '\n' ∉ last.toList)
    (hnote : ¬ last.toList <:+: note.toList) :
    IsMarker ("<!-- " ++ s.name ++ last).toList where
  ne_nil := by simp
  oneLine := by simpa [OneLine, hline] using h
  not_infix_note := fun hin => hnote <| by
    rw [String.toList_append] at hin
    exact (List.suffix_append _ _).isInfix.trans hin

lemma isMarker_begin (h : s.OneLine) : IsMarker s.beginMarker.toList :=
  isMarker_of_end h " BEGIN -->" (by decide) (by decide +kernel)

lemma isMarker_end (h : s.OneLine) : IsMarker s.endMarker.toList :=
  isMarker_of_end h " END -->" (by decide) (by decide +kernel)

/-- The two markers of a section with something between them. -/
def marked (s : Section) (inside : List Char) : List Char :=
  s.beginMarker.toList ++ inside ++ s.endMarker.toList

/-- What is before the marked region of a section, in it and after it. The region goes from the first
begin marker to the first end marker after it. -/
def cut? (s : Section) (doc : List Char) : Option (List Char × List Char × List Char) := do
  let (before, rest) ← cutAt s.beginMarker.toList doc
  let (inside, after) ← cutAt s.endMarker.toList rest
  return (before, inside, after)

lemma cut?_eq_some_iff {doc : List Char} :
    s.cut? doc = some (before, inside, after) ↔ doc = before ++ s.marked inside ++ after
      ∧ Clear s.beginMarker.toList before ∧ Clear s.endMarker.toList inside := by
  simp only [cut?, Option.bind_eq_bind, Option.bind_eq_some_iff, Prod.exists, Option.pure_def,
    Option.some.injEq, Prod.mk.injEq, cutAt_eq_some_iff s.beginMarker_ne_nil,
    cutAt_eq_some_iff s.endMarker_ne_nil, marked]
  constructor
  · rintro ⟨b, rest, ⟨rfl, hb⟩, i, a, ⟨rfl, hi⟩, rfl, rfl, rfl⟩
    exact ⟨by simp only [List.append_assoc], hb, hi⟩
  · rintro ⟨rfl, hb, hi⟩
    exact ⟨before, _, ⟨by simp only [List.append_assoc], hb⟩, inside, after, ⟨rfl, hi⟩, rfl, rfl, rfl⟩

lemma fill?_eq (s : Section) (doc text : String) :
    s.fill? doc text = (s.cut? doc.toList).map fun p =>
      String.ofList (p.1 ++ s.marked (content text).toList ++ p.2.2) := by
  unfold fill? cut?
  cases cutAt s.beginMarker.toList doc.toList with
  | none => rfl
  | some p =>
    simp only [Option.bind_eq_bind, Option.bind_some]
    cases cutAt s.endMarker.toList p.2 with
    | none => rfl
    | some q => simp [marked, String.ofList_append, String.append_assoc]

lemma fill_of_cut? {doc text : String} (h : s.cut? doc.toList = some (before, inside, after)) :
    s.fill doc text = .ok (.ofList (before ++ s.marked (content text).toList ++ after)) := by
  rw [fill, fill?_eq, h]
  rfl

/-- What a filled document is made of. -/
lemma fill_eq_ok {doc text filled : String} (h : s.fill doc text = .ok filled) :
    ∃ before inside after, s.cut? doc.toList = some (before, inside, after)
      ∧ filled = .ofList (before ++ s.marked (content text).toList ++ after) := by
  rw [fill, fill?_eq] at h
  cases hcut : s.cut? doc.toList with
  | none =>
    rw [hcut] at h
    cases h
  | some p =>
    rw [hcut] at h
    exact ⟨p.1, p.2.1, p.2.2, rfl, (Except.ok.inj h).symm⟩

/-- Filling a section whose region is known. -/
lemma fill_ofList (hb : Clear s.beginMarker.toList before)
    (hi : Clear s.endMarker.toList inside) (after : List Char) (text : String) :
    s.fill (.ofList (before ++ s.marked inside ++ after)) text
      = .ok (.ofList (before ++ s.marked (content text).toList ++ after)) := by
  apply fill_of_cut?
  rw [String.toList_ofList]
  exact cut?_eq_some_iff.mpr ⟨rfl, hb, hi⟩

/-- A document that has the markers of a section in their order can be filled. -/
lemma exists_fill (s : Section) (before inside after : List Char) (text : String) :
    ∃ doc, s.fill (.ofList (before ++ s.marked inside ++ after)) text = .ok doc := by
  obtain ⟨p, hp, hsuffix⟩ := exists_cutAt s.beginMarker.toList before
    (inside ++ s.endMarker.toList ++ after)
  obtain ⟨upTo, hupTo⟩ := hsuffix
  obtain ⟨q, hq, -⟩ := exists_cutAt s.endMarker.toList (upTo ++ inside) after
  have hcut : s.cut? (before ++ s.marked inside ++ after) = some (p.1, q.1, q.2) := by
    unfold cut? marked
    simp only [List.append_assoc] at hp hq hupTo ⊢
    rw [hp, Option.bind_eq_bind, Option.bind_some, ← hupTo, hq]
    rfl
  exact ⟨_, fill_of_cut? (by rw [String.toList_ofList, hcut])⟩

end Section

/-- A document with the region of one section before that of another. -/
def arrange (s t : Section) (before first between second after : List Char) : List Char :=
  before ++ s.marked first ++ between ++ t.marked second ++ after

lemma fill_arrange {s t : Section} {before first between second : List Char}
    (hb : Clear t.beginMarker.toList (before ++ s.marked first ++ between))
    (hi : Clear t.endMarker.toList second) (after : List Char) (y : String) :
    t.fill (.ofList (arrange s t before first between second after)) y
      = .ok (.ofList (arrange s t before first between (Section.content y).toList after)) :=
  Section.fill_ofList hb hi after y

/-- Whether the sections of such a document are found at these regions. -/
structure Arranged (s t : Section) (before first between second : List Char) : Prop where
  first_begins : Clear s.beginMarker.toList before
  first_ends : Clear s.endMarker.toList first
  second_begins : Clear t.beginMarker.toList (before ++ s.marked first ++ between)
  second_ends : Clear t.endMarker.toList second

namespace Arranged

variable {s t : Section} {before first between second : List Char} {x y : String}

lemma fill_first (h : Arranged s t before first between second) (after : List Char) (x : String) :
    s.fill (.ofList (arrange s t before first between second after)) x
      = .ok (.ofList (arrange s t before (Section.content x).toList between second after)) := by
  have hfill := Section.fill_ofList h.first_begins h.first_ends (between ++ t.marked second ++ after) x
  simpa only [arrange, List.append_assoc] using hfill

lemma fill_second (h : Arranged s t before first between second) (after : List Char) (y : String) :
    t.fill (.ofList (arrange s t before first between second after)) y
      = .ok (.ofList (arrange s t before first between (Section.content y).toList after)) :=
  fill_arrange h.second_begins h.second_ends after y

lemma ends_content {marker : List Char} (hm : IsMarker marker) (hx : ¬ marker <:+: x.toList) :
    Clear marker (Section.content x).toList := by
  have hclear : Clear marker ([] ++ (Section.content x).toList ++ []) := hm.clear_content_iff.mpr
    ⟨fun hin => hm.ne_nil (List.eq_nil_of_infix_nil hin), hx, .nil hm.ne_nil⟩
  simpa using hclear

/-- With a text in the first section both are found where they were. -/
lemma content_first (h : Arranged s t before first between second) (hs : s.OneLine)
    (ht : t.OneLine) (hend : ¬ s.endMarker.toList <:+: x.toList)
    (hbegin : ¬ t.beginMarker.toList <:+: x.toList) :
    Arranged s t before (Section.content x).toList between second where
  first_begins := h.first_begins
  first_ends := ends_content (Section.isMarker_end hs) hend
  second_begins := by
    have parts : ∀ inside, before ++ s.marked inside ++ between
        = before ++ s.beginMarker.toList ++ inside ++ (s.endMarker.toList ++ between) := by
      simp [Section.marked]
    have hold := h.second_begins
    rw [parts] at hold ⊢
    refine (Section.isMarker_begin ht).clear_content_iff.mpr ⟨?_, hbegin, hold.of_append⟩
    rw [List.append_assoc] at hold
    exact hold.not_infix
  second_ends := h.second_ends

lemma content_second (h : Arranged s t before first between second) (ht : t.OneLine)
    (hend : ¬ t.endMarker.toList <:+: y.toList) :
    Arranged s t before first between (Section.content y).toList where
  first_begins := h.first_begins
  first_ends := h.first_ends
  second_begins := h.second_begins
  second_ends := ends_content (Section.isMarker_end ht) hend

/-- Filling both sections, in either order, leaves a document with both texts in the same places. -/
lemma fill_both (h : Arranged s t before first between second) (hs : s.OneLine) (ht : t.OneLine)
    (hend : ¬ s.endMarker.toList <:+: x.toList) (hbegin : ¬ t.beginMarker.toList <:+: x.toList)
    (hend' : ¬ t.endMarker.toList <:+: y.toList) (after : List Char) :
    let doc := String.ofList (arrange s t before first between second after)
    let both := String.ofList (arrange s t before (Section.content x).toList between
      (Section.content y).toList after)
    (do t.fill (← s.fill doc x) y) = .ok both ∧ (do s.fill (← t.fill doc y) x) = .ok both
      ∧ Arranged s t before (Section.content x).toList between (Section.content y).toList := by
  have one := h.content_first hs ht hend hbegin
  have other := h.content_second ht hend'
  refine ⟨?_, ?_, one.content_second ht hend'⟩
  · rw [h.fill_first]
    exact one.fill_second after y
  · rw [h.fill_second]
    exact other.fill_first after x

end Arranged

lemma fillTemplate_of_fill {template table doc : String} (details : String)
    (h : Section.parametersTable.fill template table = .ok doc) :
    fillTemplate template table details = Section.parametersDetails.fill doc details := by
  rw [fillTemplate, h]
  rfl

/-- Where something starts in a text and where it stops, counted in characters. -/
structure Region where
  start : Nat
  stop : Nat
  deriving DecidableEq, Repr

namespace Region

def Disjoint (r q : Region) : Prop := r.stop ≤ q.start ∨ q.stop ≤ r.start

/-- A text with two regions replaced, the first of which comes before the second. -/
def overwrite (text : List Char) (r : Region) (x : List Char) (q : Region) (y : List Char) :
    List Char :=
  text.take r.start ++ x ++ (text.take q.start).drop r.stop ++ y ++ text.drop q.stop

lemma overwrite_append (a u b v c x y : List Char) :
    overwrite (a ++ u ++ b ++ v ++ c) ⟨a.length, (a ++ u).length⟩ x
      ⟨(a ++ u ++ b).length, (a ++ u ++ b ++ v).length⟩ y = a ++ x ++ b ++ y ++ c := by
  have first : (a ++ u ++ b ++ v ++ c).take a.length = a := by
    simp only [List.append_assoc, List.take_left]
  have middle : (a ++ u ++ b ++ v ++ c).take (a ++ u ++ b).length = a ++ u ++ b := by
    rw [List.append_assoc (a ++ u ++ b), List.take_left]
  rw [overwrite, first, middle, List.append_assoc (a ++ u), List.drop_left, List.drop_left]

end Region

/-- The marked region of a section in a document, markers included. -/
def Section.region? (s : Section) (doc : String) : Option Region :=
  (s.cut? doc.toList).map fun (before, inside, _) =>
    ⟨before.length, (before ++ s.marked inside).length⟩

lemma Section.start_lt_stop {s : Section} {doc : String} {r : Region}
    (h : s.region? doc = some r) : r.start < r.stop := by
  obtain ⟨⟨before, inside, after⟩, -, rfl⟩ := Option.map_eq_some_iff.mp h
  simp [marked, beginMarker]

/-- A document in which the region of one section comes before that of another. -/
lemma exists_arranged {s t : Section} {doc : String} {r q : Region} (hr : s.region? doc = some r)
    (hq : t.region? doc = some q) (hrq : r.stop ≤ q.start) :
    ∃ before first between second after,
      doc = .ofList (arrange s t before first between second after)
        ∧ Arranged s t before first between second
        ∧ ∀ x y, r.overwrite doc.toList (s.marked x) q (t.marked y)
          = arrange s t before x between y after := by
  obtain ⟨⟨before, first, rest⟩, hcut, rfl⟩ := Option.map_eq_some_iff.mp hr
  obtain ⟨⟨upTo, second, after⟩, hcut', rfl⟩ := Option.map_eq_some_iff.mp hq
  obtain ⟨hdoc, hbefore, hfirst⟩ := Section.cut?_eq_some_iff.mp hcut
  obtain ⟨hdoc', hupTo, hsecond⟩ := Section.cut?_eq_some_iff.mp hcut'
  have hp : before ++ s.marked first <+: upTo := by
    refine List.prefix_of_prefix_length_le (?_ : _ <+: doc.toList) ?_ hrq
    · exact ⟨rest, hdoc.symm⟩
    · exact ⟨t.marked second ++ after, by rw [hdoc', List.append_assoc]⟩
  obtain ⟨between, rfl⟩ := hp
  refine ⟨before, first, between, second, after, ?_, ⟨hbefore, hfirst, hupTo, hsecond⟩, ?_⟩
  · rw [arrange, ← hdoc', String.ofList_toList]
  · intro x y
    rw [hdoc']
    exact Region.overwrite_append ..

/-- Whether a text has none of the four markers. -/
structure MarkerFree (text : String) : Prop where
  table : ¬ Section.parametersTable.beginMarker.toList <:+: text.toList
    ∧ ¬ Section.parametersTable.endMarker.toList <:+: text.toList
  details : ¬ Section.parametersDetails.beginMarker.toList <:+: text.toList
    ∧ ¬ Section.parametersDetails.endMarker.toList <:+: text.toList

/-- A template whose two regions lie apart keeps everything outside them. Each gets its text below the
note, in either order of filling, and a template that has been filled is as good as the first. -/
theorem fillTemplate_of_disjoint (template table details table' details' : String) {r q : Region}
    (hr : Section.parametersTable.region? template = some r)
    (hq : Section.parametersDetails.region? template = some q) (hdisjoint : r.Disjoint q)
    (htable : MarkerFree table) (hdetails : MarkerFree details) (htable' : MarkerFree table')
    (hdetails' : MarkerFree details') :
    let filled (s : Section) (text : String) : List Char :=
      (s.beginMarker ++ "\n" ++ Section.note ++ "\n\n" ++ text ++ "\n" ++ s.endMarker).toList
    ∃ doc, fillTemplate template table details = .ok doc
      ∧ (r.stop ≤ q.start → doc.toList = r.overwrite template.toList
        (filled .parametersTable table) q (filled .parametersDetails details))
      ∧ (q.stop ≤ r.start → doc.toList = q.overwrite template.toList
        (filled .parametersDetails details) r (filled .parametersTable table))
      ∧ (do Section.parametersTable.fill (← Section.parametersDetails.fill template details) table)
        = .ok doc
      ∧ fillTemplate doc table' details' = fillTemplate template table' details' := by
  intro filled
  have filled_eq : ∀ s text, filled s text = s.marked (Section.content text).toList := by
    simp [filled, Section.marked, Section.content]
  have hs := Section.oneLine_parametersTable
  have ht := Section.oneLine_parametersDetails
  have hrlt := Section.start_lt_stop hr
  have hqlt := Section.start_lt_stop hq
  simp only [filled_eq]
  rcases hdisjoint with hrq | hqr
  · obtain ⟨before, first, between, second, after, rfl, harranged, hover⟩ :=
      exists_arranged hr hq hrq
    have both := fun {x y} (hx : MarkerFree x) (hy : MarkerFree y) => harranged.fill_both hs ht
      hx.table.2 hx.details.1 hy.details.2 after
    obtain ⟨hfill, hother, hboth⟩ := both htable hdetails
    refine ⟨_, hfill, fun _ => ?_, fun _ => by omega, hother, ?_⟩
    · rw [hover, String.toList_ofList]
    · have again := hboth.fill_both hs ht htable'.table.2 htable'.details.1 hdetails'.details.2 after
      exact again.1.trans (both htable' hdetails').1.symm
  · obtain ⟨before, first, between, second, after, rfl, harranged, hover⟩ :=
      exists_arranged hq hr hqr
    have both := fun {x y} (hx : MarkerFree x) (hy : MarkerFree y) => harranged.fill_both ht hs
      hy.details.2 hy.table.1 hx.table.2 after
    obtain ⟨hother, hfill, hboth⟩ := both htable hdetails
    refine ⟨_, hfill, fun _ => by omega, fun _ => ?_, hother, ?_⟩
    · rw [hover, String.toList_ofList]
    · have again := hboth.fill_both ht hs hdetails'.details.2 hdetails'.table.1 htable'.table.2 after
      exact again.2.1.trans (both htable' hdetails').2.1.symm

/-- The details come first here, after an end marker of the table that closes nothing. -/
theorem fillTemplate_of_disjoint_details_first :
    let template := "<!-- PARAMETERS-TABLE END --> <!-- PARAMETERS-DETAILS BEGIN --> old "
      ++ "<!-- PARAMETERS-DETAILS END --> and <!-- PARAMETERS-TABLE BEGIN --><!-- PARAMETERS-TABLE END -->"
    Section.parametersTable.region? template = some ⟨104, 164⟩
      ∧ Section.parametersDetails.region? template = some ⟨30, 99⟩
      ∧ ∃ doc, fillTemplate template "| a |" "## a" = .ok doc
        ∧ fillTemplate doc "| b |" "<!-- b -->" = fillTemplate template "| b |" "<!-- b -->" := by
  intro template
  have hr : Section.parametersTable.region? template = some ⟨104, 164⟩ := by decide +kernel
  have hq : Section.parametersDetails.region? template = some ⟨30, 99⟩ := by decide +kernel
  have free : ∀ text ∈ ["| a |", "## a", "| b |", "<!-- b -->"], MarkerFree text := by
    intro text htext
    constructor <;> revert text <;> decide +kernel
  obtain ⟨doc, hdoc, -, -, -, hagain⟩ := fillTemplate_of_disjoint template "| a |" "## a" "| b |"
    "<!-- b -->" hr hq (.inr (by decide)) (free _ (by simp)) (free _ (by simp)) (free _ (by simp))
    (free _ (by simp))
  exact ⟨hr, hq, doc, hdoc, hagain⟩

end PlannerConfig
