import PlannerConfig.Proofs.Reference.Template

/-!
Sections of a template that lie one in the other. The details are filled after the table, so what they
enclose is replaced, the table with it: then the document has no trace of the table that was given. From
every other template a document comes with both texts in their sections, and filling it again changes
nothing.
-/
namespace PlannerConfig

open PlannerConfig.Text

/-- A text with angle brackets at its ends only: it cannot overlap with another one. -/
structure Bracketed (marker : List Char) : Prop where
  head : '<' ∉ marker.tail
  last : '>' ∉ marker.dropLast

namespace Section

variable {s t : Section} {before inside after : List Char}

lemma head?_marked (s : Section) (inside : List Char) : (s.marked inside).head? = some '<' := by
  simp [marked, beginMarker]

lemma getLast?_marked (s : Section) (inside : List Char) :
    (s.marked inside).getLast? = some '>' := by
  have parts : s.marked inside
      = s.beginMarker.toList ++ inside ++ ("<!-- " ++ s.name ++ " END --").toList ++ ['>'] := by
    simp [marked, endMarker]
  rw [parts, List.getLast?_concat]

lemma getLast?_append_marked (xs : List Char) (s : Section) (inside : List Char) :
    (xs ++ s.marked inside).getLast? = some '>' := by
  simp [List.getLast?_append, getLast?_marked]

/-- A section behind a text that does not begin it. -/
lemma cut?_append_of_not_infix (hs : Bracketed s.beginMarker.toList) {xs : List Char}
    (hx : xs.getLast? = some '>') (hnone : ¬ s.beginMarker.toList <:+: xs) (ys : List Char) :
    s.cut? (xs ++ ys) = (s.cut? ys).map fun p => (xs ++ p.1, p.2) := by
  unfold cut?
  rw [cutAt_append_of_last s.beginMarker_ne_nil hs.last hx hnone]
  cases cutAt s.beginMarker.toList ys with
  | none => rfl
  | some p =>
    simp only [Option.map_some, Option.bind_eq_bind, Option.bind_some]
    cases cutAt s.endMarker.toList p.2 <;> rfl

/-- A section that begins before the marked region of another one and ends after it. -/
lemma cut?_around (hs : Bracketed s.endMarker.toList) {xs rest region : List Char}
    (hcut : cutAt s.beginMarker.toList xs = some (before, rest))
    (hrest : ¬ s.endMarker.toList <:+: rest)
    (hhead : region.head? = some '<') (hlast : region.getLast? = some '>')
    (hregion : ¬ s.endMarker.toList <:+: region) (ys : List Char) :
    s.cut? (xs ++ region ++ ys)
      = (cutAt s.endMarker.toList ys).map fun p => (before, rest ++ region ++ p.1, p.2) := by
  have begins : cutAt s.beginMarker.toList (xs ++ region ++ ys)
      = some (before, rest ++ region ++ ys) := by
    rw [List.append_assoc, cutAt_append s.beginMarker_ne_nil hcut, List.append_assoc]
  have ends : cutAt s.endMarker.toList (rest ++ region ++ ys)
      = (cutAt s.endMarker.toList ys).map fun p => (rest ++ region ++ p.1, p.2) := by
    apply cutAt_append_of_last s.endMarker_ne_nil hs.last
    · simp [List.getLast?_append, hlast]
    · rw [infix_append_iff_of_head hs.head hhead, not_or]
      exact ⟨hrest, hregion⟩
  unfold cut?
  simp only [begins, Option.bind_eq_bind, Option.bind_some, ends]
  cases cutAt s.endMarker.toList ys <;> rfl

end Section

lemma IsMarker.not_infix_marked {marker : List Char} (h : IsMarker marker) {s : Section}
    {text : String} (hbegin : ¬ marker <:+: s.beginMarker.toList) (htext : ¬ marker <:+: text.toList)
    (hend : ¬ marker <:+: s.endMarker.toList) :
    ¬ marker <:+: s.marked (Section.content text).toList := by
  have parts : s.marked (Section.content text).toList = s.beginMarker.toList
      ++ '\n' :: (Section.note.toList ++ '\n' :: ([] ++ '\n' :: (text.toList ++ '\n' ::
        s.endMarker.toList))) := by
    simp [Section.marked, Section.content]
  have empty : ¬ marker <:+: [] := fun hin => h.ne_nil (List.eq_nil_of_infix_nil hin)
  rw [parts]
  simp only [infix_append_cons_iff h.oneLine, not_or]
  exact ⟨hbegin, h.not_infix_note, empty, htext, hend⟩

/-- Whether a document has a text in a section, below the note. -/
def Section.Shows (s : Section) (text doc : String) : Prop :=
  (s.beginMarker ++ "\n" ++ Section.note ++ "\n\n" ++ text ++ "\n" ++ s.endMarker).toList <:+: doc.toList

lemma Section.shows_of_marked {s : Section} {text : String} (before after : List Char) :
    s.Shows text (.ofList (before ++ s.marked (content text).toList ++ after)) := by
  refine ⟨before, after, ?_⟩
  simp [marked, content]

lemma Section.Shows.begins {s : Section} {text doc : String} (h : s.Shows text doc) :
    s.beginMarker.toList <:+: doc.toList := by
  unfold Shows at h
  simp only [String.toList_append, List.append_assoc] at h
  exact List.infix_append_left.trans h

/-- Documents that are arranged and filled show both texts, and filling them again changes nothing. -/
lemma Arranged.shows {s t : Section} {before first between second : List Char} {x y : String}
    (h : Arranged s t before first between second) (hs : s.OneLine) (ht : t.OneLine)
    (hend : ¬ s.endMarker.toList <:+: x.toList) (hbegin : ¬ t.beginMarker.toList <:+: x.toList)
    (hend' : ¬ t.endMarker.toList <:+: y.toList) (after : List Char) :
    let both := String.ofList (arrange s t before (Section.content x).toList between
      (Section.content y).toList after)
    s.Shows x both ∧ t.Shows y both
      ∧ (do t.fill (← s.fill both x) y) = .ok both ∧ (do s.fill (← t.fill both y) x) = .ok both := by
  intro both
  obtain ⟨-, -, filled⟩ := h.fill_both hs ht hend hbegin hend' after
  obtain ⟨one, other, -⟩ := filled.fill_both hs ht hend hbegin hend' after
  refine ⟨?_, ?_, one, other⟩
  · have shown : s.Shows x _ := Section.shows_of_marked before
      (between ++ t.marked (Section.content y).toList ++ after)
    simpa only [both, arrange, List.append_assoc] using shown
  · exact Section.shows_of_marked _ after

/-- Whether the details of a template begin before its table and do not end there. -/
def DetailsAroundTable (template : String) : Prop :=
  ∃ before rest, cutAt Section.parametersTable.beginMarker.toList template.toList = some (before, rest)
    ∧ Section.parametersDetails.beginMarker.toList <:+: before
    ∧ Section.parametersDetails.cut? before = none

lemma bracketed_details : Bracketed Section.parametersDetails.beginMarker.toList
    ∧ Bracketed Section.parametersDetails.endMarker.toList :=
  ⟨⟨by decide, by decide⟩, ⟨by decide, by decide⟩⟩

/-- A filled table has no marker of the details. -/
lemma MarkerFree.not_infix_table {table : String} (h : MarkerFree table) :
    ¬ Section.parametersDetails.beginMarker.toList
        <:+: Section.parametersTable.marked (Section.content table).toList
      ∧ ¬ Section.parametersDetails.endMarker.toList
        <:+: Section.parametersTable.marked (Section.content table).toList := by
  have begins := Section.isMarker_begin Section.oneLine_parametersDetails
  have ends := Section.isMarker_end Section.oneLine_parametersDetails
  exact ⟨begins.not_infix_marked (by decide +kernel) h.details.1 (by decide +kernel),
    ends.not_infix_marked (by decide +kernel) h.details.2 (by decide +kernel)⟩

section fillTemplate

variable {template table details doc : String} {before inside after : List Char}

lemma detailsAroundTable_iff
    (h : Section.parametersTable.cut? template.toList = some (before, inside, after)) :
    DetailsAroundTable template ↔ Section.parametersDetails.beginMarker.toList <:+: before
      ∧ Section.parametersDetails.cut? before = none := by
  obtain ⟨htemplate, hbefore, -⟩ := Section.cut?_eq_some_iff.mp h
  have hcut : cutAt Section.parametersTable.beginMarker.toList template.toList
      = some (before, inside ++ Section.parametersTable.endMarker.toList ++ after) := by
    refine (cutAt_eq_some_iff Section.parametersTable.beginMarker_ne_nil).mpr ⟨?_, hbefore⟩
    rw [htemplate, Section.marked]
    simp only [List.append_assoc]
  unfold DetailsAroundTable
  rw [hcut]
  simp

/-- The details are filled in the document in which the table is. -/
lemma fillTemplate_of_cut? (table details : String)
    (h : Section.parametersTable.cut? template.toList = some (before, inside, after)) :
    fillTemplate template table details = Section.parametersDetails.fill (.ofList
      (before ++ Section.parametersTable.marked (Section.content table).toList ++ after)) details :=
  fillTemplate_of_fill details (Section.fill_of_cut? h)

lemma exists_cut?_of_fillTemplate (h : fillTemplate template table details = .ok doc) :
    ∃ before inside after,
      Section.parametersTable.cut? template.toList = some (before, inside, after) := by
  cases hfill : Section.parametersTable.fill template table with
  | error e =>
    rw [fillTemplate, hfill] at h
    cases h
  | ok filled =>
    obtain ⟨before, inside, after, hcut, -⟩ := Section.fill_eq_ok hfill
    exact ⟨before, inside, after, hcut⟩

lemma shows_details (h : fillTemplate template table details = .ok doc) :
    Section.parametersDetails.Shows details doc := by
  obtain ⟨before, inside, after, hcut⟩ := exists_cut?_of_fillTemplate h
  rw [fillTemplate_of_cut? table details hcut] at h
  obtain ⟨b, i, a, -, rfl⟩ := Section.fill_eq_ok h
  exact Section.shows_of_marked b a

/-- Details around the table are filled as if there were no table. -/
lemma fillTemplate_of_around {b rest : List Char} (htable : MarkerFree table)
    (hcut : Section.parametersTable.cut? template.toList = some (before, inside, after))
    (hbegin : cutAt Section.parametersDetails.beginMarker.toList before = some (b, rest))
    (hrest : ¬ Section.parametersDetails.endMarker.toList <:+: rest) (details : String) :
    fillTemplate template table details
      = (cutAt Section.parametersDetails.endMarker.toList after).elim
        (.error ⟨.parametersDetails⟩) fun p => .ok (.ofList
          (b ++ Section.parametersDetails.marked (Section.content details).toList ++ p.2)) := by
  have around := Section.cut?_around bracketed_details.2 hbegin hrest
    (Section.head?_marked .parametersTable (Section.content table).toList)
    (Section.getLast?_marked .parametersTable _) htable.not_infix_table.2 after
  rw [fillTemplate_of_cut? table details hcut, Section.fill, Section.fill?_eq, String.toList_ofList,
    around]
  cases cutAt Section.parametersDetails.endMarker.toList after <;> rfl

/-- The document that has both sections after the table is filled, the table first. -/
lemma arranged_table_first (htable : MarkerFree table)
    (hcut : Section.parametersTable.cut? template.toList = some (before, inside, after))
    (hbegin : ¬ Section.parametersDetails.beginMarker.toList <:+: before)
    (h : fillTemplate template table details = .ok doc) :
    ∃ between second rest, doc = .ofList (arrange .parametersTable .parametersDetails before
        (Section.content table).toList between (Section.content details).toList rest)
      ∧ Arranged .parametersTable .parametersDetails before (Section.content table).toList between
        second := by
  rw [fillTemplate_of_cut? table details hcut] at h
  obtain ⟨upTo, second, rest, hdetails, rfl⟩ := Section.fill_eq_ok h
  rw [String.toList_ofList] at hdetails
  have table_only : ¬ Section.parametersDetails.beginMarker.toList
      <:+: before ++ Section.parametersTable.marked (Section.content table).toList := by
    rw [infix_append_iff_of_head bracketed_details.1.head (Section.head?_marked ..), not_or]
    exact ⟨hbegin, htable.not_infix_table.1⟩
  have behind := Section.cut?_append_of_not_infix bracketed_details.1
    (Section.getLast?_append_marked before .parametersTable (Section.content table).toList)
    table_only after
  rw [hdetails] at behind
  obtain ⟨⟨between, found⟩, -, heq⟩ := Option.map_eq_some_iff.mp behind.symm
  obtain ⟨rfl, -⟩ := Prod.mk.inj heq
  obtain ⟨-, hbefore, -⟩ := Section.cut?_eq_some_iff.mp hcut
  obtain ⟨-, hupTo, hsecond⟩ := Section.cut?_eq_some_iff.mp hdetails
  refine ⟨between, _, _, rfl, hbefore, ?_, hupTo, hsecond⟩
  exact Arranged.ends_content (Section.isMarker_end Section.oneLine_parametersTable) htable.table.2

/-- The document that has the details before the table. -/
lemma arranged_details_first {b i a : List Char} (htable : MarkerFree table)
    (hcut : Section.parametersTable.cut? template.toList = some (before, inside, after))
    (hdetails : Section.parametersDetails.cut? before = some (b, i, a))
    (h : fillTemplate template table details = .ok doc) :
    doc = .ofList (arrange .parametersDetails .parametersTable b (Section.content details).toList a
        (Section.content table).toList after)
      ∧ Arranged .parametersDetails .parametersTable b i a (Section.content table).toList := by
  obtain ⟨-, hbefore, -⟩ := Section.cut?_eq_some_iff.mp hcut
  obtain ⟨heq, hb, hi⟩ := Section.cut?_eq_some_iff.mp hdetails
  have arranged : Arranged .parametersDetails .parametersTable b i a (Section.content table).toList :=
    ⟨hb, hi, heq ▸ hbefore,
      Arranged.ends_content (Section.isMarker_end Section.oneLine_parametersTable) htable.table.2⟩
  refine ⟨?_, arranged⟩
  rw [fillTemplate_of_cut? table details hcut, heq] at h
  exact (Except.ok.inj ((arranged.fill_first after details).symm.trans h)).symm

end fillTemplate

/-- A document that is returned shows the details. It shows the table and comes back when it is filled
again, unless the details of the template are around the table: then it is the same for all tables. -/
theorem fillTemplate_shows (template table details doc : String) (htable : MarkerFree table)
    (hdetails : MarkerFree details) (h : fillTemplate template table details = .ok doc) :
    Section.parametersDetails.Shows details doc ∧
      (¬ DetailsAroundTable template ∧ Section.parametersTable.Shows table doc
          ∧ fillTemplate doc table details = .ok doc
        ∨ DetailsAroundTable template ∧ ∀ table', MarkerFree table' →
          fillTemplate template table' details = .ok doc) := by
  have onT := Section.oneLine_parametersTable
  have onD := Section.oneLine_parametersDetails
  obtain ⟨before, inside, after, hcut⟩ := exists_cut?_of_fillTemplate h
  refine ⟨shows_details h, ?_⟩
  rw [detailsAroundTable_iff hcut]
  cases hbegin : cutAt Section.parametersDetails.beginMarker.toList before with
  | none =>
    have hnone := (cutAt_eq_none_iff Section.parametersDetails.beginMarker_ne_nil).mp hbegin
    obtain ⟨between, second, rest, rfl, arranged⟩ := arranged_table_first htable hcut hnone h
    obtain ⟨shown, -, again, -⟩ := arranged.shows onT onD htable.table.2 htable.details.1
      hdetails.details.2 rest
    exact .inl ⟨fun around => hnone around.1, shown, again⟩
  | some p =>
    obtain ⟨b, rest⟩ := p
    cases hwhole : Section.parametersDetails.cut? before with
    | some q =>
      obtain ⟨b', i, a⟩ := q
      obtain ⟨rfl, arranged⟩ := arranged_details_first htable hcut hwhole h
      obtain ⟨-, shown, -, again⟩ := arranged.shows onD onT hdetails.details.2 hdetails.table.1
        htable.table.2 after
      exact .inl ⟨by simp, shown, again⟩
    | none =>
      have hrest : ¬ Section.parametersDetails.endMarker.toList <:+: rest := by
        rw [← cutAt_eq_none_iff Section.parametersDetails.endMarker_ne_nil]
        cases hend : cutAt Section.parametersDetails.endMarker.toList rest with
        | none => rfl
        | some q => simp [Section.cut?, hbegin, hend] at hwhole
      have begun : Section.parametersDetails.beginMarker.toList <:+: before := by
        obtain ⟨rfl, -⟩ := (cutAt_eq_some_iff Section.parametersDetails.beginMarker_ne_nil).mp hbegin
        exact ⟨b, rest, rfl⟩
      refine .inr ⟨⟨begun, rfl⟩, fun table' htable' => ?_⟩
      rw [fillTemplate_of_around htable' hcut hbegin hrest,
        ← fillTemplate_of_around htable hcut hbegin hrest, h]

/-- The old text of the table has a marker of the details, which is dropped. -/
theorem fillTemplate_shows_fresh_details :
    let template := Section.parametersTable.beginMarker ++ Section.parametersDetails.beginMarker
      ++ Section.parametersTable.endMarker ++ Section.parametersDetails.beginMarker
      ++ Section.parametersDetails.endMarker
    ∃ doc, (MarkerFree "| a |" ∧ MarkerFree "## a" ∧ fillTemplate template "| a |" "## a" = .ok doc)
      ∧ Section.parametersTable.Shows "| a |" doc ∧ fillTemplate doc "| a |" "## a" = .ok doc := by
  intro template
  have free : ∀ text ∈ ["| a |", "## a"], MarkerFree text := by
    intro text htext
    constructor <;> revert text <;> decide +kernel
  have hcut : Section.parametersTable.cut? template.toList = some
      ([], Section.parametersDetails.beginMarker.toList, Section.parametersDetails.marked []) := by
    refine Section.cut?_eq_some_iff.mpr
      ⟨?_, .nil (Section.beginMarker_ne_nil _), by unfold Clear; decide +kernel⟩
    simp [template, Section.marked]
  obtain ⟨doc, filled⟩ := Section.parametersDetails.exists_fill
    (Section.parametersTable.marked (Section.content "| a |").toList) [] [] "## a"
  have hdoc : fillTemplate template "| a |" "## a" = .ok doc := by
    rw [fillTemplate_of_cut? _ _ hcut, ← filled, List.nil_append, List.append_nil]
  refine ⟨doc, ⟨free _ (by simp), free _ (by simp), hdoc⟩, ?_⟩
  obtain ⟨-, ⟨-, shown⟩ | ⟨around, -⟩⟩ := fillTemplate_shows template "| a |" "## a" doc
    (free _ (by simp)) (free _ (by simp)) hdoc
  · exact shown
  · have before := ((detailsAroundTable_iff hcut).mp around).1
    exact absurd (List.eq_nil_of_infix_nil before) (Section.beginMarker_ne_nil _)

/-- The details are around the table: the document has no table, and filling it again fails. -/
theorem table_lost_in_details :
    let template := Section.parametersDetails.beginMarker ++ Section.parametersTable.beginMarker
      ++ Section.parametersTable.endMarker ++ Section.parametersDetails.endMarker
    ∃ doc, (MarkerFree "| a |" ∧ MarkerFree "## a" ∧ fillTemplate template "| a |" "## a" = .ok doc)
      ∧ ¬ Section.parametersTable.Shows "| a |" doc
      ∧ fillTemplate doc "| a |" "## a" = .error ⟨.parametersTable⟩ := by
  intro template
  have free : ∀ text ∈ ["| a |", "## a"], MarkerFree text := by
    intro text htext
    constructor <;> revert text <;> decide +kernel
  have hcut : Section.parametersTable.cut? template.toList = some
      (Section.parametersDetails.beginMarker.toList, [], Section.parametersDetails.endMarker.toList) := by
    refine Section.cut?_eq_some_iff.mpr
      ⟨?_, by unfold Clear; decide +kernel, .nil (Section.endMarker_ne_nil _)⟩
    simp [template, Section.marked]
  have alone : ∀ marker : List Char, marker ≠ [] → cutAt marker marker = some ([], []) := by
    intro marker hne
    exact (cutAt_eq_some_iff hne).mpr ⟨by simp, .nil hne⟩
  have filled := fillTemplate_of_around (free "| a |" (by simp)) hcut
    (alone _ (Section.beginMarker_ne_nil _))
    (fun hin => Section.endMarker_ne_nil _ (List.eq_nil_of_infix_nil hin)) "## a"
  rw [alone _ (Section.endMarker_ne_nil _), Option.elim_some, List.nil_append, List.append_nil]
    at filled
  -- no table begins in a document that has the details only
  have no_table : ¬ Section.parametersTable.beginMarker.toList
      <:+: Section.parametersDetails.marked (Section.content "## a").toList :=
    (Section.isMarker_begin Section.oneLine_parametersTable).not_infix_marked (by decide +kernel)
      (free _ (by simp)).table.1 (by decide +kernel)
  refine ⟨_, ⟨free _ (by simp), free _ (by simp), filled⟩, ?_, ?_⟩
  · intro shown
    have begins := shown.begins
    rw [String.toList_ofList] at begins
    exact no_table begins
  · have lacking : Section.parametersTable.cut? (Section.parametersDetails.marked
        (Section.content "## a").toList) = none := by
      rw [Section.cut?, (cutAt_eq_none_iff (Section.beginMarker_ne_nil _)).mpr no_table]
      rfl
    rw [fillTemplate, Section.fill, Section.fill?_eq, String.toList_ofList, lacking]
    rfl

end PlannerConfig
