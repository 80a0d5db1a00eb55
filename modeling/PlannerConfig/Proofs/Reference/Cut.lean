import PlannerConfig.Proofs.Catalog.Dotted
import PlannerConfig.Proofs.Reference.Visible

/-!
One path more or less to be skipped. The reference with the path is the one without it, cut at the
entry that the path belongs to: there is one such entry at most, its reference takes its place, what
lies beneath it is left out, and everything else stays as it is and where it is.
-/
namespace PlannerConfig

open PlannerConfig.Text

namespace Skip

/-- The paths to be skipped but one. -/
def without (skip : Skip) (text : String) : Skip :=
  ⟨skip.references.filter fun pair => pair.1 ≠ text⟩

variable {skip : Skip} {text other : String}

lemma reference?_without_of_ne (h : other ≠ text) :
    (skip.without text).reference? other = skip.reference? other := by
  obtain ⟨references⟩ := skip
  show (references.filter fun pair => pair.1 ≠ text).lookup other = references.lookup other
  induction references with
  | nil => rfl
  | cons pair rest ih => grind

/-- One path is skipped, and so are the others that were skipped before. -/
lemma isSkipped_iff_without (h : skip.isSkipped text = true) : skip.isSkipped other = true
    ↔ other = text ∨ (skip.without text).isSkipped other = true := by
  by_cases heq : other = text
  · simp [heq, h]
  · simp [isSkipped, heq, reference?_without_of_ne heq]

/-- One path more cuts off what lies beneath its entry. -/
lemma cutsOff_iff_without {p q : List String} (hp : IsPointFree p) (hq : IsPointFree q)
    (hp0 : p ≠ []) (hs : skip.isSkipped (dotted p) = true) : skip.cutsOff q = true
      ↔ p <+: q.dropLast ∨ (skip.without (dotted p)).cutsOff q = true := by
  simp only [cutsOff_iff, isSkipped_iff_without hs]
  constructor
  · rintro ⟨r, hr, hr0, heq | hrs⟩
    · have hfree : IsPointFree r := hq.of_prefix (hr.trans (List.dropLast_prefix q))
      exact .inl ((hfree.dotted_inj hp hr0 hp0).mp heq ▸ hr)
    · exact .inr ⟨r, hr, hr0, hrs⟩
  · rintro (hbeneath | ⟨r, hr, hr0, hrs⟩)
    · exact ⟨p, hbeneath, hp0, .inl rfl⟩
    · exact ⟨r, hr, hr0, .inr hrs⟩

end Skip

lemma eq_or_prefix_dropLast {p q : List String} (h : p <+: q) : p = q ∨ p <+: q.dropLast := by
  rcases List.eq_nil_or_concat' q with rfl | ⟨front, name, rfl⟩
  · exact .inl (List.prefix_nil.mp h)
  · rw [List.dropLast_concat]
    exact List.prefix_concat_iff.mp h

/-- What is left of an item when the entry at a path is left to another document: the reference in
place of the entry, and nothing of what lies beneath it. -/
def Item.cutAt (path : List String) (reference : String) (i : Item) : Option Item :=
  if i.place.path = path then some { i with reference := some reference }
  else if path <+: i.place.path then none
  else some i

namespace Item

variable {path : List String} {reference : String} {i : Item}

lemma cutAt_self (h : i.place.path = path) :
    i.cutAt path reference = some { i with reference := some reference } := if_pos h

lemma cutAt_of_not_prefix (h : ¬ path <+: i.place.path) : i.cutAt path reference = some i := by
  have hne : i.place.path ≠ path := fun heq => h (heq ▸ List.prefix_rfl)
  rw [cutAt, if_neg hne, if_neg h]

lemma cutAt_beneath (h0 : i.place.path ≠ []) (h : path <+: i.place.path.dropLast) :
    i.cutAt path reference = none := by
  have hne : i.place.path ≠ path := by
    rintro rfl
    have short := h.length_le
    have long := List.length_pos_of_ne_nil h0
    rw [List.length_dropLast] at short
    omega
  rw [cutAt, if_neg hne, if_pos (h.trans (List.dropLast_prefix _))]

end Item

namespace Catalog

variable {c : Catalog} {skip : Skip}

/-- The table, the details and the export have a row, a block or an element for each of the items
that has one, and they stand in the order of the items. -/
structure Shows (c : Catalog) (skip : Skip) (items : List Item) : Prop where
  table : c.summaryTable skip = join "\n" (tableHeader ++ items.filterMap Item.row?) ++ "\n"
  details : ∀ level,
    c.detailList skip level = join "\n\n" (items.map (Item.detail level)) ++ "\n"
  parameters : (c.exported skip).parameters = items.filterMap Item.exportedParameter?
  skipped : (c.exported skip).skipped = items.filterMap Item.exportedReference?

lemma shows_outline (c : Catalog) (skip : Skip) : c.Shows skip (c.outline skip) :=
  ⟨rfl, fun _ => rfl, rfl, rfl⟩

lemma outline_eq_filterMap (h : c.root.Distinct) (skip : Skip) : c.outline skip
    = c.walk.filterMap fun x => if skip.cutsOff x.path then none else some (c.item skip x) := by
  rw [outline_eq_of_distinct h, visible, ← List.filterMap_eq_map, List.filterMap_filter]
  apply List.filterMap_congr
  intro x _
  cases skip.cutsOff x.path <;> rfl

lemma mem_places_of_mem_walk {x : Place} (hx : x ∈ c.walk) :
    (x.path, x.entry) ∈ c.root.places [] :=
  (Entry.walk_sublist_places 0 [] c.root).subset (List.mem_map_of_mem hx)

/-- Of the references only those of entries matter. -/
lemma outline_congr (h : c.root.Distinct) {other : Skip}
    (hsame : ∀ f ∈ c.root.places [], skip.reference? (dotted f.1) = other.reference? (dotted f.1)) :
    c.outline skip = c.outline other := by
  have entries : ∀ p x, p ≠ [] → c.root.find? p = some x →
      skip.reference? (dotted p) = other.reference? (dotted p) := by
    intro p x hp hx
    obtain ⟨name, rest, rfl⟩ := List.exists_cons_of_ne_nil hp
    exact hsame (name :: rest, x) ((Entry.mem_places h).mpr ⟨name, rest, rfl, hx⟩)
  rw [outline_eq_filterMap h, outline_eq_filterMap h]
  apply List.filterMap_congr
  intro x hx
  have place := mem_places_of_mem_walk hx
  obtain ⟨name, rest, hpath, hfind⟩ := (Entry.mem_places h).mp place
  rw [List.nil_append] at hpath
  have cuts : skip.cutsOff x.path = other.cutsOff x.path := by
    rw [Bool.eq_iff_iff, Skip.cutsOff_iff, Skip.cutsOff_iff]
    refine exists_congr fun p => and_congr_right fun hp => and_congr_right fun hp0 => ?_
    obtain ⟨beneath, hbeneath⟩ := hp.trans (List.dropLast_prefix _)
    rw [← hpath, ← hbeneath, Entry.find?_append] at hfind
    obtain ⟨y, hy, -⟩ := Option.bind_eq_some_iff.mp hfind
    rw [Skip.isSkipped, Skip.isSkipped, entries p y hp0 hy]
  have items : c.item skip x = c.item other x := by
    rw [item, item, hsame _ place]
  rw [cuts, items]

/-- The item of the entry itself becomes a reference, and one that is not beneath it stays. -/
lemma cutAt_item {p : List String} {x : Place} {reference : String} (hp : IsPointFree p)
    (hx : IsPointFree x.path) (hp0 : p ≠ []) (hx0 : x.path ≠ [])
    (hs : skip.reference? (dotted p) = some reference) (hbeneath : ¬ p <+: x.path.dropLast) :
    (c.item (skip.without (dotted p)) x).cutAt p reference = some (c.item skip x) := by
  by_cases heq : x.path = p
  · rw [Item.cutAt_self heq, item, item, heq, hs]
  · have texts : dotted x.path ≠ dotted p := fun h => heq ((hx.dotted_inj hp hx0 hp0).mp h)
    have aside : ¬ p <+: x.path := by
      intro hprefix
      rcases eq_or_prefix_dropLast hprefix with h | h
      · exact heq h.symm
      · exact hbeneath h
    rw [Item.cutAt_of_not_prefix aside, item, item, Skip.reference?_without_of_ne texts]

namespace PointFree

/-- The walk comes past entries whose names have no points. -/
lemma path_of_mem_walk (h : c.PointFree) {x : Place} (hx : x ∈ c.walk) :
    x.path ≠ [] ∧ IsPointFree x.path := by
  obtain ⟨hne, hfree, -⟩ := h.path_of_mem_places (mem_places_of_mem_walk hx)
  exact ⟨hne, hfree⟩

/-- The reference with one path more to be skipped is the reference without it, cut at the path. -/
lemma outline_eq_cut (h : c.PointFree) {p : List String} (hp : IsPointFree p) (hp0 : p ≠ [])
    {reference : String} (hs : skip.reference? (dotted p) = some reference) :
    c.outline skip
      = (c.outline (skip.without (dotted p))).filterMap (Item.cutAt p reference) := by
  rw [outline_eq_filterMap h.placed.distinct, outline_eq_filterMap h.placed.distinct,
    List.filterMap_filterMap]
  apply List.filterMap_congr
  intro x hx
  obtain ⟨hx0, hfree⟩ := h.path_of_mem_walk hx
  have cuts := Skip.cutsOff_iff_without hp hfree hp0 (by rw [Skip.isSkipped, hs]; rfl)
  by_cases hbeneath : p <+: x.path.dropLast
  · have gone : (c.item (skip.without (dotted p)) x).cutAt p reference = none :=
      Item.cutAt_beneath hx0 hbeneath
    rw [if_pos (cuts.mpr (.inl hbeneath))]
    split
    · rfl
    · exact gone.symm
  · have same : skip.cutsOff x.path = (skip.without (dotted p)).cutsOff x.path := by
      rw [Bool.eq_iff_iff, cuts, or_iff_right hbeneath]
    rw [same]
    split
    · rfl
    · exact (cutAt_item hp hfree hp0 hx0 hs hbeneath).symm

end PointFree

/-- What holds of a catalog whose entries are told by texts. -/
structure AddressedByText (c : Catalog) : Prop where
  /-- No two entries have the same text. -/
  nodup_dotted : ((c.root.places []).map fun f => dotted f.1).Nodup
  /-- A record has the text of the entry that it stands at. -/
  dottedPath_eq : ∀ p r, c.lookup? (.names p) = some r → r.dottedPath = dotted p
  /-- A look-up finds by the text what it finds by the names. -/
  lookup?_text : ∀ p, p ≠ [] → IsPointFree p →
    c.lookup? (.text (dotted p)) = c.lookup? (.names p)
  has_text : ∀ p, p ≠ [] → IsPointFree p → c.has (.text (dotted p)) = c.has (.names p)
  /-- A text is that of one entry at most. -/
  once : ∀ text, (c.root.places []).countP (fun f => dotted f.1 = text) ≤ 1
  /-- The reference shows an entry once at most. -/
  shown_once : ∀ skip, ((c.outline skip).map fun i => i.place.path).Nodup
  /-- If an entry is skipped, its reference takes its place and what lies beneath it is left out.
  Everything else is shown as it is without that. -/
  skip_entry : ∀ skip reference, ∀ f ∈ c.root.places [], skip.reference? (dotted f.1) = some reference →
    let items := c.outline (skip.without (dotted f.1))
    c.Shows (skip.without (dotted f.1)) items
      ∧ c.Shows skip (items.filterMap (Item.cutAt f.1 reference))
  /-- A text that is no entry's changes nothing. -/
  skip_other : ∀ skip text, (∀ f ∈ c.root.places [], dotted f.1 ≠ text) →
    c.Shows skip (c.outline (skip.without text))

lemma PointFree.addressedByText (h : c.PointFree) : c.AddressedByText where
  nodup_dotted := h.nodup_dotted
  dottedPath_eq p r hr := by rw [Record.dottedPath, h.placed.path_eq p r hr, List.nil_append]
  lookup?_text p hp hfree := congrArg c.get? (hfree.undotted_dotted hp)
  has_text p hp hfree := congrArg c.contains (hfree.undotted_dotted hp)
  once := h.countP_dotted_le_one
  shown_once skip := by
    rw [outline_eq_of_distinct h.placed.distinct, List.map_map]
    exact (List.filter_sublist.map _).nodup (Entry.nodup_walk h.placed.distinct 0 [])
  skip_entry skip reference f hf hs := by
    obtain ⟨hne, hfree, -⟩ := h.path_of_mem_places hf
    refine ⟨shows_outline c _, ?_⟩
    rw [← h.outline_eq_cut hfree hne hs]
    exact shows_outline c skip
  skip_other skip text htext := by
    have same : c.outline skip = c.outline (skip.without text) :=
      outline_congr h.placed.distinct fun f hf => (Skip.reference?_without_of_ne (htext f hf)).symm
    rw [← same]
    exact shows_outline c skip

/-- Whatever calls are made at paths without points, the entries can be told by texts. -/
theorem addressedByText_attemptAll (calls : List Call)
    (h : ∀ call ∈ calls, IsPointFree call.path) :
    (({} : Catalog).attemptAll calls).AddressedByText :=
  (PointFree.empty.attemptAll h).addressedByText

/-- Names may be empty. A parameter is refused beneath another, a group comes with the record of a
parameter, and the group around it is skipped. -/
theorem addressedByText_attemptAll_empty_names :
    let calls : List Call := [
      .parameter { path := [""], valueType := .double, summary := "Empty." },
      .group { path := ["a"], valueType := .object, summary := "Group." },
      .parameter { path := ["a", ""], valueType := .double, summary := "Beneath." },
      .parameter { path := ["", "b"], valueType := .double, summary := "Refused." },
      .group { path := ["a", "b"], valueType := .integer, summary := "Parameter." }]
    let c := ({} : Catalog).attemptAll calls
    (∀ call ∈ calls, IsPointFree call.path)
      ∧ (c.root.places []).map (fun f => dotted f.1) = ["", "a", "a.", "a.b"]
      ∧ (c.outline Skip.none).map (fun i => dotted i.place.path) = ["", "a", "a.", "a.b"]
      ∧ (c.outline ⟨[("a", "A.md")]⟩).map (fun i => (dotted i.place.path, i.reference))
        = [("", none), ("a", some "A.md")]
      ∧ c.AddressedByText := by
  intro calls c
  have hfree : ∀ call ∈ calls, IsPointFree call.path := by decide +kernel
  exact ⟨hfree, by decide +kernel, by decide +kernel, by decide +kernel,
    addressedByText_attemptAll calls hfree⟩

end Catalog
end PlannerConfig
