import Mathlib.Data.List.Infix
import Mathlib.Data.List.Induction
import PlannerConfig.Proofs.Catalog.Walk
import PlannerConfig.Reference.Details
import PlannerConfig.Reference.Export

/-!
What the reference shows. The table, the details and the export go down the tree in their own way;
all three show the places of the walk that lie beneath no skipped one, in the order of the walk.
Each parameter is shown once, or a skipped place stands for it.
-/
namespace PlannerConfig

open PlannerConfig.Text

namespace Skip

variable {skip : Skip} {path : List String}

/-- Whether an entry above a path is skipped. The root is no entry. -/
def cutsOff (skip : Skip) (path : List String) : Bool :=
  path.dropLast.inits.any fun p => !p.isEmpty && skip.isSkipped (dotted p)

lemma cutsOff_iff : skip.cutsOff path = true
    ↔ ∃ p, p <+: path.dropLast ∧ p ≠ [] ∧ skip.isSkipped (dotted p) = true := by
  simp [cutsOff]

lemma cutsOff_concat {name : String} : skip.cutsOff (path ++ [name]) = true
    ↔ ∃ p, p <+: path ∧ p ≠ [] ∧ skip.isSkipped (dotted p) = true := by
  rw [cutsOff_iff, List.dropLast_concat]

lemma cutsOff_eq_false (h : ∀ p, p <+: path.dropLast → p ≠ [] → skip.isSkipped (dotted p) = false) :
    skip.cutsOff path = false := by
  rw [Bool.eq_false_iff, ne_eq, cutsOff_iff]
  rintro ⟨p, hp, hne, hs⟩
  rw [h p hp hne] at hs
  cases hs

lemma cutsOff_append (hp : path ≠ []) (hs : skip.isSkipped (dotted path) = true) {q : List String}
    (hq : q ≠ []) : skip.cutsOff (path ++ q) = true := by
  rw [cutsOff_iff, List.dropLast_append_of_ne_nil hq]
  exact ⟨path, List.prefix_append _ _, hp, hs⟩

/-- Of the skipped entries on a way there is a first one. -/
lemma exists_first (h : ∃ p, p <+: path ∧ p ≠ [] ∧ skip.isSkipped (dotted p) = true) :
    ∃ p, p <+: path ∧ p ≠ [] ∧ skip.isSkipped (dotted p) = true ∧ skip.cutsOff p = false := by
  induction path using List.reverseRecOn with
  | nil =>
    obtain ⟨p, hp, hne, -⟩ := h
    exact absurd (List.prefix_nil.mp hp) hne
  | append_singleton path name ih =>
    by_cases hcut : skip.cutsOff (path ++ [name]) = true
    · obtain ⟨p, hp, hfirst⟩ := ih (cutsOff_concat.mp hcut)
      exact ⟨p, hp.trans (List.prefix_append _ _), hfirst⟩
    · obtain ⟨p, hp, hne, hs⟩ := h
      rcases List.prefix_concat_iff.mp hp with rfl | hp
      · exact ⟨_, List.prefix_rfl, hne, hs, by simpa using hcut⟩
      · exact absurd (cutsOff_concat.mpr ⟨p, hp, hne, hs⟩) hcut

@[simp] lemma isSkipped_none (text : String) : none.isSkipped text = false := rfl

@[simp] lemma cutsOff_none (path : List String) : none.cutsOff path = false := by
  simp [cutsOff]

end Skip

/-- Whether the reference leaves a place to another document. -/
def Place.isSkipped (skip : Skip) (p : Place) : Bool := skip.isSkipped (dotted p.path)

namespace Entry

/-- The display path of the entry that a path leads to; `parent` is that of the entry itself. -/
def displayAt (parent : String) : List String → Entry → String
  | [], _ => parent
  | name :: rest, e =>
    ((e.child? name).map fun c => displayAt (c.displayUnder parent name) rest c).getD parent

lemma displayAt_cons {e c : Entry} {name : String} (hc : e.child? name = some c) (parent : String)
    (rest : List String) :
    e.displayAt parent (name :: rest) = c.displayAt (c.displayUnder parent name) rest := by
  rw [displayAt, hc, Option.map_some, Option.getD_some]

lemma outline_eq_flatMap (skip : Skip) (depth : Nat) (path : List String) (parent : String)
    (e : Entry) :
    e.outline skip depth path parent = e.children.flatMap fun f =>
      let here := path ++ [f.1]
      let display := f.2.displayUnder parent f.1
      let beneath :=
        if skip.isSkipped (dotted here) || f.2.isLeaf then []
        else f.2.outline skip (depth + 1) here display
      if f.2.hasLeaves then
        ⟨⟨depth, here, f.2⟩, display, parent, skip.reference? (dotted here)⟩ :: beneath
      else [] := by
  obtain ⟨_, children⟩ := e
  show outlineAll skip depth path parent children = _
  induction children with
  | nil => rfl
  | cons f rest ih =>
    rw [outlineAll, ih]
    rfl

end Entry

namespace Catalog

variable {c : Catalog} {skip : Skip}

/-- The places of the walk that lie beneath no skipped one. -/
def visible (c : Catalog) (skip : Skip) : List Place :=
  c.walk.filter fun p => !skip.cutsOff p.path

/-- The path of an entry as the reference shows it. -/
def displayPath (c : Catalog) (path : List String) : String := c.root.displayAt "" path

/-- What the reference says of a place. -/
def item (c : Catalog) (skip : Skip) (p : Place) : Item where
  place := p
  display := c.displayPath p.path
  parent := c.displayPath p.path.dropLast
  reference := skip.reference? (dotted p.path)

/-- Nothing beneath a skipped entry is visible. -/
lemma filter_walk_of_isSkipped {e : Entry} {path : List String} (hpath : path ≠ [])
    (hskip : skip.isSkipped (dotted path) = true) (depth : Nat) :
    (e.walk depth path).filter (fun p => !skip.cutsOff p.path) = [] := by
  rw [List.filter_eq_nil_iff]
  intro p hp
  obtain ⟨name, rest, hpath'⟩ := Entry.exists_path_of_mem_walk hp
  rw [hpath', Skip.cutsOff_append hpath hskip (List.cons_ne_nil _ _)]
  simp

section display

variable {e x : Entry} {name parent : String} {path : List String}

lemma displayPath_child (hdisplay : ∀ q, c.displayPath (path ++ q) = e.displayAt parent q)
    (hx : e.child? name = some x) (q : List String) :
    c.displayPath (path ++ [name] ++ q) = x.displayAt (x.displayUnder parent name) q := by
  rw [List.append_assoc, List.singleton_append, hdisplay, Entry.displayAt_cons hx]

variable (skip) in
lemma item_child (hdisplay : ∀ q, c.displayPath (path ++ q) = e.displayAt parent q)
    (hx : e.child? name = some x) (depth : Nat) :
    c.item skip ⟨depth, path ++ [name], x⟩ = ⟨⟨depth, path ++ [name], x⟩,
      x.displayUnder parent name, parent, skip.reference? (dotted (path ++ [name]))⟩ := by
  have self := displayPath_child hdisplay hx []
  have above := hdisplay []
  rw [List.append_nil] at self above
  simp only [item, List.dropLast_concat, self, above, Entry.displayAt]

end display

/-- The outline beneath an entry is the visible part of the walk beneath it. `parent` is the display
path of the entry, and neither the entry nor one above it is skipped. -/
lemma outline_eq_map_walk {e : Entry} {path : List String} {parent : String} (hd : e.Distinct)
    (hdisplay : ∀ q, c.displayPath (path ++ q) = e.displayAt parent q)
    (hskip : ∀ p, p <+: path → p ≠ [] → skip.isSkipped (dotted p) = false) (depth : Nat) :
    e.outline skip depth path parent
      = ((e.walk depth path).filter fun p => !skip.cutsOff p.path).map (c.item skip) := by
  induction e using Entry.induction generalizing depth path parent with
  | node record children ih =>
    rw [Entry.outline_eq_flatMap, Entry.walk_eq_flatMap, List.filter_flatMap, List.map_flatMap]
    apply List.flatMap_congr
    rintro ⟨name, x⟩ hm
    have hx := hd.child?_of_mem hm
    have shown : skip.cutsOff (path ++ [name]) = false :=
      Skip.cutsOff_eq_false (by rwa [List.dropLast_concat])
    have here := item_child skip hdisplay hx depth
    by_cases hleaf : x.isLeaf = true
    · have hl := Entry.hasLeaves_of_isLeaf hleaf
      simp [hleaf, hl, shown, here]
    by_cases hl : x.hasLeaves = true
    · have beneath : (if skip.isSkipped (dotted (path ++ [name])) then []
            else x.outline skip (depth + 1) (path ++ [name]) (x.displayUnder parent name))
          = ((x.walk (depth + 1) (path ++ [name])).filter fun p => !skip.cutsOff p.path).map
              (c.item skip) := by
        by_cases hs : skip.isSkipped (dotted (path ++ [name])) = true
        · rw [if_pos hs, filter_walk_of_isSkipped (by simp) hs, List.map_nil]
        · rw [if_neg hs]
          apply ih _ hm (hd.child hx) (displayPath_child hdisplay hx)
          intro p hp hne
          rcases List.prefix_concat_iff.mp hp with rfl | hp
          · simpa using hs
          · exact hskip p hp hne
      simp [hleaf, hl, shown, here, beneath]
    · simp [hleaf, hl]

lemma outline_eq_of_distinct (h : c.root.Distinct) (skip : Skip) :
    c.outline skip = (c.visible skip).map (c.item skip) := by
  apply outline_eq_map_walk h
  · exact fun q => rfl
  · intro p hp hne
    exact absurd (List.prefix_nil.mp hp) hne

lemma Sound.outline_eq (h : c.Sound) (skip : Skip) :
    c.outline skip = (c.visible skip).map (c.item skip) :=
  outline_eq_of_distinct h.placed.distinct skip

lemma mem_visible {p : Place} :
    p ∈ c.visible skip ↔ p ∈ c.walk ∧ skip.cutsOff p.path = false := by
  simp [visible]

lemma Sound.nodup_visible (h : c.Sound) (skip : Skip) :
    ((c.visible skip).map Place.path).Nodup :=
  (List.filter_sublist.map _).nodup (Entry.nodup_walk h.placed.distinct 0 [])

lemma Sound.path_of_leaf? (h : c.Sound) {p : Place} (hp : p ∈ c.walk) {r : Record}
    (hr : p.leaf? = some r) : r.path = p.path := by
  obtain ⟨name, rest, hpath, -, hfind, -⟩ := (Entry.mem_walk h.placed.distinct h.uncovered).mp hp
  obtain ⟨hr, -⟩ := Entry.leaf?_eq_some.mp hr
  have hget : c.root.recordAt? (name :: rest) = some r := Option.bind_eq_some_iff.mpr ⟨_, hfind, hr⟩
  rw [h.placed.path_eq _ r hget, hpath]

/-- The walk comes past every parameter and past every group around one. -/
lemma Sound.exists_mem_walk (h : c.Sound) {r : Record} (hr : r ∈ c.leaves) {q : List String}
    (hq : q ≠ []) (hbefore : q <+: r.path) : ∃ p ∈ c.walk, p.path = q := by
  obtain ⟨rest, hrest⟩ := hbefore
  have there := contains_iff_hasLeafAt.mp ((contains_iff_exists_leaf h).mpr ⟨r, hr, hrest.symm⟩)
  obtain ⟨x, hx, hleaf⟩ := there
  rw [Entry.find?_append] at hx
  obtain ⟨e, he, hx⟩ := Option.bind_eq_some_iff.mp hx
  have hl : e.hasLeaves = true :=
    (Entry.hasLeaves_iff (h.placed.distinct.of_find? he)).mpr ⟨rest, x, hx, hleaf⟩
  obtain ⟨name, q, rfl⟩ := List.exists_cons_of_ne_nil hq
  refine ⟨⟨0 + q.length, name :: q, e⟩, ?_, rfl⟩
  exact (Entry.mem_walk h.placed.distinct h.uncovered).mpr ⟨name, q, rfl, rfl, he, hl⟩

/-- The places that the reference describes as parameters. -/
def parameterPlaces (c : Catalog) (skip : Skip) : List Place :=
  (c.visible skip).filter fun p => p.entry.isLeaf && !p.isSkipped skip

/-- The places that the reference leaves to another document. -/
def skippedPlaces (c : Catalog) (skip : Skip) : List Place :=
  (c.visible skip).filter fun p => p.isSkipped skip

/-- One place is left of those with distinct paths if all that are left have its path. -/
lemma filter_eq_singleton {places : List Place} (hn : (places.map Place.path).Nodup) {p : Place}
    (hp : p ∈ places) {keep : Place → Bool} (hkeep : keep p = true)
    (honly : ∀ x ∈ places, keep x = true → x.path = p.path) : places.filter keep = [p] := by
  rw [← List.perm_singleton, List.perm_ext_iff_of_nodup]
  · intro x
    rw [List.mem_filter, List.mem_singleton]
    constructor
    · rintro ⟨hx, hkx⟩
      exact List.inj_on_of_nodup_map hn hx hp (honly x hx hkx)
    · rintro rfl
      exact ⟨hp, hkeep⟩
  · exact hn.of_map.filter _
  · exact List.nodup_singleton p

/-- A parameter with no skipped entry on its way is shown, and nothing stands for it. -/
lemma Sound.shown_once (h : c.Sound) {r : Record} (hr : r ∈ c.leaves)
    (hskip : ∀ q, q <+: r.path → q ≠ [] → skip.isSkipped (dotted q) = false) :
    (∃ p, (c.parameterPlaces skip).filter (fun p => p.path = r.path) = [p] ∧ p.leaf? = some r)
      ∧ (c.skippedPlaces skip).filter (fun p => p.path <+: r.path) = [] := by
  constructor
  · obtain ⟨p, hp, hleaf⟩ := List.mem_filterMap.mp hr
    have hpath := h.path_of_leaf? hp hleaf
    have hcut : skip.cutsOff p.path = false :=
      Skip.cutsOff_eq_false fun q hq => hskip q (hpath ▸ hq.trans (List.dropLast_prefix _))
    have hne : p.path ≠ [] := by
      obtain ⟨name, rest, heq⟩ := Entry.exists_path_of_mem_walk hp
      simp [heq]
    have hkeep : (p.entry.isLeaf && !p.isSkipped skip) = true := by
      have isLeaf : p.entry.isLeaf = true := by
        rw [← Entry.isSome_leaf?]
        exact Option.isSome_iff_exists.mpr ⟨r, hleaf⟩
      simp [isLeaf, Place.isSkipped, hskip p.path (hpath ▸ List.prefix_rfl) hne]
    refine ⟨p, ?_, hleaf⟩
    rw [parameterPlaces, List.filter_filter]
    apply filter_eq_singleton (h.nodup_visible skip) (mem_visible.mpr ⟨hp, hcut⟩)
    · simp only [hkeep, Bool.and_true, hpath, decide_true]
    · intro x _ hx
      rw [Bool.and_eq_true, decide_eq_true_eq] at hx
      rw [hx.1, hpath]
  · rw [List.filter_eq_nil_iff]
    intro p hp hbefore
    obtain ⟨hp, hs⟩ := List.mem_filter.mp hp
    obtain ⟨name, rest, heq⟩ := Entry.exists_path_of_mem_walk (mem_visible.mp hp).1
    have hne : p.path ≠ [] := by simp [heq]
    rw [Place.isSkipped, hskip p.path (by simpa using hbefore) hne] at hs
    cases hs

/-- Of two skipped entries on one way only the first is visible. -/
lemma eq_of_isSkipped {path p q : List String} (hp : p <+: path) (hq : q <+: path) (hp0 : p ≠ [])
    (hps : skip.isSkipped (dotted p) = true) (hqc : skip.cutsOff q = false) : q <+: p := by
  rcases List.prefix_or_prefix_of_prefix hp hq with ⟨rest, rfl⟩ | hqp
  · cases rest with
    | nil => simp
    | cons name rest =>
      rw [Skip.cutsOff_append hp0 hps (List.cons_ne_nil _ _)] at hqc
      cases hqc
  · exact hqp

/-- A parameter with a skipped entry on its way is not shown, and one entry stands for it. -/
lemma Sound.left_once (h : c.Sound) {r : Record} (hr : r ∈ c.leaves)
    (hskip : ∃ q, q <+: r.path ∧ q ≠ [] ∧ skip.isSkipped (dotted q) = true) :
    (c.parameterPlaces skip).filter (fun p => p.path = r.path) = []
      ∧ ∃ p, (c.skippedPlaces skip).filter (fun p => p.path <+: r.path) = [p] := by
  obtain ⟨q, hq, hne, hs, hcut⟩ := Skip.exists_first hskip
  constructor
  · rw [List.filter_eq_nil_iff]
    intro p hp hpath
    obtain ⟨hp, hkeep⟩ := List.mem_filter.mp hp
    have hpath : p.path = r.path := by simpa using hpath
    have hlong : p.path <+: q :=
      eq_of_isSkipped hq (hpath ▸ List.prefix_rfl) hne hs (mem_visible.mp hp).2
    have heq : p.path = q := hlong.eq_of_length_le (hpath ▸ hq.length_le)
    simp [Place.isSkipped, heq, hs] at hkeep
  · obtain ⟨p, hp, rfl⟩ := h.exists_mem_walk hr hne hq
    refine ⟨p, ?_⟩
    rw [skippedPlaces, List.filter_filter]
    apply filter_eq_singleton (h.nodup_visible skip) (mem_visible.mpr ⟨hp, hcut⟩)
    · simp [hq, Place.isSkipped, hs]
    · intro x hx hkeep
      rw [Bool.and_eq_true, decide_eq_true_eq] at hkeep
      obtain ⟨hxq, hxs⟩ := hkeep
      obtain ⟨name, rest, hpath⟩ := Entry.exists_path_of_mem_walk (mem_visible.mp hx).1
      have hx0 : x.path ≠ [] := by simp [hpath]
      have forth : p.path <+: x.path := eq_of_isSkipped hxq hq hx0 hxs hcut
      have back : x.path <+: p.path := eq_of_isSkipped hq hxq hne hs (mem_visible.mp hx).2
      exact back.eq_of_length_le forth.length_le

/-- The row of a parameter that is shown with a display path. -/
def parameterRowAt (c : Catalog) (r : Record) : String :=
  tableRow [
    inlineCode (c.displayPath r.path),
    inlineCode r.typeName,
    escapeCell (if r.isRequired then "Required" else inlineCode r.defaultText),
    escapeCell r.summary,
    r.since.text]

lemma isSome_row? (c : Catalog) (skip : Skip) (p : Place) :
    (c.item skip p).row?.isSome = (p.entry.isLeaf || p.isSkipped skip) := by
  have leaf : (c.item skip p).place.leaf?.isSome = p.entry.isLeaf := Entry.isSome_leaf? p.entry
  have skipped : p.isSkipped skip = (c.item skip p).reference.isSome := rfl
  rw [skipped, Item.row?]
  cases (c.item skip p).reference <;> simp [leaf]

/-- A row with several cells starts with the first. -/
lemma exists_tableRow (cell next : String) (cells : List String) :
    ∃ rest, tableRow (cell :: next :: cells) = "| " ++ cell ++ " | " ++ rest := by
  refine ⟨join " | " (next :: cells) ++ " |", ?_⟩
  rw [tableRow, join_cons_cons]
  simp only [String.append_assoc]

/-- Whatever a row is about, it starts with the display path. -/
lemma exists_of_row? {i : Item} {row : String} (h : i.row? = some row) :
    ∃ rest, row = "| " ++ inlineCode i.display ++ " | " ++ rest := by
  unfold Item.row? at h
  split at h
  · obtain rfl := Option.some.inj h
    unfold Item.referenceRow
    split <;> exact exists_tableRow _ _ _
  · obtain ⟨r, -, rfl⟩ := Option.map_eq_some_iff.mp h
    exact exists_tableRow _ _ _

/-- What is exported of an entry has its display path. -/
lemma path_of_exportedParameter? {i : Item} {e : ExportedParameter}
    (h : i.exportedParameter? = some e) : e.path = i.display := by
  unfold Item.exportedParameter? at h
  split at h
  · cases h
  · obtain ⟨r, -, rfl⟩ := Option.map_eq_some_iff.mp h
    rfl

lemma path_of_exportedReference? {i : Item} {e : ExportedReference}
    (h : i.exportedReference? = some e) : e.path = i.display := by
  obtain ⟨reference, -, rfl⟩ := Option.map_eq_some_iff.mp h
  rfl

lemma isSome_exportedReference? (c : Catalog) (skip : Skip) (p : Place) :
    (c.item skip p).exportedReference?.isSome = p.isSkipped skip := by
  unfold Item.exportedReference? Place.isSkipped Skip.isSkipped
  rw [Option.isSome_map]
  rfl

lemma isSome_exportedParameter? (c : Catalog) (skip : Skip) (p : Place) :
    (c.item skip p).exportedParameter?.isSome = (p.entry.isLeaf && !p.isSkipped skip) := by
  have leaf : p.leaf?.isSome = p.entry.isLeaf := Entry.isSome_leaf? p.entry
  unfold Item.exportedParameter? Place.isSkipped Skip.isSkipped
  show (if (skip.reference? (dotted p.path)).isSome then none else p.leaf?.map _).isSome = _
  cases skip.reference? (dotted p.path) <;> simp [leaf]

/-- What is shown of the places that something is shown of. -/
lemma map_some_filterMap {α β : Type} {f : α → Option β} {keep : α → Bool}
    (h : ∀ a, (f a).isSome = keep a) (l : List α) :
    (l.filterMap f).map some = (l.filter keep).map f := by
  rw [List.map_filterMap_some_eq_filter_map_isSome, List.filter_map]
  exact congrArg _ (List.filter_congr fun a _ => h a)

/-- What a reader of the reference may rely on. -/
structure ReferenceInvariant (c : Catalog) (skip : Skip) : Prop where
  /-- The details have a section for each visible place. -/
  details : ∀ level, c.detailList skip level
    = join "\n\n" ((c.visible skip).map fun p => (c.item skip p).detail level) ++ "\n"
  /-- A section starts with a heading as deep as the place. -/
  heading : ∀ level, ∀ p ∈ c.visible skip, ∃ rest, (c.item skip p).detail level
    = PlannerConfig.heading (level + p.depth) p.name ++ rest
  /-- The table has a row for each visible place that is a parameter or skipped. -/
  table : ∃ rows, c.summaryTable skip = join "\n" (tableHeader ++ rows) ++ "\n"
    ∧ rows.map some = ((c.visible skip).filter fun p => p.entry.isLeaf || p.isSkipped skip).map
        fun p => (c.item skip p).row?
  /-- A row starts with the display path of its place. -/
  row : ∀ p ∈ c.visible skip, ∀ row, (c.item skip p).row? = some row →
    ∃ rest, row = "| " ++ inlineCode (c.displayPath p.path) ++ " | " ++ rest
  /-- The export has the parameters that are not skipped and, apart from them, the skipped places. -/
  parameters : (c.exported skip).parameters.map some
    = (c.parameterPlaces skip).map fun p => (c.item skip p).exportedParameter?
  skipped : (c.exported skip).skipped.map some
    = (c.skippedPlaces skip).map fun p => (c.item skip p).exportedReference?
  /-- What is exported of a place has its display path too. -/
  exportedPath : ∀ p ∈ c.visible skip,
    (∀ e, (c.item skip p).exportedParameter? = some e → e.path = c.displayPath p.path)
      ∧ ∀ e, (c.item skip p).exportedReference? = some e → e.path = c.displayPath p.path
  /-- A parameter is shown once, or one skipped place stands for it. -/
  once : ∀ r ∈ c.leaves,
    (∃ p, (c.parameterPlaces skip).filter (fun p => p.path = r.path) = [p] ∧ p.leaf? = some r)
      ∧ (c.skippedPlaces skip).filter (fun p => p.path <+: r.path) = []
    ∨ (c.parameterPlaces skip).filter (fun p => p.path = r.path) = []
      ∧ ∃ p, (c.skippedPlaces skip).filter (fun p => p.path <+: r.path) = [p]

lemma Sound.referenceInvariant (h : c.Sound) (skip : Skip) : c.ReferenceInvariant skip where
  details level := by
    rw [detailList, h.outline_eq, List.map_map]
    rfl
  heading level p _ := by
    obtain ⟨rest, hrest⟩ : ∃ rest, (c.item skip p).detail level
        = join "\n\n" (PlannerConfig.heading (level + p.depth) p.name :: rest) := ⟨_, rfl⟩
    rw [hrest]
    cases rest with
    | nil => exact ⟨"", by simp⟩
    | cons next rest => exact ⟨_, by rw [join_cons_cons, String.append_assoc]⟩
  table := by
    refine ⟨(c.outline skip).filterMap Item.row?, rfl, ?_⟩
    rw [h.outline_eq, List.filterMap_map]
    exact map_some_filterMap (isSome_row? c skip) _
  row p _ _ hrow := exists_of_row? (i := c.item skip p) hrow
  parameters := by
    show ((c.outline skip).filterMap Item.exportedParameter?).map some = _
    rw [h.outline_eq, List.filterMap_map]
    exact map_some_filterMap (isSome_exportedParameter? c skip) _
  skipped := by
    show ((c.outline skip).filterMap Item.exportedReference?).map some = _
    rw [h.outline_eq, List.filterMap_map]
    exact map_some_filterMap (isSome_exportedReference? c skip) _
  exportedPath p _ :=
    ⟨fun _ => path_of_exportedParameter? (i := c.item skip p),
      fun _ => path_of_exportedReference? (i := c.item skip p)⟩
  once r hr := by
    by_cases hskip : ∃ q, q <+: r.path ∧ q ≠ [] ∧ skip.isSkipped (dotted q) = true
    · exact .inr (h.left_once hr hskip)
    · left
      apply h.shown_once hr
      intro q hq hne
      rw [Bool.eq_false_iff]
      exact fun hs => hskip ⟨q, hq, hne, hs⟩

/-- The whole table has a row for each parameter, in the order of the catalog. -/
lemma Sound.summaryTable_none (h : c.Sound) : c.summaryTable Skip.none
    = join "\n" (tableHeader ++ c.leaves.map c.parameterRowAt) ++ "\n" := by
  have all : c.visible Skip.none = c.walk := by
    rw [visible, List.filter_eq_self]
    simp
  have rows : (c.outline Skip.none).filterMap Item.row? = c.leaves.map c.parameterRowAt := by
    rw [h.outline_eq, all, List.filterMap_map, leaves, List.map_filterMap]
    apply List.filterMap_congr
    intro p hp
    show p.leaf?.map (c.item Skip.none p).parameterRow = _
    cases hleaf : p.leaf? with
    | none => rfl
    | some r =>
      have display : (c.item Skip.none p).display = c.displayPath r.path := by
        rw [h.path_of_leaf? hp hleaf, item]
      simp only [Option.map_some, Item.parameterRow, display, parameterRowAt]
  rw [summaryTable, rows]

/-- Whatever calls have filled a catalog, and whatever is skipped, the table, the details and the
export show the same places, and each parameter once. -/
theorem referenceInvariant_attemptAll (calls : List Call) (hv : ∀ call ∈ calls, call.Valid) :
    let c := ({} : Catalog).attemptAll calls
    (∀ skip, c.ReferenceInvariant skip) ∧ c.summaryTable Skip.none
      = join "\n" (tableHeader ++ c.leaves.map c.parameterRowAt) ++ "\n" := by
  intro c
  have h : c.Sound := sound_empty.attemptAll hv
  exact ⟨h.referenceInvariant, h.summaryTable_none⟩

/-- One group is skipped, in a list one parameter is, and a group without parameters is not shown. -/
theorem referenceInvariant_attemptAll_partly_skipped :
    let calls : List Call := [
      .group { path := ["a"], valueType := .object, summary := "Group." },
      .parameter { path := ["a", "b"], valueType := .double, summary := "Left out." },
      .group { path := ["c"], valueType := .objectList, summary := "List." },
      .parameter { path := ["c", "d"], valueType := .boolean, summary := "Skipped." },
      .parameter { path := ["c", "e"], valueType := .integer, summary := "Shown." },
      .group { path := ["f"], valueType := .object, summary := "Empty." }]
    let skip : Skip := ⟨[("a", "A.md"), ("c.d", "D.md")]⟩
    let c := ({} : Catalog).attemptAll calls
    (∀ call ∈ calls, call.Valid)
      ∧ (c.visible skip).map Place.path = [["a"], ["c"], ["c", "d"], ["c", "e"]]
      ∧ (c.skippedPlaces skip).map Place.path = [["a"], ["c", "d"]]
      ∧ c.ReferenceInvariant skip := by
  intro calls skip c
  have hv : ∀ call ∈ calls, call.Valid := by
    simp [calls, Call.Valid, Record.isGroup, ValueType.isGroup]
  exact ⟨hv, by decide +kernel, by decide +kernel, (referenceInvariant_attemptAll calls hv).1 skip⟩

end Catalog
end PlannerConfig
