import PlannerConfig.Command.Basic
import PlannerConfig.Proofs.Form.Fixed
import PlannerConfig.Proofs.Load
import PlannerConfig.Reference.Export

/-!
The reference does not depend on the values of a configuration. What does depend on them lies beneath
entries that the reference of the build configuration skips; of those it shows the record alone.
-/
namespace PlannerConfig

/-- An item without what lies beneath its entry. -/
def Item.bare (i : Item) : Item :=
  { i with place := { i.place with entry := { i.place.entry with children := [] } } }

lemma Item.row?_bare (i : Item) : i.bare.row? = i.row? := rfl

lemma Item.detail_bare (level : Int) (i : Item) : i.bare.detail level = i.detail level := rfl

namespace Entry

variable {skip : Skip} {hidden path : List String}

/-- Children that agree are shown alike if the hidden ones are skipped. -/
lemma map_bare_outlineAll (hskip : ∀ name ∈ hidden, skip.isSkipped (dotted (path ++ [name])) = true)
    (depth : Nat) (parent : String) {xs ys : List (String × Entry)}
    (h : List.Forall₂ (AgreeChild hidden) xs ys)
    (hleaves : ∀ f ∈ xs, ∀ g ∈ ys, f.1 = g.1 → f.1 ∈ hidden → f.2.hasLeaves = g.2.hasLeaves) :
    (outlineAll skip depth path parent xs).map Item.bare
      = (outlineAll skip depth path parent ys).map Item.bare := by
  induction h with
  | nil => rfl
  | @cons f g xs ys hfg _ ih =>
    obtain ⟨name, x⟩ := f
    obtain ⟨j, y⟩ := g
    obtain ⟨rfl, hxy⟩ : name = j ∧ (x = y ∨ name ∈ hidden ∧ x.record = y.record) := hfg
    have rest := ih fun f hf g hg => hleaves f (List.mem_cons_of_mem _ hf) g
      (List.mem_cons_of_mem _ hg)
    rcases hxy with rfl | ⟨hm, hr⟩
    · simp only [outlineAll, List.map_append, rest]
    · have hsame : x.hasLeaves = y.hasLeaves :=
        hleaves _ List.mem_cons_self _ List.mem_cons_self rfl hm
      have hskipped : (skip.reference? (dotted (path ++ [name]))).isSome = true := hskip name hm
      have hlist : x.isList = y.isList := by simp only [isList, hr]
      simp only [outlineAll, List.map_append, rest, hskipped, Bool.true_or, if_true, hsame]
      congr 1
      split
      · simp [Item.bare, displayUnder, hlist, hr]
      · rfl

lemma outline_eq (depth : Nat) (parent : String) (e : Entry) :
    e.outline skip depth path parent = outlineAll skip depth path parent e.children := by
  obtain ⟨record, children⟩ := e
  rw [outline]

end Entry

namespace Catalog

variable {c c' : Catalog} {skip : Skip} {hidden : List String}

lemma Sound.hasLeaves_iff (h : c.Sound) {name : String} {x : Entry}
    (hm : (name, x) ∈ c.root.children) :
    x.hasLeaves = true ↔ ∃ p, c.contains (name :: p) = true := by
  have hc : c.root.child? name = some x := h.placed.distinct.child?_of_mem hm
  rw [Entry.hasLeaves_iff (h.placed.distinct.child hc)]
  simp [contains_iff_hasLeafAt, Entry.hasLeafAt_cons, hc]

/-- Two catalogs that agree outside skipped entries, and in whether there are parameters in those,
are shown alike. -/
lemma map_bare_outline (h : c.root.Agree hidden c'.root) (hs : c.Sound) (hs' : c'.Sound)
    (hskip : ∀ name ∈ hidden, skip.isSkipped name = true)
    (hleaves : ∀ name ∈ hidden,
      (∃ p, c.contains (name :: p) = true) ↔ ∃ p, c'.contains (name :: p) = true) :
    (c.outline skip).map Item.bare = (c'.outline skip).map Item.bare := by
  rw [outline, outline, Entry.outline_eq, Entry.outline_eq]
  refine Entry.map_bare_outlineAll hskip 0 "" h.children ?_
  rintro ⟨name, x⟩ hx ⟨_, y⟩ hy rfl hm
  rw [Bool.eq_iff_iff, hs.hasLeaves_iff hx, hs'.hasLeaves_iff hy]
  exact hleaves name hm

lemma summaryTable_congr (h : (c.outline skip).map Item.bare = (c'.outline skip).map Item.bare) :
    c.summaryTable skip = c'.summaryTable skip := by
  have rows : ∀ c : Catalog, (c.outline skip).filterMap Item.row?
      = ((c.outline skip).map Item.bare).filterMap Item.row? := by
    intro c
    rw [List.filterMap_map]
    exact List.filterMap_congr fun i _ => i.row?_bare.symm
  unfold summaryTable
  rw [rows c, rows c', h]

lemma detailList_congr (h : (c.outline skip).map Item.bare = (c'.outline skip).map Item.bare)
    (level : Int) : c.detailList skip level = c'.detailList skip level := by
  have sections : ∀ c : Catalog, (c.outline skip).map (Item.detail level)
      = ((c.outline skip).map Item.bare).map (Item.detail level) := by
    intro c
    rw [List.map_map]
    exact List.map_congr_left fun i _ => (i.detail_bare level).symm
  unfold detailList
  rw [sections c, sections c', h]

end Catalog

/-- Whether a document has an array with elements under a key. -/
def Document.hasElements (key : String) (d : Document) : Bool :=
  match d.get? key with
  | some (.array items) => !items.isEmpty
  | _ => false

/-- Whether a document has an object with fields under a key. -/
def Document.hasFields (key : String) (d : Document) : Bool :=
  match d.get? key with
  | some (.object fields) => !fields.isEmpty
  | _ => false

namespace Node

variable {d : Document} {source : Option String} {key : String}

lemma value_child_root :
    ((root d source).child key).value = (d.get? key).bind Document.present? :=
  value_child rfl key

lemma elements_child_root (h : ((root d source).child key).isMissing = true
      ∨ ((root d source).child key).isArray = true) :
    ((root d source).child key).elements ≠ [] ↔ d.hasElements key = true := by
  unfold Document.hasElements
  simp only [isMissing, isArray, elements, size, value_child_root] at h ⊢
  cases hget : d.get? key with
  | none => simp
  | some e =>
    rw [hget] at h
    cases e <;> simp_all [Document.present?, Document.isArray, Document.size]

lemma isEmpty_child_root (h : (((root d source).child key).isMissing
      || ((root d source).child key).isObject) = true) :
    ((root d source).child key).isEmpty = false ↔ d.hasFields key = true := by
  unfold Document.hasFields
  simp only [isEmpty, isMissing, isObject, size, value_child_root] at h ⊢
  cases hget : d.get? key with
  | none => simp
  | some e =>
    rw [hget] at h
    cases e <;> simp_all [Document.present?, Document.isObject, Document.size]

end Node

section load

variable {features : FeatureSet} {document document' : Document} {strict strict' : Bool}
  {source source' : Option String} {s s' : PassState}

lemma BuildConfig.fills_of_run {config : BuildConfig}
    (h : (load document features strict source).run = (.ok config, s)) :
    (form features).Fills (.root document source) s.catalog
      ∧ (form features).Opens (.root document source) := by
  rw [run_load] at h
  obtain ⟨hvalue, habsorb⟩ := Form.value_of_thenCheck (declared_form features) h
  exact ⟨Form.fills_of_absorb (declared_form features) (separate_form features) habsorb,
    Form.opens_of_value hvalue⟩

/-- Whether there are parameters beneath the hidden names is told by the document. -/
lemma BuildConfig.contains_hidden {config : BuildConfig}
    (h : (load document features strict source).run = (.ok config, s)) :
    ((∃ p, s.catalog.contains ("transferRequests" :: p) = true)
        ↔ document.hasElements "transferRequests" = true)
      ∧ ((∃ p, s.catalog.contains ("dataOverlay" :: p) = true)
        ↔ features.isOn .dataOverlay = true ∧ document.hasFields "dataOverlay" = true) := by
  obtain ⟨fills, opens⟩ := fills_of_run h
  have leaf_iff : ∀ l, s.catalog.contains l = true
      ↔ l ∈ (form features).leafPaths (.root document source) := by
    intro l
    rw [fills.contains_iff]
    simp [Node.docPath]
  simp only [leaf_iff, exists_leaf_under_transferRequests, exists_leaf_under_dataOverlay]
  refine ⟨Node.elements_child_root opens.2.1, and_congr_right fun hon => ?_⟩
  have overlay : (overlayForm features).Opens (.root document source) := opens.1.2
  rw [overlayForm, if_pos hon] at overlay
  exact Node.isEmpty_child_root overlay.1

lemma BuildConfig.agree_of_run {config config' : BuildConfig}
    (h : (load document features strict source).run = (.ok config, s))
    (h' : (load document' features strict' source').run = (.ok config', s')) :
    s.catalog.root.Agree hidden s'.catalog.root := by
  rw [run_load] at h h'
  obtain ⟨-, habsorb⟩ := Form.value_of_thenCheck (declared_form features) h
  obtain ⟨-, habsorb'⟩ := Form.value_of_thenCheck (declared_form features) h'
  obtain ⟨e, he, heq⟩ := Catalog.absorb_eq_ok_iff.mp habsorb
  obtain ⟨e', he', heq'⟩ := Catalog.absorb_eq_ok_iff.mp habsorb'
  rw [← heq, ← heq', Catalog.root_consumeAll, Catalog.root_consumeAll]
  exact Form.agree_of_callAll (fixedOutside_form features) rfl rfl (.refl _) he he'

lemma RouteRequest.root_eq_of_run {request request' : RouteRequest}
    (hoff : features.isOn .dataOverlay = false)
    (h : (loadDefaults document features strict source).run = (.ok request, s))
    (h' : (loadDefaults document' features strict' source').run = (.ok request', s')) :
    s.catalog.root = s'.catalog.root := by
  rw [run_loadDefaults] at h h'
  obtain ⟨-, habsorb⟩ := Form.value_of_thenCheck (declared_defaultForm features _) h
  obtain ⟨-, habsorb'⟩ := Form.value_of_thenCheck (declared_defaultForm features _) h'
  obtain ⟨e, he, heq⟩ := Catalog.absorb_eq_ok_iff.mp habsorb
  obtain ⟨e', he', heq'⟩ := Catalog.absorb_eq_ok_iff.mp habsorb'
  have same : (Node.root document source).docPath = (Node.root document' source').docPath := rfl
  rw [Form.calls_eq_of_fixed (fixedOutside_defaultForm hoff) same, he'] at he
  cases he
  rw [← heq, ← heq', Catalog.root_consumeAll, Catalog.root_consumeAll]

end load

/-- The reference does not depend on the values of the document. Without the data overlay, mappings of
the default request leave the same tree. Those of a build configuration may differ beneath what the
reference skips, and show the same if they agree on whether there is anything. -/
theorem reference_independent_of_values (features : FeatureSet) :
    (features.isOn .dataOverlay = false →
      ∀ document document' strict strict' source source' request request' s s',
        (RouteRequest.loadDefaults document features strict source).run = (.ok request, s) →
        (RouteRequest.loadDefaults document' features strict' source').run = (.ok request', s') →
        s.catalog.root = s'.catalog.root ∧
        ∀ skip, s.catalog.summaryTable skip = s'.catalog.summaryTable skip ∧
          (∀ level, s.catalog.detailList skip level = s'.catalog.detailList skip level) ∧
          s.catalog.exported skip = s'.catalog.exported skip) ∧
    ∀ document document' strict strict' source source' config config' s s',
      (BuildConfig.load document features strict source).run = (.ok config, s) →
      (BuildConfig.load document' features strict' source').run = (.ok config', s') →
      document.hasElements "transferRequests" = document'.hasElements "transferRequests" →
      document.hasFields "dataOverlay" = document'.hasFields "dataOverlay" →
      s.catalog.summaryTable Command.skip = s'.catalog.summaryTable Command.skip ∧
        ∀ level, s.catalog.detailList Command.skip level
          = s'.catalog.detailList Command.skip level := by
  refine ⟨fun hoff document document' strict strict' source source' request request' s s' h h' => ?_,
    fun document document' strict strict' source source' config config' s s' h h' hrequests hoverlay =>
      ?_⟩
  · have root_eq := RouteRequest.root_eq_of_run hoff h h'
    have outline_eq : ∀ skip, s.catalog.outline skip = s'.catalog.outline skip := by
      intro skip
      rw [Catalog.outline, Catalog.outline, root_eq]
    refine ⟨root_eq, fun skip => ⟨?_, fun level => ?_, ?_⟩⟩
    · rw [Catalog.summaryTable, Catalog.summaryTable, outline_eq]
    · rw [Catalog.detailList, Catalog.detailList, outline_eq]
    · rw [Catalog.exported, Catalog.exported, outline_eq]
  · have shown : (s.catalog.outline Command.skip).map Item.bare
        = (s'.catalog.outline Command.skip).map Item.bare := by
      refine Catalog.map_bare_outline (BuildConfig.agree_of_run h h')
        (BuildConfig.fills_of_run h).1.sound (BuildConfig.fills_of_run h').1.sound (by decide) ?_
      obtain ⟨requests, overlay⟩ := BuildConfig.contains_hidden h
      obtain ⟨requests', overlay'⟩ := BuildConfig.contains_hidden h'
      intro name hm
      rcases List.mem_cons.mp hm with rfl | hm
      · rw [overlay, overlay', hoverlay]
      · rw [List.mem_singleton.mp hm, requests, requests', hrequests]
    exact ⟨Catalog.summaryTable_congr shown, fun level => Catalog.detailList_congr shown level⟩

/-- An empty document and one that sets a default; and two build configurations with one and with two
transfer requests and with different overlays. -/
theorem reference_independent_of_values_two :
    let request : Document := .object [("arriveBy", .bool true)]
    let noise : Document := .object [("name", .text "noise"), ("variable", .text "db")]
    let one : Document := .object [
      ("dataOverlay", .object [("fileName", .text "a.nc4")]),
      ("transferRequests", .array [.object []])]
    let two : Document := .object [
      ("dataOverlay", .object [
        ("fileName", .text "b.nc4"), ("indexVariables", .array [noise])]),
      ("transferRequests", .array [.object [], request])]
    (∃ r r' s s', (RouteRequest.loadDefaults (.object []) .empty false none).run = (.ok r, s) ∧
      (RouteRequest.loadDefaults (.object [(routingDefaultsKey, request)]) .empty false none).run
        = (.ok r', s') ∧
      s.catalog.root = s'.catalog.root) ∧
    ∃ c c' s s', (BuildConfig.load one (.full Feature) false none).run = (.ok c, s) ∧
      (BuildConfig.load two (.full Feature) false none).run = (.ok c', s') ∧
      s.catalog.summaryTable Command.skip = s'.catalog.summaryTable Command.skip := by
  intro request noise one two
  constructor
  · have hempty : ((RouteRequest.defaultForm .empty routingDefaultsKey).value {}
        (.root (.object []))).isOk = true := by decide +kernel
    have hset : ((RouteRequest.defaultForm .empty routingDefaultsKey).value {}
        (.root (.object [(routingDefaultsKey, request)]))).isOk = true := by decide +kernel
    obtain ⟨r, s, h, -⟩ := RouteRequest.exists_run_loadDefaults hempty
    obtain ⟨r', s', h', -⟩ := RouteRequest.exists_run_loadDefaults hset
    refine ⟨r, r', s, s', h, h', ?_⟩
    exact ((reference_independent_of_values .empty).1 (by decide) _ _ _ _ _ _ _ _ _ _ h h').1
  · have hone : ((BuildConfig.form (.full Feature)).value {} (.root one)).isOk = true := by
      decide +kernel
    have htwo : ((BuildConfig.form (.full Feature)).value {} (.root two)).isOk = true := by
      decide +kernel
    obtain ⟨c, s, h, -⟩ := BuildConfig.exists_run_load hone
    obtain ⟨c', s', h', -⟩ := BuildConfig.exists_run_load htwo
    refine ⟨c, c', s, s', h, h', ?_⟩
    exact ((reference_independent_of_values (.full Feature)).2 _ _ _ _ _ _ _ _ _ _ h h'
      (by decide) (by decide)).1

end PlannerConfig
