import PlannerConfig.Proofs.Layout
import PlannerConfig.Proofs.Unknown

/-!
Mapping whole documents. A mapping is a reading of a form and the check for unknown values; what the
catalog documents and what strictness rejects are two sides of one thing.
-/
namespace PlannerConfig

namespace Pass

variable {α : Type} {p : Pass α} {n : Node} {strict : Bool} {s t u : PassState} {a : α}

/-- A step, and then the check that no value is unknown. -/
def thenCheck (p : Pass α) (n : Node) (strict : Bool) : Pass α := do
  let a ← p
  let _ ← checkUnknown n strict
  return a

lemma runFrom_checkUnknown :
    (checkUnknown n strict).runFrom s =
      if (s.catalog.unknown n).isEmpty then (.ok [], s)
      else if strict then (.error (.unknown (s.catalog.unknown n) n.source), s)
      else (.ok (s.catalog.unknown n),
        { s with events := s.events ++ [.unknownIgnored (s.catalog.unknown n) n.source] }) := by
  unfold checkUnknown
  rw [runFrom_bind, runFrom_get]
  cases hu : s.catalog.unknown n with
  | nil => simp [hu]
  | cons text texts =>
    cases strict with
    | true => simp [hu]
    | false =>
      simp [hu]
      rfl

lemma runFrom_thenCheck_ok (h : (p.thenCheck n strict).runFrom s = (.ok a, u)) :
    ∃ t, p.runFrom s = (.ok a, t) ∧ u.catalog = t.catalog := by
  obtain ⟨b, t, hp, h⟩ := runFrom_bind_ok.mp h
  obtain ⟨paths, v, hcheck, h⟩ := runFrom_bind_ok.mp h
  obtain ⟨rfl, rfl⟩ : b = a ∧ v = u := by simpa using h
  refine ⟨t, hp, ?_⟩
  rw [runFrom_checkUnknown] at hcheck
  split at hcheck
  · cases hcheck
    rfl
  · split at hcheck
    · cases hcheck
    · cases hcheck
      rfl

/-- The check fails only if it is strict. -/
lemma runFrom_thenCheck_lax (h : p.runFrom s = (.ok a, t)) :
    ∃ u, (p.thenCheck n false).runFrom s = (.ok a, u) := by
  unfold thenCheck
  simp only [runFrom_bind, h, runFrom_checkUnknown]
  cases (t.catalog.unknown n).isEmpty <;> exact ⟨_, rfl⟩

/-- Strictness fails a mapping that succeeds otherwise exactly if there are unknown values. -/
lemma runFrom_thenCheck_strict (h : p.runFrom s = (.ok a, t)) :
    ((p.thenCheck n true).runFrom s).1 =
      if (t.catalog.unknown n).isEmpty then .ok a
      else .error (.unknown (t.catalog.unknown n) n.source) := by
  unfold thenCheck
  simp only [runFrom_bind, h, runFrom_checkUnknown]
  cases (t.catalog.unknown n).isEmpty <;> rfl

end Pass

/-- Whether a place lies in a parameter of earlier releases that the itinerary filters of a request
pass over. `request` names the requests. -/
def isRetired (request : String) (p : Path) : Bool :=
  ["minSafeTransferTimeFactor", "groupSimilarityKeepNumOfItineraries"].any fun name =>
    [request, "itineraryFilters", name].isPrefixOf p.keys

/-- Those of some values that a catalog does not document, as messages show them. Parameters of
earlier releases are left out. -/
def Catalog.undocumented (c : Catalog) (request : String) (places : List Path) : List String :=
  (places.filter fun p => !c.documents p && !isRetired request p).map Path.text

section read

variable {σ α : Type} {f : Form σ α} {d : σ} {n m : Node} {strict : Bool} {events : List Event}
  {s : PassState} {a : α}

/-- A mapping that succeeds gives the value of the form and fills the catalog from it. -/
lemma Form.value_of_thenCheck (hf : f.Declared)
    (h : ((f.read d n).thenCheck m strict).runFrom { events } = (.ok a, s)) :
    f.value d n = .ok a
      ∧ ({} : Catalog).absorb (f.calls d n) ((f.marks n).map (n.path ++ ·)) = .ok s.catalog := by
  obtain ⟨t, ht, hcatalog⟩ := Pass.runFrom_thenCheck_ok h
  exact ((f.runs hf d n).reads _ a s.catalog).mp ⟨t, ht, hcatalog.symm⟩

/-- A mapping that is not strict succeeds if the form gives a value: nothing else refuses it. -/
lemma Form.exists_thenCheck (hf : f.Declared) (hs : f.Separate)
    (h : (f.value d n).isOk = true) :
    ∃ a s, ((f.read d n).thenCheck m false).runFrom { events } = (.ok a, s)
      ∧ f.Fills n s.catalog := by
  cases ha : f.value d n with
  | error failure =>
    rw [ha] at h
    cases h
  | ok a =>
    obtain ⟨e, he⟩ := exists_callAll_calls (d := d) (n := n) hf hs
    have habsorb : ({} : Catalog).absorb (f.calls d n) ((f.marks n).map (n.path ++ ·))
        = .ok (e.consumeAll ((f.marks n).map (n.path ++ ·))) :=
      Catalog.absorb_eq_ok_iff.mpr ⟨e, he, rfl⟩
    obtain ⟨t, ht, -⟩ := ((f.runs hf d n).reads { events } a _).mpr ⟨ha, habsorb⟩
    obtain ⟨s, hrun⟩ := Pass.runFrom_thenCheck_lax ht
    exact ⟨a, s, hrun, fills_of_absorb hf hs (value_of_thenCheck hf hrun).2⟩

lemma Form.Fills.undocumented_eq {c : Catalog} (h : f.Fills n c) (hroot : n.path = [])
    (request : String) (places : List Path) :
    c.undocumented request places = (places.filter fun p =>
      !((f.leafPaths n).any fun l => l.isPrefixOf p.keys) && !isRetired request p).map Path.text := by
  have same : ∀ p, c.documents p = (f.leafPaths n).any fun l => l.isPrefixOf p.keys := by
    intro p
    rw [Bool.eq_iff_iff, h.documents_iff hroot]
    simp
  simp only [Catalog.undocumented, same]

/-- What strictness rejects after a form was read at a root. -/
lemma Form.strict_of_lax {request : String} {places : List Path} (hf : f.Declared)
    (hs : f.Separate) (hretired : ∀ p, f.passesOver p = isRetired request p) (hroot : n.path = [])
    (hd : n.KeysDistinct) (hn : n.isObject = true)
    (hm : ∀ q ∈ m.scalars, m.path ++ q ∈ n.scalars) (hmarks : ∀ p ∈ f.marks n, m.path <+: p)
    (hpath : m.path ≠ [] ∨ [] ∉ m.scalars) (hplaces : m.scalars.map (m.path ++ ·) = places)
    (h : ((f.read d n).thenCheck m false).runFrom { events } = (.ok a, s)) :
    let unknown := s.catalog.undocumented request places
    s.catalog.unknown m = unknown ∧
      (((f.read d n).thenCheck m true).runFrom { events }).1 =
        if unknown.isEmpty then .ok a else .error (.unknown unknown m.source) := by
  intro unknown
  obtain ⟨hvalue, habsorb⟩ := value_of_thenCheck hf h
  have hunknown : s.catalog.unknown m = unknown := by
    have heq := (fills_of_absorb hf hs habsorb).unknown_eq hroot (opens_of_value hvalue) hd
      (by rw [hn, Bool.or_true]) hm hmarks hpath
    simp only [hretired, hplaces] at heq
    exact heq
  obtain ⟨t, ht, hcatalog⟩ := Pass.runFrom_thenCheck_ok h
  refine ⟨hunknown, ?_⟩
  rw [Pass.runFrom_thenCheck_strict ht, ← hcatalog, hunknown]

end read

section load

variable {document : Document} {features : FeatureSet} {strict : Bool} {source : Option String}
  {s : PassState}

lemma BuildConfig.run_load :
    (load document features strict source).run
      = (((form features).read {} (.root document source)).thenCheck
          (.root document source) strict).runFrom { events := [.mappingBuild source] } := by
  unfold load
  rw [Pass.run, Pass.runFrom_bind, Pass.runFrom_tell]
  rfl

lemma RouteRequest.run_loadDefaults :
    (loadDefaults document features strict source).run
      = (((defaultForm features routingDefaultsKey).read {} (.root document source)).thenCheck
          ((Node.root document source).child routingDefaultsKey) strict).runFrom {} := by
  unfold loadDefaults
  rfl

lemma BuildConfig.exists_run_load
    (h : ((form features).value {} (.root document source)).isOk = true) :
    ∃ config s, (load document features false source).run = (.ok config, s)
      ∧ (form features).Fills (.root document source) s.catalog := by
  rw [run_load]
  exact Form.exists_thenCheck (declared_form features) (separate_form features) h

lemma RouteRequest.exists_run_loadDefaults
    (h : ((defaultForm features routingDefaultsKey).value {} (.root document source)).isOk = true) :
    ∃ request s, (loadDefaults document features false source).run = (.ok request, s)
      ∧ (defaultForm features routingDefaultsKey).Fills (.root document source) s.catalog := by
  rw [run_loadDefaults]
  exact Form.exists_thenCheck (declared_defaultForm features _) (separate_defaultForm features) h

lemma BuildConfig.passesOver_form (p : Path) :
    (form features).passesOver p = isRetired "transferRequests" p := by
  rw [Form.passesOver, retiredPaths_form]
  rfl

lemma RouteRequest.passesOver_defaultForm (p : Path) :
    (defaultForm features routingDefaultsKey).passesOver p = isRetired routingDefaultsKey p := by
  rw [Form.passesOver, defaultForm, Form.retiredPaths, retiredPaths_form]
  rfl

/-- What strictness rejects is what the catalog does not document, in document order. The keys of an
object are distinct in any document that the readers give. -/
theorem unknown_eq_undocumented (features : FeatureSet) (fields : List (String × Document))
    (source : Option String) (h : (Document.object fields).KeysDistinct) :
    (∀ config s, (BuildConfig.load (.object fields) features false source).run = (.ok config, s) →
      let unknown := s.catalog.undocumented "transferRequests" (Document.object fields).scalars
      s.catalog.unknown (.root (.object fields) source) = unknown ∧
        (BuildConfig.load (.object fields) features true source).run.1 =
          if unknown.isEmpty then .ok config else .error (.unknown unknown source)) ∧
    ∀ request s,
      (RouteRequest.loadDefaults (.object fields) features false source).run = (.ok request, s) →
      let unknown := s.catalog.undocumented routingDefaultsKey
        ((((Document.object fields).get? routingDefaultsKey).elim [] Document.scalars).map
          (.key routingDefaultsKey :: ·))
      s.catalog.unknown ((Node.root (.object fields) source).child routingDefaultsKey) = unknown ∧
        (RouteRequest.loadDefaults (.object fields) features true source).run.1 =
          if unknown.isEmpty then .ok request else .error (.unknown unknown source) := by
  have hd := Node.keysDistinct_root h source
  have no_root : [] ∉ (Document.object fields).scalars := by
    intro hm
    obtain ⟨k, e, r, -, -, heq⟩ := Document.mem_scalarsOfFields.mp hm
    cases heq
  refine ⟨fun config s hrun => ?_, fun request s hrun => ?_⟩
  · rw [BuildConfig.run_load] at hrun ⊢
    exact Form.strict_of_lax (BuildConfig.declared_form features)
      (BuildConfig.separate_form features) BuildConfig.passesOver_form rfl hd rfl (fun _ hq => hq)
      (fun _ _ => List.nil_prefix) (.inr no_root) (by simp) hrun
  · rw [RouteRequest.run_loadDefaults] at hrun ⊢
    refine Form.strict_of_lax (RouteRequest.declared_defaultForm features _)
      (RouteRequest.separate_defaultForm features) RouteRequest.passesOver_defaultForm rfl hd rfl
      (fun _ hq => Node.cons_mem_scalars hq) ?_ (.inl (List.cons_ne_nil _ _)) ?_ hrun
    · -- all that the form reads lies in its one group
      intro p hp
      obtain ⟨q, -, rfl⟩ := List.mem_map.mp hp
      exact ⟨q, rfl⟩
    · rw [Node.scalars_child]
      rfl

/-- A misspelled key is rejected, and a parameter of earlier releases in a request is not. To the
mapping of a build configuration the default request is unknown as a whole. -/
theorem unknown_eq_undocumented_misspelled :
    let old : Document := .object [("minSafeTransferTimeFactor", .bool true)]
    let fields : List (String × Document) := [
      ("routingDefaults", .object [("bikeSped", .bool true), ("itineraryFilters", old)]),
      ("transferRequests", .array [.object [("itineraryFilters", old)]])]
    let inDefaults := "routingDefaults.itineraryFilters.minSafeTransferTimeFactor"
    (Document.object fields).KeysDistinct ∧
      (∃ config s, (BuildConfig.load (.object fields) .empty false none).run = (.ok config, s) ∧
        (BuildConfig.load (.object fields) .empty true none).run.1
          = .error (.unknown ["routingDefaults.bikeSped", inDefaults] none)) ∧
      ∃ request s,
        (RouteRequest.loadDefaults (.object fields) .empty false none).run = (.ok request, s) ∧
        (RouteRequest.loadDefaults (.object fields) .empty true none).run.1
          = .error (.unknown ["routingDefaults.bikeSped"] none) := by
  intro old fields inDefaults
  have hd : (Document.object fields).KeysDistinct := by
    simp [fields, old, Document.KeysDistinct, Document.KeysDistinctFields,
      Document.KeysDistinctItems, NamesDistinct]
  obtain ⟨build, defaults⟩ := unknown_eq_undocumented .empty fields none hd
  refine ⟨hd, ?_, ?_⟩
  · have hvalue : ((BuildConfig.form .empty).value {} (.root (.object fields))).isOk = true := by
      decide +kernel
    obtain ⟨config, s, hrun, fills⟩ := BuildConfig.exists_run_load hvalue
    refine ⟨config, s, hrun, ?_⟩
    have hunknown : s.catalog.undocumented "transferRequests" (Document.object fields).scalars
        = ["routingDefaults.bikeSped", inDefaults] := by
      rw [fills.undocumented_eq rfl]
      decide +kernel
    rw [(build config s hrun).2, hunknown]
    rfl
  · have hvalue : ((RouteRequest.defaultForm .empty routingDefaultsKey).value {}
        (.root (.object fields))).isOk = true := by
      decide +kernel
    obtain ⟨request, s, hrun, fills⟩ := RouteRequest.exists_run_loadDefaults hvalue
    refine ⟨request, s, hrun, ?_⟩
    have hunknown : s.catalog.undocumented routingDefaultsKey
        ((((Document.object fields).get? routingDefaultsKey).elim [] Document.scalars).map
          (.key routingDefaultsKey :: ·)) = ["routingDefaults.bikeSped"] := by
      rw [fills.undocumented_eq rfl]
      decide +kernel
    rw [(defaults request s hrun).2, hunknown]
    rfl

end load

end PlannerConfig
