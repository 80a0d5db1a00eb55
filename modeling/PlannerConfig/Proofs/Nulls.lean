import PlannerConfig.Proofs.Form.Nulls
import PlannerConfig.Proofs.Outcome

/-!
Nulls in documents of this configuration. A null counts as no value for every parameter and group, but
not as an absent key where the keys themselves are read: in the five maps of a request, in the
parameters of its data overlay, and in deciding whether the data overlay of a build is empty.
-/
namespace PlannerConfig

namespace Document

/-- Whether no key of an object has a null. -/
def NoNulls (d : Document) : Prop := ∀ fields, d = object fields → ∀ f ∈ fields, f.2 ≠ null

/-- Whether an object that has keys has a value under one of them. -/
def NotAllNull (d : Document) : Prop :=
  ∀ fields, d = object fields → fields ≠ [] → ∃ f ∈ fields, f.2 ≠ null

end Document

/-- The keys of a request under which the keys of an object are read. -/
def RouteRequest.openKeys (features : FeatureSet) : List String :=
  ["alightSlackForMode", "boardSlackForMode", "transitReluctanceForMode",
    "maxAccessEgressDurationForMode", "maxDirectStreetDurationForMode"]
  ++ if features.isOn .dataOverlay then ["dataOverlay"] else []

/-- Whether a request has no null where keys are read. -/
def RouteRequest.NullFree (features : FeatureSet) (d : Document) : Prop :=
  ∀ key ∈ openKeys features, ∀ e, d.get? key = some e → e.NoNulls

/-- Whether a build configuration has no null where keys are read. -/
def BuildConfig.NullFree (features : FeatureSet) (d : Document) : Prop :=
  (features.isOn .dataOverlay = true → ∀ e, d.get? "dataOverlay" = some e → e.NotAllNull)
    ∧ ∀ items, d.get? "transferRequests" = some (.array items) →
      ∀ e ∈ items, RouteRequest.NullFree features e

namespace Node

variable {n : Node} {d : Document} {key : String}

lemma value_child_eq_some_iff (h : n.value = d.present?) {e : Document} (he : e ≠ .null) :
    (n.child key).value = some e ↔ d.get? key = some e := by
  rw [value_child h key, Option.bind_eq_some_iff]
  constructor
  · rintro ⟨o, ho, hpresent⟩
    obtain ⟨rfl, -⟩ := Document.present?_eq_some.mp hpresent
    exact ho
  · intro hget
    exact ⟨e, hget, Document.present?_eq_some.mpr ⟨rfl, he⟩⟩

lemma object_child_iff (h : n.value = d.present?) {fields : List (String × Document)} :
    (n.child key).value = some (.object fields) ↔ d.get? key = some (.object fields) :=
  value_child_eq_some_iff h (by simp)

lemma array_child_iff (h : n.value = d.present?) {items : List Document} :
    (n.child key).value = some (.array items) ↔ d.get? key = some (.array items) :=
  value_child_eq_some_iff h (by simp)

/-- What holds of the object at a place is what holds of the object that is read there. -/
lemma forall_object_child_iff (h : n.value = d.present?)
    {P : List (String × Document) → Prop} :
    (∀ fields, (n.child key).value = some (.object fields) → P fields)
      ↔ ∀ e, d.get? key = some e → ∀ fields, e = .object fields → P fields := by
  simp only [object_child_iff h]
  exact ⟨fun hall e he fields hfields => hall fields (hfields ▸ he),
    fun hall fields hfields => hall _ hfields fields rfl⟩

lemma noNulls_child (h : n.value = d.present?) :
    (n.child key).NoNulls ↔ ∀ e, d.get? key = some e → e.NoNulls :=
  forall_object_child_iff h

lemma notAllNull_child (h : n.value = d.present?) :
    (n.child key).NotAllNull ↔ ∀ e, d.get? key = some e → e.NotAllNull :=
  forall_object_child_iff h

/-- What holds of the places of an array is what holds of its elements. -/
lemma forall_mem_elements_iff {atNode : Node → Prop} {atDocument : Document → Prop}
    (h : ∀ {m : Node} {e : Document}, m.value = e.present? → (atNode m ↔ atDocument e)) :
    (n.isArray = true → ∀ m ∈ n.elements, atNode m)
      ↔ ∀ items, n.value = some (.array items) → ∀ e ∈ items, atDocument e := by
  constructor
  · intro hall items hitems e he
    have harray : n.isArray = true := by
      rw [isArray, hitems]
      rfl
    rw [elements_of_array hitems] at hall
    rw [← List.zipIdx_map_fst 0 items] at he
    obtain ⟨⟨e, i⟩, hm, rfl⟩ := List.mem_map.mp he
    exact (h rfl).mp (hall harray _ (List.mem_map_of_mem hm))
  · intro hall harray m hm
    obtain ⟨e, hvalue, hshape⟩ := (Option.any_eq_true _ _).mp harray
    cases e with
    | array items =>
      rw [elements_of_array hvalue] at hm
      obtain ⟨⟨e, i⟩, he, rfl⟩ := List.mem_map.mp hm
      exact (h rfl).mpr (hall items hvalue e (List.fst_mem_of_mem_zipIdx he))
    | _ => cases hshape

end Node

lemma RouteRequest.nullAware_form (features : FeatureSet) : (form features).NullAware :=
  (kindsInUse_form features).nullAware

lemma BuildConfig.nullAware_form (features : FeatureSet) : (form features).NullAware :=
  (kindsInUse_form features).nullAware

section nullFree

variable {features : FeatureSet} {n : Node} {d : Document}

/-- Of all that a request reads, only what is under the open keys matters. -/
lemma RouteRequest.nullFree_form_iff_child :
    (form features).NullFree n ↔ ∀ key ∈ openKeys features, (n.child key).NoNulls := by
  have overlay : (SystemPreferences.overlayForm features).NullFree n
      ↔ (features.isOn .dataOverlay = true → (n.child "dataOverlay").NoNulls) := by
    unfold SystemPreferences.overlayForm
    cases features.isOn .dataOverlay with
    | false => exact ⟨fun _ h => (Bool.false_ne_true h).elim, fun _ => trivial⟩
    | true => exact ⟨fun h _ => h.2.2, fun h => ⟨trivial, trivial, h rfl⟩⟩
  simp only [form, innerForm, RoutingPreferences.form, TransitPreferences.form,
    BikePreferences.form, TriangleFactors.form, RentalPreferences.form, StreetPreferences.form,
    ElevatorPreferences.form, CarPreferences.form, SystemPreferences.form, TransferPreferences.form,
    ParkingPreferences.form, WalkPreferences.form, WheelchairPreferences.form,
    WheelchairPreferences.enabledForm, WheelchairPreferences.innerForm,
    WheelchairPreferences.accessibility, AccessibilityPreferences.form,
    ItineraryFilterPreferences.form, ItineraryFilterPreferences.retiredForm,
    ItineraryFilterPreferences.innerForm, Unpreferred.form, Form.boolean, Form.integer, Form.double,
    Form.duration, Form.optionalDuration, Form.stringSet, Form.feedScopedIds, Form.linearFunction,
    Form.choice, Form.keyedDuration, Form.nullFree_map, Form.nullFree_seq, Form.nullFree_seqRight,
    Form.NullFree, overlay, true_and, and_true]
  unfold openKeys
  cases features.isOn .dataOverlay <;> simp [and_assoc]

lemma RouteRequest.nullFree_form_iff (h : n.value = d.present?) :
    (form features).NullFree n ↔ NullFree features d := by
  rw [nullFree_form_iff_child]
  simp only [Node.noNulls_child h, NullFree]

lemma RouteRequest.nullFree_defaultForm_iff (h : n.value = d.present?) :
    (defaultForm features routingDefaultsKey).NullFree n
      ↔ ∀ e, d.get? routingDefaultsKey = some e → NullFree features e := by
  show (form features).NullFree (n.child routingDefaultsKey) ↔ _
  have hvalue := Node.value_child h routingDefaultsKey
  cases hget : d.get? routingDefaultsKey with
  | none =>
    rw [hget] at hvalue
    rw [nullFree_form_iff (d := .null) hvalue]
    have nothing : NullFree features .null := by
      intro key _ e he
      cases he
    simp [nothing]
  | some e =>
    rw [hget] at hvalue
    rw [nullFree_form_iff hvalue]
    simp

lemma DataOverlay.nullFree_form (n : Node) : form.NullFree n := by
  simp [form, IndexVariable.form, Form.string, Form.choice, Form.NullFree]

lemma BuildConfig.nullFree_overlayForm_iff :
    (overlayForm features).NullFree n
      ↔ (features.isOn .dataOverlay = true → (n.child "dataOverlay").NotAllNull) := by
  unfold overlayForm
  cases features.isOn .dataOverlay with
  | false => exact ⟨fun _ h => (Bool.false_ne_true h).elim, fun _ => trivial⟩
  | true => exact ⟨fun h _ => h.1, fun h => ⟨h rfl, fun _ => DataOverlay.nullFree_form _⟩⟩

lemma BuildConfig.nullFree_form_iff (h : n.value = d.present?) :
    (form features).NullFree n ↔ NullFree features d := by
  have requests : ((n.child "transferRequests").isArray = true →
        ∀ m ∈ (n.child "transferRequests").elements, (RouteRequest.form features).NullFree m)
      ↔ ∀ items, d.get? "transferRequests" = some (.array items) →
        ∀ e ∈ items, RouteRequest.NullFree features e := by
    rw [Node.forall_mem_elements_iff RouteRequest.nullFree_form_iff]
    simp only [Node.array_child_iff h]
  simp only [form, IslandPruning.form, Form.optionalString, Form.boolean, Form.integer, Form.double,
    Form.duration, Form.stringSet, Form.nullFree_map, Form.nullFree_seq, Form.NullFree,
    nullFree_overlayForm_iff, true_and, requests]
  unfold NullFree
  simp only [Node.notAllNull_child h]

end nullFree

/-- A document without its nulls is mapped as the document itself, if no null stands where keys are
read; if one does, the document is refused. -/
theorem outcome_pruned (features : FeatureSet) (fields : List (String × Document))
    (source : Option String) (h : (Document.object fields).KeysDistinct) :
    let d := Document.object fields
    let build (d : Document) := (BuildConfig.load d features false source).run.1
    let defaults (d : Document) := (RouteRequest.loadDefaults d features false source).run.1
    let free := BuildConfig.NullFree features d
    let freeDefaults := ∀ e, d.get? routingDefaultsKey = some e → RouteRequest.NullFree features e
    (free → Alike Failure.Same (build d) (build d.pruned))
      ∧ ((∃ config, build d = .ok config) ↔ free ∧ ∃ config, build d.pruned = .ok config)
      ∧ (freeDefaults → Alike Failure.Same (defaults d) (defaults d.pruned))
      ∧ ((∃ request, defaults d = .ok request)
        ↔ freeDefaults ∧ ∃ request, defaults d.pruned = .ok request) := by
  intro d build defaults free freeDefaults
  have hd : (Node.root d source).KeysDistinct := Node.keysDistinct_root h source
  have hprunes : (Node.root d source).Prunes (Node.root d.pruned source) := ⟨rfl, rfl, hd⟩
  have build_eq : ∀ e, build e = (BuildConfig.form features).value {} (.root e source) :=
    fun e => BuildConfig.outcome_load e features source
  have defaults_eq : ∀ e, defaults e
      = (RouteRequest.defaultForm features routingDefaultsKey).value {} (.root e source) :=
    fun e => RouteRequest.outcome_loadDefaults e features source
  have free_iff : (BuildConfig.form features).NullFree (.root d source) ↔ free :=
    BuildConfig.nullFree_form_iff rfl
  have freeDefaults_iff : (RouteRequest.defaultForm features routingDefaultsKey).NullFree
      (.root d source) ↔ freeDefaults := RouteRequest.nullFree_defaultForm_iff rfl
  have build_aware := BuildConfig.nullAware_form features
  have defaults_aware : (RouteRequest.defaultForm features routingDefaultsKey).NullAware :=
    RouteRequest.nullAware_form features
  simp only [build_eq, defaults_eq, ← free_iff, ← freeDefaults_iff]
  exact ⟨fun hfree => Form.alike_of_prunes build_aware hprunes hfree {},
    Form.exists_value_iff_of_prunes build_aware hprunes {},
    fun hfree => Form.alike_of_prunes defaults_aware hprunes hfree {},
    Form.exists_value_iff_of_prunes defaults_aware hprunes {}⟩

/-- Nulls for a parameter, for a group and for a list inside a request make no difference. -/
theorem outcome_pruned_absent :
    let request : Document := .object [
      ("arriveBy", .null), ("unpreferred", .object [("routes", .null)]), ("itineraryFilters", .null)]
    let fields : List (String × Document) := [
      ("maxAreaNodes", .null), ("transferRequests", .array [request]), (routingDefaultsKey, request)]
    let d := Document.object fields
    let build (d : Document) := (BuildConfig.load d .empty false none).run.1
    let defaults (d : Document) := (RouteRequest.loadDefaults d .empty false none).run.1
    d.KeysDistinct ∧ Alike Failure.Same (build d) (build d.pruned)
      ∧ Alike Failure.Same (defaults d) (defaults d.pruned) := by
  intro request fields d build defaults
  have hd : d.KeysDistinct := by
    simp [d, fields, request, Document.KeysDistinct, Document.KeysDistinctFields,
      Document.KeysDistinctItems, NamesDistinct, routingDefaultsKey]
  have hrequest : RouteRequest.NullFree .empty request := by
    intro key hkey e he
    have hnone : ∀ key ∈ RouteRequest.openKeys .empty, (request.get? key).isNone = true := by
      decide
    have habsent := hnone key hkey
    rw [he] at habsent
    cases habsent
  have hfree : BuildConfig.NullFree .empty d := by
    refine ⟨fun hon => (Bool.false_ne_true hon).elim, fun items hitems e he => ?_⟩
    obtain rfl : [request] = items := Document.array.inj (Option.some.inj hitems)
    rwa [List.mem_singleton.mp he]
  have hdefaults : ∀ e, d.get? routingDefaultsKey = some e → RouteRequest.NullFree .empty e := by
    intro e he
    obtain rfl : request = e := Option.some.inj he
    exact hrequest
  obtain ⟨build_alike, -, defaults_alike, -⟩ := outcome_pruned .empty fields none hd
  exact ⟨hd, build_alike hfree, defaults_alike hdefaults⟩

/-- A null in a map of a request is refused as a value, where an absent key leaves the map empty. -/
theorem null_refused_in_map :
    let map : Document := .object [("BUS", .null)]
    let d : Document := .object [
      (routingDefaultsKey, .object [("transitReluctanceForMode", map)])]
    let defaults (d : Document) := (RouteRequest.loadDefaults d .empty false none).run.1
    d.KeysDistinct ∧ defaults d = .error (.mismatch
        [.key routingDefaultsKey, .key "transitReluctanceForMode", .key "BUS"] "double" "MISSING"
        (some "Expected a number"))
      ∧ ¬ Alike Failure.Same (defaults d) (defaults d.pruned) := by
  intro map d defaults
  have hd : d.KeysDistinct := by
    simp [d, map, Document.KeysDistinct, Document.KeysDistinctFields, NamesDistinct]
  have hfailure : defaults d = .error (.mismatch
      [.key routingDefaultsKey, .key "transitReluctanceForMode", .key "BUS"] "double" "MISSING"
      (some "Expected a number")) := by
    show (RouteRequest.loadDefaults d .empty false none).run.1 = _
    rw [RouteRequest.outcome_loadDefaults]
    rfl
  refine ⟨hd, hfailure, fun halike => ?_⟩
  have hpruned : ((RouteRequest.defaultForm .empty routingDefaultsKey).value {}
      (.root d.pruned)).isOk = true := by
    decide +kernel
  obtain ⟨request, s, hrun, -⟩ := RouteRequest.exists_run_loadDefaults hpruned
  have hok : defaults d.pruned = .ok request := by
    show (RouteRequest.loadDefaults d.pruned .empty false none).run.1 = _
    rw [hrun]
  rw [← halike.ok_iff, hfailure] at hok
  cases hok

end PlannerConfig
