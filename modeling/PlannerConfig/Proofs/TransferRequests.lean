import PlannerConfig.Proofs.Form.Locality
import PlannerConfig.Proofs.Outcome
import PlannerConfig.Proofs.Traversal

/-!
The requests of a build configuration. Each element of the list gives the request that it would give
on its own as the default request of a router configuration, or fails as it would there, and no element
has a part in what another gives.
-/
namespace PlannerConfig

/-- A document without what there is under a key. -/
def Document.without (key : String) : Document → Document
  | object fields => object (fields.filter fun f => f.1 != key)
  | d => d

lemma Document.get?_without {key k : String} (h : k ≠ key) (d : Document) :
    (d.without key).get? k = d.get? k := by
  cases d with
  | object fields =>
    show (fields.filter fun f => f.1 != key).lookup k = fields.lookup k
    induction fields with
    | nil => rfl
    | cons f fields ih =>
      by_cases hf : f.1 = key
      · have hk : (k == f.1) = false := by rwa [hf, beq_eq_false_iff_ne]
        rw [List.filter_cons_of_neg (by simp [hf]), ih, List.lookup_cons, hk]
      · rw [List.filter_cons_of_pos (by simpa using hf), List.lookup_cons, List.lookup_cons, ih]
  | _ => rfl

lemma Document.get?_without_self (key : String) (d : Document) : (d.without key).get? key = none := by
  cases d with
  | object fields =>
    show (fields.filter fun f => f.1 != key).lookup key = none
    rw [List.lookup_eq_none_iff]
    intro f hf
    have hne : f.1 ≠ key := by simpa using (List.mem_filter.mp hf).2
    exact bne_iff_ne.mpr hne.symm
  | _ => rfl

namespace Node

lemma groups_of_objects {n : Node} {items : List Document} (h : n.value = some (.array items))
    (hobjects : ∀ e ∈ items, e.isObject = true) : n.groups = .ok n.elements := by
  have all : ∀ m ∈ n.elements, m.isObject = true := by
    intro m hm
    rw [elements_of_array h] at hm
    obtain ⟨⟨e, i⟩, he, rfl⟩ := List.mem_map.mp hm
    have hobject := hobjects e (List.fst_mem_of_mem_zipIdx he)
    rw [isObject, Document.present?_of_isObject hobject, Option.any_some, hobject]
  have check : ∀ ns : List Node, (∀ m ∈ ns, m.isObject = true) → ns.forM checkObject = .ok () := by
    intro ns hns
    induction ns with
    | nil => rfl
    | cons m ns ih =>
      have hm : m.checkObject = .ok () := by rw [checkObject, hns m (by simp), if_pos rfl]
      show m.checkObject >>= (fun _ => ns.forM checkObject) = _
      rw [hm]
      exact ih fun k hk => hns k (by simp [hk])
  have hmissing : n.isMissing = false := by simp [isMissing, h]
  have harray : n.isArray = true := by simp [isArray, h, Document.isArray]
  unfold groups
  simp only [hmissing, harray, check _ all, Bool.false_eq_true, if_false, Bool.not_true]
  rfl

end Node

namespace RouteRequest

variable (features : FeatureSet)

/-- What an object gives as a request, wherever it stands. -/
def ofObject (e : Document) : Except Failure RouteRequest :=
  (form features).value {} ⟨some e, [], none⟩

variable {features}

/-- The default request is what the object under its key gives. -/
lemma outcome_loadDefaults_object {e : Document} (he : e.isObject = true) (source : Option String) :
    (loadDefaults (.object [(routingDefaultsKey, e)]) features false source).run.1
      = (ofObject features e).mapError (Failure.under [.key routingDefaultsKey]) := by
  rw [outcome_loadDefaults]
  set n := (Node.root (.object [(routingDefaultsKey, e)]) source).child routingDefaultsKey with hn
  have hvalue : n.value = some e := by
    cases e with
    | object fields => simp [hn, Node.child, Node.root, Document.present?, Document.get?]
    | _ => cases he
  have hgroup : n.group = .ok n := by
    unfold Node.group
    rw [Node.isObject, hvalue, Option.any_some, he, Bool.or_true, if_pos rfl]
  show n.group >>= (form features).value {} = _
  rw [hgroup]
  exact Form.value_under _ _ ⟨hvalue, rfl⟩

end RouteRequest

namespace BuildConfig

/-- The requests come last, and nothing else looks at them. -/
lemma exists_rest (features : FeatureSet) :
    ∃ (rest : Form BuildConfig (List RouteRequest → BuildConfig)) (note : Note),
      form features = .ap rest (.list "transferRequests"
        (.zoom (fun _ => {}) (RouteRequest.form features)) (·.transferRequests) note)
      ∧ rest.avoids "transferRequests" = true
      ∧ ∀ d n g, rest.value d n = .ok g → ∀ requests, (g requests).transferRequests = requests := by
  refine ⟨_, _, rfl, ?_, ?_⟩
  · unfold overlayForm
    split <;> rfl
  · intro d n g hg requests
    repeat obtain ⟨_, _, hg, -, heq⟩ := Form.value_seq_eq_ok.mp hg
    cases hg
    subst_vars
    rfl

section

variable {features : FeatureSet} {fields : List (String × Document)} {elements : List Document}
  {source : Option String}

variable (features) in
/-- What the elements give, each at its place. -/
lemma map_value_elements {n : Node} (hvalue : n.value = some (.array elements))
    (hobjects : ∀ e ∈ elements, e.isObject = true) :
    n.elements.map ((RouteRequest.form features).value {}) = elements.zipIdx.map fun p =>
      (RouteRequest.ofObject features p.1).mapError (Failure.under (n.path ++ [.index p.2])) := by
  rw [Node.elements_of_array hvalue, List.map_map]
  apply List.map_congr_left
  rintro ⟨e, i⟩ hm
  have he := Document.present?_of_isObject (hobjects e (List.fst_mem_of_mem_zipIdx hm))
  exact Form.value_under _ _ ⟨he, by simp⟩

/-- Where elements give requests, their places do not matter. -/
lemma map_zipIdx_eq_ok {path : Path} {requests : List RouteRequest} :
    (elements.zipIdx.map fun p => (RouteRequest.ofObject features p.1).mapError
        (Failure.under (path ++ [.index p.2]))) = requests.map .ok
      ↔ elements.map (RouteRequest.ofObject features) = requests.map .ok := by
  rw [map_eq_map_ok_congr fun _ _ => mapError_eq_ok, ← Function.comp_def, ← List.map_map,
    List.zipIdx_map_fst]

lemma mapM_value_elements_eq_ok {n : Node} (hvalue : n.value = some (.array elements))
    (hobjects : ∀ e ∈ elements, e.isObject = true) {requests : List RouteRequest} :
    n.elements.mapM ((RouteRequest.form features).value {}) = .ok requests
      ↔ elements.map (RouteRequest.ofObject features) = requests.map .ok := by
  rw [mapM_eq_ok_iff, map_value_elements features hvalue hobjects, map_zipIdx_eq_ok]

/-- The first element that gives no request fails the list, at its place. -/
lemma mapM_value_elements_eq_error {n : Node} {before after : List Document} {e : Document}
    {inner : Failure} (hvalue : n.value = some (.array (before ++ e :: after)))
    (hobjects : ∀ x ∈ before ++ e :: after, x.isObject = true)
    (hbefore : ∀ x ∈ before, ∃ r, RouteRequest.ofObject features x = .ok r)
    (he : RouteRequest.ofObject features e = .error inner) :
    n.elements.mapM ((RouteRequest.form features).value {})
      = .error (inner.under (n.path ++ [.index before.length])) := by
  obtain ⟨requests, hrequests⟩ := exists_map_eq_map_ok hbefore
  have hfirst := map_value_elements features hvalue hobjects
  rw [List.zipIdx_append, List.map_append, map_zipIdx_eq_ok.mpr hrequests, List.zipIdx_cons,
    List.map_cons, he, Nat.zero_add] at hfirst
  exact mapM_eq_error hfirst

lemma child_without {key k : String} (h : k ≠ key) :
    (Node.root ((Document.object fields).without key) source).child k
      = (Node.root (.object fields) source).child k := by
  have same := Document.get?_without h (.object fields)
  simp only [Node.child, Node.root, Document.without, Document.present?, Option.bind_some] at same ⊢
  rw [same]

lemma isMissing_child_without {key : String} :
    ((Node.root ((Document.object fields).without key) source).child key).isMissing = true := by
  have none := Document.get?_without_self key (.object fields)
  simp only [Node.isMissing, Node.child, Node.root, Document.without, Document.present?,
    Option.bind_some] at none ⊢
  rw [none]
  rfl

variable (features source) in
/-- The outcome of a build whose requests are objects: that of the rest and then that of the
requests. -/
lemma exists_outcome_load (hrequests : (Document.object fields).get? "transferRequests"
      = some (.array elements)) (hne : elements ≠ [])
    (hobjects : ∀ e ∈ elements, e.isObject = true) :
    ∃ (rest : Except Failure (List RouteRequest → BuildConfig)) (n : Node),
      (form features).value {} (.root (.object fields) source)
          = (do return (← rest) (← n.elements.mapM ((RouteRequest.form features).value {})))
      ∧ n.value = some (.array elements) ∧ n.path = [.key "transferRequests"]
      ∧ (∀ g, rest = .ok g → ∀ requests, (g requests).transferRequests = requests)
      ∧ ((∃ config, (form features).value {}
            (.root ((Document.object fields).without "transferRequests") source) = .ok config)
          ↔ ∃ g, rest = .ok g) := by
  obtain ⟨rest, note, hform, havoids, hlast⟩ := exists_rest features
  set root := Node.root (.object fields) source
  set n := root.child "transferRequests" with hn
  have hvalue : n.value = some (.array elements) := by
    simp only [hn, root, Node.child, Node.root, Document.present?, Option.bind_some, hrequests]
  refine ⟨rest.value {} root, n, ?_, hvalue, rfl, hlast _ _, ?_⟩
  · have hsome : n.elements.isEmpty = false := by
      rw [Node.elements_of_array hvalue]
      simpa using hne
    have requests : (Form.list "transferRequests" (.zoom (fun _ => {}) (RouteRequest.form features))
        BuildConfig.transferRequests note).value {} root
          = n.elements.mapM ((RouteRequest.form features).value {}) := by
      show (n.groups >>= fun ms => if ms.isEmpty then _ else _) = _
      rw [Node.groups_of_objects hvalue hobjects]
      show (if n.elements.isEmpty then _ else _) = _
      rw [hsome]
      rfl
    rw [hform, Form.value, requests]
  · set bare := Node.root ((Document.object fields).without "transferRequests") source
    have same : rest.value {} bare = rest.value {} root :=
      Form.value_congr_of_avoids havoids (fun k hk => child_without hk) _
    have requests : (Form.list "transferRequests" (.zoom (fun _ => {}) (RouteRequest.form features))
        BuildConfig.transferRequests note).value {} bare = .ok [{}] := by
      have hmissing : (bare.child "transferRequests").isMissing = true := isMissing_child_without
      show ((bare.child "transferRequests").groups >>= fun ms => if ms.isEmpty then _ else _) = _
      rw [Node.groups, hmissing, if_pos rfl]
      rfl
    rw [hform, Form.value, requests, same]
    cases rest.value {} root with
    | error f => simp [bind, Except.bind]
    | ok g => simp [bind, Except.bind, pure, Except.pure]

end

end BuildConfig

/-- The requests of a build configuration are those that its elements give as default requests. The
mapping fails if the rest of the document or one of the elements fails on its own, and in the latter
case it fails as the first such element does, at the place of the element. -/
theorem transferRequests_eq_defaults (features : FeatureSet) (fields : List (String × Document))
    (elements : List Document) (source other : Option String)
    (hrequests : (Document.object fields).get? "transferRequests" = some (.array elements))
    (hne : elements ≠ []) (hobjects : ∀ e ∈ elements, e.isObject = true) :
    let alone (e : Document) : Except Failure RouteRequest :=
      (RouteRequest.loadDefaults (.object [(routingDefaultsKey, e)]) features false other).run.1
    let build (document : Document) (strict : Bool) : Except Failure BuildConfig :=
      (BuildConfig.load document features strict source).run.1
    let rest := (Document.object fields).without "transferRequests"
    (∀ strict config, build (.object fields) strict = .ok config →
        elements.map alone = config.transferRequests.map .ok)
      ∧ ((∃ config, build (.object fields) false = .ok config)
          ↔ (∃ config, build rest false = .ok config) ∧ ∀ e ∈ elements, ∃ r, alone e = .ok r)
      ∧ ∀ before e after failure, elements = before ++ e :: after →
          (∃ config, build rest false = .ok config) → (∀ x ∈ before, ∃ r, alone x = .ok r) →
          alone e = .error failure → ∃ inner : Failure,
            failure = inner.under [.key routingDefaultsKey] ∧ build (.object fields) false
              = .error (inner.under [.key "transferRequests", .index before.length]) := by
  intro alone build rest
  obtain ⟨restValue, n, hbuild, hvalue, hpath, hlast, hrest⟩ :=
    BuildConfig.exists_outcome_load features source hrequests hne hobjects
  have halone : ∀ e ∈ elements, alone e
      = (RouteRequest.ofObject features e).mapError (Failure.under [.key routingDefaultsKey]) :=
    fun e he => RouteRequest.outcome_loadDefaults_object (hobjects e he) other
  have halone_ok : ∀ requests : List RouteRequest, elements.map alone = requests.map .ok
      ↔ elements.map (RouteRequest.ofObject features) = requests.map .ok := by
    intro requests
    rw [List.map_congr_left halone, map_eq_map_ok_congr fun _ _ => mapError_eq_ok]
  have build_eq : ∀ d, build d false = (BuildConfig.form features).value {} (.root d source) :=
    fun d => BuildConfig.outcome_load d features source
  have build_ok : ∀ config, (BuildConfig.form features).value {} (.root (.object fields) source)
      = .ok config → (∃ g, restValue = .ok g)
        ∧ elements.map alone = config.transferRequests.map .ok := by
    intro config hconfig
    rw [hbuild] at hconfig
    obtain ⟨g, hg, hconfig⟩ := bind_eq_ok.mp hconfig
    obtain ⟨requests, hrequests, hconfig⟩ := bind_eq_ok.mp hconfig
    cases hconfig
    rw [hlast g hg, halone_ok]
    exact ⟨⟨g, hg⟩, (BuildConfig.mapM_value_elements_eq_ok hvalue hobjects).mp hrequests⟩
  refine ⟨fun strict config hconfig => (build_ok config (BuildConfig.value_of_load hconfig)).2,
    ?_, ?_⟩
  · simp only [build_eq]
    rw [hrest]
    constructor
    · rintro ⟨config, hconfig⟩
      obtain ⟨hg, hall⟩ := build_ok config hconfig
      refine ⟨hg, fun e he => ?_⟩
      exact Form.ok_of_mapM_ok (mapM_eq_ok_iff.mpr hall) he
    · rintro ⟨⟨g, hg⟩, hall⟩
      obtain ⟨requests, hrequests⟩ := exists_map_eq_map_ok hall
      rw [halone_ok, ← BuildConfig.mapM_value_elements_eq_ok hvalue hobjects] at hrequests
      exact ⟨g requests, by rw [hbuild, hg, hrequests]; rfl⟩
  · rintro before e after failure rfl hbare hbefore hfail
    rw [build_eq, hrest] at hbare
    obtain ⟨g, hg⟩ := hbare
    rw [halone e (by simp)] at hfail
    cases hinner : RouteRequest.ofObject features e with
    | ok request => rw [hinner] at hfail; cases hfail
    | error inner =>
      rw [hinner] at hfail
      refine ⟨inner, (Except.error.inj hfail).symm, ?_⟩
      have hgood : ∀ x ∈ before, ∃ r, RouteRequest.ofObject features x = .ok r := by
        intro x hx
        obtain ⟨r, hr⟩ := hbefore x hx
        rw [halone x (by simp [hx]), mapError_eq_ok] at hr
        exact ⟨r, hr⟩
      have hfirst := BuildConfig.mapM_value_elements_eq_error hvalue hobjects hgood hinner
      rw [build_eq, hbuild, hg, hfirst, hpath]
      rfl

/-- Two requests with different keys, the second with one that nobody reads. -/
theorem transferRequests_eq_defaults_two :
    let elements : List Document := [
      .object [("arriveBy", .bool true), ("unpreferred", .object [("routes", .array [.text "F:1"])])],
      .object [("numItineraries", .int 3), ("numItinerary", .int 4)]]
    let fields : List (String × Document) := [
      ("transferRequests", .array elements), ("maxAreaNodes", .int 7)]
    let alone (e : Document) : Except Failure RouteRequest :=
      (RouteRequest.loadDefaults (.object [(routingDefaultsKey, e)]) .empty false none).run.1
    ∃ config, (BuildConfig.load (.object fields) .empty false none).run.1 = .ok config
      ∧ elements.map alone = config.transferRequests.map .ok := by
  intro elements fields alone
  have hvalue : ((BuildConfig.form .empty).value {} (.root (.object fields))).isOk = true := by
    decide +kernel
  obtain ⟨config, s, hrun, -⟩ := BuildConfig.exists_run_load hvalue
  have hobjects : ∀ e ∈ elements, e.isObject = true := by decide
  have hload : (BuildConfig.load (.object fields) .empty false none).run.1 = .ok config := by rw [hrun]
  exact ⟨config, hload, (transferRequests_eq_defaults .empty fields elements none none rfl
    (List.cons_ne_nil _ _) hobjects).1 false config hload⟩

end PlannerConfig
