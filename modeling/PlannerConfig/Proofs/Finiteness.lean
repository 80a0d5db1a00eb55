import PlannerConfig.Proofs.DefaultRequest
import PlannerConfig.Proofs.Refusals
import PlannerConfig.Proofs.Routing.Floats

/-!
Which floats of a mapped document are finite. All are, but for the linear functions with a decimal that is
too large for a float.
-/
namespace PlannerConfig

open PlannerConfig.Number

/-- The places of a request with the texts of linear functions. -/
def RouteRequest.linearPlaces (n : Node) : List Node :=
  [n.child "unpreferredCost", (n.child "itineraryFilters").child "transitGeneralizedCostLimit",
    (n.child "itineraryFilters").child "nonTransitGeneralizedCostLimit"]

variable {n : Node}

lemma RoutingPreferences.ReadAt.linear_iff {r : RouteRequest} (h : r.preferences.ReadAt n) :
    AllFinite (r.linearFunctions.flatMap LinearFunction.parts)
      ↔ ∀ place ∈ RouteRequest.linearPlaces n, ¬place.Overflows := by
  simp only [RouteRequest.linearFunctions, RouteRequest.linearPlaces, allFinite_flatMap,
    List.forall_mem_cons, List.not_mem_nil, false_implies, implies_true, and_true]
  rw [h.unpreferredCost.allFinite_iff (by decide), h.transitCostLimit.allFinite_iff (by decide),
    h.nonTransitCostLimit.allFinite_iff (by decide)]

lemma forall_mem_iff_of_forall₂ {α β : Type} {R : α → β → Prop} {P : α → Prop} {Q : β → Prop}
    {as : List α} {bs : List β} (h : List.Forall₂ R as bs) (hR : ∀ a b, R a b → (Q b ↔ P a)) :
    (∀ b ∈ bs, Q b) ↔ ∀ a ∈ as, P a := by
  induction h with
  | nil => simp
  | cons hab _ ih => rw [List.forall_mem_cons, List.forall_mem_cons, hR _ _ hab, ih]

namespace BuildConfig.ReadAt

variable {c : BuildConfig} (h : c.ReadAt n)
include h

lemma allFinite : AllFinite c.floats := by
  have requests : ∀ r ∈ c.transferRequests, AllFinite r.floats := by
    rcases h.transferRequests with ⟨-, hdefault⟩ | ⟨-, hread⟩
    · rw [hdefault, List.forall_mem_singleton]
      decide
    · have always := forall_mem_iff_of_forall₂ (P := fun _ => True) hread fun m r hr =>
        iff_of_true hr.finite trivial
      exact always.mpr fun _ _ => trivial
  simp only [floats, allFinite_cons, List.cons_append, allFinite_append, allFinite_flatMap]
  exact ⟨h.finite, h.islandPruning, requests⟩

lemma linear_iff : AllFinite (c.linearFunctions.flatMap LinearFunction.parts)
    ↔ ∀ m ∈ (n.child "transferRequests").elements,
      ∀ place ∈ RouteRequest.linearPlaces m, ¬place.Overflows := by
  have each : AllFinite (c.linearFunctions.flatMap LinearFunction.parts) ↔ ∀ r ∈ c.transferRequests,
      AllFinite (r.linearFunctions.flatMap LinearFunction.parts) := by
    rw [linearFunctions, List.flatMap_assoc, allFinite_flatMap]
  rw [each]
  rcases h.transferRequests with ⟨hnone, hdefault⟩ | ⟨-, hread⟩
  · rw [hnone, hdefault]
    refine iff_of_true ?_ (List.forall_mem_nil _)
    rw [List.forall_mem_singleton]
    decide
  · exact forall_mem_iff_of_forall₂ hread fun m r hr => hr.linear_iff

end BuildConfig.ReadAt

/-- The floats of what a document is mapped to are finite, but for linear functions: of these all parts
are finite exactly if no text of a linear function that is read overflows. -/
theorem finite_of_documents (document : Document) (features : FeatureSet) (strict : Bool)
    (source : Option String) :
    Settles (fun config => AllFinite config.floats ∧
        (AllFinite (config.linearFunctions.flatMap LinearFunction.parts) ↔
          ∀ m ∈ ((Node.root document source).child "transferRequests").elements,
            ∀ place ∈ RouteRequest.linearPlaces m, ¬place.Overflows))
      (fun _ => True) (BuildConfig.load document features strict source).run.1
    ∧ Settles (fun request => AllFinite request.floats ∧
        (AllFinite (request.linearFunctions.flatMap LinearFunction.parts) ↔
          ∀ place ∈ RouteRequest.linearPlaces ((Node.root document source).child routingDefaultsKey),
            ¬place.Overflows))
      (fun _ => True) (RouteRequest.loadDefaults document features strict source).run.1 := by
  constructor
  · apply BuildConfig.settles_load _ fun _ _ => trivial
    exact (BuildConfig.gives_form _ features).mono fun config h => ⟨h.allFinite, h.linear_iff⟩
  · apply RouteRequest.settles_loadDefaults _ fun _ _ => trivial
    exact (Form.Gives.group (RouteRequest.gives_form _ features)).mono fun request h =>
      ⟨h.finite, h.linear_iff⟩

namespace RouteRequest

set_option maxRecDepth 4000 in
/-- The default request with nothing but a cost for what is not preferred. -/
lemma loadDefaults_unpreferredCost {s : String} {f : LinearFunction}
    (h : LinearFunction.parse? s = some f) :
    (loadDefaults (.object [(routingDefaultsKey, .object [("unpreferredCost", .text s)])])
      .empty false none).run.1 = .ok { preferences := { transit := { unpreferredCost := f } } } := by
  let document : Document := .object [(routingDefaultsKey, .object [("unpreferredCost", .text s)])]
  let request : RouteRequest := { preferences := { transit := { unpreferredCost := f } } }
  have cost : (Slot.ofKind [routingDefaultsKey, "unpreferredCost"] .linearFunction
      (·.preferences.transit.unpreferredCost)).read ({} : RouteRequest) document = some f := by
    show (orBecause (LinearFunction.parse? s) _).toOption = some f
    rw [h]
    rfl
  have filled : slots.Forall fun slot => slot.read {} document = some (slot.get request) := by
    -- one goal for each slot; all but one have no value
    repeat' first
      | exact rfl
      | exact cost
      | apply And.intro
  have objects : groupings.Forall fun p => ∀ d, document.valueAt p = some d → d.isObject = true := by
    repeat' first
      | apply And.intro
      | (rintro d ⟨⟩; rfl)
      | rintro d ⟨⟩
  rw [outcome_loadDefaults, value_defaultForm_eq_ok (by decide)]
  exact ⟨List.forall_iff_forall_mem.mp objects, rfl, List.forall_iff_forall_mem.mp filled⟩

/-- A cost of four hundred digits is read as infinite. -/
theorem infinite_unpreferredCost :
    let text := String.ofList (List.replicate 400 '9' ++ [' ', '+', ' ', '1', ' ', 'x'])
    let document : Document := .object [
      (routingDefaultsKey, .object [("unpreferredCost", .text text)])]
    ∃ request, (loadDefaults document .empty false none).run.1 = .ok request
      ∧ isFinite request.preferences.transit.unpreferredCost.constant = false := by
  intro text document
  have infinite : (LinearFunction.ofChars?
      (List.replicate 400 '9' ++ [' ', '+', ' ', '1', ' ', 'x'])).any
      (fun f => !isFinite f.constant) = true := by
    decide +kernel
  obtain ⟨f, hf, hinfinite⟩ := (Option.any_eq_true _ _).mp infinite
  have hparse : LinearFunction.parse? text = some f := by
    rw [LinearFunction.parse?, String.toList_ofList, hf]
  exact ⟨_, loadDefaults_unpreferredCost hparse, by simpa using hinfinite⟩

end RouteRequest
end PlannerConfig
