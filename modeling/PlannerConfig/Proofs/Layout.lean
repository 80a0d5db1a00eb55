import PlannerConfig.Load
import PlannerConfig.Proofs.Form.Coverage
import PlannerConfig.Proofs.Form.Fixed
import PlannerConfig.Proofs.Form.Kinds
import PlannerConfig.Proofs.Text.Words

/-!
What is true of the forms of this configuration as they stand: everything has a summary, the kinds are
those in use, no path is that of a group and of a parameter, the itinerary filters alone pass over
parameters of earlier releases, and what is registered depends on the document only beneath two names.
-/
namespace PlannerConfig

open PlannerConfig.Text

section summary

variable {note : Note} {c : Char} {cs : List Char}

lemma Note.hasSummary_of_start {start more : String} (h : note.summary = start ++ more)
    (hs : start = .ofList (c :: cs)) (hb : isBlank c = false) : note.HasSummary :=
  collapse_ne_empty (c := c) (by simp [h, hs]) hb

lemma Note.hasSummary (h : note.summary = .ofList (c :: cs)) (hb : isBlank c = false) :
    note.HasSummary :=
  hasSummary_of_start (String.append_empty).symm h hb

end summary

lemma OverlayParameters.declared_form : form.Declared := by
  refine ⟨trivial, fun key => ?_, rfl⟩
  exact Note.hasSummary_of_start String.append_assoc rfl rfl

lemma SystemPreferences.declared_overlayForm (features : FeatureSet) :
    (overlayForm features).Declared := by
  unfold overlayForm
  split
  · exact ⟨trivial, Note.hasSummary rfl rfl, OverlayParameters.declared_form⟩
  · trivial

set_option maxRecDepth 2000 in
lemma RouteRequest.declared_form (features : FeatureSet) : (form features).Declared := by
  -- one goal for each part of the form: a note and a type, or a part that reads nothing
  repeat' first
    | exact SystemPreferences.declared_overlayForm features
    | exact ⟨Note.hasSummary rfl rfl, rfl⟩
    | refine And.intro ?_ ?_
    | exact trivial
    | exact Note.hasSummary rfl rfl

lemma RouteRequest.declared_defaultForm (features : FeatureSet) (name : String) :
    (defaultForm features name).Declared :=
  ⟨Note.hasSummary rfl rfl, declared_form features⟩

lemma BuildConfig.declared_overlayForm (features : FeatureSet) :
    (overlayForm features).Declared := by
  unfold overlayForm
  split
  · repeat' first
      | exact ⟨Note.hasSummary rfl rfl, rfl⟩
      | refine And.intro ?_ ?_
      | exact trivial
      | exact Note.hasSummary rfl rfl
  · trivial

set_option maxRecDepth 2000 in
lemma BuildConfig.declared_form (features : FeatureSet) : (form features).Declared := by
  repeat' first
    | exact declared_overlayForm features
    | exact RouteRequest.declared_form features
    | exact ⟨Note.hasSummary rfl rfl, rfl⟩
    | refine And.intro ?_ ?_
    | exact trivial
    | exact Note.hasSummary rfl rfl

section kinds

lemma SystemPreferences.kindsInUse_overlayForm (features : FeatureSet) :
    (overlayForm features).KindsInUse := by
  unfold overlayForm
  split
  · exact ⟨trivial, trivial, .double⟩
  · trivial

set_option maxRecDepth 2000 in
lemma RouteRequest.kindsInUse_form (features : FeatureSet) : (form features).KindsInUse := by
  -- one goal for each part of the form: a kind, or a part that reads nothing
  repeat' first
    | exact SystemPreferences.kindsInUse_overlayForm features
    | refine And.intro ?_ ?_
    | exact trivial
    | (change Kind.InUse _; constructor)

lemma BuildConfig.kindsInUse_overlayForm (features : FeatureSet) :
    (overlayForm features).KindsInUse := by
  unfold overlayForm
  split
  · refine ⟨?_, rfl⟩
    repeat' first
      | refine And.intro ?_ ?_
      | exact trivial
      | (change Kind.InUse _; constructor)
  · trivial

lemma BuildConfig.kindsInUse_form (features : FeatureSet) : (form features).KindsInUse := by
  repeat' first
    | exact kindsInUse_overlayForm features
    | exact RouteRequest.kindsInUse_form features
    | refine And.intro ?_ ?_
    | exact trivial
    | (change Kind.InUse _; constructor)

end kinds

section features

variable {features others : FeatureSet}

/-- Of the features only the data overlay matters. -/
lemma RouteRequest.form_congr (h : features.isOn .dataOverlay = others.isOn .dataOverlay) :
    form features = form others := by
  have overlay : SystemPreferences.overlayForm features = SystemPreferences.overlayForm others := by
    unfold SystemPreferences.overlayForm
    rw [h]
  unfold form innerForm RoutingPreferences.form SystemPreferences.form
  rw [overlay]

lemma BuildConfig.form_congr (h : features.isOn .dataOverlay = others.isOn .dataOverlay) :
    form features = form others := by
  have overlay : overlayForm features = overlayForm others := by
    unfold overlayForm
    rw [h]
  unfold form
  rw [overlay, RouteRequest.form_congr h]

/-- Any set of features is as good as one of two. -/
lemma FeatureSet.induction_overlay {P : FeatureSet → Prop} (features : FeatureSet)
    (congr : ∀ {f g : FeatureSet}, f.isOn .dataOverlay = g.isOn .dataOverlay → P g → P f)
    (off : P (.ofList [])) (on : P (.ofList [.dataOverlay])) : P features := by
  cases h : features.isOn .dataOverlay with
  | false => exact congr (h.trans (by decide)) off
  | true => exact congr (h.trans (by decide)) on

end features

lemma RouteRequest.retiredPaths_form (features : FeatureSet) : (form features).retiredPaths = [
    ["itineraryFilters", "minSafeTransferTimeFactor"],
    ["itineraryFilters", "groupSimilarityKeepNumOfItineraries"]] := by
  induction features using FeatureSet.induction_overlay with
  | congr h hg => rw [form_congr h, hg]
  | off => rfl
  | on => rfl

lemma BuildConfig.retiredPaths_form (features : FeatureSet) : (form features).retiredPaths = [
    ["transferRequests", "itineraryFilters", "minSafeTransferTimeFactor"],
    ["transferRequests", "itineraryFilters", "groupSimilarityKeepNumOfItineraries"]] := by
  induction features using FeatureSet.induction_overlay with
  | congr h hg => rw [form_congr h, hg]
  | off => rfl
  | on => rfl

lemma BuildConfig.separate_form (features : FeatureSet) : (form features).Separate := by
  induction features using FeatureSet.induction_overlay with
  | congr h hg => rwa [form_congr h]
  | off => decide +kernel
  | on => decide +kernel

lemma RouteRequest.separate_defaultForm (features : FeatureSet) :
    (defaultForm features routingDefaultsKey).Separate := by
  induction features using FeatureSet.induction_overlay with
  | congr h hg => rwa [defaultForm, form_congr h]
  | off => decide +kernel
  | on => decide +kernel

lemma RouteRequest.exists_leafPath (features : FeatureSet) (n : Node) :
    ∃ l, l ∈ (form features).leafPaths n := by
  refine ⟨["allowedVehicleRentalNetworks"], ?_⟩
  simp only [form, innerForm, Form.leafPaths_seqRight, Form.leafPaths_seq, Form.leafPaths_map,
    Form.stringSet, Form.leafPaths, List.mem_append, List.mem_singleton, true_or, or_true]

namespace BuildConfig

variable {features : FeatureSet} {n : Node}

/-- The names that the reference of the build configuration hides. -/
def hidden : List String := ["dataOverlay", "transferRequests"]

lemma cons_mem_leafPaths {name : String} {p : List String} (h : name ∈ hidden) :
    name :: p ∈ (form features).leafPaths n ↔ name :: p ∈ (overlayForm features).leafPaths n
      ∨ ∃ m ∈ (n.child "transferRequests").elements,
        name = "transferRequests" ∧ p ∈ (RouteRequest.form features).leafPaths m := by
  simp only [hidden, List.mem_cons, List.not_mem_nil, or_false] at h
  simp only [form, Form.leafPaths_seq, Form.leafPaths_map, Form.leafPaths, Form.optionalString,
    Form.boolean, Form.integer, Form.stringSet, Form.double, Form.duration, List.mem_append,
    List.mem_singleton]
  rcases h with rfl | rfl <;> simp

lemma name_of_mem_overlay {name : String} {p : List String}
    (h : name :: p ∈ (overlayForm features).leafPaths n) : name = "dataOverlay" := by
  unfold overlayForm at h
  split at h
  · unfold Form.leafPaths at h
    split at h
    · simp at h
    · obtain ⟨l, -, heq⟩ := List.mem_map.mp h
      exact (List.cons.inj heq).1.symm
  · exact absurd h List.not_mem_nil

lemma exists_leaf_under_transferRequests :
    (∃ p, "transferRequests" :: p ∈ (form features).leafPaths n)
      ↔ (n.child "transferRequests").elements ≠ [] := by
  constructor
  · rintro ⟨p, hp⟩
    rcases (cons_mem_leafPaths (by decide)).mp hp with hp | ⟨m, hm, -⟩
    · exact absurd (name_of_mem_overlay hp) (by decide)
    · exact List.ne_nil_of_mem hm
  · intro hne
    obtain ⟨m, hm⟩ := List.exists_mem_of_ne_nil _ hne
    obtain ⟨p, hp⟩ := RouteRequest.exists_leafPath features m
    exact ⟨p, (cons_mem_leafPaths (by decide)).mpr (.inr ⟨m, hm, rfl, hp⟩)⟩

lemma exists_leaf_under_dataOverlay :
    (∃ p, "dataOverlay" :: p ∈ (form features).leafPaths n)
      ↔ features.isOn .dataOverlay = true ∧ (n.child "dataOverlay").isEmpty = false := by
  have only_overlay : ∀ p, "dataOverlay" :: p ∈ (form features).leafPaths n
      ↔ "dataOverlay" :: p ∈ (overlayForm features).leafPaths n := by
    intro p
    rw [cons_mem_leafPaths (by decide)]
    simp
  simp only [only_overlay]
  unfold overlayForm
  cases features.isOn .dataOverlay with
  | false => simp
  | true =>
    cases hempty : (n.child "dataOverlay").isEmpty with
    | true => simp [Form.leafPaths, hempty]
    | false =>
      refine iff_of_true ⟨["fileName"], ?_⟩ ⟨rfl, rfl⟩
      simp [Form.leafPaths, hempty, DataOverlay.form]

lemma fixedOutside_form (features : FeatureSet) :
    (form features).fixedOutside hidden = true := by
  induction features using FeatureSet.induction_overlay with
  | congr h hg => rwa [form_congr h]
  | off => decide +kernel
  | on => decide +kernel

end BuildConfig

lemma RouteRequest.fixedOutside_defaultForm {features : FeatureSet}
    (h : features.isOn .dataOverlay = false) :
    (defaultForm features routingDefaultsKey).fixedOutside [] = true := by
  have off : form features = form (.ofList []) := form_congr (h.trans (by decide))
  rw [defaultForm, off]
  decide +kernel

end PlannerConfig
