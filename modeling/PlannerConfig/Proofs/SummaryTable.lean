import PlannerConfig.Proofs.Load
import PlannerConfig.Proofs.Reference.Table

/-!
The summary table of a router configuration. All that could break a row of it is a key of the data
overlay: it stands in the path of its parameter as it was written.
-/
namespace PlannerConfig

open PlannerConfig.Text

namespace Kind

lemma lineBreaks_enquote {s : String} (h : lineBreaks s = 0) : lineBreaks (Value.enquote s) = 0 := by
  simp [Value.enquote, h, show lineBreaks "\"" = 0 from rfl]

lemma showsOnOneLine_boolean (b : Bool) : boolean.ShowsOnOneLine b := ⟨by cases b <;> rfl⟩

lemma showsOnOneLine_integer (n : Int) : integer.ShowsOnOneLine n := ⟨lineBreaks_toString_int n⟩

lemma showsOnOneLine_double (x : Float) : double.ShowsOnOneLine x := ⟨Number.lineBreaks_floatText x⟩

lemma showsOnOneLine_duration (d : Duration) : duration.ShowsOnOneLine d :=
  ⟨lineBreaks_enquote d.lineBreaks_text⟩

lemma showsOnOneLine_linearFunction (f : LinearFunction) : linearFunction.ShowsOnOneLine f :=
  ⟨lineBreaks_enquote f.lineBreaks_text⟩

end Kind

namespace RouteRequest

lemma defaultsOnOneLine_overlayForm (features : FeatureSet) (d : SystemPreferences) :
    (SystemPreferences.overlayForm features).DefaultsOnOneLine d := by
  unfold SystemPreferences.overlayForm
  split
  · exact ⟨trivial, trivial, trivial⟩
  · trivial

set_option maxRecDepth 2000 in
lemma defaultsOnOneLine_form (features : FeatureSet) : (form features).DefaultsOnOneLine {} := by
  -- one goal for each parameter, settled by its kind or by its default
  repeat' first
    | exact defaultsOnOneLine_overlayForm features _
    | exact Kind.showsOnOneLine_boolean _
    | exact Kind.showsOnOneLine_integer _
    | exact Kind.showsOnOneLine_double _
    | exact Kind.showsOnOneLine_duration _
    | exact Kind.showsOnOneLine_linearFunction _
    | refine And.intro ?_ ?_
    | exact trivial
    | exact ⟨by decide +kernel⟩

lemma isPlain_names_overlayForm (features : FeatureSet) :
    ∀ name ∈ (SystemPreferences.overlayForm features).names, IsPlain name := by
  unfold SystemPreferences.overlayForm
  split
  · exact List.forall_mem_cons.mpr ⟨isPlain_of_ofList rfl rfl, List.forall_mem_nil _⟩
  · exact List.forall_mem_nil _

set_option maxRecDepth 2000 in
lemma isPlain_names_defaultForm (features : FeatureSet) :
    ∀ name ∈ (defaultForm features routingDefaultsKey).names, IsPlain name := by
  -- one goal for each name, all of them known but for those of the data overlay
  repeat' first
    | exact isPlain_names_overlayForm features
    | exact List.forall_mem_nil _
    | refine List.forall_mem_append.mpr ⟨?_, ?_⟩
    | refine List.forall_mem_cons.mpr ⟨isPlain_of_ofList rfl rfl, ?_⟩

/-- The keys of the data overlay in the default request. -/
def overlayKeys (document : Document) : List String :=
  (((Node.root document).child routingDefaultsKey).child "dataOverlay").keys

/-- Of all that a request reads, only the data overlay has names of its own. -/
lemma freeKeys_form (features : FeatureSet) (n : Node) : (form features).freeKeys n
    = if features.isOn .dataOverlay then (n.child "dataOverlay").keys else [] := by
  have overlay : (SystemPreferences.overlayForm features).freeKeys n
      = if features.isOn .dataOverlay then (n.child "dataOverlay").keys else [] := by
    unfold SystemPreferences.overlayForm
    split <;> rfl
  simp only [form, innerForm, RoutingPreferences.form, TransitPreferences.form,
    BikePreferences.form, TriangleFactors.form, RentalPreferences.form, StreetPreferences.form,
    ElevatorPreferences.form, CarPreferences.form, SystemPreferences.form, TransferPreferences.form,
    ParkingPreferences.form, WalkPreferences.form, WheelchairPreferences.form,
    WheelchairPreferences.enabledForm, WheelchairPreferences.innerForm,
    WheelchairPreferences.accessibility, AccessibilityPreferences.form,
    ItineraryFilterPreferences.form, ItineraryFilterPreferences.retiredForm,
    ItineraryFilterPreferences.innerForm, Unpreferred.form, Form.boolean, Form.integer, Form.double,
    Form.duration, Form.optionalDuration, Form.stringSet, Form.feedScopedIds, Form.linearFunction,
    Form.choice, Form.keyedDuration, Form.freeKeys_map, Form.freeKeys_seq, Form.freeKeys_seqRight,
    Form.freeKeys, overlay, List.nil_append, List.append_nil]

section run

variable {document : Document} {features : FeatureSet} {strict : Bool} {source : Option String}
  {request : RouteRequest} {s : PassState}

lemma isTable_of_run (h : (loadDefaults document features strict source).run = (.ok request, s)) :
    IsTable s.catalog.size (s.catalog.summaryTable Skip.none)
      ↔ ∀ key ∈ (form features).freeKeys ((Node.root document source).child routingDefaultsKey),
        IsPlain key := by
  rw [run_loadDefaults] at h
  have hdeclared := declared_defaultForm features routingDefaultsKey
  have habsorb := (Form.value_of_thenCheck hdeclared h).2
  exact Form.isTable_iff hdeclared (separate_defaultForm features) (defaultsOnOneLine_form features)
    (isPlain_names_defaultForm features) rfl habsorb

end run

/-- The summary table of a mapped router configuration is a table, with one row of five cells for each
parameter, if no key of the data overlay has a line break or a bar without a backslash right before it,
and only then. -/
theorem isTable_summaryTable_iff (document : Document) (features : FeatureSet) (strict : Bool)
    (source : Option String) {request : RouteRequest} {s : PassState}
    (h : (loadDefaults document features strict source).run = (.ok request, s)) :
    IsTable s.catalog.size (s.catalog.summaryTable Skip.none)
      ↔ (features.isOn .dataOverlay = true →
        ∀ key ∈ overlayKeys document, '\n' ∉ key.toList ∧ openBars key = 0) := by
  rw [isTable_of_run h, freeKeys_form]
  have plain : ∀ key, IsPlain key ↔ '\n' ∉ key.toList ∧ openBars key = 0 := fun key => by
    rw [IsPlain, lineBreaks_eq_zero_iff]
  have keys : (((Node.root document source).child routingDefaultsKey).child "dataOverlay").keys
      = overlayKeys document := rfl
  rw [keys]
  simp only [plain]
  cases features.isOn .dataOverlay <;> simp

/-- A key with a bar is no harm if a backslash comes before the bar. -/
theorem isTable_summaryTable_iff_escaped :
    let document : Document := .object [(routingDefaultsKey, .object [
      ("dataOverlay", .object [("noise", .int 1), ("a\\|b", .int 2)])])]
    ∃ request s, (loadDefaults document (.ofList [.dataOverlay]) false none).run = (.ok request, s)
      ∧ IsTable s.catalog.size (s.catalog.summaryTable Skip.none) := by
  intro document
  have hvalue : ((defaultForm (.ofList [.dataOverlay]) routingDefaultsKey).value {}
      (.root document)).isOk = true := by
    decide +kernel
  obtain ⟨request, s, hrun, -⟩ := exists_run_loadDefaults hvalue
  exact ⟨request, s, hrun, (isTable_summaryTable_iff _ _ _ _ hrun).mpr fun _ => by decide +kernel⟩

/-- A bar in a key makes a sixth cell: the path is not escaped as defaults and summaries are. -/
theorem bar_in_overlayKey :
    let document : Document := .object [(routingDefaultsKey, .object [
      ("dataOverlay", .object [("a|b", .int 1)])])]
    ∃ request s, (loadDefaults document (.ofList [.dataOverlay]) false none).run = (.ok request, s)
      ∧ ¬ IsTable s.catalog.size (s.catalog.summaryTable Skip.none) := by
  intro document
  have hvalue : ((defaultForm (.ofList [.dataOverlay]) routingDefaultsKey).value {}
      (.root document)).isOk = true := by
    decide +kernel
  obtain ⟨request, s, hrun, -⟩ := exists_run_loadDefaults hvalue
  refine ⟨request, s, hrun, ?_⟩
  rw [isTable_of_run hrun, freeKeys_form]
  decide +kernel

end RouteRequest
end PlannerConfig
