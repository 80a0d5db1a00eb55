import PlannerConfig.Proofs.Form.Doubles
import PlannerConfig.Proofs.Layout

/-!
The floats of a configuration. Doubles are checked when they are read, be they parameters, values of maps
or weights of the data overlay. The parts of linear functions are not: they are finite exactly as far as
the decimals of their texts are below the limit.
-/
namespace PlannerConfig

open PlannerConfig.Number

namespace LinearFunction

def parts (f : LinearFunction) : List Float := [f.constant, f.coefficient]

/-- A part of a linear function is a plain decimal with a sign. -/
lemma exists_plain_of_term? {cs rest : List Char} {x : Float} (h : term? cs = some (x, rest)) :
    ∃ (a : Plain) (negative : Bool), x = a.toFloat negative := by
  obtain ⟨⟨a, tail⟩, -, heq⟩ := Option.map_eq_some_iff.mp h
  obtain ⟨rfl, -⟩ := Prod.mk.inj heq
  exact ⟨a, _, rfl⟩

lemma exists_plains {s : String} {f : LinearFunction} (h : parse? s = some f) :
    ∃ (a b : Plain) (negative negative' : Bool), f = ⟨a.toFloat negative, b.toFloat negative'⟩ := by
  unfold parse? ofChars? at h
  obtain ⟨⟨constant, rest⟩, hconstant, h⟩ := Option.bind_eq_some_iff.mp h
  dsimp only at h
  split at h
  · obtain ⟨⟨coefficient, tail⟩, hcoefficient, h⟩ := Option.bind_eq_some_iff.mp h
    obtain ⟨a, negative, rfl⟩ := exists_plain_of_term? hconstant
    obtain ⟨b, negative', rfl⟩ := exists_plain_of_term? hcoefficient
    dsimp only at h
    split at h
    · split at h
      · exact ⟨a, b, negative, negative', (Option.some.inj h).symm⟩
      · cases h
    · cases h
  · cases h

end LinearFunction

namespace Node

/-- Whether a node has the text of a linear function with a decimal of the limit or more. -/
def Overflows (n : Node) : Prop :=
  ∃ (s : String) (a b : Plain) (negative negative' : Bool), n.value = some (.text s)
    ∧ LinearFunction.parse? s = some ⟨a.toFloat negative, b.toFloat negative'⟩
    ∧ (Binary.limit * a.denominator ≤ a.numerator ∨ Binary.limit * b.denominator ≤ b.numerator)

/-- Whether a linear function is what a node gives: that of its text, or the default if there is no
value. -/
def GivesLinear (n : Node) (default f : LinearFunction) : Prop :=
  n.isMissing = true ∧ f = default
    ∨ ∃ s, n.value = some (.text s) ∧ LinearFunction.parse? s = some f

/-- The parts of a linear function are finite unless its text overflows. -/
lemma GivesLinear.allFinite_iff {n : Node} {default f : LinearFunction}
    (h : n.GivesLinear default f) (hd : AllFinite default.parts) :
    AllFinite f.parts ↔ ¬n.Overflows := by
  rcases h with ⟨hmissing, rfl⟩ | ⟨s, hs, hf⟩
  · refine iff_of_true hd ?_
    rintro ⟨s, _, _, _, _, hs, -⟩
    simp [isMissing, hs] at hmissing
  · have finite : ∀ (a b : Plain) (negative negative' : Bool),
        f = ⟨a.toFloat negative, b.toFloat negative'⟩ → (AllFinite f.parts
          ↔ a.numerator < Binary.limit * a.denominator ∧ b.numerator < Binary.limit * b.denominator) := by
      rintro a b negative negative' rfl
      simp [LinearFunction.parts, Plain.isFinite_toFloat_iff]
    obtain ⟨a, b, negative, negative', hparts⟩ := LinearFunction.exists_plains hf
    rw [finite a b negative negative' hparts]
    constructor
    · rintro ⟨ha, hb⟩ ⟨t, a', b', m, m', ht, hparse, hlarge⟩
      obtain rfl : s = t := by simpa using hs.symm.trans ht
      have hparts' := Option.some.inj (hf.symm.trans hparse)
      have small := (finite a' b' m m' hparts').mp ((finite a b _ _ hparts).mpr ⟨ha, hb⟩)
      omega
    · intro hsmall
      by_contra hlarge
      refine hsmall ⟨s, a, b, negative, negative', hs, by rw [hf, hparts], ?_⟩
      omega

end Node

lemma Kind.coerce_linearFunction {raw : Option Document} {f : LinearFunction}
    (h : linearFunction.coerce raw = .ok f) :
    ∃ s, raw = some (.text s) ∧ LinearFunction.parse? s = some f := by
  cases raw with
  | none => cases h
  | some v =>
    cases v with
    | text s =>
      refine ⟨s, rfl, ?_⟩
      change orBecause (LinearFunction.parse? s) (LinearFunction.errorText s) = .ok f at h
      cases hparse : LinearFunction.parse? s with
      | none =>
        rw [hparse] at h
        cases h
      | some g =>
        rw [hparse] at h
        cases h
        rfl
    | _ => cases h

lemma Form.Gives.linearFunction {σ : Type} {d : σ} {n : Node} {name : String}
    {get : σ → LinearFunction} {note : Note} :
    (Form.linearFunction name get note).Gives d n ((n.child name).GivesLinear (get d)) := by
  unfold Form.linearFunction Gives value Parameter.scalarValue
  split
  · rename_i h
    exact .inl ⟨h, rfl⟩
  · apply Settles.of_ok
    intro f hf
    exact .inr (Kind.coerce_linearFunction (Node.coerced_eq_ok.mp hf))

section floats

/-! The floats of each part of a configuration, those of linear functions apart. -/

def TransitPreferences.floats (p : TransitPreferences) : List Float := p.reluctanceForMode.map (·.2)

def TriangleFactors.floats (t : TriangleFactors) : List Float := [t.time, t.slope, t.safety]

def BikePreferences.floats (p : BikePreferences) : List Float :=
  [p.speed, p.reluctance, p.walkingSpeed, p.walkingReluctance] ++ p.triangle.floats

def RentalPreferences.floats (p : RentalPreferences) : List Float := [p.arrivingWithVehicleCost]

def StreetPreferences.floats (p : StreetPreferences) : List Float := [p.turnReluctance]

def CarPreferences.floats (p : CarPreferences) : List Float :=
  [p.speed, p.reluctance, p.accelerationSpeed, p.decelerationSpeed]

def OverlayParameters.floats (p : OverlayParameters) : List Float := p.values.map (·.2)

def SystemPreferences.floats (p : SystemPreferences) : List Float :=
  p.dataOverlay.elim [] OverlayParameters.floats

def TransferPreferences.floats (p : TransferPreferences) : List Float := [p.waitReluctance]

def WalkPreferences.floats (p : WalkPreferences) : List Float :=
  [p.speed, p.reluctance, p.stairsReluctance, p.stairsTimeFactor, p.safetyFactor]

def WheelchairPreferences.floats (p : WheelchairPreferences) : List Float :=
  [p.inaccessibleStreetReluctance, p.maxSlope, p.slopeExceededReluctance, p.stairsReluctance]

def ItineraryFilterPreferences.floats (p : ItineraryFilterPreferences) : List Float :=
  [p.groupSimilarityKeepOne, p.groupSimilarityKeepThree, p.groupedMaxCostMultiplier]

def RoutingPreferences.floats (p : RoutingPreferences) : List Float :=
  p.transit.floats ++ p.bike.floats ++ p.rental.floats ++ p.street.floats ++ p.car.floats
    ++ p.system.floats ++ p.transfer.floats ++ p.walk.floats ++ p.wheelchair.floats
    ++ p.itineraryFilter.floats

def RouteRequest.floats (r : RouteRequest) : List Float := r.preferences.floats

/-- The linear functions of a request. -/
def RouteRequest.linearFunctions (r : RouteRequest) : List LinearFunction :=
  [r.preferences.transit.unpreferredCost, r.preferences.itineraryFilter.transitCostLimit,
    r.preferences.itineraryFilter.nonTransitCostLimit]

def IslandPruning.floats (p : IslandPruning) : List Float := [p.adaptiveFactor]

def BuildConfig.floats (c : BuildConfig) : List Float :=
  c.subwayAccessTime :: c.islandPruning.floats ++ c.transferRequests.flatMap RouteRequest.floats

/-- The linear functions of all requests. -/
def BuildConfig.linearFunctions (c : BuildConfig) : List LinearFunction :=
  c.transferRequests.flatMap RouteRequest.linearFunctions

end floats

section finite

/-! What follows if the doubles that are read are finite. -/

variable {features : FeatureSet}

lemma SystemPreferences.ofFinite_overlayForm {P : Option OverlayParameters → Prop}
    (h : ∀ o : Option OverlayParameters, AllFinite (o.elim [] OverlayParameters.floats) → P o) :
    (overlayForm features).OfFinite P := by
  unfold overlayForm
  split
  · intro values hvalues
    have finite : ∀ e ∈ values, isFinite e.2 = true := by simpa using hvalues
    exact h (some ⟨values⟩) (allFinite_values.mpr finite)
  · exact h none allFinite_nil

lemma RouteRequest.ofFinite_form {P : RouteRequest → Prop}
    (h : ∀ r : RouteRequest, AllFinite r.floats → P r) : (form features).OfFinite P := by
  -- each parameter comes with what is known of it; the data overlay is in between
  repeat intro
  apply SystemPreferences.ofFinite_overlayForm
  repeat intro
  apply h
  simp only [Kind.floats_double, allFinite_cons, allFinite_nil, and_true] at *
  simp [floats, RoutingPreferences.floats, TransitPreferences.floats, BikePreferences.floats,
    TriangleFactors.floats, RentalPreferences.floats, StreetPreferences.floats,
    CarPreferences.floats, SystemPreferences.floats, TransferPreferences.floats,
    WalkPreferences.floats, WheelchairPreferences.floats, ItineraryFilterPreferences.floats,
    -Prod.forall, *]
  assumption

lemma RouteRequest.finiteDefaults_form : (form features).finiteDefaults {} = true := by
  induction features using FeatureSet.induction_overlay with
  | congr h hg => rwa [form_congr h]
  | off => decide +kernel
  | on => decide +kernel

lemma BuildConfig.ofFinite_overlayForm {P : Option DataOverlay → Prop} (h : ∀ o, P o) :
    (overlayForm features).OfFinite P := by
  unfold overlayForm
  split
  · exact h
  · exact h none

lemma BuildConfig.ofFinite_form {P : BuildConfig → Prop}
    (h : ∀ c : BuildConfig, isFinite c.subwayAccessTime = true → AllFinite c.islandPruning.floats →
      P c) : (form features).OfFinite P := by
  repeat intro
  apply ofFinite_overlayForm
  repeat intro
  simp only [Kind.floats_double, allFinite_cons, allFinite_nil, and_true] at *
  apply h
  · assumption
  · simpa [IslandPruning.floats]

lemma BuildConfig.finiteDefaults_form : (form features).finiteDefaults {} = true := by
  induction features using FeatureSet.induction_overlay with
  | congr h hg => rwa [form_congr h]
  | off => decide +kernel
  | on => decide +kernel

end finite

section gives

variable (n : Node)

lemma TransitPreferences.gives_form :
    form.Gives {} n fun p => (n.child "unpreferredCost").GivesLinear ⟨0, 1⟩ p.unpreferredCost := by
  apply Form.Gives.seq .linearFunction
  repeat apply Form.Gives.seq (.any _ _ _)
  apply Form.Gives.pure
  intros
  assumption

lemma ItineraryFilterPreferences.gives_form (name : String) : (form name).Gives {} n fun p =>
    ((n.child name).child "transitGeneralizedCostLimit").GivesLinear ⟨900, 1.5⟩ p.transitCostLimit
      ∧ ((n.child name).child "nonTransitGeneralizedCostLimit").GivesLinear ⟨3600, 2⟩
        p.nonTransitCostLimit := by
  apply Form.Gives.group
  apply Form.Gives.seqRight
  repeat first
    | apply Form.Gives.seq .linearFunction
    | apply Form.Gives.seq (.any _ _ _)
  apply Form.Gives.pure
  intros
  constructor <;> assumption

/-- Preferences as they are read from a node: their floats are finite, and their linear functions are what
their places give. -/
structure RoutingPreferences.ReadAt (n : Node) (p : RoutingPreferences) : Prop where
  finite : AllFinite p.floats
  unpreferredCost : (n.child "unpreferredCost").GivesLinear ⟨0, 1⟩ p.transit.unpreferredCost
  transitCostLimit : ((n.child "itineraryFilters").child "transitGeneralizedCostLimit").GivesLinear
    ⟨900, 1.5⟩ p.itineraryFilter.transitCostLimit
  nonTransitCostLimit : ((n.child "itineraryFilters").child
    "nonTransitGeneralizedCostLimit").GivesLinear ⟨3600, 2⟩ p.itineraryFilter.nonTransitCostLimit

lemma RoutingPreferences.gives_form (features : FeatureSet) :
    (form features).Gives {} n fun p => AllFinite p.floats → p.ReadAt n := by
  refine Form.Gives.seq (.zoom (ItineraryFilterPreferences.gives_form n "itineraryFilters")) ?_
  iterate 9 apply Form.Gives.seq (.any _ _ _)
  refine Form.Gives.seq (.zoom (TransitPreferences.gives_form n)) ?_
  apply Form.Gives.pure
  rintro transit hcost _ _ _ _ _ _ _ _ _ _ _ _ _ _ _ _ _ _ filter ⟨hlimit, hother⟩ hfinite
  exact ⟨hfinite, hcost, hlimit, hother⟩

lemma RouteRequest.gives_form (features : FeatureSet) :
    (form features).Gives {} n fun r => r.preferences.ReadAt n := by
  have finite : (form features).Gives {} n fun r => AllFinite r.floats :=
    .of_finite (kindsInUse_form features) finiteDefaults_form (ofFinite_form fun _ => id)
  have linear : (form features).Gives {} n fun r =>
      AllFinite r.floats → r.preferences.ReadAt n := by
    apply Form.Gives.seqRight
    refine Form.Gives.seq (.zoom (RoutingPreferences.gives_form n features)) ?_
    repeat apply Form.Gives.seq (.any _ _ _)
    apply Form.Gives.pure
    intros
    rename_i hpreferences hfinite
    exact hpreferences hfinite
  exact (finite.and linear).mono fun r h => h.2 h.1

/-- A build configuration as it is read from a node: without elements it has the default request, and
else one request for each. -/
structure BuildConfig.ReadAt (n : Node) (c : BuildConfig) : Prop where
  finite : isFinite c.subwayAccessTime = true
  islandPruning : AllFinite c.islandPruning.floats
  transferRequests : (n.child "transferRequests").elements = [] ∧ c.transferRequests = [{}]
    ∨ (n.child "transferRequests").elements ≠ [] ∧
      List.Forall₂ (fun m r => r.preferences.ReadAt m) (n.child "transferRequests").elements
        c.transferRequests

lemma BuildConfig.gives_form (features : FeatureSet) : (form features).Gives {} n (ReadAt n) := by
  have finite : (form features).Gives {} n fun c =>
      isFinite c.subwayAccessTime = true ∧ AllFinite c.islandPruning.floats :=
    .of_finite (kindsInUse_form features) finiteDefaults_form (ofFinite_form fun _ => And.intro)
  have requests : (form features).Gives {} n fun c =>
      isFinite c.subwayAccessTime = true ∧ AllFinite c.islandPruning.floats → c.ReadAt n := by
    refine Form.Gives.seq (.list fun m _ => .zoom (RouteRequest.gives_form m features)) ?_
    repeat apply Form.Gives.seq (.any _ _ _)
    apply Form.Gives.pure
    intros
    rename_i hrequests hfinite
    exact ⟨hfinite.1, hfinite.2, hrequests⟩
  exact (finite.and requests).mono fun c h => h.2 h.1

end gives
end PlannerConfig
