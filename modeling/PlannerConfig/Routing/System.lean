import PlannerConfig.DataOverlay
import PlannerConfig.Routing.Street

/-!
Limits and sources of data for the routing system as a whole.
-/
namespace PlannerConfig

structure SystemPreferences where
  geoidElevation : Bool := false
  maxJourneyDuration : Duration := .oneDay
  dataOverlay : Option OverlayParameters := none

namespace SystemPreferences

/-- The parameters of the data overlay are read only if the feature is on. -/
def overlayForm (features : FeatureSet) : Form SystemPreferences (Option OverlayParameters) :=
  if features.isOn .dataOverlay then
    some <$> .group "dataOverlay" (.zoom (fun _ => ()) OverlayParameters.form) {
      summary := "The filled request parameters for penalties and thresholds values"
      feature := some .dataOverlay }
  else pure none

def form (features : FeatureSet) : Form SystemPreferences SystemPreferences :=
  mk
    <$> .boolean "geoidElevation" (·.geoidElevation) {
      summary := "If true, the Graph's ellipsoidToGeoidDifference is applied to all elevations
        returned by this query." }
    <*> .duration "maxJourneyDuration" (·.maxJourneyDuration) {
      summary := "The expected maximum time a journey can last across all possible journeys for
        the current deployment."
      description := "
        Normally you would just do an estimate and add enough slack, so you
        are sure that there is no journeys that falls outside this window.
        The parameter is used find all possible dates for the journey and
        then search only the services which run on those dates. The
        duration must include access, egress, wait-time and transit time
        for the whole journey. It should also take low frequency
        days/periods like holidays into account. In other words, pick the
        two points within your area that has the worst connection and then
        try to travel on the worst possible day, and find the maximum
        journey duration. Using a value that is too high has the effect of
        including more patterns in the search, hence, making it a bit
        slower. Recommended values would be from 12 hours (small town/city),
        1 day (region) to 2 days (country like Norway)." }
    <*> overlayForm features

end SystemPreferences

end PlannerConfig
