import PlannerConfig.Form

/-!
Filters of the itineraries that a search finds.
-/
namespace PlannerConfig

structure ItineraryFilterPreferences where
  debug : Bool := false
  groupSimilarityKeepOne : Float := 0.85
  groupSimilarityKeepThree : Float := 0.68
  groupedMaxCostMultiplier : Float := 2
  transitCostLimit : LinearFunction := ⟨900, 1.5⟩
  nonTransitCostLimit : LinearFunction := ⟨3600, 2⟩
  dropSameFirstOrLastTrip : Bool := false
  accessibilityScore : Bool := false
  dropSameRoutesAndStops : Bool := false

namespace ItineraryFilterPreferences

/-- Passes over the parameters of earlier releases. -/
def retiredForm : Form ItineraryFilterPreferences Unit :=
  .retired "minSafeTransferTimeFactor" .retiredFilter
    *> .retired "groupSimilarityKeepNumOfItineraries" .retiredFilter

def innerForm : Form ItineraryFilterPreferences ItineraryFilterPreferences :=
  mk
    <$> .boolean "debug" (·.debug) {
      summary := "Enable this to attach a system notice to itineraries instead of removing them."
      description := "
        This is very convenient when tuning the filters, as it lets you see
        which itineraries were dropped and why." }
    <*> .double "groupSimilarityKeepOne" (·.groupSimilarityKeepOne) {
      summary := "Pick ONE itinerary from each group after putting itineraries that are 85%
        similar together."
      since := .v2_1 }
    <*> .double "groupSimilarityKeepThree" (·.groupSimilarityKeepThree) {
      summary := "Reduce the number of itineraries to three itineraries by reducing each group of
        itineraries grouped by 68% similarity."
      since := .v2_1 }
    <*> .double "groupedOtherThanSameLegsMaxCostMultiplier" (·.groupedMaxCostMultiplier) {
      summary := "Filter grouped itineraries, where the non-grouped legs are more expensive than
        in the lowest cost one."
      since := .v2_1 }
    <*> .linearFunction "transitGeneralizedCostLimit" (·.transitCostLimit) {
      summary := "A relative limit for the generalized-cost for transit itineraries."
      since := .v2_1
      description := "
        The filter compares all itineraries against every other itinerary.
        If the generalized-cost plus a `transitGeneralizedCostLimit` is
        higher than the other generalized-cost, then the itinerary is
        dropped." }
    <*> .linearFunction "nonTransitGeneralizedCostLimit" (·.nonTransitCostLimit) {
      summary := "The function define a max-limit for generalized-cost for non-transit
        itineraries."
      since := .v2_1 }
    <*> .boolean "filterItinerariesWithSameFirstOrLastTrip" (·.dropSameFirstOrLastTrip) {
      summary := "If more than one itinerary begins or ends with same trip, filter out one of
        those itineraries so that only one remains."
      since := .v2_2 }
    <*> .boolean "accessibilityScore" (·.accessibilityScore) {
      summary := "An experimental feature contributed by IBI which adds a sandbox accessibility
        *score* between 0 and 1 for each leg and itinerary."
      since := .v2_2 }
    <*> .boolean "removeItinerariesWithSameRoutesAndStops" (·.dropSameRoutesAndStops) {
      summary := "Set to true if you want to list only the first itinerary which goes through the
        same stops and routes."
      since := .v2_2 }

def form (name : String) : Form ItineraryFilterPreferences ItineraryFilterPreferences :=
  .group name (retiredForm *> innerForm) {
    summary := "Configure itinerary filters that may modify itineraries, sort them, and filter
      away less preferable results."
    description := "
      The purpose of the itinerary filter chain is to post process the
      result returned by the routing search. The filters may modify
      itineraries, sort them, and filter away less preferable results." }

end ItineraryFilterPreferences

end PlannerConfig
