import PlannerConfig.Form
import PlannerConfig.Routing.Modes

/-!
Preferences for riding transit.
-/
namespace PlannerConfig

structure TransitPreferences where
  alightSlack : Keyed TransitMode Duration := ⟨.zero, []⟩
  boardSlack : Keyed TransitMode Duration := ⟨.zero, []⟩
  ignoreRealtimeUpdates : Bool := false
  otherThanPreferredRoutesPenalty : Int := 300
  reluctanceForMode : List (TransitMode × Float) := []
  unpreferredCost : LinearFunction := ⟨0, 1⟩

def TransitPreferences.form : Form TransitPreferences TransitPreferences :=
  mk
    <$> .keyedDuration "alightSlack" (·.alightSlack) {
      summary := "The minimum extra time after exiting a public transport vehicle."
      description :=
        "The slack is added to the time when going from the transit vehicle to the stop." }
      "alightSlackForMode" {
      summary := "How much time alighting a vehicle takes for each given mode."
      since := .v2_0
      description :=
        "Sometimes there is a need to configure a longer alighting times for specific modes, such "
          ++ "as airplanes or ferries." }
    <*> .keyedDuration "boardSlack" (·.boardSlack) {
      summary := "The boardSlack is the minimum extra time to board a public transport vehicle."
      description := "
        The board time is added to the time when going from the stop
        (offboard) to onboard a transit vehicle.

        This is the same as the `transferSlack`, except that this also
        apply to the first transit leg in the trip. This is the default
        value used, if not overridden by the `boardSlackForMode`." }
      "boardSlackForMode" {
      summary := "How much time boarding a vehicle takes for each given mode."
      since := .v2_0
      description := "
        Sometimes there is a need to configure a board times for
        specific modes, such as airplanes or ferries, where the
        check-in process needs to be done in good time before ride." }
    <*> .boolean "ignoreRealtimeUpdates" (·.ignoreRealtimeUpdates) {
      summary := "When true, realtime updates are ignored during this search." }
    <*> .integer "otherThanPreferredRoutesPenalty" (·.otherThanPreferredRoutesPenalty) {
      summary := "Penalty added for using every route that is not preferred if user set any route
        as preferred."
      description :=
        "We return number of seconds that we are willing to wait for preferred route." }
    <*> .enumMap "transitReluctanceForMode" Choice.enumeration .double (·.reluctanceForMode) {
      summary := "Transit reluctance for a given transport mode" }
    <*> .linearFunction "unpreferredCost" (·.unpreferredCost) {
      summary := "A cost function used to calculate penalty for an unpreferred route."
      since := .v2_2
      description := "
        Function should return number of seconds that we are willing to wait
        for preferred route or for an unpreferred agency's departure. For
        example, `600 + 2.0 x`" }

end PlannerConfig
