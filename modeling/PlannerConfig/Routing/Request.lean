import PlannerConfig.Routing.ItineraryFilter
import PlannerConfig.Routing.System
import PlannerConfig.Routing.Transfer
import PlannerConfig.Routing.Transit
import PlannerConfig.Routing.Vehicle
import PlannerConfig.Routing.Walk

/-!
Route requests. One form reads them wherever they stand, so they are documented from one place.
-/
namespace PlannerConfig

structure RoutingPreferences where
  transit : TransitPreferences := {}
  bike : BikePreferences := {}
  rental : RentalPreferences := {}
  street : StreetPreferences := {}
  car : CarPreferences := {}
  system : SystemPreferences := {}
  transfer : TransferPreferences := {}
  parking : ParkingPreferences := {}
  walk : WalkPreferences := {}
  wheelchair : WheelchairPreferences := {}
  itineraryFilter : ItineraryFilterPreferences := {}

/-- The key of the group with everything about wheelchairs. -/
def wheelchairKey : String := "wheelchairAccessibility"

def RoutingPreferences.form (features : FeatureSet) : Form RoutingPreferences RoutingPreferences :=
  mk
    <$> .zoom (·.transit) TransitPreferences.form
    <*> .zoom (·.bike) BikePreferences.form
    <*> .zoom (·.rental) RentalPreferences.form
    <*> .zoom (·.street) StreetPreferences.form
    <*> .zoom (·.car) CarPreferences.form
    <*> .zoom (·.system) (SystemPreferences.form features)
    <*> .zoom (·.transfer) TransferPreferences.form
    <*> .zoom (·.parking) ParkingPreferences.form
    <*> .zoom (·.walk) WalkPreferences.form
    <*> .zoom (·.wheelchair) (WheelchairPreferences.form wheelchairKey)
    <*> .zoom (·.itineraryFilter) (ItineraryFilterPreferences.form "itineraryFilters")

/-- Agencies and routes to avoid. -/
structure Unpreferred where
  agencies : List FeedScopedId := []
  routes : List FeedScopedId := []
  deriving DecidableEq

def Unpreferred.form : Form Unpreferred Unpreferred :=
  mk
    <$> .feedScopedIds "agencies" (·.agencies) {
      summary := "The ids of the agencies that incur an extra cost when being used."
      since := .v2_2
      description := "Format: `FeedId:AgencyId`" }
    <*> .feedScopedIds "routes" (·.routes) {
      summary := "The ids of the routes that incur an extra cost when being used."
      since := .v2_2
      description := "Format: `FeedId:RouteId`" }

def Kind.modes : Kind RequestModes :=
  .custom "TRANSIT,WALK" (fun s => refusing ModeError.message (RequestModes.parse s)) .modes

/-- A search window of `none` lets the server choose one. -/
structure RouteRequest where
  allowedRentalNetworks : TextSet := .empty
  arriveBy : Bool := false
  bannedParkingTags : TextSet := .empty
  bannedRentalNetworks : TextSet := .empty
  arriveWithRentedVehicle : Bool := false
  locale : Locale := ⟨"en", "US", ""⟩
  modes : RequestModes := {}
  itineraries : Int := 50
  searchWindow : Option Duration := none
  requiredParkingTags : TextSet := .empty
  wheelchair : Bool := false
  unpreferred : Unpreferred := {}
  preferences : RoutingPreferences := {}

namespace RouteRequest

def innerForm (features : FeatureSet) : Form RouteRequest RouteRequest :=
  mk
    <$> .stringSet "allowedVehicleRentalNetworks" (·.allowedRentalNetworks) {
      summary := "The vehicle rental networks which may be used. If empty all networks may be
        used." }
    <*> .boolean "arriveBy" (·.arriveBy) {
      summary := "Whether the trip should depart or arrive at the specified date and time." }
    <*> .stringSet "bannedVehicleParkingTags" (·.bannedParkingTags) {
      summary := "Tags with which a vehicle parking will not be used. If empty, no tags are
        banned." }
    <*> .stringSet "bannedVehicleRentalNetworks" (·.bannedRentalNetworks) {
      summary := "The vehicle rental networks which may not be used. If empty, no networks are
        banned." }
    <*> .boolean "allowKeepingRentedBicycleAtDestination" (·.arriveWithRentedVehicle) {
      summary := "If a vehicle should be allowed to be kept at the end of a station-based rental." }
    <*> .scalar "locale" .locale (·.locale) {
      summary := "The locale used for texts in the response, e.g. `en_US`." }
    <*> .scalar "modes" .modes (·.modes) {
      summary := "The set of access/egress/direct/transit modes to be used for the route search." }
    <*> .integer "numItineraries" (·.itineraries) {
      summary := "The maximum number of itineraries to return." }
    <*> .optionalDuration "searchWindow" (·.searchWindow) {
      summary := "The duration of the search-window."
      description := "
        This is the time/duration from the earliest-departure-time (EDT) to
        the latest-departure-time (LDT). In case of a reverse search it
        will be the time from earliest to latest arrival time (LAT - EAT).

        All optimal travels that depart within the search window are
        guaranteed to be found.

        This is normally dynamically calculated by the server. Leave it
        unset to get a suitable value for each search, or use `0s` to do
        one search iteration. In a small to medium size operation you may
        use a fixed value, like 60 minutes. If you have a mixture of high
        frequency city routes and infrequent long distance journeys, the
        best option is normally to use the dynamic assignment.

        There is no need to set this when going to the next/previous page.
        The server will increase/decrease the search-window when paging to
        match the requested number of itineraries." }
    <*> .stringSet "requiredVehicleParkingTags" (·.requiredParkingTags) {
      summary := "Tags which are required to use a vehicle parking. If empty, no tags are
        required." }
    <*> .zoom (·.wheelchair) (WheelchairPreferences.enabledForm wheelchairKey)
    <*> .group "unpreferred" (.zoom (·.unpreferred) Unpreferred.form) {
      summary := "Parameters listing authorities or lines that preferably should not be used in
        trip patters."
      since := .v2_2
      description := "
        A cost is applied to boarding nonpreferred authorities or lines.

        The routing engine will add extra penalty - on the *unpreferred*
        routes and/or agencies using a cost function. The cost function
        (`unpreferredCost`) is defined as a linear function of the form
        `A + B x`, where `A` is a fixed cost (in seconds) and `B` is
        reluctance multiplier for transit leg travel time `x` (in seconds)." }
    <*> .zoom (·.preferences) (RoutingPreferences.form features)

def form (features : FeatureSet) : Form RouteRequest RouteRequest :=
  .tell .mappingRequest *> innerForm features

/-- The default request, which stands under a key of its own. -/
def defaultForm (features : FeatureSet) (name : String) : Form RouteRequest RouteRequest :=
  .group name (form features) {
    summary := "The default parameters for the routing query."
    since := .v2_0
    description := "Most of these are overridable through the various API endpoints." }

end RouteRequest

end PlannerConfig
