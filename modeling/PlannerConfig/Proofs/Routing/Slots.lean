import PlannerConfig.Proofs.Form.Slots
import PlannerConfig.Proofs.Layout

/-!
The slots of a route request: which value of a document fills which part of the request. Together they
are the request, the data overlay apart, and no two have the same path.
-/
namespace PlannerConfig

def TransitPreferences.slots : List (Slot TransitPreferences) := [
  .ofKind ["alightSlack"] .duration (·.alightSlack.default),
  .ofMap ["alightSlackForMode"] Choice.enumeration .duration (·.alightSlack.overrides),
  .ofKind ["boardSlack"] .duration (·.boardSlack.default),
  .ofMap ["boardSlackForMode"] Choice.enumeration .duration (·.boardSlack.overrides),
  .ofKind ["ignoreRealtimeUpdates"] .boolean (·.ignoreRealtimeUpdates),
  .ofKind ["otherThanPreferredRoutesPenalty"] .integer (·.otherThanPreferredRoutesPenalty),
  .ofMap ["transitReluctanceForMode"] Choice.enumeration .double (·.reluctanceForMode),
  .ofKind ["unpreferredCost"] .linearFunction (·.unpreferredCost)]

def BikePreferences.slots : List (Slot BikePreferences) := [
  .ofKind ["bikeSpeed"] .double (·.speed),
  .ofKind ["bikeReluctance"] .double (·.reluctance),
  .ofKind ["bikeBoardCost"] .integer (·.boardCost),
  .ofKind ["bikeParkTime"] .integer (·.parkTime),
  .ofKind ["bikeParkCost"] .integer (·.parkCost),
  .ofKind ["bikeWalkingSpeed"] .double (·.walkingSpeed),
  .ofKind ["bikeWalkingReluctance"] .double (·.walkingReluctance),
  .ofKind ["bikeSwitchTime"] .integer (·.switchTime),
  .ofKind ["bikeSwitchCost"] .integer (·.switchCost),
  .ofKind ["optimize"] (.choice BicycleOptimizeType) (·.optimize),
  .ofKind ["bikeTriangleTimeFactor"] .double (·.triangle.time),
  .ofKind ["bikeTriangleSlopeFactor"] .double (·.triangle.slope),
  .ofKind ["bikeTriangleSafetyFactor"] .double (·.triangle.safety)]

def RentalPreferences.slots : List (Slot RentalPreferences) := [
  .ofKind ["bikeRentalDropoffCost"] .integer (·.dropoffCost),
  .ofKind ["bikeRentalDropoffTime"] .integer (·.dropoffTime),
  .ofKind ["bikeRentalPickupCost"] .integer (·.pickupCost),
  .ofKind ["bikeRentalPickupTime"] .integer (·.pickupTime),
  .ofKind ["useBikeRentalAvailabilityInformation"] .boolean (·.useAvailability),
  .ofKind ["keepingRentedBicycleAtDestinationCost"] .double (·.arrivingWithVehicleCost)]

def StreetPreferences.slots : List (Slot StreetPreferences) := [
  .ofKind ["turnReluctance"] .double (·.turnReluctance),
  .ofKind ["drivingDirection"] (.choice DrivingDirection) (·.drivingDirection),
  .ofKind ["elevatorBoardCost"] .integer (·.elevator.boardCost),
  .ofKind ["elevatorBoardTime"] .integer (·.elevator.boardTime),
  .ofKind ["elevatorHopCost"] .integer (·.elevator.hopCost),
  .ofKind ["elevatorHopTime"] .integer (·.elevator.hopTime),
  .ofKind ["maxAccessEgressDuration"] .duration (·.maxAccessEgressDuration.default),
  .ofMap ["maxAccessEgressDurationForMode"] Choice.enumeration .duration
    (·.maxAccessEgressDuration.overrides),
  .ofKind ["maxDirectStreetDuration"] .duration (·.maxDirectDuration.default),
  .ofMap ["maxDirectStreetDurationForMode"] Choice.enumeration .duration
    (·.maxDirectDuration.overrides),
  .ofKind ["intersectionTraversalModel"] (.choice IntersectionModel) (·.intersectionModel)]

def CarPreferences.slots : List (Slot CarPreferences) := [
  .ofKind ["carSpeed"] .double (·.speed),
  .ofKind ["carReluctance"] .double (·.reluctance),
  .ofKind ["carDropoffTime"] .integer (·.dropoffTime),
  .ofKind ["carParkCost"] .integer (·.parkCost),
  .ofKind ["carParkTime"] .integer (·.parkTime),
  .ofKind ["carPickupCost"] .integer (·.pickupCost),
  .ofKind ["carPickupTime"] .integer (·.pickupTime),
  .ofKind ["carAccelerationSpeed"] .double (·.accelerationSpeed),
  .ofKind ["carDecelerationSpeed"] .double (·.decelerationSpeed)]

/-- The data overlay is no slot: without its feature it is never read. -/
def SystemPreferences.slots : List (Slot SystemPreferences) := [
  .ofKind ["geoidElevation"] .boolean (·.geoidElevation),
  .ofKind ["maxJourneyDuration"] .duration (·.maxJourneyDuration)]

def TransferPreferences.slots : List (Slot TransferPreferences) := [
  .ofKind ["transferPenalty"] .integer (·.cost),
  .ofKind ["transferSlack"] .integer (·.slack),
  .ofKind ["waitReluctance"] .double (·.waitReluctance),
  .ofKind ["nonpreferredTransferPenalty"] .integer (·.nonpreferredCost),
  .ofKind ["maxTransfers"] .integer (·.maxTransfers)]

def ParkingPreferences.slots : List (Slot ParkingPreferences) := [
  .ofKind ["useVehicleParkingAvailabilityInformation"] .boolean (·.useAvailability)]

def WalkPreferences.slots : List (Slot WalkPreferences) := [
  .ofKind ["walkSpeed"] .double (·.speed),
  .ofKind ["walkReluctance"] .double (·.reluctance),
  .ofKind ["walkBoardCost"] .integer (·.boardCost),
  .ofKind ["stairsReluctance"] .double (·.stairsReluctance),
  .ofKind ["stairsTimeFactor"] .double (·.stairsTimeFactor),
  .ofKind ["walkSafetyFactor"] .double (·.safetyFactor)]

def AccessibilityPreferences.slots : List (Slot AccessibilityPreferences) := [
  .ofKind ["onlyConsiderAccessible"] .boolean (·.onlyAccessible),
  .ofKind ["unknownCost"] .integer (·.unknownCost),
  .ofKind ["inaccessibleCost"] .integer (·.inaccessibleCost)]

def WheelchairPreferences.slots : List (Slot WheelchairPreferences) :=
  Slot.inGroup "trip" (·.trip) AccessibilityPreferences.slots
    ++ Slot.inGroup "stop" (·.stop) AccessibilityPreferences.slots
    ++ Slot.inGroup "elevator" (·.elevator) AccessibilityPreferences.slots
    ++ [
  .ofKind ["inaccessibleStreetReluctance"] .double (·.inaccessibleStreetReluctance),
  .ofKind ["maxSlope"] .double (·.maxSlope),
  .ofKind ["slopeExceededReluctance"] .double (·.slopeExceededReluctance),
  .ofKind ["stairsReluctance"] .double (·.stairsReluctance)]

def ItineraryFilterPreferences.slots : List (Slot ItineraryFilterPreferences) := [
  .ofKind ["debug"] .boolean (·.debug),
  .ofKind ["groupSimilarityKeepOne"] .double (·.groupSimilarityKeepOne),
  .ofKind ["groupSimilarityKeepThree"] .double (·.groupSimilarityKeepThree),
  .ofKind ["groupedOtherThanSameLegsMaxCostMultiplier"] .double (·.groupedMaxCostMultiplier),
  .ofKind ["transitGeneralizedCostLimit"] .linearFunction (·.transitCostLimit),
  .ofKind ["nonTransitGeneralizedCostLimit"] .linearFunction (·.nonTransitCostLimit),
  .ofKind ["filterItinerariesWithSameFirstOrLastTrip"] .boolean (·.dropSameFirstOrLastTrip),
  .ofKind ["accessibilityScore"] .boolean (·.accessibilityScore),
  .ofKind ["removeItinerariesWithSameRoutesAndStops"] .boolean (·.dropSameRoutesAndStops)]

def RoutingPreferences.slots : List (Slot RoutingPreferences) :=
  TransitPreferences.slots.map (.zoom (·.transit))
    ++ BikePreferences.slots.map (.zoom (·.bike))
    ++ RentalPreferences.slots.map (.zoom (·.rental))
    ++ StreetPreferences.slots.map (.zoom (·.street))
    ++ CarPreferences.slots.map (.zoom (·.car))
    ++ SystemPreferences.slots.map (.zoom (·.system))
    ++ TransferPreferences.slots.map (.zoom (·.transfer))
    ++ ParkingPreferences.slots.map (.zoom (·.parking))
    ++ WalkPreferences.slots.map (.zoom (·.walk))
    ++ Slot.inGroup "wheelchairAccessibility" (·.wheelchair) WheelchairPreferences.slots
    ++ Slot.inGroup "itineraryFilters" (·.itineraryFilter) ItineraryFilterPreferences.slots

def Unpreferred.slots : List (Slot Unpreferred) := [
  .ofKind ["agencies"] .feedScopedIds (·.agencies),
  .ofKind ["routes"] .feedScopedIds (·.routes)]

namespace RouteRequest

/-- The slots of a request, seen from the object that it is read from. -/
def innerSlots : List (Slot RouteRequest) := [
  .ofKind ["allowedVehicleRentalNetworks"] .stringSet (·.allowedRentalNetworks),
  .ofKind ["arriveBy"] .boolean (·.arriveBy),
  .ofKind ["bannedVehicleParkingTags"] .stringSet (·.bannedParkingTags),
  .ofKind ["bannedVehicleRentalNetworks"] .stringSet (·.bannedRentalNetworks),
  .ofKind ["allowKeepingRentedBicycleAtDestination"] .boolean (·.arriveWithRentedVehicle),
  .ofKind ["locale"] .locale (·.locale),
  .ofKind ["modes"] .modes (·.modes),
  .ofKind ["numItineraries"] .integer (·.itineraries),
  .ofKind ["searchWindow"] Kind.duration.optional (·.searchWindow),
  .ofKind ["requiredVehicleParkingTags"] .stringSet (·.requiredParkingTags),
  .ofKind ["wheelchairAccessibility", "enabled"] .boolean (·.wheelchair)]
    ++ Slot.inGroup "unpreferred" (·.unpreferred) Unpreferred.slots
    ++ RoutingPreferences.slots.map (.zoom (·.preferences))

/-- The slots of the default request of a router configuration. -/
def slots : List (Slot RouteRequest) := innerSlots.map (.under routingDefaultsKey)

/-- The paths of the groups that the mapping of the default request opens. -/
def groupings : List (List String) :=
  [[], ["wheelchairAccessibility"], ["unpreferred"], ["wheelchairAccessibility"],
    ["wheelchairAccessibility", "trip"], ["wheelchairAccessibility", "stop"],
    ["wheelchairAccessibility", "elevator"], ["itineraryFilters"]].map (routingDefaultsKey :: ·)

/-- The form of the default request without the data overlay. -/
abbrev plainForm : Form RouteRequest RouteRequest := defaultForm (.ofList []) routingDefaultsKey

lemma defaultForm_eq_plainForm {features : FeatureSet} (h : features.isOn .dataOverlay = false) :
    defaultForm features routingDefaultsKey = plainForm := by
  have off : form features = form (.ofList []) := form_congr (h.trans (by decide))
  rw [plainForm, defaultForm, defaultForm, off]

lemma slots_plainForm : plainForm.slots id [] [] = slots := by rfl

lemma slotted_plainForm : plainForm.slotted = true := rfl

lemma groupPaths_plainForm : plainForm.groupPaths = groupings := rfl

set_option maxRecDepth 4000 in
/-- Any contents of the slots make a request. -/
lemma exists_assemble (v : Slot.Contents slots) : ∃ request,
    plainForm.assemble id [] [] v = some (request, ())
      ∧ request.preferences.system.dataOverlay = none ∧ Slot.collect slots request = v :=
  ⟨_, rfl, rfl, rfl⟩

set_option maxRecDepth 4000 in
/-- A request without a data overlay is made from what its slots hold. -/
lemma assemble_collect {request : RouteRequest}
    (h : request.preferences.system.dataOverlay = none) :
    plainForm.assemble id [] [] (Slot.collect slots request) = some (request, ()) := by
  obtain ⟨_, _, _, _, _, _, _, _, _, _, _, _, preferences⟩ := request
  obtain ⟨_, _, _, _, _, system, _, _, _, _, _⟩ := preferences
  obtain ⟨_, _, _⟩ := system
  cases h
  rfl

/-- The slots are the request, the data overlay apart: they can hold anything, and what they hold
is all that there is. -/
theorem existsUnique_collect (v : Slot.Contents slots) : ∃! request : RouteRequest,
    request.preferences.system.dataOverlay = none ∧ Slot.collect slots request = v := by
  obtain ⟨request, hmade, hoverlay, hcollect⟩ := exists_assemble v
  refine ⟨request, ⟨hoverlay, hcollect⟩, ?_⟩
  rintro other ⟨hother, rfl⟩
  rw [assemble_collect hother] at hmade
  exact (Prod.mk.inj (Option.some.inj hmade)).1

lemma nodup_paths_slots : (slots.map Slot.path).Nodup := by decide +kernel

end RouteRequest
end PlannerConfig
