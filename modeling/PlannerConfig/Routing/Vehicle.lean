import PlannerConfig.Form

/-!
Preferences for bicycles, rented vehicles, cars and parking.
-/
namespace PlannerConfig

/-- What a cyclist wants to optimize for. -/
inductive BicycleOptimizeType
  | quick
  | safe
  | flat
  | greenways
  | triangle
  deriving DecidableEq, Repr

namespace BicycleOptimizeType

def label : BicycleOptimizeType → String
  | quick => "quick"
  | safe => "safe"
  | flat => "flat"
  | greenways => "greenways"
  | triangle => "triangle"

instance : Choice BicycleOptimizeType where
  enumeration := ⟨"BicycleOptimizeType", [quick, safe, flat, greenways, triangle],
    fun t => .ofLabel t.label⟩
  mem_members := by intro t; cases t <;> decide

end BicycleOptimizeType

/-- The weights of the three aims of a cyclist. -/
structure TriangleFactors where
  time : Float := 0
  slope : Float := 0
  safety : Float := 0

def TriangleFactors.form : Form TriangleFactors TriangleFactors :=
  mk
    <$> .double "bikeTriangleTimeFactor" (·.time) {
      summary := "For bike triangle routing, how much time matters (range 0-1)." }
    <*> .double "bikeTriangleSlopeFactor" (·.slope) {
      summary := "For bike triangle routing, how much slope matters (range 0-1)." }
    <*> .double "bikeTriangleSafetyFactor" (·.safety) {
      summary := "For bike triangle routing, how much safety matters (range 0-1)." }

structure BikePreferences where
  speed : Float := 5
  reluctance : Float := 2
  boardCost : Int := 600
  parkTime : Int := 60
  parkCost : Int := 120
  walkingSpeed : Float := 1.33
  walkingReluctance : Float := 5
  switchTime : Int := 0
  switchCost : Int := 0
  optimize : BicycleOptimizeType := .safe
  triangle : TriangleFactors := {}

def BikePreferences.form : Form BikePreferences BikePreferences :=
  mk
    <$> .double "bikeSpeed" (·.speed) {
      summary := "Max bike speed along streets, in meters per second" }
    <*> .double "bikeReluctance" (·.reluctance) {
      summary := "A multiplier for how bad biking is, compared to being in transit for equal
        lengths of time." }
    <*> .integer "bikeBoardCost" (·.boardCost) {
      summary := "Prevents unnecessary transfers by adding a cost for boarding a vehicle."
      description :=
        "This is the cost that is used when boarding while cycling. This is usually higher that "
          ++ "walkBoardCost." }
    <*> .integer "bikeParkTime" (·.parkTime) {
      summary := "Time to park a bike." }
    <*> .integer "bikeParkCost" (·.parkCost) {
      summary := "Cost to park a bike." }
    <*> .double "bikeWalkingSpeed" (·.walkingSpeed) {
      summary := "The user's bike walking speed in meters/second. Defaults to approximately 3
        MPH." }
    <*> .double "bikeWalkingReluctance" (·.walkingReluctance) {
      summary := "A multiplier for how bad walking with a bike is, compared to being in transit
        for equal lengths of time." }
    <*> .integer "bikeSwitchTime" (·.switchTime) {
      summary := "The time it takes the user to fetch their bike and park it again in seconds." }
    <*> .integer "bikeSwitchCost" (·.switchCost) {
      summary := "The cost of the user fetching their bike and parking it again." }
    <*> .choice "optimize" (·.optimize) {
      summary := "The set of characteristics that the user wants to optimize for." }
    <*> .zoom (·.triangle) TriangleFactors.form

/-- Costs and times of renting a vehicle. -/
structure RentalPreferences where
  dropoffCost : Int := 30
  dropoffTime : Int := 30
  pickupCost : Int := 120
  pickupTime : Int := 60
  useAvailability : Bool := false
  arrivingWithVehicleCost : Float := 0

def RentalPreferences.form : Form RentalPreferences RentalPreferences :=
  mk
    <$> .integer "bikeRentalDropoffCost" (·.dropoffCost) {
      summary := "Cost to drop-off a rented bike." }
    <*> .integer "bikeRentalDropoffTime" (·.dropoffTime) {
      summary := "Time to drop-off a rented bike." }
    <*> .integer "bikeRentalPickupCost" (·.pickupCost) {
      summary := "Cost to rent a bike." }
    <*> .integer "bikeRentalPickupTime" (·.pickupTime) {
      summary := "Time to rent a bike." }
    <*> .boolean "useBikeRentalAvailabilityInformation" (·.useAvailability) {
      summary := "Whether or not bike rental availability information will be used to plan bike
        rental trips." }
    <*> .double "keepingRentedBicycleAtDestinationCost" (·.arrivingWithVehicleCost) {
      summary := "The cost of arriving at the destination with the rented bicycle, to discourage
        doing so." }

structure CarPreferences where
  speed : Float := 40
  reluctance : Float := 2
  dropoffTime : Int := 120
  parkCost : Int := 120
  parkTime : Int := 60
  pickupCost : Int := 120
  pickupTime : Int := 60
  accelerationSpeed : Float := 2.9
  decelerationSpeed : Float := 2.9

def CarPreferences.form : Form CarPreferences CarPreferences :=
  mk
    <$> .double "carSpeed" (·.speed) {
      summary := "Max car speed along streets, in meters per second" }
    <*> .double "carReluctance" (·.reluctance) {
      summary := "A multiplier for how bad driving is, compared to being in transit for equal
        lengths of time." }
    <*> .integer "carDropoffTime" (·.dropoffTime) {
      summary := "Time to park a car in a park and ride, w/o taking into account driving and
        walking cost." }
    <*> .integer "carParkCost" (·.parkCost) {
      summary := "Cost of parking a car." }
    <*> .integer "carParkTime" (·.parkTime) {
      summary := "Time to park a car" }
    <*> .integer "carPickupCost" (·.pickupCost) {
      summary := "Add a cost for car pickup changes when a pickup or drop off takes place"
      since := .v2_1 }
    <*> .integer "carPickupTime" (·.pickupTime) {
      summary := "Add a time for car pickup changes when a pickup or drop off takes place"
      since := .v2_1 }
    <*> .double "carAccelerationSpeed" (·.accelerationSpeed) {
      summary := "The acceleration speed of an automobile, in meters per second per second." }
    <*> .double "carDecelerationSpeed" (·.decelerationSpeed) {
      summary := "The deceleration speed of an automobile, in meters per second per second." }

structure ParkingPreferences where
  useAvailability : Bool := false

def ParkingPreferences.form : Form ParkingPreferences ParkingPreferences :=
  mk
    <$> .boolean "useVehicleParkingAvailabilityInformation" (·.useAvailability) {
      summary := "Whether or not to use vehicle parking availability information when planning
        park and ride trips." }

end PlannerConfig
