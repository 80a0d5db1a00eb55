import PlannerConfig.Form
import PlannerConfig.Routing.Modes

/-!
Preferences for the street network.
-/
namespace PlannerConfig

/-- The side of the road that vehicles drive on. -/
inductive DrivingDirection
  | right
  | left
  deriving DecidableEq, Repr

namespace DrivingDirection

def label : DrivingDirection → String
  | right => "right"
  | left => "left"

instance : Choice DrivingDirection where
  enumeration := ⟨"DrivingDirection", [right, left], fun d => .ofLabel d.label⟩
  mem_members := by intro d; cases d <;> decide

end DrivingDirection

/-- How the cost of turns is computed. -/
inductive IntersectionModel
  | norway
  | simple
  deriving DecidableEq, Repr

namespace IntersectionModel

def label : IntersectionModel → String
  | norway => "norway"
  | simple => "simple"

instance : Choice IntersectionModel where
  enumeration := ⟨"IntersectionTraversalModel", [norway, simple], fun m => .ofLabel m.label⟩
  mem_members := by intro m; cases m <;> decide

end IntersectionModel

/-- Costs and times of using elevators. -/
structure ElevatorPreferences where
  boardCost : Int := 90
  boardTime : Int := 90
  hopCost : Int := 20
  hopTime : Int := 20
  deriving DecidableEq, Repr

def ElevatorPreferences.form : Form ElevatorPreferences ElevatorPreferences :=
  mk
    <$> .integer "elevatorBoardCost" (·.boardCost) {
      summary := "What is the cost of boarding a elevator?" }
    <*> .integer "elevatorBoardTime" (·.boardTime) {
      summary := "How long does it take to get on an elevator, on average." }
    <*> .integer "elevatorHopCost" (·.hopCost) {
      summary := "What is the cost of travelling one floor on an elevator?" }
    <*> .integer "elevatorHopTime" (·.hopTime) {
      summary := "How long does it take to advance one floor on an elevator?" }

structure StreetPreferences where
  turnReluctance : Float := 1
  drivingDirection : DrivingDirection := .right
  elevator : ElevatorPreferences := {}
  maxAccessEgressDuration : Keyed StreetMode Duration := ⟨.fortyFiveMinutes, []⟩
  maxDirectDuration : Keyed StreetMode Duration := ⟨.fourHours, []⟩
  intersectionModel : IntersectionModel := .simple

def StreetPreferences.form : Form StreetPreferences StreetPreferences :=
  mk
    <$> .double "turnReluctance" (·.turnReluctance) {
      summary := "Multiplicative factor on expected turning time." }
    <*> .choice "drivingDirection" (·.drivingDirection) {
      summary := "The driving direction to use in the intersection traversal calculation" }
    <*> .zoom (·.elevator) ElevatorPreferences.form
    <*> .keyedDuration "maxAccessEgressDuration" (·.maxAccessEgressDuration) {
      summary := "This is the maximum duration for access/egress for street searches."
      since := .v2_2
      description := "
        This is a performance limit and should therefore be set high.
        Results close to the limit are not guaranteed to be optimal. Use
        itinerary-filters to limit what is presented to the client. The
        duration can be set per mode (`maxAccessEgressDurationForMode`),
        because some street modes searches are much more resource intensive
        than others. A default value is applied if the mode specific value
        does not exist." }
      "maxAccessEgressDurationForMode" {
      summary := "Limit access/egress per street mode."
      since := .v2_1
      description := "
        Override the settings in `maxAccessEgressDuration` for specific
        street modes. This is done because some street modes searches are
        much more resource intensive than others." }
    <*> .keyedDuration "maxDirectStreetDuration" (·.maxDirectDuration) {
      summary := "This is the maximum duration for a direct street search for each mode."
      description := "
        This is a performance limit and should therefore be set high.
        Results close to the limit are not guaranteed to be optimal. Use
        itinerary-filters to limit what is presented to the client. The
        duration can be set per mode (`maxDirectStreetDurationForMode`),
        because some street modes searches are much more resource intensive
        than others. A default value is applied if the mode specific value
        does not exist." }
      "maxDirectStreetDurationForMode" {
      summary := "Limit direct route duration per street mode."
      since := .v2_2
      description := "
        Override the settings in `maxDirectStreetDuration` for specific
        street modes. This is done because some street modes searches are
        much more resource intensive than others." }
    <*> .choice "intersectionTraversalModel" (·.intersectionModel) {
      summary := "The model that computes the costs of turns." }

end PlannerConfig
