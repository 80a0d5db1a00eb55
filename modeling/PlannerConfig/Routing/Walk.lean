import PlannerConfig.Form

/-!
Preferences for walking and for wheelchair users.
-/
namespace PlannerConfig

structure WalkPreferences where
  speed : Float := 1.33
  reluctance : Float := 2
  boardCost : Int := 600
  stairsReluctance : Float := 2
  stairsTimeFactor : Float := 3
  safetyFactor : Float := 1

def WalkPreferences.form : Form WalkPreferences WalkPreferences :=
  mk
    <$> .double "walkSpeed" (·.speed) {
      summary := "The user's walking speed in meters/second." }
    <*> .double "walkReluctance" (·.reluctance) {
      summary := "A multiplier for how bad walking is, compared to being in transit for equal
        lengths of time."
      description := "
        Empirically, values between 2 and 4 seem to correspond well to the
        concept of not wanting to walk too much without asking for totally
        ridiculous itineraries, but this observation should in no way be
        taken as scientific or definitive. Your mileage may vary." }
    <*> .integer "walkBoardCost" (·.boardCost) {
      summary := "Prevents unnecessary transfers by adding a cost for boarding a vehicle. This is
        the cost that is used when boarding while walking." }
    <*> .double "stairsReluctance" (·.stairsReluctance) {
      summary := "Used instead of walkReluctance for stairs." }
    <*> .double "stairsTimeFactor" (·.stairsTimeFactor) {
      summary := "How much more time does it take to walk a flight of stairs compared to walking a
        similar horizontal length."
      description := "
        Default value is based on: Fujiyama, T., & Tyler, N. (2010).
        Predicting the walking speed of pedestrians on stairs.
        Transportation Planning and Technology, 33(2), 177-202." }
    <*> .double "walkSafetyFactor" (·.safetyFactor) {
      summary := "Factor for how much the walk safety is considered in routing."
      description :=
        "Value should be between 0 and 1. If the value is set to be 0, safety is ignored." }

/-- How trips, stops or elevators count that are not known to be accessible. -/
structure AccessibilityPreferences where
  onlyAccessible : Bool := true
  unknownCost : Int := 600
  inaccessibleCost : Int := 3600
  deriving DecidableEq, Repr

def AccessibilityPreferences.form : Form AccessibilityPreferences AccessibilityPreferences :=
  mk
    <$> .boolean "onlyConsiderAccessible" (·.onlyAccessible) {
      summary := "Whether to only use this entity if it is explicitly marked as wheelchair
        accessible."
      since := .v2_2 }
    <*> .integer "unknownCost" (·.unknownCost) {
      summary := "The cost to add when traversing an entity with unknown accessibility
        information."
      since := .v2_2 }
    <*> .integer "inaccessibleCost" (·.inaccessibleCost) {
      summary := "The cost to add when traversing an entity which is known to be inaccessible."
      since := .v2_2 }

structure WheelchairPreferences where
  trip : AccessibilityPreferences := {}
  stop : AccessibilityPreferences := {}
  elevator : AccessibilityPreferences := ⟨false, 20, 3600⟩
  inaccessibleStreetReluctance : Float := 25
  maxSlope : Float := 0.083
  slopeExceededReluctance : Float := 1
  stairsReluctance : Float := 100

namespace WheelchairPreferences

/-- What is said of the group with everything about wheelchairs. -/
def note : Note where
  summary := "See [Wheelchair Accessibility](Accessibility.md)"
  since := .v2_2

def enabledForm (name : String) : Form Bool Bool :=
  let enabled := .boolean "enabled" id { summary := "Enable wheelchair accessibility." }
  .group name enabled note

def accessibility (name : String) (get : WheelchairPreferences → AccessibilityPreferences)
    (summary : String) : Form WheelchairPreferences AccessibilityPreferences :=
  .group name (.zoom get AccessibilityPreferences.form) { summary, since := .v2_2 }

def innerForm : Form WheelchairPreferences WheelchairPreferences :=
  mk
    <$> accessibility "trip" (·.trip) "Configuration for when to use inaccessible trips."
    <*> accessibility "stop" (·.stop) "Configuration for when to use inaccessible stops."
    <*> accessibility "elevator" (·.elevator)
      "Configuration for when to use inaccessible elevators."
    <*> .double "inaccessibleStreetReluctance" (·.inaccessibleStreetReluctance) {
      summary := "The factor to multiply the cost of traversing a street edge that is not
        wheelchair-accessible."
      since := .v2_2 }
    <*> .double "maxSlope" (·.maxSlope) {
      summary := "The maximum slope as a fraction of 1."
      description := "9 percent would be `0.09`" }
    <*> .double "slopeExceededReluctance" (·.slopeExceededReluctance) {
      summary := "How much streets with high slope should be avoided."
      since := .v2_2
      description := "
        What factor should be given to street edges, which are over the
        max slope. The penalty is not static but scales with how much you
        exceed the maximum slope. Set to negative to disable routing on
        too steep edges." }
    <*> .double "stairsReluctance" (·.stairsReluctance) {
      summary := "How much stairs should be avoided."
      since := .v2_2
      description := "
        Stairs are not completely excluded for wheelchair users but
        severely penalised by default. A stair is not wheelchair
        accessible, so this value is multiplied with the inaccessible
        street reluctance." }

def form (name : String) : Form WheelchairPreferences WheelchairPreferences :=
  .group name innerForm note

end WheelchairPreferences

end PlannerConfig
