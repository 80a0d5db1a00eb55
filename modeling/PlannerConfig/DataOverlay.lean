import PlannerConfig.Form

/-!
The data overlay: environmental data on a grid, such as noise or air quality, laid over the streets.
The build configuration names the data file and its variables; route requests weigh them.
-/
namespace PlannerConfig

/-- The unit of the time variable of the data file. -/
inductive TimeFormat
  | msEpoch
  | seconds
  | hours
  deriving DecidableEq, Repr

namespace TimeFormat

def label : TimeFormat → String
  | msEpoch => "ms-epoch"
  | seconds => "seconds"
  | hours => "hours"

instance : Choice TimeFormat where
  enumeration := ⟨"TimeFormat", [msEpoch, seconds, hours], fun f => .ofLabel f.label⟩
  mem_members := by intro f; cases f <;> decide

end TimeFormat

/-- A variable of the data file under the name that route requests use. -/
structure IndexVariable where
  name : String
  displayName : String := ""
  variableName : String
  deriving DecidableEq, Repr

def IndexVariable.form : Form Unit IndexVariable :=
  mk
    <$> .required "name" .string {
      summary := "Name used for the variable in route requests."
      since := .v2_1 }
    <*> .string "displayName" (fun _ => "") {
      summary := "Human readable name of the variable."
      since := .v2_1 }
    <*> .required "variable" .string {
      summary := "Name of the variable in the data file."
      since := .v2_1 }

/-- The data file and its layout. -/
structure DataOverlay where
  fileName : String
  latitudeVariable : String := "lat"
  longitudeVariable : String := "lon"
  timeVariable : String := "time"
  timeFormat : TimeFormat := .hours
  indexVariables : List IndexVariable := []
  deriving DecidableEq, Repr

namespace DataOverlay

/-- The layout of a file that is not named yet. -/
def defaults : DataOverlay := { fileName := "" }

def form : Form DataOverlay DataOverlay :=
  mk
    <$> .required "fileName" .string {
      summary := "Path of the generic data file, relative to the graph directory."
      since := .v2_1
      feature := some .dataOverlay }
    <*> .string "latitudeVariable" (·.latitudeVariable) {
      summary := "Name of the latitude variable of the data file."
      since := .v2_1
      feature := some .dataOverlay }
    <*> .string "longitudeVariable" (·.longitudeVariable) {
      summary := "Name of the longitude variable of the data file."
      since := .v2_1
      feature := some .dataOverlay }
    <*> .string "timeVariable" (·.timeVariable) {
      summary := "Name of the time variable of the data file."
      since := .v2_1
      feature := some .dataOverlay }
    <*> .choice "timeFormat" (·.timeFormat) {
      summary := "Unit of the values of the time variable."
      since := .v2_1
      feature := some .dataOverlay }
    <*> .list "indexVariables" (.zoom (fun _ => ()) IndexVariable.form) (·.indexVariables) {
      summary := "The variables of the data file that may be used for routing."
      since := .v2_1
      feature := some .dataOverlay }

end DataOverlay

/-- What a route request adds for variables of the overlay, by parameter name. -/
structure OverlayParameters where
  values : List (String × Float) := []

/-- Every key of the object is a parameter name. -/
def OverlayParameters.form : Form Unit OverlayParameters :=
  mk
    <$> .eachKey .double fun key => {
      summary := "Penalty or threshold of the data overlay parameter '" ++ key ++ "'."
      since := .v2_1
      feature := some .dataOverlay }

end PlannerConfig
