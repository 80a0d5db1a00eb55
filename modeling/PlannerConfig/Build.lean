import PlannerConfig.Routing.Request

/-!
The configuration of a graph build.
-/
namespace PlannerConfig

/-- Limits for removing small disconnected parts of the street network. -/
structure IslandPruning where
  withStopsMaxSize : Int := 2
  withoutStopsMaxSize : Int := 10
  adaptiveFactor : Float := 50
  adaptiveDistance : Int := 250

def IslandPruning.form : Form IslandPruning IslandPruning :=
  mk
    <$> .integer "islandWithStopsMaxSize" (·.withStopsMaxSize) {
      summary := "When a graph island with stops in it should be pruned."
      since := .v2_3
      description := "
        This field indicates the pruning threshold for islands with stops.
        Any such island under this edge count will be pruned." }
    <*> .integer "islandWithoutStopsMaxSize" (·.withoutStopsMaxSize) {
      summary := "When a graph island without stops should be pruned."
      since := .v2_3
      description := "
        This field indicates the pruning threshold for islands without
        stops. Any such island under this edge count will be pruned." }
    <*> .double "adaptivePruningFactor" (·.adaptiveFactor) {
      summary := "Defines how much pruning thresholds grow maximally by distance."
      since := .v2_3 }
    <*> .integer "adaptivePruningDistance" (·.adaptiveDistance) {
      summary := "Search distance for analyzing islands in pruning."
      since := .v2_3 }

structure BuildConfig where
  configVersion : Option String := none
  dataImportReport : Bool := false
  maxDataImportIssuesPerFile : Int := 1000
  embedRouterConfig : Bool := true
  areaVisibility : Bool := false
  maxAreaNodes : Int := 500
  boardingLocationTags : TextSet := .ofList ["ref"]
  subwayAccessTime : Float := 2
  maxTransferDuration : Duration := .thirtyMinutes
  islandPruning : IslandPruning := {}
  dataOverlay : Option DataOverlay := none
  transferRequests : List RouteRequest := [{}]

namespace BuildConfig

/-- The data overlay is read only if the feature is on. -/
def overlayForm (features : FeatureSet) : Form BuildConfig (Option DataOverlay) :=
  if features.isOn .dataOverlay then
    .optionalGroup "dataOverlay" (.zoom (fun _ => DataOverlay.defaults) DataOverlay.form) {
      summary := "Config for the DataOverlay Sandbox module"
      since := .v2_1
      feature := some .dataOverlay }
  else pure none

def form (features : FeatureSet) : Form BuildConfig BuildConfig :=
  mk
    <$> .optionalString "configVersion" (·.configVersion) {
      summary := "Deployment version of the *build-config.json*."
      since := .v2_1
      description := "
        The config-version is a parameter which each deployment can set
        to track the version of the configuration. It is logged at startup
        and shown in the server info, but otherwise not used." }
    <*> .boolean "dataImportReport" (·.dataImportReport) {
      summary := "Generate nice HTML report of Graph errors/warnings"
      description := "The reports are stored in the same location as the graph." }
    <*> .integer "maxDataImportIssuesPerFile" (·.maxDataImportIssuesPerFile) {
      summary := "When to split the import report."
      description := "
        If the number of issues is larger then `maxDataImportIssuesPerFile`,
        then the files will be split in multiple files. Since browsers have
        problems opening large HTML files." }
    <*> .boolean "embedRouterConfig" (·.embedRouterConfig) {
      summary := "Embed the Router config in the graph, which allows it to be sent to a server
        fully configured over the wire." }
    <*> .boolean "areaVisibility" (·.areaVisibility) {
      summary := "Perform visibility calculations."
      description := "
        If this is `true` visibility lines are computed for walkable
        areas, so that routes can cross them in straight lines." }
    <*> .integer "maxAreaNodes" (·.maxAreaNodes) {
      summary := "Visibility calculations for an area will not be done if there are more nodes
        than this limit."
      since := .v2_1 }
    <*> .stringSet "boardingLocationTags" (·.boardingLocationTags) {
      summary := "What OSM tags should be looked on for the source of matching stops to platforms
        and stops."
      since := .v2_2 }
    <*> .double "subwayAccessTime" (·.subwayAccessTime) {
      summary := "Minutes necessary to reach stops served by trips on routes of route_type=1
        (subway) from the street." }
    <*> .duration "maxTransferDuration" (·.maxTransferDuration) {
      summary := "Transfers up to this duration with the default walk speed value will be
        pre-calculated and included in the Graph."
      since := .v2_1 }
    <*> .group "islandPruning" (.zoom (·.islandPruning) IslandPruning.form) {
      summary := "Settings for fixing street graph connectivity errors"
      since := .v2_3 }
    <*> overlayForm features
    <*> .list "transferRequests" (.zoom (fun _ => {}) (RouteRequest.form features))
      (·.transferRequests) {
      summary := "Routing requests to use for pre-calculating stop-to-stop transfers."
      description := "
        It will use the street network if OSM data has already been loaded
        into the graph. Otherwise it will use straight-line distance
        between stops." }

end BuildConfig

end PlannerConfig
