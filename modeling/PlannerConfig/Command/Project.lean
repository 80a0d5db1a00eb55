import PlannerConfig.Files.Basic

/-!
The files of the project that the command works on when it is not told of others: an example of a
build configuration, the template of its reference, and the reference that was committed.
-/
namespace PlannerConfig.Project

/-- The directory of the project, as messages show it. -/
def root : FilePath := ⟨"", ["<root>"]⟩

/-- The name of the reference and of its template. -/
def referenceName : String := "BuildConfiguration.md"

/-- The name of the example. -/
def exampleName : String := "build-config.json"

def examplePath : FilePath := ((root.child "tests").child "test-data").child exampleName

def templates : FilePath := root.child "doc-templates"

def docs : FilePath := root.child "docs"

/-- An example that makes use of every group of parameters. -/
def exampleText : String := "\x7b
  \"configVersion\": \"v2.3.0-EN000121\",
  \"dataImportReport\": true,
  \"maxDataImportIssuesPerFile\": 500,
  \"areaVisibility\": true,
  \"maxAreaNodes\": 800,
  \"subwayAccessTime\": 2.5,
  \"maxTransferDuration\": \"45m\",
  \"islandPruning\": \x7b
    \"islandWithStopsMaxSize\": 5,
    \"islandWithoutStopsMaxSize\": 20
  \x7d,
  \"dataOverlay\": \x7b
    \"fileName\": \"graphs/data-file.nc4\",
    \"latitudeVariable\": \"lat\",
    \"longitudeVariable\": \"lon\",
    \"timeVariable\": \"time\",
    \"timeFormat\": \"HOURS\",
    \"indexVariables\": [
      \x7b
        \"name\": \"harmfulMicroparticlesPM2_5\",
        \"displayName\": \"Harmful micro particles PM 2.5\",
        \"variable\": \"cnc_PM2_5\"
      \x7d
    ]
  \x7d,
  \"transferRequests\": [
    \x7b
      \"modes\": \"WALK\"
    \x7d,
    \x7b
      \"modes\": \"WALK\",
      \"wheelchairAccessibility\": \x7b
        \"enabled\": true
      \x7d
    \x7d
  ]
\x7d
"

def template : String := "# Build Configuration

This page lists the parameters of `build-config.json`. The file is read when
a graph is built; parameters left out of the file get the default shown
below.

Sections marked as generated are written by `scripts/generate_config_docs.py`
from the code that reads the configuration. Edit the summaries and
descriptions in the code, then run the script with `--update`.

## Parameter Summary

<!-- PARAMETERS-TABLE BEGIN -->
<!-- PARAMETERS-TABLE END -->

## Parameter Details

<!-- PARAMETERS-DETAILS BEGIN -->
<!-- PARAMETERS-DETAILS END -->
"

def reference : String := "# Build Configuration

This page lists the parameters of `build-config.json`. The file is read when
a graph is built; parameters left out of the file get the default shown
below.

Sections marked as generated are written by `scripts/generate_config_docs.py`
from the code that reads the configuration. Edit the summaries and
descriptions in the code, then run the script with `--update`.

## Parameter Summary

<!-- PARAMETERS-TABLE BEGIN -->
<!-- NOTE! This section is auto-generated. Do not change, change doc in code instead. -->

| Config Parameter | Type | Default | Summary | Since |
|------------------|------|---------|---------|-------|
| `configVersion` | `string` |  | Deployment version of the *build-config.json*. | 2.1 |
| `dataImportReport` | `boolean` | `false` | Generate nice HTML report of Graph errors/warnings | na |
| `maxDataImportIssuesPerFile` | `integer` | `1000` | When to split the import report. | na |
| `embedRouterConfig` | `boolean` | `true` | Embed the Router config in the graph, which allows it to be sent to a server fully configured over the wire. | na |
| `areaVisibility` | `boolean` | `false` | Perform visibility calculations. | na |
| `maxAreaNodes` | `integer` | `500` | Visibility calculations for an area will not be done if there are more nodes than this limit. | 2.1 |
| `boardingLocationTags` | `string[]` | `[\"ref\"]` | What OSM tags should be looked on for the source of matching stops to platforms and stops. | 2.2 |
| `subwayAccessTime` | `double` | `2.0` | Minutes necessary to reach stops served by trips on routes of route_type=1 (subway) from the street. | na |
| `maxTransferDuration` | `duration` | `\"30m\"` | Transfers up to this duration with the default walk speed value will be pre-calculated and included in the Graph. | 2.1 |
| `islandPruning.islandWithStopsMaxSize` | `integer` | `2` | When a graph island with stops in it should be pruned. | 2.3 |
| `islandPruning.islandWithoutStopsMaxSize` | `integer` | `10` | When a graph island without stops should be pruned. | 2.3 |
| `islandPruning.adaptivePruningFactor` | `double` | `50.0` | Defines how much pruning thresholds grow maximally by distance. | 2.3 |
| `islandPruning.adaptivePruningDistance` | `integer` | `250` | Search distance for analyzing islands in pruning. | 2.3 |
| `dataOverlay` | `object` |  | See [/docs/sandbox/DataOverlay.md](/docs/sandbox/DataOverlay.md) | 2.1 |
| `transferRequests[]` | `object[]` |  | See [/docs/RouteRequest.md](/docs/RouteRequest.md) | na |

<!-- PARAMETERS-TABLE END -->

## Parameter Details

<!-- PARAMETERS-DETAILS BEGIN -->
<!-- NOTE! This section is auto-generated. Do not change, change doc in code instead. -->

### configVersion

**Since version:** `2.1` ∙ **Type:** `string` ∙ **Cardinality:** `Optional`

**Path:** /

Deployment version of the *build-config.json*.

The config-version is a parameter which each deployment can set
to track the version of the configuration. It is logged at startup
and shown in the server info, but otherwise not used.

### dataImportReport

**Since version:** `na` ∙ **Type:** `boolean` ∙ **Cardinality:** `Optional` ∙ **Default value:** `false`

**Path:** /

Generate nice HTML report of Graph errors/warnings

The reports are stored in the same location as the graph.

### maxDataImportIssuesPerFile

**Since version:** `na` ∙ **Type:** `integer` ∙ **Cardinality:** `Optional` ∙ **Default value:** `1000`

**Path:** /

When to split the import report.

If the number of issues is larger then `maxDataImportIssuesPerFile`,
then the files will be split in multiple files. Since browsers have
problems opening large HTML files.

### embedRouterConfig

**Since version:** `na` ∙ **Type:** `boolean` ∙ **Cardinality:** `Optional` ∙ **Default value:** `true`

**Path:** /

Embed the Router config in the graph, which allows it to be sent to a server fully configured over the wire.

### areaVisibility

**Since version:** `na` ∙ **Type:** `boolean` ∙ **Cardinality:** `Optional` ∙ **Default value:** `false`

**Path:** /

Perform visibility calculations.

If this is `true` visibility lines are computed for walkable
areas, so that routes can cross them in straight lines.

### maxAreaNodes

**Since version:** `2.1` ∙ **Type:** `integer` ∙ **Cardinality:** `Optional` ∙ **Default value:** `500`

**Path:** /

Visibility calculations for an area will not be done if there are more nodes than this limit.

### boardingLocationTags

**Since version:** `2.2` ∙ **Type:** `string[]` ∙ **Cardinality:** `Optional` ∙ **Default value:** `[\"ref\"]`

**Path:** /

What OSM tags should be looked on for the source of matching stops to platforms and stops.

### subwayAccessTime

**Since version:** `na` ∙ **Type:** `double` ∙ **Cardinality:** `Optional` ∙ **Default value:** `2.0`

**Path:** /

Minutes necessary to reach stops served by trips on routes of route_type=1 (subway) from the street.

### maxTransferDuration

**Since version:** `2.1` ∙ **Type:** `duration` ∙ **Cardinality:** `Optional` ∙ **Default value:** `\"30m\"`

**Path:** /

Transfers up to this duration with the default walk speed value will be pre-calculated and included in the Graph.

### islandPruning

**Since version:** `2.3` ∙ **Type:** `object` ∙ **Cardinality:** `Optional`

**Path:** /

Settings for fixing street graph connectivity errors

#### islandWithStopsMaxSize

**Since version:** `2.3` ∙ **Type:** `integer` ∙ **Cardinality:** `Optional` ∙ **Default value:** `2`

**Path:** /islandPruning

When a graph island with stops in it should be pruned.

This field indicates the pruning threshold for islands with stops.
Any such island under this edge count will be pruned.

#### islandWithoutStopsMaxSize

**Since version:** `2.3` ∙ **Type:** `integer` ∙ **Cardinality:** `Optional` ∙ **Default value:** `10`

**Path:** /islandPruning

When a graph island without stops should be pruned.

This field indicates the pruning threshold for islands without
stops. Any such island under this edge count will be pruned.

#### adaptivePruningFactor

**Since version:** `2.3` ∙ **Type:** `double` ∙ **Cardinality:** `Optional` ∙ **Default value:** `50.0`

**Path:** /islandPruning

Defines how much pruning thresholds grow maximally by distance.

#### adaptivePruningDistance

**Since version:** `2.3` ∙ **Type:** `integer` ∙ **Cardinality:** `Optional` ∙ **Default value:** `250`

**Path:** /islandPruning

Search distance for analyzing islands in pruning.

### dataOverlay

**Since version:** `2.1` ∙ **Type:** `object` ∙ **Cardinality:** `Optional`

**Path:** /

See [/docs/sandbox/DataOverlay.md](/docs/sandbox/DataOverlay.md).

### transferRequests

**Since version:** `na` ∙ **Type:** `object[]` ∙ **Cardinality:** `Optional`

**Path:** /

See [/docs/RouteRequest.md](/docs/RouteRequest.md).

<!-- PARAMETERS-DETAILS END -->
"

/-- The files as entries of a directory tree. -/
def files : List (List String × Option ByteArray) := [
  (examplePath.parts, some exampleText.toUTF8),
  ((templates.child referenceName).parts, some template.toUTF8),
  ((docs.child referenceName).parts, some reference.toUTF8)]

end PlannerConfig.Project
