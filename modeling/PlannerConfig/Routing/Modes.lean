import PlannerConfig.Choice

/-!
Transport modes, and the mode list of a route request such as `TRANSIT,WALK`.
-/
namespace PlannerConfig

open PlannerConfig.Text

/-- The mode of a public transport vehicle. -/
inductive TransitMode
  | rail
  | coach
  | subway
  | bus
  | tram
  | ferry
  | airplane
  | cableCar
  | gondola
  | funicular
  | trolleybus
  | monorail
  | carpool
  | taxi
  deriving DecidableEq, Repr

namespace TransitMode

def label : TransitMode → String
  | rail => "rail"
  | coach => "coach"
  | subway => "subway"
  | bus => "bus"
  | tram => "tram"
  | ferry => "ferry"
  | airplane => "airplane"
  | cableCar => "cable-car"
  | gondola => "gondola"
  | funicular => "funicular"
  | trolleybus => "trolleybus"
  | monorail => "monorail"
  | carpool => "carpool"
  | taxi => "taxi"

instance : Choice TransitMode where
  enumeration := ⟨"TransitMode",
    [rail, coach, subway, bus, tram, ferry, airplane, cableCar, gondola, funicular,
    trolleybus, monorail, carpool, taxi],
    fun m => .ofLabel m.label⟩
  mem_members := by intro m; cases m <;> decide

end TransitMode

/-- How the street network is used on the way to, from or between stops, or without transit. -/
inductive StreetMode
  | notSet
  | walk
  | bike
  | bikeToPark
  | bikeRental
  | scooterRental
  | car
  | carToPark
  | carPickup
  | carRental
  | flexible
  deriving DecidableEq, Repr

namespace StreetMode

def label : StreetMode → String
  | notSet => "not-set"
  | walk => "walk"
  | bike => "bike"
  | bikeToPark => "bike-to-park"
  | bikeRental => "bike-rental"
  | scooterRental => "scooter-rental"
  | car => "car"
  | carToPark => "car-to-park"
  | carPickup => "car-pickup"
  | carRental => "car-rental"
  | flexible => "flexible"

instance : Choice StreetMode where
  enumeration := ⟨"StreetMode",
    [notSet, walk, bike, bikeToPark, bikeRental, scooterRental, car, carToPark, carPickup,
    carRental, flexible],
    fun m => .ofLabel m.label⟩
  mem_members := by intro m; cases m <;> decide

end StreetMode

/-- The street modes of each part of a trip and the transit modes that are allowed. -/
structure RequestModes where
  access : StreetMode := .walk
  egress : StreetMode := .walk
  direct : StreetMode := .walk
  transfer : StreetMode := .walk
  transit : ChoiceSet TransitMode := ChoiceSet.full TransitMode
  deriving DecidableEq

/-- A street word of a mode list. -/
inductive StreetWord
  | walk
  | bicycle
  | bicycleRent
  | bicyclePark
  | scooterRent
  | car
  | carPark
  | carPickup
  | carRent
  | flex
  deriving DecidableEq, Repr

namespace StreetWord

/-- The words by their spellings in upper case; `BIKE` is another spelling of `BICYCLE`. -/
def spellings : List (String × StreetWord) := [
  ("WALK", walk), ("BICYCLE", bicycle), ("BICYCLE_RENT", bicycleRent),
  ("BICYCLE_PARK", bicyclePark), ("SCOOTER_RENT", scooterRent), ("CAR", car),
  ("CAR_PARK", carPark), ("CAR_PICKUP", carPickup), ("CAR_RENT", carRent), ("FLEX", flex),
  ("BIKE", bicycle)]

/-- The modes of access, egress and direct trips. -/
def modes : StreetWord → StreetMode × StreetMode × StreetMode
  | walk => (.walk, .walk, .walk)
  | bicycle => (.bike, .bike, .bike)
  | bicycleRent => (.bikeRental, .bikeRental, .bikeRental)
  | bicyclePark => (.bikeToPark, .walk, .bikeToPark)
  | scooterRent => (.scooterRental, .scooterRental, .scooterRental)
  | car => (.car, .car, .car)
  | carPark => (.carToPark, .walk, .carToPark)
  | carPickup => (.carPickup, .carPickup, .carPickup)
  | carRent => (.carRental, .carRental, .carRental)
  | flex => (.flexible, .flexible, .walk)

end StreetWord

/-- What a word of a mode list means. -/
inductive ModeWord
  | street (spelling : String) (word : StreetWord)
  | allTransit
  | transit (mode : TransitMode)
  deriving DecidableEq, Repr

/-- Why a text is no mode list. -/
inductive ModeError
  | empty
  | unknown (word : String)
  | severalStreetModes (words : List String)
  deriving DecidableEq, Repr

def ModeError.message : ModeError → String
  | empty => "The mode list is empty"
  | unknown word => "Unknown mode '" ++ word ++ "'"
  | severalStreetModes words => "Only one street mode is allowed, got " ++ join ", " words

namespace ModeWord

/-- The meaning of a word in upper case. -/
def ofSpelling (word : String) : Except ModeError ModeWord :=
  match StreetWord.spellings.lookup word with
  | some w => return .street word w
  | none =>
    if word = "TRANSIT" then return .allTransit
    else
      match Choice.ofName? word with
      | some m => return .transit m
      | none => throw (.unknown word)

def street? : ModeWord → Option (String × StreetWord)
  | street spelling word => some (spelling, word)
  | _ => none

/-- The transit modes that a word allows. -/
def transitModes : ModeWord → List TransitMode
  | street .. => []
  | allTransit => Choice.all TransitMode
  | transit m => [m]

end ModeWord

namespace RequestModes

/-- The words between the commas of a mode list that are not blank, trimmed, in upper case and with
underscores for hyphens. -/
def spellings (cs : List Char) : List String :=
  ((splitWhere (· == ',') cs).map trimChars).filter (· ≠ []) |>.map fun w =>
    String.ofList (replaceChar '-' '_' (upperChars w))

/-- The modes that a street word and transit modes amount to. -/
def ofWords (street : StreetWord) (transit : List TransitMode) : RequestModes :=
  let (access, egress, direct) := street.modes
  { access, egress, direct
    transfer := if access = .bike then .bike else .walk
    transit := ChoiceSet.ofList transit }

/-- Reads a mode list. `TRANSIT` allows every transit mode, and a trip without a street word starts
and ends on foot. -/
def parse (s : String) : Except ModeError RequestModes := do
  let spelled := spellings s.toList
  if spelled = [] then throw .empty
  let words ← spelled.mapM ModeWord.ofSpelling
  match words.filterMap ModeWord.street? with
  | [] => return ofWords .walk (words.flatMap ModeWord.transitModes)
  | [(_, street)] => return ofWords street (words.flatMap ModeWord.transitModes)
  | several => throw (.severalStreetModes (several.map (·.1)))

end RequestModes

end PlannerConfig
