import PlannerConfig.Booking.TimeOfDay
import PlannerConfig.Form

/-!
Booking rules of flexible transit: how a trip is booked, and how long in advance.
-/
namespace PlannerConfig

/-- A way of booking. -/
inductive BookingMethod
  | callDriver
  | callOffice
  | online
  | phoneAtStop
  | text
  deriving DecidableEq, Repr

namespace BookingMethod

def label : BookingMethod → String
  | callDriver => "call-driver"
  | callOffice => "call-office"
  | online => "online"
  | phoneAtStop => "phone-at-stop"
  | text => "text"

instance : Choice BookingMethod where
  enumeration := ⟨"BookingMethod", [callDriver, callOffice, online, phoneAtStop, text],
    fun m => .ofLabel m.label⟩
  mem_members := by intro m; cases m <;> decide

end BookingMethod

/-- Whom to contact. -/
structure ContactInfo where
  contactPerson : Option String := none
  phoneNumber : Option String := none
  email : Option String := none
  faxNumber : Option String := none
  infoUrl : Option String := none
  bookingUrl : Option String := none
  additionalDetails : Option String := none
  deriving DecidableEq, Repr

def ContactInfo.form : Form ContactInfo ContactInfo :=
  mk
    <$> .optionalString "contactPerson" (·.contactPerson) {
      summary := "Name of the person to contact."
      since := .v2_1 }
    <*> .optionalString "phone" (·.phoneNumber) {
      summary := "Phone number to call."
      since := .v2_1 }
    <*> .optionalString "eMail" (·.email) {
      summary := "Email address to write to."
      since := .v2_1 }
    <*> .optionalString "fax" (·.faxNumber) {
      summary := "Fax number."
      since := .v2_1 }
    <*> .optionalString "url" (·.infoUrl) {
      summary := "Web page with more information."
      since := .v2_1 }
    <*> .optionalString "bookingUrl" (·.bookingUrl) {
      summary := "Web page where the trip can be booked."
      since := .v2_1 }
    <*> .optionalString "additionalDetails" (·.additionalDetails) {
      summary := "Any other contact information."
      since := .v2_1 }

/-- A time of day some days before travel. -/
structure BookingTime where
  timeOfDay : TimeOfDay
  daysPrior : Int := 0
  deriving DecidableEq, Repr

/-- Nothing unless there is a time of day. -/
def BookingTime.form : Form Unit (Option BookingTime) :=
  (fun time daysPrior => time.map fun t => ⟨t, daysPrior⟩)
    <$> .scalar "time" Kind.timeOfDay.optional (fun _ => none) {
      summary := "Time of day, as HH:MM."
      since := .v2_1 }
    <*> .integer "daysPrior" (fun _ => 0) {
      summary := "Number of days before the day of travel."
      since := .v2_1 }

structure BookingInfo where
  contact : ContactInfo := {}
  methods : ChoiceSet BookingMethod := .empty
  earliest : Option BookingTime := none
  latest : Option BookingTime := none
  minimumNotice : Option Duration := none
  maximumNotice : Option Duration := none
  message : Option String := none
  pickupMessage : Option String := none
  dropOffMessage : Option String := none
  deriving DecidableEq

namespace BookingInfo

def bookingTime (name summary : String) : Form BookingInfo (Option BookingTime) :=
  .group name (.zoom (fun _ => ()) BookingTime.form) { summary, since := .v2_1 }

def form : Form BookingInfo BookingInfo :=
  mk
    <$> .group "contactInfo" (.zoom (·.contact) ContactInfo.form) {
      summary := "Who to contact to book the trip."
      since := .v2_1 }
    <*> .scalar "bookingMethods" (.choiceSet BookingMethod) (·.methods) {
      summary := "The ways the trip may be booked."
      since := .v2_1 }
    <*> bookingTime "earliestBookingTime" "The earliest time the trip can be booked."
    <*> bookingTime "latestBookingTime" "The latest time the trip can be booked."
    <*> .optionalDuration "minimumBookingNotice" (·.minimumNotice) {
      summary := "Minimum time between booking and the start of the trip."
      since := .v2_1 }
    <*> .optionalDuration "maximumBookingNotice" (·.maximumNotice) {
      summary := "Maximum time between booking and the start of the trip."
      since := .v2_1 }
    <*> .optionalString "message" (·.message) {
      summary := "General information about booking the trip."
      since := .v2_1 }
    <*> .optionalString "pickupMessage" (·.pickupMessage) {
      summary := "Information about booking the pickup."
      since := .v2_1 }
    <*> .optionalString "dropOffMessage" (·.dropOffMessage) {
      summary := "Information about booking the drop off."
      since := .v2_1 }

end BookingInfo

end PlannerConfig
