import PlannerConfig.Form

/-!
Preferences for changing between vehicles.
-/
namespace PlannerConfig

structure TransferPreferences where
  cost : Int := 0
  slack : Int := 120
  waitReluctance : Float := 1
  nonpreferredCost : Int := 180
  maxTransfers : Int := 12

def TransferPreferences.form : Form TransferPreferences TransferPreferences :=
  mk
    <$> .integer "transferPenalty" (·.cost) {
      summary := "An additional penalty added to boardings after the first."
      description := "
        The value is in OTP's internal weight units, which are roughly
        equivalent to seconds. Set this to a high value to discourage
        transfers. Of course, transfers that save significant time or
        walking will still be taken." }
    <*> .integer "transferSlack" (·.slack) {
      summary := "The extra time needed to make a safe transfer in seconds."
      description := "
        An expected transfer time in seconds that specifies the amount of
        time that must pass between exiting one public transport vehicle
        and boarding another. This time is in addition to time it might
        take to walk between stops, the board-slack, and the alight-slack." }
    <*> .double "waitReluctance" (·.waitReluctance) {
      summary := "How much worse is waiting for a transit vehicle than being on a transit vehicle,
        as a multiplier." }
    <*> .integer "nonpreferredTransferPenalty" (·.nonpreferredCost) {
      summary := "Penalty (in seconds) for using a non-preferred transfer."
      since := .v2_0 }
    <*> .integer "maxTransfers" (·.maxTransfers) {
      summary := "Maximum number of transfers."
      since := .v2_0 }

end PlannerConfig
