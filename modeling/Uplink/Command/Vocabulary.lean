import Uplink.Command.Basic

/-!
# The vocabulary of the cloud

The two command trees. Every path has four keys: group, recipient, channel, action.
Their order is the order in which commands are reported.
-/

namespace Uplink.Vocabulary

/-- A key for an action. -/
def action (key : String) (action : CommandAction) : Node := .node key (.action action) []

/-- A key for a channel. -/
def channel (key : String) (channel : Channel) (actions : List Node) : Node :=
  .node key (.channel channel) actions

/-- A sensor whose reporting can be switched and whose thresholds can be set. -/
def thresholds (key : String) (sensor : Channel) : Node :=
  channel key sensor [
    action "enable" .enable,
    action "disable" .disable,
    action "threshold_high" .thresholdHigh,
    action "threshold_low" .thresholdLow]

/-- A channel that can be read, with further actions. -/
def readable (key : String) (source : Channel) (more : List Node) : Node :=
  channel key source ([action "read" .read, action "read_all" .read] ++ more)

/-- The commands that change a setting. -/
def setCommands : Node := .node "set" (.group .set) [
  .node "environment" (.recipient .environment) [
    thresholds "humidity" .humidity,
    thresholds "pressure" .airPressure,
    thresholds "temperature" .temperature,
    thresholds "air_quality" .airQuality],
  .node "motion" (.recipient .motion) [
    thresholds "flip" .flip,
    thresholds "impact" .impact],
  .node "ui" (.recipient .ui) [
    channel "pin" .pin [
      action "enable" .enable,
      action "disable" .disable,
      action "pwm" .pwm],
    channel "led" .rgbLed [
      action "red" .ledRed,
      action "green" .ledGreen,
      action "blue" .ledBlue,
      action "pulse_length" .ledPulseLength,
      action "pause" .ledPauseLength],
    channel "buzzer" .buzzer [
      action "enable" .enable,
      action "disable" .disable,
      action "play_melody" .playMelody,
      action "play_note" .playNote]]]

/-- The commands that ask for a reading. -/
def getCommands : Node := .node "get" (.group .get) [
  .node "environment" (.recipient .environment) [
    readable "humidity" .humidity [],
    readable "pressure" .airPressure [],
    readable "temperature" .temperature [],
    readable "air_quality" .airQuality []],
  .node "modem_info" (.recipient .modemInfo) [
    readable "device" .deviceInfo [action "read_new" .readNew],
    readable "rsrp" .linkRsrp []],
  .node "motion" (.recipient .motion) [
    readable "flip" .flip [],
    readable "impact" .impact []],
  .node "ui" (.recipient .ui) [
    readable "pin" .pin [],
    readable "led" .rgbLed [],
    readable "buzzer" .buzzer []]]

/-- The tree of a group. -/
def tree : CommandGroup → Node
  | .set => setCommands
  | .get => getCommands

/-- The groups in the order in which a document is searched for them. -/
def groups : List CommandGroup := [.get, .set]

end Uplink.Vocabulary
