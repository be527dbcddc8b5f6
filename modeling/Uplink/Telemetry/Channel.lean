/-!
# Channels and sensors

The sensors and actuators that the cloud knows. Some channels carry telemetry and
have a name in the envelope; the others only take commands.
-/

namespace Uplink

/-- A sensor or actuator known to the cloud. -/
inductive Channel where
  | gps
  | flip
  | impact
  | button
  | pin
  | rgbLed
  | buzzer
  | temperature
  | humidity
  | airPressure
  | airQuality
  | linkRsrp
  | deviceInfo
deriving DecidableEq, Repr

/-- The name of a channel that can carry telemetry. -/
def Channel.appId? : Channel → Option String
  | gps => some "GPS"
  | flip => some "FLIP"
  | button => some "BUTTON"
  | temperature => some "TEMP"
  | humidity => some "HUMID"
  | airPressure => some "AIR_PRESS"
  | airQuality => some "AIR_QUAL"
  | linkRsrp => some "RSRP"
  | deviceInfo => some "DEVICE"
  | impact | pin | rgbLed | buzzer => none

/-- A kind of environmental sensor. -/
inductive EnvSensor where
  | temperature
  | humidity
  | airPressure
  | airQuality
deriving DecidableEq, Repr

/-- The channel on which a sensor is reported, if the cloud accepts it. -/
def EnvSensor.channel? : EnvSensor → Option Channel
  | temperature => some .temperature
  | humidity => some .humidity
  | airPressure => some .airPressure
  | airQuality => none

end Uplink
