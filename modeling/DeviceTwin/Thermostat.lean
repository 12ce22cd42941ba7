import DeviceTwin.Json.Schema

/-!
The values of a thermostat: a range of humidity, and the state of the device as a whole.
-/
namespace DeviceTwin.Thermostat
open Json Json.Schema

def humidityRange : Schema :=
  .record "HumidityRange" [required "min" .u8, required "max" .u8, ⟨"label", .optional .text, .nullable⟩]

def temperatureRange : Schema :=
  .record "Range" [required "min" .double, required "max" .double]

def state : Schema :=
  .record "Thermostat"
    [required "name" .text, ⟨"target", .optional .double, .nullable⟩, required "range" temperatureRange,
     required "history" (.sequence (.optional .i32)), defaulted "enabled" .boolean (.bool false)]

end DeviceTwin.Thermostat
