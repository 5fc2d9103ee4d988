/-!
# Entity platforms

The platforms that an integration may implement, each in a module of the platform's name.
-/

namespace QualityScale

/-- The names of the entity platforms, in the order in which they are checked. -/
def entityPlatforms : List String :=
  ["air_quality", "alarm_control_panel", "assist_satellite", "binary_sensor", "button",
   "calendar", "camera", "climate", "conversation", "cover", "date", "datetime", "device_tracker",
   "event", "fan", "geo_location", "humidifier", "image", "image_processing", "lawn_mower",
   "light", "lock", "media_player", "notify", "number", "remote", "scene", "select", "sensor",
   "siren", "stt", "switch", "text", "time", "todo", "tts", "update", "vacuum", "valve",
   "wake_word", "water_heater", "weather"]

/-- There are forty-two of them. -/
example : entityPlatforms.length = 42 := rfl

end QualityScale
