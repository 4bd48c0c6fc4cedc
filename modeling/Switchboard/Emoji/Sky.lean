/-! The shortcodes of time, sky and weather. -/
namespace Switchboard.Emoji

def sky : List (String × String) := [
  ("hourglass", "⌛"), ("hourglass_flowing_sand", "⏳"), ("watch", "⌚"), ("alarm_clock", "⏰"),
  ("stopwatch", "⏱️"), ("timer_clock", "⏲️"), ("mantelpiece_clock", "🕰️"), ("clock12", "🕛"),
  ("clock1230", "🕧"), ("clock1", "🕐"), ("clock130", "🕜"), ("clock2", "🕑"), ("clock230", "🕝"),
  ("clock3", "🕒"), ("clock330", "🕞"), ("clock4", "🕓"), ("clock430", "🕟"), ("clock5", "🕔"),
  ("clock530", "🕠"), ("clock6", "🕕"), ("clock630", "🕡"), ("clock7", "🕖"), ("clock730", "🕢"),
  ("clock8", "🕗"), ("clock830", "🕣"), ("clock9", "🕘"), ("clock930", "🕤"), ("clock10", "🕙"),
  ("clock1030", "🕥"), ("clock11", "🕚"), ("clock1130", "🕦"), ("new_moon", "🌑"),
  ("waxing_crescent_moon", "🌒"), ("first_quarter_moon", "🌓"), ("moon", "🌔"),
  ("waxing_gibbous_moon", "🌔"), ("full_moon", "🌕"), ("waning_gibbous_moon", "🌖"),
  ("last_quarter_moon", "🌗"), ("waning_crescent_moon", "🌘"), ("crescent_moon", "🌙"),
  ("new_moon_with_face", "🌚"), ("first_quarter_moon_with_face", "🌛"),
  ("last_quarter_moon_with_face", "🌜"), ("thermometer", "🌡️"), ("sunny", "☀️"),
  ("full_moon_with_face", "🌝"), ("sun_with_face", "🌞"), ("ringed_planet", "🪐"), ("star", "⭐"),
  ("star2", "🌟"), ("stars", "🌠"), ("milky_way", "🌌"), ("cloud", "☁️"), ("partly_sunny", "⛅"),
  ("cloud_with_lightning_and_rain", "⛈️"), ("sun_behind_small_cloud", "🌤️"),
  ("sun_behind_large_cloud", "🌥️"), ("sun_behind_rain_cloud", "🌦️"), ("cloud_with_rain", "🌧️"),
  ("cloud_with_snow", "🌨️"), ("cloud_with_lightning", "🌩️"), ("tornado", "🌪️"), ("fog", "🌫️"),
  ("wind_face", "🌬️"), ("cyclone", "🌀"), ("rainbow", "🌈"), ("closed_umbrella", "🌂"),
  ("open_umbrella", "☂️"), ("umbrella", "☔"), ("parasol_on_ground", "⛱️"), ("zap", "⚡"),
  ("snowflake", "❄️"), ("snowman_with_snow", "☃️"), ("snowman", "⛄"), ("comet", "☄️"),
  ("fire", "🔥"), ("droplet", "💧"), ("ocean", "🌊")]

end Switchboard.Emoji
