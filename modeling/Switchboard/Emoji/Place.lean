/-! The shortcodes of places and vehicles. -/
namespace Switchboard.Emoji

def places : List (String × String) := [
  ("earth_africa", "🌍"), ("earth_americas", "🌎"), ("earth_asia", "🌏"),
  ("globe_with_meridians", "🌐"), ("world_map", "🗺️"), ("japan", "🗾"), ("compass", "🧭"),
  ("mountain_snow", "🏔️"), ("mountain", "⛰️"), ("volcano", "🌋"), ("mount_fuji", "🗻"),
  ("camping", "🏕️"), ("beach_umbrella", "🏖️"), ("desert", "🏜️"), ("desert_island", "🏝️"),
  ("national_park", "🏞️"), ("stadium", "🏟️"), ("classical_building", "🏛️"),
  ("building_construction", "🏗️"), ("bricks", "🧱"), ("rock", "🪨"), ("wood", "🪵"), ("hut", "🛖"),
  ("houses", "🏘️"), ("derelict_house", "🏚️"), ("house", "🏠"), ("house_with_garden", "🏡"),
  ("office", "🏢"), ("post_office", "🏣"), ("european_post_office", "🏤"), ("hospital", "🏥"),
  ("bank", "🏦"), ("hotel", "🏨"), ("love_hotel", "🏩"), ("convenience_store", "🏪"),
  ("school", "🏫"), ("department_store", "🏬"), ("factory", "🏭"), ("japanese_castle", "🏯"),
  ("european_castle", "🏰"), ("wedding", "💒"), ("tokyo_tower", "🗼"), ("statue_of_liberty", "🗽"),
  ("church", "⛪"), ("mosque", "🕌"), ("hindu_temple", "🛕"), ("synagogue", "🕍"),
  ("shinto_shrine", "⛩️"), ("kaaba", "🕋"), ("fountain", "⛲"), ("tent", "⛺"), ("foggy", "🌁"),
  ("night_with_stars", "🌃"), ("cityscape", "🏙️"), ("sunrise_over_mountains", "🌄"),
  ("sunrise", "🌅"), ("city_sunset", "🌆"), ("city_sunrise", "🌇"), ("bridge_at_night", "🌉"),
  ("hotsprings", "♨️"), ("carousel_horse", "🎠"), ("playground_slide", "🛝"),
  ("ferris_wheel", "🎡"), ("roller_coaster", "🎢"), ("barber", "💈"), ("circus_tent", "🎪"),
  ("steam_locomotive", "🚂"), ("railway_car", "🚃"), ("bullettrain_side", "🚄"),
  ("bullettrain_front", "🚅"), ("train2", "🚆"), ("metro", "🚇"), ("light_rail", "🚈"),
  ("station", "🚉"), ("tram", "🚊"), ("monorail", "🚝"), ("mountain_railway", "🚞"),
  ("train", "🚋"), ("bus", "🚌"), ("oncoming_bus", "🚍"), ("trolleybus", "🚎"), ("minibus", "🚐"),
  ("ambulance", "🚑"), ("fire_engine", "🚒"), ("police_car", "🚓"), ("oncoming_police_car", "🚔"),
  ("taxi", "🚕"), ("oncoming_taxi", "🚖"), ("car", "🚗"), ("red_car", "🚗"),
  ("oncoming_automobile", "🚘"), ("blue_car", "🚙"), ("pickup_truck", "🛻"), ("truck", "🚚"),
  ("articulated_lorry", "🚛"), ("tractor", "🚜"), ("racing_car", "🏎️"), ("motorcycle", "🏍️"),
  ("motor_scooter", "🛵"), ("manual_wheelchair", "🦽"), ("motorized_wheelchair", "🦼"),
  ("auto_rickshaw", "🛺"), ("bike", "🚲"), ("kick_scooter", "🛴"), ("skateboard", "🛹"),
  ("roller_skate", "🛼"), ("busstop", "🚏"), ("motorway", "🛣️"), ("railway_track", "🛤️"),
  ("oil_drum", "🛢️"), ("fuelpump", "⛽"), ("wheel", "🛞"), ("rotating_light", "🚨"),
  ("traffic_light", "🚥"), ("vertical_traffic_light", "🚦"), ("stop_sign", "🛑"),
  ("construction", "🚧"), ("anchor", "⚓"), ("ring_buoy", "🛟"), ("boat", "⛵"), ("sailboat", "⛵"),
  ("canoe", "🛶"), ("speedboat", "🚤"), ("passenger_ship", "🛳️"), ("ferry", "⛴️"),
  ("motor_boat", "🛥️"), ("ship", "🚢"), ("airplane", "✈️"), ("small_airplane", "🛩️"),
  ("flight_departure", "🛫"), ("flight_arrival", "🛬"), ("parachute", "🪂"), ("seat", "💺"),
  ("helicopter", "🚁"), ("suspension_railway", "🚟"), ("mountain_cableway", "🚠"),
  ("aerial_tramway", "🚡"), ("artificial_satellite", "🛰️"), ("rocket", "🚀"),
  ("flying_saucer", "🛸"), ("bellhop_bell", "🛎️"), ("luggage", "🧳")]

end Switchboard.Emoji
