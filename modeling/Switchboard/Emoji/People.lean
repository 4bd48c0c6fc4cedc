/-! The shortcodes of people and what they do. -/
namespace Switchboard.Emoji

def people : List (String × String) := [
  ("frowning_person", "🙍"), ("frowning_man", "🙍‍♂️"), ("frowning_woman", "🙍‍♀️"),
  ("pouting_face", "🙎"), ("pouting_man", "🙎‍♂️"), ("pouting_woman", "🙎‍♀️"), ("no_good", "🙅"),
  ("no_good_man", "🙅‍♂️"), ("ng_man", "🙅‍♂️"), ("no_good_woman", "🙅‍♀️"), ("ng_woman", "🙅‍♀️"),
  ("ok_person", "🙆"), ("ok_man", "🙆‍♂️"), ("ok_woman", "🙆‍♀️"), ("tipping_hand_person", "💁"),
  ("information_desk_person", "💁"), ("tipping_hand_man", "💁‍♂️"), ("sassy_man", "💁‍♂️"),
  ("tipping_hand_woman", "💁‍♀️"), ("sassy_woman", "💁‍♀️"), ("raising_hand", "🙋"),
  ("raising_hand_man", "🙋‍♂️"), ("raising_hand_woman", "🙋‍♀️"), ("deaf_person", "🧏"),
  ("deaf_man", "🧏‍♂️"), ("deaf_woman", "🧏‍♀️"), ("bow", "🙇"), ("bowing_man", "🙇‍♂️"),
  ("bowing_woman", "🙇‍♀️"), ("facepalm", "🤦"), ("man_facepalming", "🤦‍♂️"),
  ("woman_facepalming", "🤦‍♀️"), ("shrug", "🤷"), ("man_shrugging", "🤷‍♂️"),
  ("woman_shrugging", "🤷‍♀️"), ("health_worker", "🧑‍⚕️"), ("man_health_worker", "👨‍⚕️"),
  ("woman_health_worker", "👩‍⚕️"), ("student", "🧑‍🎓"), ("man_student", "👨‍🎓"),
  ("woman_student", "👩‍🎓"), ("teacher", "🧑‍🏫"), ("man_teacher", "👨‍🏫"),
  ("woman_teacher", "👩‍🏫"), ("judge", "🧑‍⚖️"), ("man_judge", "👨‍⚖️"), ("woman_judge", "👩‍⚖️"),
  ("farmer", "🧑‍🌾"), ("man_farmer", "👨‍🌾"), ("woman_farmer", "👩‍🌾"), ("cook", "🧑‍🍳"),
  ("man_cook", "👨‍🍳"), ("woman_cook", "👩‍🍳"), ("mechanic", "🧑‍🔧"), ("man_mechanic", "👨‍🔧"),
  ("woman_mechanic", "👩‍🔧"), ("factory_worker", "🧑‍🏭"), ("man_factory_worker", "👨‍🏭"),
  ("woman_factory_worker", "👩‍🏭"), ("office_worker", "🧑‍💼"), ("man_office_worker", "👨‍💼"),
  ("woman_office_worker", "👩‍💼"), ("scientist", "🧑‍🔬"), ("man_scientist", "👨‍🔬"),
  ("woman_scientist", "👩‍🔬"), ("technologist", "🧑‍💻"), ("man_technologist", "👨‍💻"),
  ("woman_technologist", "👩‍💻"), ("singer", "🧑‍🎤"), ("man_singer", "👨‍🎤"),
  ("woman_singer", "👩‍🎤"), ("artist", "🧑‍🎨"), ("man_artist", "👨‍🎨"), ("woman_artist", "👩‍🎨"),
  ("pilot", "🧑‍✈️"), ("man_pilot", "👨‍✈️"), ("woman_pilot", "👩‍✈️"), ("astronaut", "🧑‍🚀"),
  ("man_astronaut", "👨‍🚀"), ("woman_astronaut", "👩‍🚀"), ("firefighter", "🧑‍🚒"),
  ("man_firefighter", "👨‍🚒"), ("woman_firefighter", "👩‍🚒"), ("police_officer", "👮"),
  ("cop", "👮"), ("policeman", "👮‍♂️"), ("policewoman", "👮‍♀️"), ("detective", "🕵️"),
  ("male_detective", "🕵️‍♂️"), ("female_detective", "🕵️‍♀️"), ("guard", "💂"),
  ("guardsman", "💂‍♂️"), ("guardswoman", "💂‍♀️"), ("ninja", "🥷"), ("construction_worker", "👷"),
  ("construction_worker_man", "👷‍♂️"), ("construction_worker_woman", "👷‍♀️"),
  ("person_with_crown", "🫅"), ("prince", "🤴"), ("princess", "👸"), ("person_with_turban", "👳"),
  ("man_with_turban", "👳‍♂️"), ("woman_with_turban", "👳‍♀️"), ("man_with_gua_pi_mao", "👲"),
  ("woman_with_headscarf", "🧕"), ("person_in_tuxedo", "🤵"), ("man_in_tuxedo", "🤵‍♂️"),
  ("woman_in_tuxedo", "🤵‍♀️"), ("person_with_veil", "👰"), ("man_with_veil", "👰‍♂️"),
  ("woman_with_veil", "👰‍♀️"), ("bride_with_veil", "👰‍♀️"), ("pregnant_woman", "🤰"),
  ("pregnant_man", "🫃"), ("pregnant_person", "🫄"), ("breast_feeding", "🤱"),
  ("woman_feeding_baby", "👩‍🍼"), ("man_feeding_baby", "👨‍🍼"), ("person_feeding_baby", "🧑‍🍼"),
  ("angel", "👼"), ("santa", "🎅"), ("mrs_claus", "🤶"), ("mx_claus", "🧑‍🎄"), ("superhero", "🦸"),
  ("superhero_man", "🦸‍♂️"), ("superhero_woman", "🦸‍♀️"), ("supervillain", "🦹"),
  ("supervillain_man", "🦹‍♂️"), ("supervillain_woman", "🦹‍♀️"), ("mage", "🧙"),
  ("mage_man", "🧙‍♂️"), ("mage_woman", "🧙‍♀️"), ("fairy", "🧚"), ("fairy_man", "🧚‍♂️"),
  ("fairy_woman", "🧚‍♀️"), ("vampire", "🧛"), ("vampire_man", "🧛‍♂️"),
  ("vampire_woman", "🧛‍♀️"), ("merperson", "🧜"), ("merman", "🧜‍♂️"), ("mermaid", "🧜‍♀️"),
  ("elf", "🧝"), ("elf_man", "🧝‍♂️"), ("elf_woman", "🧝‍♀️"), ("genie", "🧞"),
  ("genie_man", "🧞‍♂️"), ("genie_woman", "🧞‍♀️"), ("zombie", "🧟"), ("zombie_man", "🧟‍♂️"),
  ("zombie_woman", "🧟‍♀️"), ("troll", "🧌"), ("massage", "💆"), ("massage_man", "💆‍♂️"),
  ("massage_woman", "💆‍♀️"), ("haircut", "💇"), ("haircut_man", "💇‍♂️"),
  ("haircut_woman", "💇‍♀️"), ("walking", "🚶"), ("walking_man", "🚶‍♂️"),
  ("walking_woman", "🚶‍♀️"), ("standing_person", "🧍"), ("standing_man", "🧍‍♂️"),
  ("standing_woman", "🧍‍♀️"), ("kneeling_person", "🧎"), ("kneeling_man", "🧎‍♂️"),
  ("kneeling_woman", "🧎‍♀️"), ("person_with_probing_cane", "🧑‍🦯"),
  ("man_with_probing_cane", "👨‍🦯"), ("woman_with_probing_cane", "👩‍🦯"),
  ("person_in_motorized_wheelchair", "🧑‍🦼"), ("man_in_motorized_wheelchair", "👨‍🦼"),
  ("woman_in_motorized_wheelchair", "👩‍🦼"), ("person_in_manual_wheelchair", "🧑‍🦽"),
  ("man_in_manual_wheelchair", "👨‍🦽"), ("woman_in_manual_wheelchair", "👩‍🦽"), ("runner", "🏃"),
  ("running", "🏃"), ("running_man", "🏃‍♂️"), ("running_woman", "🏃‍♀️"), ("woman_dancing", "💃"),
  ("dancer", "💃"), ("man_dancing", "🕺"), ("business_suit_levitating", "🕴️"), ("dancers", "👯"),
  ("dancing_men", "👯‍♂️"), ("dancing_women", "👯‍♀️"), ("sauna_person", "🧖"),
  ("sauna_man", "🧖‍♂️"), ("sauna_woman", "🧖‍♀️"), ("climbing", "🧗"), ("climbing_man", "🧗‍♂️"),
  ("climbing_woman", "🧗‍♀️"), ("person_fencing", "🤺"), ("horse_racing", "🏇"), ("skier", "⛷️"),
  ("snowboarder", "🏂"), ("golfing", "🏌️"), ("golfing_man", "🏌️‍♂️"),
  ("golfing_woman", "🏌️‍♀️"), ("surfer", "🏄"), ("surfing_man", "🏄‍♂️"),
  ("surfing_woman", "🏄‍♀️"), ("rowboat", "🚣"), ("rowing_man", "🚣‍♂️"),
  ("rowing_woman", "🚣‍♀️"), ("swimmer", "🏊"), ("swimming_man", "🏊‍♂️"),
  ("swimming_woman", "🏊‍♀️"), ("bouncing_ball_person", "⛹️"), ("bouncing_ball_man", "⛹️‍♂️"),
  ("basketball_man", "⛹️‍♂️"), ("bouncing_ball_woman", "⛹️‍♀️"), ("basketball_woman", "⛹️‍♀️"),
  ("weight_lifting", "🏋️"), ("weight_lifting_man", "🏋️‍♂️"), ("weight_lifting_woman", "🏋️‍♀️"),
  ("bicyclist", "🚴"), ("biking_man", "🚴‍♂️"), ("biking_woman", "🚴‍♀️"),
  ("mountain_bicyclist", "🚵"), ("mountain_biking_man", "🚵‍♂️"),
  ("mountain_biking_woman", "🚵‍♀️"), ("cartwheeling", "🤸"), ("man_cartwheeling", "🤸‍♂️"),
  ("woman_cartwheeling", "🤸‍♀️"), ("wrestling", "🤼"), ("men_wrestling", "🤼‍♂️"),
  ("women_wrestling", "🤼‍♀️"), ("water_polo", "🤽"), ("man_playing_water_polo", "🤽‍♂️"),
  ("woman_playing_water_polo", "🤽‍♀️"), ("handball_person", "🤾"),
  ("man_playing_handball", "🤾‍♂️"), ("woman_playing_handball", "🤾‍♀️"),
  ("juggling_person", "🤹"), ("man_juggling", "🤹‍♂️"), ("woman_juggling", "🤹‍♀️"),
  ("lotus_position", "🧘"), ("lotus_position_man", "🧘‍♂️"), ("lotus_position_woman", "🧘‍♀️"),
  ("bath", "🛀"), ("sleeping_bed", "🛌"), ("people_holding_hands", "🧑‍🤝‍🧑"),
  ("two_women_holding_hands", "👭"), ("couple", "👫"), ("two_men_holding_hands", "👬"),
  ("couplekiss", "💏"), ("couplekiss_man_woman", "👩‍❤️‍💋‍👨"),
  ("couplekiss_man_man", "👨‍❤️‍💋‍👨"), ("couplekiss_woman_woman", "👩‍❤️‍💋‍👩"),
  ("couple_with_heart", "💑"), ("couple_with_heart_woman_man", "👩‍❤️‍👨"),
  ("couple_with_heart_man_man", "👨‍❤️‍👨"), ("couple_with_heart_woman_woman", "👩‍❤️‍👩"),
  ("family", "👪"), ("family_man_woman_boy", "👨‍👩‍👦"), ("family_man_woman_girl", "👨‍👩‍👧"),
  ("family_man_woman_girl_boy", "👨‍👩‍👧‍👦"), ("family_man_woman_boy_boy", "👨‍👩‍👦‍👦"),
  ("family_man_woman_girl_girl", "👨‍👩‍👧‍👧"), ("family_man_man_boy", "👨‍👨‍👦"),
  ("family_man_man_girl", "👨‍👨‍👧"), ("family_man_man_girl_boy", "👨‍👨‍👧‍👦"),
  ("family_man_man_boy_boy", "👨‍👨‍👦‍👦"), ("family_man_man_girl_girl", "👨‍👨‍👧‍👧"),
  ("family_woman_woman_boy", "👩‍👩‍👦"), ("family_woman_woman_girl", "👩‍👩‍👧"),
  ("family_woman_woman_girl_boy", "👩‍👩‍👧‍👦"), ("family_woman_woman_boy_boy", "👩‍👩‍👦‍👦"),
  ("family_woman_woman_girl_girl", "👩‍👩‍👧‍👧"), ("family_man_boy", "👨‍👦"),
  ("family_man_boy_boy", "👨‍👦‍👦"), ("family_man_girl", "👨‍👧"),
  ("family_man_girl_boy", "👨‍👧‍👦"), ("family_man_girl_girl", "👨‍👧‍👧"),
  ("family_woman_boy", "👩‍👦"), ("family_woman_boy_boy", "👩‍👦‍👦"), ("family_woman_girl", "👩‍👧"),
  ("family_woman_girl_boy", "👩‍👧‍👦"), ("family_woman_girl_girl", "👩‍👧‍👧"),
  ("speaking_head", "🗣️"), ("bust_in_silhouette", "👤"), ("busts_in_silhouette", "👥"),
  ("people_hugging", "🫂"), ("footprints", "👣")]

end Switchboard.Emoji
