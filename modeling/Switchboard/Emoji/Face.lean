/-! The shortcodes of faces, hearts and feelings. -/
namespace Switchboard.Emoji

def faces : List (String × String) := [
  ("grinning", "😀"), ("smiley", "😃"), ("smile", "😄"), ("grin", "😁"), ("laughing", "😆"),
  ("satisfied", "😆"), ("sweat_smile", "😅"), ("rofl", "🤣"), ("joy", "😂"),
  ("slightly_smiling_face", "🙂"), ("upside_down_face", "🙃"), ("melting_face", "🫠"),
  ("wink", "😉"), ("blush", "😊"), ("innocent", "😇"), ("smiling_face_with_three_hearts", "🥰"),
  ("heart_eyes", "😍"), ("star_struck", "🤩"), ("kissing_heart", "😘"), ("kissing", "😗"),
  ("relaxed", "☺️"), ("kissing_closed_eyes", "😚"), ("kissing_smiling_eyes", "😙"),
  ("smiling_face_with_tear", "🥲"), ("yum", "😋"), ("stuck_out_tongue", "😛"),
  ("stuck_out_tongue_winking_eye", "😜"), ("zany_face", "🤪"),
  ("stuck_out_tongue_closed_eyes", "😝"), ("money_mouth_face", "🤑"), ("hugs", "🤗"),
  ("hand_over_mouth", "🤭"), ("face_with_open_eyes_and_hand_over_mouth", "🫢"),
  ("face_with_peeking_eye", "🫣"), ("shushing_face", "🤫"), ("thinking", "🤔"),
  ("saluting_face", "🫡"), ("zipper_mouth_face", "🤐"), ("raised_eyebrow", "🤨"),
  ("neutral_face", "😐"), ("expressionless", "😑"), ("no_mouth", "😶"), ("dotted_line_face", "🫥"),
  ("face_in_clouds", "😶‍🌫️"), ("smirk", "😏"), ("unamused", "😒"), ("roll_eyes", "🙄"),
  ("grimacing", "😬"), ("face_exhaling", "😮‍💨"), ("lying_face", "🤥"), ("shaking_face", "🫨"),
  ("relieved", "😌"), ("pensive", "😔"), ("sleepy", "😪"), ("drooling_face", "🤤"),
  ("sleeping", "😴"), ("mask", "😷"), ("face_with_thermometer", "🤒"),
  ("face_with_head_bandage", "🤕"), ("nauseated_face", "🤢"), ("vomiting_face", "🤮"),
  ("sneezing_face", "🤧"), ("hot_face", "🥵"), ("cold_face", "🥶"), ("woozy_face", "🥴"),
  ("dizzy_face", "😵"), ("face_with_spiral_eyes", "😵‍💫"), ("exploding_head", "🤯"),
  ("cowboy_hat_face", "🤠"), ("partying_face", "🥳"), ("disguised_face", "🥸"),
  ("sunglasses", "😎"), ("nerd_face", "🤓"), ("monocle_face", "🧐"), ("confused", "😕"),
  ("face_with_diagonal_mouth", "🫤"), ("worried", "😟"), ("slightly_frowning_face", "🙁"),
  ("frowning_face", "☹️"), ("open_mouth", "😮"), ("hushed", "😯"), ("astonished", "😲"),
  ("flushed", "😳"), ("pleading_face", "🥺"), ("face_holding_back_tears", "🥹"),
  ("frowning", "😦"), ("anguished", "😧"), ("fearful", "😨"), ("cold_sweat", "😰"),
  ("disappointed_relieved", "😥"), ("cry", "😢"), ("sob", "😭"), ("scream", "😱"),
  ("confounded", "😖"), ("persevere", "😣"), ("disappointed", "😞"), ("sweat", "😓"),
  ("weary", "😩"), ("tired_face", "😫"), ("yawning_face", "🥱"), ("triumph", "😤"), ("rage", "😡"),
  ("pout", "😡"), ("angry", "😠"), ("cursing_face", "🤬"), ("smiling_imp", "😈"), ("imp", "👿"),
  ("skull", "💀"), ("skull_and_crossbones", "☠️"), ("hankey", "💩"), ("poop", "💩"),
  ("shit", "💩"), ("clown_face", "🤡"), ("japanese_ogre", "👹"), ("japanese_goblin", "👺"),
  ("ghost", "👻"), ("alien", "👽"), ("space_invader", "👾"), ("robot", "🤖"), ("smiley_cat", "😺"),
  ("smile_cat", "😸"), ("joy_cat", "😹"), ("heart_eyes_cat", "😻"), ("smirk_cat", "😼"),
  ("kissing_cat", "😽"), ("scream_cat", "🙀"), ("crying_cat_face", "😿"), ("pouting_cat", "😾"),
  ("see_no_evil", "🙈"), ("hear_no_evil", "🙉"), ("speak_no_evil", "🙊"), ("love_letter", "💌"),
  ("cupid", "💘"), ("gift_heart", "💝"), ("sparkling_heart", "💖"), ("heartpulse", "💗"),
  ("heartbeat", "💓"), ("revolving_hearts", "💞"), ("two_hearts", "💕"),
  ("heart_decoration", "💟"), ("heavy_heart_exclamation", "❣️"), ("broken_heart", "💔"),
  ("heart_on_fire", "❤️‍🔥"), ("mending_heart", "❤️‍🩹"), ("heart", "❤️"), ("pink_heart", "🩷"),
  ("orange_heart", "🧡"), ("yellow_heart", "💛"), ("green_heart", "💚"), ("blue_heart", "💙"),
  ("light_blue_heart", "🩵"), ("purple_heart", "💜"), ("brown_heart", "🤎"), ("black_heart", "🖤"),
  ("grey_heart", "🩶"), ("white_heart", "🤍"), ("kiss", "💋"), ("100", "💯"), ("anger", "💢"),
  ("boom", "💥"), ("collision", "💥"), ("dizzy", "💫"), ("sweat_drops", "💦"), ("dash", "💨"),
  ("hole", "🕳️"), ("speech_balloon", "💬"), ("eye_speech_bubble", "👁️‍🗨️"),
  ("left_speech_bubble", "🗨️"), ("right_anger_bubble", "🗯️"), ("thought_balloon", "💭"),
  ("zzz", "💤")]

end Switchboard.Emoji
