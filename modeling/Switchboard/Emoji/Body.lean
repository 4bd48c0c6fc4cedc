/-! The shortcodes of hands, parts of the body and portraits. -/
namespace Switchboard.Emoji

def body : List (String × String) := [
  ("wave", "👋"), ("raised_back_of_hand", "🤚"), ("raised_hand_with_fingers_splayed", "🖐️"),
  ("hand", "✋"), ("raised_hand", "✋"), ("vulcan_salute", "🖖"), ("rightwards_hand", "🫱"),
  ("leftwards_hand", "🫲"), ("palm_down_hand", "🫳"), ("palm_up_hand", "🫴"),
  ("leftwards_pushing_hand", "🫷"), ("rightwards_pushing_hand", "🫸"), ("ok_hand", "👌"),
  ("pinched_fingers", "🤌"), ("pinching_hand", "🤏"), ("v", "✌️"), ("crossed_fingers", "🤞"),
  ("hand_with_index_finger_and_thumb_crossed", "🫰"), ("love_you_gesture", "🤟"), ("metal", "🤘"),
  ("call_me_hand", "🤙"), ("point_left", "👈"), ("point_right", "👉"), ("point_up_2", "👆"),
  ("middle_finger", "🖕"), ("fu", "🖕"), ("point_down", "👇"), ("point_up", "☝️"),
  ("index_pointing_at_the_viewer", "🫵"), ("+1", "👍"), ("thumbsup", "👍"), ("-1", "👎"),
  ("thumbsdown", "👎"), ("fist_raised", "✊"), ("fist", "✊"), ("fist_oncoming", "👊"),
  ("facepunch", "👊"), ("punch", "👊"), ("fist_left", "🤛"), ("fist_right", "🤜"), ("clap", "👏"),
  ("raised_hands", "🙌"), ("heart_hands", "🫶"), ("open_hands", "👐"), ("palms_up_together", "🤲"),
  ("handshake", "🤝"), ("pray", "🙏"), ("writing_hand", "✍️"), ("nail_care", "💅"),
  ("selfie", "🤳"), ("muscle", "💪"), ("mechanical_arm", "🦾"), ("mechanical_leg", "🦿"),
  ("leg", "🦵"), ("foot", "🦶"), ("ear", "👂"), ("ear_with_hearing_aid", "🦻"), ("nose", "👃"),
  ("brain", "🧠"), ("anatomical_heart", "🫀"), ("lungs", "🫁"), ("tooth", "🦷"), ("bone", "🦴"),
  ("eyes", "👀"), ("eye", "👁️"), ("tongue", "👅"), ("lips", "👄"), ("biting_lip", "🫦"),
  ("baby", "👶"), ("child", "🧒"), ("boy", "👦"), ("girl", "👧"), ("adult", "🧑"),
  ("blond_haired_person", "👱"), ("man", "👨"), ("bearded_person", "🧔"), ("man_beard", "🧔‍♂️"),
  ("woman_beard", "🧔‍♀️"), ("red_haired_man", "👨‍🦰"), ("curly_haired_man", "👨‍🦱"),
  ("white_haired_man", "👨‍🦳"), ("bald_man", "👨‍🦲"), ("woman", "👩"),
  ("red_haired_woman", "👩‍🦰"), ("person_red_hair", "🧑‍🦰"), ("curly_haired_woman", "👩‍🦱"),
  ("person_curly_hair", "🧑‍🦱"), ("white_haired_woman", "👩‍🦳"), ("person_white_hair", "🧑‍🦳"),
  ("bald_woman", "👩‍🦲"), ("person_bald", "🧑‍🦲"), ("blond_haired_woman", "👱‍♀️"),
  ("blonde_woman", "👱‍♀️"), ("blond_haired_man", "👱‍♂️"), ("older_adult", "🧓"),
  ("older_man", "👴"), ("older_woman", "👵")]

end Switchboard.Emoji
