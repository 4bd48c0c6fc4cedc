/-! The shortcodes of clothes, tools and other things. -/
namespace Switchboard.Emoji

def objects : List (String × String) := [
  ("eyeglasses", "👓"), ("dark_sunglasses", "🕶️"), ("goggles", "🥽"), ("lab_coat", "🥼"),
  ("safety_vest", "🦺"), ("necktie", "👔"), ("shirt", "👕"), ("tshirt", "👕"), ("jeans", "👖"),
  ("scarf", "🧣"), ("gloves", "🧤"), ("coat", "🧥"), ("socks", "🧦"), ("dress", "👗"),
  ("kimono", "👘"), ("sari", "🥻"), ("one_piece_swimsuit", "🩱"), ("swim_brief", "🩲"),
  ("shorts", "🩳"), ("bikini", "👙"), ("womans_clothes", "👚"), ("folding_hand_fan", "🪭"),
  ("purse", "👛"), ("handbag", "👜"), ("pouch", "👝"), ("shopping", "🛍️"),
  ("school_satchel", "🎒"), ("thong_sandal", "🩴"), ("mans_shoe", "👞"), ("shoe", "👞"),
  ("athletic_shoe", "👟"), ("hiking_boot", "🥾"), ("flat_shoe", "🥿"), ("high_heel", "👠"),
  ("sandal", "👡"), ("ballet_shoes", "🩰"), ("boot", "👢"), ("hair_pick", "🪮"), ("crown", "👑"),
  ("womans_hat", "👒"), ("tophat", "🎩"), ("mortar_board", "🎓"), ("billed_cap", "🧢"),
  ("military_helmet", "🪖"), ("rescue_worker_helmet", "⛑️"), ("prayer_beads", "📿"),
  ("lipstick", "💄"), ("ring", "💍"), ("gem", "💎"), ("mute", "🔇"), ("speaker", "🔈"),
  ("sound", "🔉"), ("loud_sound", "🔊"), ("loudspeaker", "📢"), ("mega", "📣"),
  ("postal_horn", "📯"), ("bell", "🔔"), ("no_bell", "🔕"), ("musical_score", "🎼"),
  ("musical_note", "🎵"), ("notes", "🎶"), ("studio_microphone", "🎙️"), ("level_slider", "🎚️"),
  ("control_knobs", "🎛️"), ("microphone", "🎤"), ("headphones", "🎧"), ("radio", "📻"),
  ("saxophone", "🎷"), ("accordion", "🪗"), ("guitar", "🎸"), ("musical_keyboard", "🎹"),
  ("trumpet", "🎺"), ("violin", "🎻"), ("banjo", "🪕"), ("drum", "🥁"), ("long_drum", "🪘"),
  ("maracas", "🪇"), ("flute", "🪈"), ("iphone", "📱"), ("calling", "📲"), ("phone", "☎️"),
  ("telephone", "☎️"), ("telephone_receiver", "📞"), ("pager", "📟"), ("fax", "📠"),
  ("battery", "🔋"), ("low_battery", "🪫"), ("electric_plug", "🔌"), ("computer", "💻"),
  ("desktop_computer", "🖥️"), ("printer", "🖨️"), ("keyboard", "⌨️"), ("computer_mouse", "🖱️"),
  ("trackball", "🖲️"), ("minidisc", "💽"), ("floppy_disk", "💾"), ("cd", "💿"), ("dvd", "📀"),
  ("abacus", "🧮"), ("movie_camera", "🎥"), ("film_strip", "🎞️"), ("film_projector", "📽️"),
  ("clapper", "🎬"), ("tv", "📺"), ("camera", "📷"), ("camera_flash", "📸"), ("video_camera", "📹"),
  ("vhs", "📼"), ("mag", "🔍"), ("mag_right", "🔎"), ("candle", "🕯️"), ("bulb", "💡"),
  ("flashlight", "🔦"), ("izakaya_lantern", "🏮"), ("lantern", "🏮"), ("diya_lamp", "🪔"),
  ("notebook_with_decorative_cover", "📔"), ("closed_book", "📕"), ("book", "📖"),
  ("open_book", "📖"), ("green_book", "📗"), ("blue_book", "📘"), ("orange_book", "📙"),
  ("books", "📚"), ("notebook", "📓"), ("ledger", "📒"), ("page_with_curl", "📃"), ("scroll", "📜"),
  ("page_facing_up", "📄"), ("newspaper", "📰"), ("newspaper_roll", "🗞️"),
  ("bookmark_tabs", "📑"), ("bookmark", "🔖"), ("label", "🏷️"), ("moneybag", "💰"), ("coin", "🪙"),
  ("yen", "💴"), ("dollar", "💵"), ("euro", "💶"), ("pound", "💷"), ("money_with_wings", "💸"),
  ("credit_card", "💳"), ("receipt", "🧾"), ("chart", "💹"), ("envelope", "✉️"), ("email", "📧"),
  ("e-mail", "📧"), ("incoming_envelope", "📨"), ("envelope_with_arrow", "📩"),
  ("outbox_tray", "📤"), ("inbox_tray", "📥"), ("package", "📦"), ("mailbox", "📫"),
  ("mailbox_closed", "📪"), ("mailbox_with_mail", "📬"), ("mailbox_with_no_mail", "📭"),
  ("postbox", "📮"), ("ballot_box", "🗳️"), ("pencil2", "✏️"), ("black_nib", "✒️"),
  ("fountain_pen", "🖋️"), ("pen", "🖊️"), ("paintbrush", "🖌️"), ("crayon", "🖍️"), ("memo", "📝"),
  ("pencil", "📝"), ("briefcase", "💼"), ("file_folder", "📁"), ("open_file_folder", "📂"),
  ("card_index_dividers", "🗂️"), ("date", "📅"), ("calendar", "📆"), ("spiral_notepad", "🗒️"),
  ("spiral_calendar", "🗓️"), ("card_index", "📇"), ("chart_with_upwards_trend", "📈"),
  ("chart_with_downwards_trend", "📉"), ("bar_chart", "📊"), ("clipboard", "📋"),
  ("pushpin", "📌"), ("round_pushpin", "📍"), ("paperclip", "📎"), ("paperclips", "🖇️"),
  ("straight_ruler", "📏"), ("triangular_ruler", "📐"), ("scissors", "✂️"),
  ("card_file_box", "🗃️"), ("file_cabinet", "🗄️"), ("wastebasket", "🗑️"), ("lock", "🔒"),
  ("unlock", "🔓"), ("lock_with_ink_pen", "🔏"), ("closed_lock_with_key", "🔐"), ("key", "🔑"),
  ("old_key", "🗝️"), ("hammer", "🔨"), ("axe", "🪓"), ("pick", "⛏️"), ("hammer_and_pick", "⚒️"),
  ("hammer_and_wrench", "🛠️"), ("dagger", "🗡️"), ("crossed_swords", "⚔️"), ("bomb", "💣"),
  ("boomerang", "🪃"), ("bow_and_arrow", "🏹"), ("shield", "🛡️"), ("carpentry_saw", "🪚"),
  ("wrench", "🔧"), ("screwdriver", "🪛"), ("nut_and_bolt", "🔩"), ("gear", "⚙️"),
  ("clamp", "🗜️"), ("balance_scale", "⚖️"), ("probing_cane", "🦯"), ("link", "🔗"),
  ("chains", "⛓️"), ("hook", "🪝"), ("toolbox", "🧰"), ("magnet", "🧲"), ("ladder", "🪜"),
  ("alembic", "⚗️"), ("test_tube", "🧪"), ("petri_dish", "🧫"), ("dna", "🧬"),
  ("microscope", "🔬"), ("telescope", "🔭"), ("satellite", "📡"), ("syringe", "💉"),
  ("drop_of_blood", "🩸"), ("pill", "💊"), ("adhesive_bandage", "🩹"), ("crutch", "🩼"),
  ("stethoscope", "🩺"), ("x_ray", "🩻"), ("door", "🚪"), ("elevator", "🛗"), ("mirror", "🪞"),
  ("window", "🪟"), ("bed", "🛏️"), ("couch_and_lamp", "🛋️"), ("chair", "🪑"), ("toilet", "🚽"),
  ("plunger", "🪠"), ("shower", "🚿"), ("bathtub", "🛁"), ("mouse_trap", "🪤"), ("razor", "🪒"),
  ("lotion_bottle", "🧴"), ("safety_pin", "🧷"), ("broom", "🧹"), ("basket", "🧺"),
  ("roll_of_paper", "🧻"), ("bucket", "🪣"), ("soap", "🧼"), ("bubbles", "🫧"),
  ("toothbrush", "🪥"), ("sponge", "🧽"), ("fire_extinguisher", "🧯"), ("shopping_cart", "🛒"),
  ("smoking", "🚬"), ("coffin", "⚰️"), ("headstone", "🪦"), ("funeral_urn", "⚱️"),
  ("nazar_amulet", "🧿"), ("hamsa", "🪬"), ("moyai", "🗿"), ("placard", "🪧"),
  ("identification_card", "🪪")]

end Switchboard.Emoji
