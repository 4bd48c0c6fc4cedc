/-! The shortcodes of animals and plants. -/
namespace Switchboard.Emoji

def nature : List (String × String) := [
  ("monkey_face", "🐵"), ("monkey", "🐒"), ("gorilla", "🦍"), ("orangutan", "🦧"), ("dog", "🐶"),
  ("dog2", "🐕"), ("guide_dog", "🦮"), ("service_dog", "🐕‍🦺"), ("poodle", "🐩"), ("wolf", "🐺"),
  ("fox_face", "🦊"), ("raccoon", "🦝"), ("cat", "🐱"), ("cat2", "🐈"), ("black_cat", "🐈‍⬛"),
  ("lion", "🦁"), ("tiger", "🐯"), ("tiger2", "🐅"), ("leopard", "🐆"), ("horse", "🐴"),
  ("moose", "🫎"), ("donkey", "🫏"), ("racehorse", "🐎"), ("unicorn", "🦄"), ("zebra", "🦓"),
  ("deer", "🦌"), ("bison", "🦬"), ("cow", "🐮"), ("ox", "🐂"), ("water_buffalo", "🐃"),
  ("cow2", "🐄"), ("pig", "🐷"), ("pig2", "🐖"), ("boar", "🐗"), ("pig_nose", "🐽"), ("ram", "🐏"),
  ("sheep", "🐑"), ("goat", "🐐"), ("dromedary_camel", "🐪"), ("camel", "🐫"), ("llama", "🦙"),
  ("giraffe", "🦒"), ("elephant", "🐘"), ("mammoth", "🦣"), ("rhinoceros", "🦏"),
  ("hippopotamus", "🦛"), ("mouse", "🐭"), ("mouse2", "🐁"), ("rat", "🐀"), ("hamster", "🐹"),
  ("rabbit", "🐰"), ("rabbit2", "🐇"), ("chipmunk", "🐿️"), ("beaver", "🦫"), ("hedgehog", "🦔"),
  ("bat", "🦇"), ("bear", "🐻"), ("polar_bear", "🐻‍❄️"), ("koala", "🐨"), ("panda_face", "🐼"),
  ("sloth", "🦥"), ("otter", "🦦"), ("skunk", "🦨"), ("kangaroo", "🦘"), ("badger", "🦡"),
  ("feet", "🐾"), ("paw_prints", "🐾"), ("turkey", "🦃"), ("chicken", "🐔"), ("rooster", "🐓"),
  ("hatching_chick", "🐣"), ("baby_chick", "🐤"), ("hatched_chick", "🐥"), ("bird", "🐦"),
  ("penguin", "🐧"), ("dove", "🕊️"), ("eagle", "🦅"), ("duck", "🦆"), ("swan", "🦢"), ("owl", "🦉"),
  ("dodo", "🦤"), ("feather", "🪶"), ("flamingo", "🦩"), ("peacock", "🦚"), ("parrot", "🦜"),
  ("wing", "🪽"), ("black_bird", "🐦‍⬛"), ("goose", "🪿"), ("frog", "🐸"), ("crocodile", "🐊"),
  ("turtle", "🐢"), ("lizard", "🦎"), ("snake", "🐍"), ("dragon_face", "🐲"), ("dragon", "🐉"),
  ("sauropod", "🦕"), ("t-rex", "🦖"), ("whale", "🐳"), ("whale2", "🐋"), ("dolphin", "🐬"),
  ("flipper", "🐬"), ("seal", "🦭"), ("fish", "🐟"), ("tropical_fish", "🐠"), ("blowfish", "🐡"),
  ("shark", "🦈"), ("octopus", "🐙"), ("shell", "🐚"), ("coral", "🪸"), ("jellyfish", "🪼"),
  ("snail", "🐌"), ("butterfly", "🦋"), ("bug", "🐛"), ("ant", "🐜"), ("bee", "🐝"),
  ("honeybee", "🐝"), ("beetle", "🪲"), ("lady_beetle", "🐞"), ("cricket", "🦗"),
  ("cockroach", "🪳"), ("spider", "🕷️"), ("spider_web", "🕸️"), ("scorpion", "🦂"),
  ("mosquito", "🦟"), ("fly", "🪰"), ("worm", "🪱"), ("microbe", "🦠"), ("bouquet", "💐"),
  ("cherry_blossom", "🌸"), ("white_flower", "💮"), ("lotus", "🪷"), ("rosette", "🏵️"),
  ("rose", "🌹"), ("wilted_flower", "🥀"), ("hibiscus", "🌺"), ("sunflower", "🌻"),
  ("blossom", "🌼"), ("tulip", "🌷"), ("hyacinth", "🪻"), ("seedling", "🌱"),
  ("potted_plant", "🪴"), ("evergreen_tree", "🌲"), ("deciduous_tree", "🌳"), ("palm_tree", "🌴"),
  ("cactus", "🌵"), ("ear_of_rice", "🌾"), ("herb", "🌿"), ("shamrock", "☘️"),
  ("four_leaf_clover", "🍀"), ("maple_leaf", "🍁"), ("fallen_leaf", "🍂"), ("leaves", "🍃"),
  ("empty_nest", "🪹"), ("nest_with_eggs", "🪺"), ("mushroom", "🍄")]

end Switchboard.Emoji
