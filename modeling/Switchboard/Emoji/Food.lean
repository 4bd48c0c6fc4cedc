/-! The shortcodes of food and drink. -/
namespace Switchboard.Emoji

def food : List (String × String) := [
  ("grapes", "🍇"), ("melon", "🍈"), ("watermelon", "🍉"), ("tangerine", "🍊"), ("orange", "🍊"),
  ("mandarin", "🍊"), ("lemon", "🍋"), ("banana", "🍌"), ("pineapple", "🍍"), ("mango", "🥭"),
  ("apple", "🍎"), ("green_apple", "🍏"), ("pear", "🍐"), ("peach", "🍑"), ("cherries", "🍒"),
  ("strawberry", "🍓"), ("blueberries", "🫐"), ("kiwi_fruit", "🥝"), ("tomato", "🍅"),
  ("olive", "🫒"), ("coconut", "🥥"), ("avocado", "🥑"), ("eggplant", "🍆"), ("potato", "🥔"),
  ("carrot", "🥕"), ("corn", "🌽"), ("hot_pepper", "🌶️"), ("bell_pepper", "🫑"),
  ("cucumber", "🥒"), ("leafy_green", "🥬"), ("broccoli", "🥦"), ("garlic", "🧄"), ("onion", "🧅"),
  ("peanuts", "🥜"), ("beans", "🫘"), ("chestnut", "🌰"), ("ginger_root", "🫚"), ("pea_pod", "🫛"),
  ("bread", "🍞"), ("croissant", "🥐"), ("baguette_bread", "🥖"), ("flatbread", "🫓"),
  ("pretzel", "🥨"), ("bagel", "🥯"), ("pancakes", "🥞"), ("waffle", "🧇"), ("cheese", "🧀"),
  ("meat_on_bone", "🍖"), ("poultry_leg", "🍗"), ("cut_of_meat", "🥩"), ("bacon", "🥓"),
  ("hamburger", "🍔"), ("fries", "🍟"), ("pizza", "🍕"), ("hotdog", "🌭"), ("sandwich", "🥪"),
  ("taco", "🌮"), ("burrito", "🌯"), ("tamale", "🫔"), ("stuffed_flatbread", "🥙"),
  ("falafel", "🧆"), ("egg", "🥚"), ("fried_egg", "🍳"), ("shallow_pan_of_food", "🥘"),
  ("stew", "🍲"), ("fondue", "🫕"), ("bowl_with_spoon", "🥣"), ("green_salad", "🥗"),
  ("popcorn", "🍿"), ("butter", "🧈"), ("salt", "🧂"), ("canned_food", "🥫"), ("bento", "🍱"),
  ("rice_cracker", "🍘"), ("rice_ball", "🍙"), ("rice", "🍚"), ("curry", "🍛"), ("ramen", "🍜"),
  ("spaghetti", "🍝"), ("sweet_potato", "🍠"), ("oden", "🍢"), ("sushi", "🍣"),
  ("fried_shrimp", "🍤"), ("fish_cake", "🍥"), ("moon_cake", "🥮"), ("dango", "🍡"),
  ("dumpling", "🥟"), ("fortune_cookie", "🥠"), ("takeout_box", "🥡"), ("crab", "🦀"),
  ("lobster", "🦞"), ("shrimp", "🦐"), ("squid", "🦑"), ("oyster", "🦪"), ("icecream", "🍦"),
  ("shaved_ice", "🍧"), ("ice_cream", "🍨"), ("doughnut", "🍩"), ("cookie", "🍪"),
  ("birthday", "🎂"), ("cake", "🍰"), ("cupcake", "🧁"), ("pie", "🥧"), ("chocolate_bar", "🍫"),
  ("candy", "🍬"), ("lollipop", "🍭"), ("custard", "🍮"), ("honey_pot", "🍯"),
  ("baby_bottle", "🍼"), ("milk_glass", "🥛"), ("coffee", "☕"), ("teapot", "🫖"), ("tea", "🍵"),
  ("sake", "🍶"), ("champagne", "🍾"), ("wine_glass", "🍷"), ("cocktail", "🍸"),
  ("tropical_drink", "🍹"), ("beer", "🍺"), ("beers", "🍻"), ("clinking_glasses", "🥂"),
  ("tumbler_glass", "🥃"), ("pouring_liquid", "🫗"), ("cup_with_straw", "🥤"),
  ("bubble_tea", "🧋"), ("beverage_box", "🧃"), ("mate", "🧉"), ("ice_cube", "🧊"),
  ("chopsticks", "🥢"), ("plate_with_cutlery", "🍽️"), ("fork_and_knife", "🍴"), ("spoon", "🥄"),
  ("hocho", "🔪"), ("knife", "🔪"), ("jar", "🫙"), ("amphora", "🏺")]

end Switchboard.Emoji
