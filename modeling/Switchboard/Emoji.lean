import Switchboard.Emoji.Activity
import Switchboard.Emoji.Body
import Switchboard.Emoji.Face
import Switchboard.Emoji.Flag
import Switchboard.Emoji.Food
import Switchboard.Emoji.Nature
import Switchboard.Emoji.Object
import Switchboard.Emoji.People
import Switchboard.Emoji.Place
import Switchboard.Emoji.Sky
import Switchboard.Emoji.Symbol

/-! The standard shortcodes of emoji. Their names are written in lower case and looked up as they
are written. -/
namespace Switchboard.Emoji

def shortcodes : List (String × String) :=
  faces ++ body ++ people ++ nature ++ food ++ places ++ sky ++ activities ++ objects ++
  symbols ++ flags

def ofShortcode? (name : String) : Option String := shortcodes.lookup name

end Switchboard.Emoji
