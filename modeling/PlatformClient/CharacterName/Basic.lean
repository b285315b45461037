import PlatformClient.CharacterName.Alias
import PlatformClient.CharacterName.Numbered
import PlatformClient.CharacterName.Syllable
import PlatformClient.CharacterName.Table.Ancient
import PlatformClient.CharacterName.Table.EastAsian
import PlatformClient.CharacterName.Table.European
import PlatformClient.CharacterName.Table.Geometric
import PlatformClient.CharacterName.Table.Hieroglyphic
import PlatformClient.CharacterName.Table.Living
import PlatformClient.CharacterName.Table.Notational
import PlatformClient.CharacterName.Table.Pictorial
import PlatformClient.CharacterName.Table.Presentation
import PlatformClient.CharacterName.Table.Typographic
import Std.Data.HashMap

/-!
# Names of characters

A character has a name, and some characters have further ones. Small letters in a name count as
capital ones, except in names that are put together by rule: those of Korean syllables and of
unified ideographs.

## Main definitions

* `CharacterName.listed`: the names that follow no rule
* `CharacterName.index`: these names made ready for look-ups, at the first one
* `CharacterName.find?`: the character of a name
-/

namespace PlatformClient.CharacterName

/-- All blocks of names. -/
def blocks : List Block :=
  european ++ living ++ typographic ++ geometric ++ eastAsian ++ presentation ++ ancient ++
    hieroglyphic ++ notational ++ pictorial

/-- The names that follow no rule. -/
def listed (blocks : List Block) : List (String × Char) :=
  blocks.flatMap Block.names ++
    aliases.flatMap (fun (code, names) => names.map (·, Char.ofNat code)) ++ variationSelectors

/-- The listed names, made ready for look-ups. -/
def index : Thunk (Std.HashMap String Char) := Thunk.mk fun _ => .ofList (listed blocks)

/-- The character of a name. -/
def find? (name : List Char) : Option Char :=
  let capitals := name.map Char.toUpper
  (syllable? name).or ((ideograph? name).or ((numbered? capitals).or
    index.get[String.ofList capitals]?))

end PlatformClient.CharacterName
