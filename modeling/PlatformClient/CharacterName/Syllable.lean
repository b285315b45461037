/-!
# Names of Korean syllables

The name of a syllable spells its consonant, its vowel and its final consonant. Each of them is as
long as it can be, and the outer two may be missing.

## Main definitions

* `Syllable.initials`, `Syllable.vowels`, `Syllable.finals`: the spellings of the letters
* `Syllable.longest?`: the letter at the front of a spelling
* `syllable?`: the syllable of a name
-/

namespace PlatformClient.CharacterName

namespace Syllable

/-- The spellings of the first consonants. -/
def initials : List String :=
  ["G", "GG", "N", "D", "DD", "R", "M", "B", "BB", "S", "SS", "", "J", "JJ", "C", "K", "T", "P", "H"]

/-- The spellings of the vowels. -/
def vowels : List String :=
  [
    "A", "AE", "YA", "YAE", "EO", "E", "YEO", "YE", "O", "WA", "WAE", "OE", "YO", "U", "WEO", "WE",
    "WI", "YU", "EU", "YI", "I"
  ]

/-- The spellings of the final consonants. -/
def finals : List String :=
  [
    "", "G", "GG", "GS", "N", "NJ", "NH", "D", "L", "LG", "LM", "LB", "LS", "LT", "LP", "LH", "M",
    "B", "BS", "S", "SS", "NG", "J", "C", "K", "T", "P", "H"
  ]

/-- The longest spelling at the front of a text, by its place among all, and what follows it. -/
def longest? (spellings : List String) (text : List Char) : Option (Nat × List Char) :=
  let fitting := spellings.zipIdx.filter fun (spelling, _) => spelling.toList.isPrefixOf text
  let length := (fitting.map (·.1.length)).max?
  (fitting.find? fun (spelling, _) => some spelling.length == length).map
    fun (spelling, place) => (place, text.drop spelling.length)

/-- The first syllable. -/
def base : Nat := 0xAC00

end Syllable

/-- What the names of syllables begin with. -/
def syllableFront : List Char := "HANGUL SYLLABLE ".toList

/-- The syllable of a name. -/
def syllable? (name : List Char) : Option Char := do
  if !syllableFront.isPrefixOf name then none
  let (initial, text) ← Syllable.longest? Syllable.initials (name.drop syllableFront.length)
  let (vowel, text) ← Syllable.longest? Syllable.vowels text
  let (final, text) ← Syllable.longest? Syllable.finals text
  if !text.isEmpty then none
  some (Char.ofNat (Syllable.base +
    (initial * Syllable.vowels.length + vowel) * Syllable.finals.length + final))

end PlatformClient.CharacterName
