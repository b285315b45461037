import PlatformClient.Text.CodePoint

/-!
# Blank characters

Two classes of blank characters, and the removal of characters at the ends of a text. Settings and
header values are trimmed of `isBlank`; texts that are read as numbers are trimmed of
`isWhiteSpace`, which leaves the four information separators in place.

## Main definitions

* `isWhiteSpace`: the white space of the Unicode property list
* `isBlank`: white space and the information separators
* `trimBy`, `trimEndBy`: a text without the leading and trailing, or only the trailing, characters
  of a class
* `trim`: a text without blank ends

## Main results

* `getLast?_trimEndBy`: what remains does not end with the class
-/

namespace PlatformClient.Text

/-- White space: tabs, line ends, the space, and the separators of the Unicode property list. -/
def isWhiteSpace (c : Char) : Bool :=
  CodeRanges.contains [(0x09, 0x0D), (0x20, 0x20), (0x85, 0x85), (0xA0, 0xA0), (0x1680, 0x1680),
    (0x2000, 0x200A), (0x2028, 0x2029), (0x202F, 0x202F), (0x205F, 0x205F), (0x3000, 0x3000)] c

/-- Blank: white space, and the four information separators U+001C to U+001F. -/
def isBlank (c : Char) : Bool :=
  isWhiteSpace c || CodeRanges.contains [(0x1C, 0x1F)] c

/-- A text without its trailing characters of the class. -/
def trimEndBy (p : Char → Bool) (s : List Char) : List Char :=
  (s.reverse.dropWhile p).reverse

/-- A text without its leading and trailing characters of the class. -/
def trimBy (p : Char → Bool) (s : List Char) : List Char :=
  trimEndBy p (s.dropWhile p)

/-- A text without blank ends. -/
def trim (s : List Char) : List Char :=
  trimBy isBlank s

/-- Only trailing characters of the class are removed. -/
theorem trimEndBy_append_takeWhile (p : Char → Bool) (s : List Char) :
    trimEndBy p s ++ (s.reverse.takeWhile p).reverse = s := by
  rw [trimEndBy, ← List.reverse_append, List.takeWhile_append_dropWhile, List.reverse_reverse]

/-- What remains does not end with the class. -/
theorem getLast?_trimEndBy (p : Char → Bool) (s : List Char) :
    ∀ c ∈ (trimEndBy p s).getLast?, p c = false := by
  intro c hc
  rw [trimEndBy, List.getLast?_reverse] at hc
  have := List.head?_dropWhile_not p s.reverse
  simp_all

end PlatformClient.Text
