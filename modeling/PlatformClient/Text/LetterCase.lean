import PlatformClient.Text.CaseTable

/-!
# Small letters

Header values, variable names and file suffixes are compared in small letters of the full
character set. Every capital has a small form of its own; only the dotted capital I maps to two
characters, and a capital sigma at the end of a word takes its final form.

## Main definitions

* `smallForms`: the small form of one character, out of context
* `lowercase`: a text in small letters
-/

namespace PlatformClient.Text

/-- The small form of a character, out of context. -/
def smallForms (c : Char) : List Char :=
  if c.toNat < 0x80 then [c.toLower]
  else if c.toNat == 0x130 then ['i', '\u0307']
  else
    match capitals.find? (·.contains c.toNat) with
    | some run => [Char.ofNat (c.toNat + run.shift).toNat]
    | none => [c]

/-- Whether the first character that is not skipped has case. -/
def meetsCased (s : List Char) : Bool :=
  match s.dropWhile caseIgnorable.contains with
  | c :: _ => cased.contains c
  | [] => false

/-- The small form of a character that stands between `before`, read backwards, and `after`. A
sigma after a cased letter and before none is final. -/
def smallFormsBetween (before : List Char) (c : Char) (after : List Char) : List Char :=
  if c == 'Σ' then
    if meetsCased before && !meetsCased after then ['ς'] else ['σ']
  else smallForms c

/-- A text in small letters that follows `before`, read backwards. -/
def lowercaseAfter (before : List Char) : List Char → List Char
  | [] => []
  | c :: rest => smallFormsBetween before c rest ++ lowercaseAfter (c :: before) rest

/-- A text in small letters. -/
def lowercase (s : List Char) : List Char :=
  lowercaseAfter [] s

end PlatformClient.Text
