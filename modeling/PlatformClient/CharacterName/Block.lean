/-!
# Blocks of character names

Characters with neighbouring code points have names with much in common. A block holds such names in
the order of the code points, each as what it does not share with the one before.

## Main definitions

* `parts`: the words of a name
* `Block`: names of neighbouring code points
* `Block.names`: the names of a block with their characters
-/

namespace PlatformClient.CharacterName

/-- The parts of a name: its words, each with the blank or the hyphen that ends it. -/
def parts : List Char → List (List Char)
  | [] => []
  | c :: rest =>
    if c == ' ' || c == '-' then [c] :: parts rest
    else
      match parts rest with
      | [] => [[c]]
      | part :: more => (c :: part) :: more

/-- A name as it is written: how many parts it shares with the front of the one before, and what
follows them. -/
structure Entry where
  shared : Nat
  rest : List Char

/-- A character is read in front of entries that were read from the end on, and of what is not yet
in one of them. -/
def readBackwards (c : Char) (read : List Char × List Entry) : List Char × List Entry :=
  if c.isLower then ([], ⟨c.toNat - 'a'.toNat, read.1⟩ :: read.2) else (c :: read.1, read.2)

/-- The entries of a text. A small letter begins each, and counts the shared parts: none at `a`, one
at `b`, and so on. All else is in capital letters. -/
def entries (written : List Char) : List Entry := (written.foldr readBackwards ([], [])).2

/-- The names of entries with their characters, from a code point on, behind a name in its parts.
Where an entry is empty the character has no name. -/
def namesFrom (code : Nat) (before : List (List Char)) : List Entry → List (String × Char)
  | [] => []
  | ⟨_, []⟩ :: more => namesFrom (code + 1) before more
  | ⟨shared, rest⟩ :: more =>
    let name := before.take shared ++ parts rest
    (String.ofList name.flatten, Char.ofNat code) :: namesFrom (code + 1) name more

/-- Names of neighbouring code points: the first code point, and the names as they are written, in
lines that are read as one text. -/
structure Block where
  first : Nat
  lines : List String

/-- The names of a block with their characters. -/
def Block.names (block : Block) : List (String × Char) :=
  namesFrom block.first [] (entries (block.lines.flatMap String.toList))

end PlatformClient.CharacterName
