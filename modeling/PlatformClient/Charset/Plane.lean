import PlatformClient.Octets.Utf8

/-!
# Planes

A plane gives characters to cells in rows. Rows and cells are numbered by octets. A plane is listed
as runs of characters in neighbouring cells.

## Main definitions

* `Span`: a run of characters in a row
* `Plane`: characters by row and cell
* `Plane.ofSpans`: the plane of some runs
* `Plane.fill`: a plane with characters in cells of any order
* `Plane.find?`: the character in a cell
* `Plane.grid`, `Plane.lacking`: cells in order, and characters in the order of their code points
-/

namespace PlatformClient.Charset

/-- A run of characters: the row, the cell of the first one, and the characters. -/
structure Span where
  row : Nat
  cell : Nat
  chars : String

/-- Characters by row and cell, row after row; U+FFFD stands in empty cells. -/
structure Plane where
  cells : Array Char

namespace Plane

/-- The plane without characters. -/
def empty : Plane := ⟨Array.replicate 0x10000 '\uFFFD'⟩

/-- The place of a cell among all cells. -/
def place (row cell : Nat) : Nat := row * 0x100 + cell

/-- Characters written into neighbouring cells. -/
def writeFrom (cells : Array Char) (index : Nat) : List Char → Array Char
  | [] => cells
  | c :: rest => writeFrom (cells.setIfInBounds index c) (index + 1) rest

/-- The plane with a run of characters written over it. -/
def write (plane : Plane) (span : Span) : Plane :=
  ⟨writeFrom plane.cells (place span.row span.cell) span.chars.toList⟩

/-- The plane with a character in each of some cells. -/
def fill (plane : Plane) (entries : List ((Nat × Nat) × Char)) : Plane :=
  ⟨entries.foldl (fun cells entry => cells.setIfInBounds (place entry.1.1 entry.1.2) entry.2)
    plane.cells⟩

/-- The plane of some runs. -/
def ofSpans (spans : List Span) : Plane := spans.foldl write empty

/-- The character in a cell. -/
def find? (plane : Plane) (row cell : UInt8) : Option Char :=
  (plane.cells[place row.toNat cell.toNat]?).filter (· != '\uFFFD')

/-- Every row of some with every cell of some, row after row. -/
def grid (rows cells : List Nat) : List (Nat × Nat) := rows.flatMap fun row => cells.map (row, ·)

/-- The characters of some code points from the first on, in order, without those given. -/
def lacking (given : List Char) (first count : Nat) : List Char :=
  let present := given.foldl (fun present c => present.setIfInBounds c.toNat true)
    (Array.replicate 0x10000 false)
  ((List.range' first count).filter fun n => n.isValidChar && !present.getD n false).map Char.ofNat

end Plane

end PlatformClient.Charset
