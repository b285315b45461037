import PlatformClient.ContentType.OfName
import PlatformClient.Octets.Utf8
import PlatformClient.Text.CodePoint
import PlatformClient.Text.Quoted

/-!
# Multipart bodies

A file is sent as the only part of a multipart body: a delimiter line, two header lines, an empty
line, the octets of the file, and the closing delimiter.

## Main definitions

* `Multipart.escapeName`: a file name inside a header
* `Multipart.headerLines`: the two header lines of the part
* `Multipart.opening`, `Multipart.closing`: what stands before and behind the octets of the file
* `Multipart.body`: the whole body
* `Multipart.contentType`: the content type that announces the boundary
* `Multipart.boundaryFault?`: what keeps a boundary from being written

## Main results

* `Multipart.escapeName_no_break`: an escaped name holds no line break and no double quote
* `Multipart.boundaryFault?_eq_none_iff`: the boundaries that can be written
-/

namespace PlatformClient.Multipart

/-- The name of the form field that carries the file. -/
def fieldName : String := "file"

/-- The type of files whose name tells none. -/
def defaultType : String := "application/octet-stream"

/-- A character of a file name inside a header: line breaks and double quotes by number. -/
def escapeNameChar (c : Char) : List Char :=
  if c == '\n' then "%0A".toList
  else if c == '\r' then "%0D".toList
  else if c == '"' then "%22".toList
  else [c]

/-- A file name inside a header. -/
def escapeName (name : List Char) : List Char := name.flatMap escapeNameChar

/-- An escaped name holds no line break and no double quote. -/
theorem escapeName_no_break (name : List Char) :
    ∀ c ∈ escapeName name, c ≠ '\n' ∧ c ≠ '\r' ∧ c ≠ '"' := by
  intro c hc
  obtain ⟨d, -, hd⟩ := List.mem_flatMap.1 hc
  unfold escapeNameChar at hd
  split at hd
  · simp at hd
    rcases hd with rfl | rfl | rfl <;> decide
  · split at hd
    · simp at hd
      rcases hd with rfl | rfl | rfl <;> decide
    · split at hd
      · simp at hd
        rcases hd with rfl | rfl <;> decide
      · simp_all

/-- The type of the part: told by the file name, or the default. -/
def partType (filename : List Char) : List Char :=
  (ContentType.ofName? filename).getD defaultType.toList

/-- The header line that names the field and the file. -/
def dispositionLine (filename : List Char) : List Char :=
  "Content-Disposition: form-data; name=\"".toList ++ fieldName.toList ++
    "\"; filename=\"".toList ++ escapeName filename ++ ['"']

/-- The header line that names the type. -/
def typeLine (filename : List Char) : List Char := "Content-Type: ".toList ++ partType filename

/-- The line break of headers. -/
def lineBreak : List Char := ['\r', '\n']

/-- The header lines of the part with the empty line that ends them. -/
def headerLines (filename : List Char) : List Char :=
  dispositionLine filename ++ lineBreak ++ typeLine filename ++ lineBreak ++ lineBreak

/-- Whether a character is a single octet. -/
def isSingleOctet (c : Char) : Bool := c.toNat < 0x100

/-- Characters of a delimiter line that are no single octets: the first of them, its index in the
line, and how many there are one after another. -/
structure BoundaryFault where
  char : Char
  index : Nat
  count : Nat
deriving DecidableEq

/-- The wording of a fault. -/
def BoundaryFault.message (fault : BoundaryFault) : String :=
  Text.unencodable "latin-1" (Text.numbered fault.char) fault.index fault.count
    "ordinal not in range(256)"

/-- What keeps a boundary from being written. The delimiter line begins with two dashes. -/
def boundaryFault? (boundary : List Char) : Option BoundaryFault :=
  let rest := boundary.dropWhile isSingleOctet
  rest.head?.map fun c =>
    ⟨c, 2 + (boundary.takeWhile isSingleOctet).length,
      (rest.takeWhile (!isSingleOctet ·)).length⟩

/-- The boundaries that can be written are those of single octets. -/
theorem boundaryFault?_eq_none_iff {boundary : List Char} :
    boundaryFault? boundary = none ↔ ∀ c ∈ boundary, isSingleOctet c = true := by
  simp only [boundaryFault?, Option.map_eq_none_iff, List.head?_eq_none_iff]
  induction boundary with
  | nil => simp
  | cons c rest ih => by_cases h : isSingleOctet c <;> simp [h, ih]

/-- Octets of characters up to U+00FF, one for each. -/
def singleOctets (s : List Char) : Octets := s.map fun c => UInt8.ofNat c.toNat

/-- What stands before the octets of the file. -/
def opening (boundary filename : List Char) : Octets :=
  singleOctets ('-' :: '-' :: boundary ++ lineBreak) ++ Utf8.encode (headerLines filename)

/-- What stands behind the octets of the file. -/
def closing (boundary : List Char) : Octets :=
  singleOctets (lineBreak ++ '-' :: '-' :: boundary ++ '-' :: '-' :: lineBreak)

/-- The body that sends a file. -/
def body (boundary filename : List Char) (data : Octets) : Octets :=
  opening boundary filename ++ data ++ closing boundary

/-- The content type that announces the boundary. -/
def contentType (boundary : String) : String := "multipart/form-data; boundary=" ++ boundary

end PlatformClient.Multipart
