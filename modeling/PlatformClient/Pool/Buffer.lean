import PlatformClient.Octets.Utf8
import PlatformClient.Text.IntegerText

/-!
# Buffers

A buffer holds octets and a position at which it is read and written. Writing beyond the end fills
the gap with zeros, as far as there is room. A closed buffer refuses every use.

## Main definitions

* `Buffer`: octets with a position
* `Buffer.write`, `Buffer.seek`, `Buffer.read`, `Buffer.rest`, `Buffer.cleared`: its uses
* `BufferFault`: why a use is refused

## Main results

* `Buffer.write_at_end`: writing at the end appends
-/

namespace PlatformClient

/-- Octets with a position. -/
structure Buffer where
  content : Octets
  position : Nat
  closed : Bool
deriving DecidableEq

/-- Why the use of a buffer is refused. -/
inductive BufferFault where
  | closed
  | negativePosition (position : Int)
  /-- The position is no offset at all. -/
  | positionOutOfRange
  /-- The end of what is written is no offset. -/
  | endOutOfRange
  /-- There is no room for what is written. -/
  | noRoom
deriving DecidableEq

/-- The wording of a refusal. -/
def BufferFault.message : BufferFault → String
  | closed => "I/O operation on closed file."
  | negativePosition position => "negative seek value " ++ Text.decimal position
  | positionOutOfRange => "Python int too large to convert to C ssize_t"
  | endOutOfRange => "new buffer size too large"
  | noRoom => ""

namespace Buffer

/-- A new buffer without octets. -/
def empty : Buffer := ⟨[], 0, false⟩

/-- A new buffer with octets, read from their begin. -/
def ofOctets (content : Octets) : Buffer := ⟨content, 0, false⟩

instance : Inhabited Buffer := ⟨empty⟩

/-- A use that a closed buffer refuses. -/
def use {α : Type} (buffer : Buffer) (result : α) : Except BufferFault α :=
  if buffer.closed then .error .closed else .ok result

/-- Octets written over others at a position. No octets leave everything as it is. -/
def overwrite (content : Octets) (position : Nat) (data : Octets) : Octets :=
  if data.isEmpty then content
  else
    content.take position ++ List.replicate (position - content.length) 0 ++ data ++
      content.drop (position + data.length)

/-- The most octets that a buffer with a gap has room for. -/
def room : Nat := Nat.pow 2 36

/-- Why octets cannot be written behind a gap. Without a gap there is nothing to refuse. -/
def gapFault? (data : Octets) (buffer : Buffer) : Option BufferFault :=
  if data.isEmpty || buffer.position ≤ buffer.content.length then none
  else if offsetBound ≤ buffer.position + data.length then some .endOutOfRange
  else if room < buffer.position + data.length then some .noRoom
  else none

/-- The buffer after octets have been written at its position. -/
def write (data : Octets) (buffer : Buffer) : Except BufferFault Buffer :=
  if buffer.closed then .error .closed
  else
    match buffer.gapFault? data with
    | some fault => .error fault
    | none => .ok { buffer with
        content := overwrite buffer.content buffer.position data
        position := buffer.position + data.length }

/-- The buffer at another position. What is no offset is refused before anything else. -/
def seek (position : Int) (buffer : Buffer) : Except BufferFault Buffer :=
  if !isOffset position then .error .positionOutOfRange
  else if buffer.closed then .error .closed
  else if position < 0 then .error (.negativePosition position)
  else .ok { buffer with position := position.toNat }

/-- The octets from the position on. -/
def rest (buffer : Buffer) : Except BufferFault Octets :=
  buffer.use (buffer.content.drop buffer.position)

/-- Octets read at the position, at most so many, and the buffer at the position behind them. A
negative size asks for all that is left. -/
def read (size : Int) (buffer : Buffer) : Except BufferFault (Octets × Buffer) :=
  let left := buffer.content.drop buffer.position
  let data := if size < 0 then left else left.take size.toNat
  if !isOffset size then .error .positionOutOfRange
  else buffer.use (data, { buffer with position := buffer.position + data.length })

/-- The buffer with its octets removed, at their begin. -/
def cleared (buffer : Buffer) : Except BufferFault Buffer :=
  buffer.use { buffer with content := [], position := 0 }

/-- The buffer after it has been closed. -/
def close (buffer : Buffer) : Buffer := { buffer with closed := true }

/-- An open buffer itself. -/
def opened (buffer : Buffer) : Except BufferFault Buffer := buffer.use buffer

/-- Octets written at the end are appended. -/
theorem overwrite_length (content data : Octets) :
    overwrite content content.length data = content ++ data := by
  unfold overwrite
  split
  · simp_all
  · simp

/-- Writing at the end appends. -/
theorem write_at_end {buffer : Buffer} (hopen : buffer.closed = false)
    (hend : buffer.position = buffer.content.length) (data : Octets) :
    buffer.write data =
      .ok ⟨buffer.content ++ data, (buffer.content ++ data).length, false⟩ := by
  simp [write, gapFault?, hopen, hend, overwrite_length]

end Buffer

end PlatformClient
