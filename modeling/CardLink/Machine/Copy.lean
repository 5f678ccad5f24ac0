import CardLink.Machine
import CardLink.Segment.Copy

/-! Copies between segments and one buffer, with the number of bytes copied so far in a machine word. -/

namespace CardLink

namespace Machine

variable {width : LengthWidth}

/-- How many bytes of a segment are copied, when so many bytes of the buffer were copied before. -/
def copyCount (rigour : Rigour) (segment : Segment) (buffer : Bytes) (copied : LengthWord width) :
    Except Mishap (LengthWord width) := do
  let left ← LengthWord.difference rigour (.ofBytes width buffer) copied
  return .least (.ofNat width.bits segment.length) left

/-- So many bytes of a buffer, behind those that were copied before. -/
def stretch (rigour : Rigour) (buffer : Bytes) (copied count : LengthWord width) :
    Except Mishap Bytes := do
  let rest ← behind rigour buffer copied
  front rigour rest count

/-- Copies segments in order into a destination, behind what was copied before, until it is full. -/
def copyOut (rigour : Rigour) (memory : Bytes) (copied : LengthWord width) (destination : Bytes) :
    List Segment → Except Mishap (LengthWord width × Bytes)
  | [] => return (copied, destination)
  | segment :: rest =>
    if copied = LengthWord.ofBytes width destination then return (copied, destination)
    else do
      let count ← copyCount rigour segment destination copied
      -- What is written over has to be there.
      let _ ← stretch rigour destination copied count
      let bytes := slice memory segment.offset count.toNat
      let further ← LengthWord.sum rigour copied count
      copyOut rigour memory further (overwrite destination copied.toNat bytes) rest

/-- Copies a source into segments in order, from behind what was copied before, until it is used up. -/
def copyIn (rigour : Rigour) (source : Bytes) (copied : LengthWord width) (memory : Bytes) :
    List Segment → Except Mishap (LengthWord width × Bytes)
  | [] => return (copied, memory)
  | segment :: rest =>
    if copied = LengthWord.ofBytes width source then return (copied, memory)
    else do
      let count ← copyCount rigour segment source copied
      let bytes ← stretch rigour source copied count
      let further ← LengthWord.sum rigour copied count
      copyIn rigour source further (overwrite memory segment.offset bytes) rest

/-- Copies the segments into a destination: how many bytes were copied, and the destination after it. -/
def gather (rigour : Rigour) (width : LengthWidth) (list : SegmentList) (memory destination : Bytes) :
    Except Mishap (Nat × Bytes) := do
  let after ← copyOut rigour memory (.ofNat width.bits 0) destination list.segments
  return (after.1.toNat, after.2)

/-- Copies a source into the segments: how many bytes were copied, and the memory after it. -/
def scatter (rigour : Rigour) (width : LengthWidth) (list : SegmentList) (memory source : Bytes) :
    Except Mishap (Nat × Bytes) := do
  let after ← copyIn rigour source (.ofNat width.bits 0) memory list.segments
  return (after.1.toNat, after.2)

end Machine

end CardLink
