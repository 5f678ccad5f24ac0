import CardLink.Error

/-! Segment lists: several stretches of one memory that are moved together, in order. -/

namespace CardLink

/-- Bytes in the order in which they are moved. -/
abbrev Bytes := List UInt8

/-- The stretch of a memory that starts at an offset; it ends early where the memory ends. -/
def slice (memory : Bytes) (offset length : Nat) : Bytes :=
  (memory.drop offset).take length

/-- The memory with the bytes from an offset on replaced by others. -/
def overwrite (memory : Bytes) (offset : Nat) (bytes : Bytes) : Bytes :=
  memory.take offset ++ bytes ++ memory.drop (offset + bytes.length)

/-- One stretch of a memory. -/
structure Segment where
  /-- Where it starts. -/
  offset : Nat
  /-- How many bytes it holds. -/
  length : Nat
  deriving DecidableEq

/-- Stretches of one memory in the order in which they are moved. -/
structure SegmentList where
  /-- The stretches held so far. -/
  segments : List Segment
  /-- The number of bytes in all of them. -/
  totalLength : Nat
  deriving DecidableEq

namespace SegmentList

/-- The most segments that a list holds. -/
def capacity : Nat := 8

/-- The list without segments. -/
def empty : SegmentList := ⟨[], 0⟩

/-- The list holds no segment; a list of empty segments is not empty. -/
def isEmpty (list : SegmentList) : Bool := list.segments.isEmpty

/--
The list with one more segment at its end, refused if the list is full.

The total is counted without a bound. A machine counts it in a length word, and so comes to the same
total as long as all lengths together fit that word.
-/
def append (list : SegmentList) (segment : Segment) : Except DeviceError SegmentList :=
  -- A refusal hands back no list, so the one held before stays as it was.
  if list.segments.length < capacity then
    .ok ⟨list.segments ++ [segment], list.totalLength + segment.length⟩
  else .error .segmentsFull

/-- The list with neighbouring segments of the given lengths appended, the first at the given offset. -/
def appendAll (list : SegmentList) (offset : Nat) : List Nat → Except DeviceError SegmentList
  | [] => .ok list
  | length :: rest => do
    let longer ← list.append ⟨offset, length⟩
    longer.appendAll (offset + length) rest

/-- The list of neighbouring segments that covers buffers laid one after another. -/
def ofLengths (lengths : List Nat) : Except DeviceError SegmentList :=
  empty.appendAll 0 lengths

end SegmentList

/-- The first bytes of the segments in order, no more than there is room for. -/
def gathered (memory : Bytes) : List Segment → Nat → Bytes
  | [], _ => []
  | segment :: rest, room =>
    let count := min segment.length room
    slice memory segment.offset count ++ gathered memory rest (room - count)

/-- Writes a source over the segments in order and tells how many bytes found a place. -/
def scattered (memory : Bytes) : List Segment → Bytes → Nat × Bytes
  | [], _ => (0, memory)
  | segment :: rest, source =>
    let count := min segment.length source.length
    let filled := overwrite memory segment.offset (source.take count)
    let further := scattered filled rest (source.drop count)
    (count + further.1, further.2)

/-- Copies the segments into a destination: how many bytes were copied, and the destination after it. -/
def SegmentList.gather (list : SegmentList) (memory destination : Bytes) : Nat × Bytes :=
  let bytes := gathered memory list.segments destination.length
  (bytes.length, overwrite destination 0 bytes)

/-- Copies a source into the segments: how many bytes were copied, and the memory after it. -/
def SegmentList.scatter (list : SegmentList) (memory source : Bytes) : Nat × Bytes :=
  scattered memory list.segments source

/-- Cuts bytes into consecutive pieces of the given lengths. -/
def splitLengths : List Nat → Bytes → List Bytes
  | [], _ => []
  | length :: rest, bytes => bytes.take length :: splitLengths rest (bytes.drop length)

end CardLink
