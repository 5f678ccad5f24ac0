import CardLink.Device
import CardLink.Segment

/-! A segment list that grows in place, with the number of its bytes kept in a machine word. -/

namespace CardLink

/-- A change of a list in place; what was changed before a failure stays changed. -/
abbrev SegmentChange : Type := ExceptT DeviceError (StateM SegmentList) Unit

namespace SegmentList

/-- Puts a segment behind the others, if there is a place for it. -/
def place (segment : Segment) : SegmentChange := do
  let list ← get
  if list.segments.length < capacity then
    set { list with segments := list.segments ++ [segment] }
  else throw .segmentsFull

/-- Adds to the number of bytes; what does not fit the word is lost. -/
def countBytes (width : LengthWidth) (length : Nat) : SegmentChange :=
  modify fun list =>
    { list with totalLength := (list.totalLength + length) % (width.greatest + 1) }

/-- Appends a segment in place. -/
def push (width : LengthWidth) (segment : Segment) : SegmentChange := do
  -- Only a segment that found its place is counted.
  place segment
  countBytes width segment.length

/-- Appends segments one after another, refused or not: the answers, and the list at the end. -/
def pushAll (width : LengthWidth) (list : SegmentList) :
    List Segment → List (Except DeviceError Unit) × SegmentList
  | [] => ([], list)
  | segment :: rest =>
    let first := (push width segment).run list
    let others := pushAll width first.2 rest
    (first.1 :: others.1, others.2)

end SegmentList

end CardLink
