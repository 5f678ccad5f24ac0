import CardLink.Segment

/-! The loops that copy between segments and one buffer, with a count of the bytes copied so far. -/

namespace CardLink

/-- Copies segments in order into a destination, behind what was copied before, until it is full. -/
def copyOut (memory : Bytes) (copied : Nat) (destination : Bytes) : List Segment → Nat × Bytes
  | [] => (copied, destination)
  | segment :: rest =>
    if copied = destination.length then (copied, destination)
    else
      let count := min segment.length (destination.length - copied)
      let bytes := slice memory segment.offset count
      copyOut memory (copied + count) (overwrite destination copied bytes) rest

/-- Copies a source into segments in order, from behind what was copied before, until it is used up. -/
def copyIn (source : Bytes) (copied : Nat) (memory : Bytes) : List Segment → Nat × Bytes
  | [] => (copied, memory)
  | segment :: rest =>
    if copied = source.length then (copied, memory)
    else
      let count := min segment.length (source.length - copied)
      let bytes := slice source copied count
      copyIn source (copied + count) (overwrite memory segment.offset bytes) rest

end CardLink
