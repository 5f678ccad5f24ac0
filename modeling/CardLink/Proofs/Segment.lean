import CardLink.Segment
import Mathlib.Algebra.Ring.Nat

/-! Segments that lie side by side are read and written as the one stretch that they cover. -/

namespace CardLink

/-- Writing nothing changes nothing. -/
@[simp] theorem overwrite_nil (memory : Bytes) (offset : Nat) : overwrite memory offset [] = memory := by
  simp [overwrite]

/-- Bytes that fit into a memory leave its length as it is. -/
theorem length_overwrite {memory : Bytes} {offset : Nat} {bytes : Bytes}
    (within : offset + bytes.length ≤ memory.length) :
    (overwrite memory offset bytes).length = memory.length := by
  simp only [overwrite, List.length_append, List.length_take, List.length_drop]
  omega

/-- Writing some bytes and then others right behind them is writing both at once. -/
theorem overwrite_overwrite {memory : Bytes} {offset : Nat} (first second : Bytes)
    (within : offset ≤ memory.length) :
    overwrite (overwrite memory offset first) (offset + first.length) second =
      overwrite memory offset (first ++ second) := by
  -- The second write keeps what lies before the first one's end, and drops as far as both reach.
  have front : (memory.take offset).length = offset := by
    rw [List.length_take]
    exact Nat.min_eq_left within
  have written : (memory.take offset ++ first).length = offset + first.length := by
    rw [List.length_append, front]
  have kept : (overwrite memory offset first).take (offset + first.length) =
      memory.take offset ++ first := by
    rw [overwrite, ← written, List.take_left]
  have behind : (overwrite memory offset first).drop (offset + first.length + second.length) =
      memory.drop (offset + (first ++ second).length) := by
    rw [overwrite, ← List.drop_drop, ← written, List.drop_left, List.drop_drop, written,
      List.length_append, Nat.add_assoc]
  rw [overwrite, kept, behind, overwrite, List.append_assoc (memory.take offset)]

/-- Writing over a whole memory leaves the new bytes alone. -/
theorem overwrite_all {memory bytes : Bytes} (all : memory.length ≤ bytes.length) :
    overwrite memory 0 bytes = bytes := by
  rw [overwrite, List.take_zero, List.nil_append, Nat.zero_add, List.drop_of_length_le all,
    List.append_nil]

/-- Segments of the given lengths, each starting where the one before it ends. -/
def neighbours (offset : Nat) : List Nat → List Segment
  | [] => []
  | length :: rest => ⟨offset, length⟩ :: neighbours (offset + length) rest

/-- Neighbours are appended as long as there is room for all of them. -/
theorem SegmentList.appendAll_eq (list : SegmentList) (offset : Nat) (lengths : List Nat)
    (fits : list.segments.length ≤ 8) :
    list.appendAll offset lengths =
      if list.segments.length + lengths.length ≤ 8 then
        .ok ⟨list.segments ++ neighbours offset lengths, list.totalLength + lengths.sum⟩
      else .error .segmentsFull := by
  -- Each segment takes one place, and the first one without a place refuses the whole.
  induction lengths generalizing list offset with
  | nil => simp [appendAll, neighbours, fits]
  | cons length rest ih =>
    rw [appendAll, append]
    by_cases room : list.segments.length < capacity
    · have longer : list.segments.length < 8 := room
      have grown : (list.segments ++ [Segment.mk offset length]).length =
          list.segments.length + 1 := by simp
      rw [if_pos room]
      change SegmentList.appendAll ⟨list.segments ++ [⟨offset, length⟩], list.totalLength + length⟩ _ _ = _
      rw [ih _ _ (by rw [grown]; omega)]
      simp only [grown, List.length_cons, List.append_assoc, List.singleton_append, neighbours,
        List.sum_cons, Nat.add_assoc, Nat.add_comm 1]
    · have full : ¬ list.segments.length + (length :: rest).length ≤ 8 := by
        have : ¬ list.segments.length < 8 := room
        rw [List.length_cons]
        omega
      rw [if_neg room, if_neg full]
      rfl

/-- Up to eight lengths make a list of neighbours that starts at the front of the memory. -/
theorem SegmentList.ofLengths_eq (lengths : List Nat) :
    ofLengths lengths =
      if lengths.length ≤ 8 then .ok ⟨neighbours 0 lengths, lengths.sum⟩ else .error .segmentsFull := by
  have appended := empty.appendAll_eq 0 lengths (by simp [empty])
  simpa [ofLengths, empty] using appended

/-- Without room, nothing is gathered. -/
theorem gathered_zero (memory : Bytes) (segments : List Segment) : gathered memory segments 0 = [] := by
  induction segments with
  | nil => rfl
  | cons segment rest ih => simp [gathered, slice, ih]

/-- Gathering from neighbours reads the stretch that they cover, up to the room. -/
theorem gathered_neighbours (memory : Bytes) (offset : Nat) (lengths : List Nat) (room : Nat) :
    gathered memory (neighbours offset lengths) room =
      slice memory offset (min room lengths.sum) := by
  -- Each segment reads on where the one before it ended.
  induction lengths generalizing offset room with
  | nil => simp [neighbours, gathered, slice]
  | cons length rest ih =>
    rw [neighbours, gathered]
    dsimp only
    by_cases whole : length ≤ room
    · -- A whole segment is read, and the rest of the room is for its neighbours.
      have joined : min room (length :: rest).sum = length + min (room - length) rest.sum := by
        rw [List.sum_cons]
        omega
      rw [Nat.min_eq_left whole, ih, joined]
      simp only [slice, List.take_add, List.drop_drop]
    · -- The room ends within this segment.
      have short : min length room = room := by omega
      have total : min room (length :: rest).sum = room := by
        rw [List.sum_cons]
        omega
      rw [short, Nat.sub_self, gathered_zero, List.append_nil, total]

/-- Scattering nothing changes nothing. -/
theorem scattered_nil (memory : Bytes) (segments : List Segment) :
    scattered memory segments [] = (0, memory) := by
  induction segments with
  | nil => rfl
  | cons segment rest ih => simp [scattered, ih]

/-- Scattering over neighbours writes the stretch that they cover, as far as the source goes. -/
theorem scattered_neighbours (memory : Bytes) (offset : Nat) (lengths : List Nat) (source : Bytes)
    (within : offset + lengths.sum ≤ memory.length) :
    scattered memory (neighbours offset lengths) source =
      (min lengths.sum source.length, overwrite memory offset (source.take lengths.sum)) := by
  -- Each segment writes on where the one before it ended.
  induction lengths generalizing memory offset source with
  | nil => simp [neighbours, scattered]
  | cons length rest ih =>
    rw [List.sum_cons] at within
    rw [neighbours, scattered, List.sum_cons]
    dsimp only
    by_cases whole : length ≤ source.length
    · -- A whole segment is filled, and the neighbours take what is left of the source.
      have filled : (source.take length).length = length := by
        rw [List.length_take]
        exact Nat.min_eq_left whole
      have same : (overwrite memory offset (source.take length)).length = memory.length :=
        length_overwrite (by omega)
      have joined := overwrite_overwrite (source.take length) ((source.drop length).take rest.sum)
        (show offset ≤ memory.length by omega)
      rw [filled] at joined
      rw [Nat.min_eq_left whole, ih _ _ _ (by rw [same]; omega), joined, List.take_add,
        List.length_drop]
      congr 1
      omega
    · -- The source ends within this segment.
      have short : min length source.length = source.length := by omega
      rw [short, List.drop_length, scattered_nil, List.take_length,
        List.take_of_length_le (show source.length ≤ length + rest.sum by omega)]
      congr 1
      omega

/-- Pieces of the given lengths, put together again, are the front of the bytes. -/
theorem flatten_splitLengths (lengths : List Nat) (bytes : Bytes) :
    (splitLengths lengths bytes).flatten = bytes.take lengths.sum := by
  -- Each piece takes the front of what is left.
  induction lengths generalizing bytes with
  | nil => simp [splitLengths]
  | cons length rest ih => rw [splitLengths, List.flatten_cons, ih, List.sum_cons, List.take_add]

/-- Pieces put together and cut at their own lengths are the pieces again. -/
theorem splitLengths_flatten (parts : List Bytes) :
    splitLengths (parts.map List.length) parts.flatten = parts := by
  -- The first piece is the front of all bytes, as long as it was.
  induction parts with
  | nil => rfl
  | cons part rest ih =>
    rw [List.map_cons, List.flatten_cons, splitLengths, List.take_left, List.drop_left, ih]

/-- Bytes that hold all pieces are cut into pieces of exactly the given lengths. -/
theorem lengths_splitLengths (lengths : List Nat) (bytes : Bytes) (within : lengths.sum ≤ bytes.length) :
    (splitLengths lengths bytes).map List.length = lengths := by
  -- Enough bytes are left for every piece.
  induction lengths generalizing bytes with
  | nil => rfl
  | cons length rest ih =>
    rw [List.sum_cons] at within
    rw [splitLengths, List.map_cons, List.length_take, Nat.min_eq_left (by omega),
      ih _ (by rw [List.length_drop]; omega)]

end CardLink
