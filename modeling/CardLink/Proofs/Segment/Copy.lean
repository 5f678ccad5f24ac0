import CardLink.Proofs.Segment
import CardLink.Segment.Copy
import Mathlib.Data.List.Basic

/-!
What a segment list copies: gathering reads the bytes of its segments one behind another, and
scattering writes over them and over nothing else.
-/

namespace CardLink

section Stretch

variable {memory : Bytes} {offset : Nat}

/-- A stretch that lies inside a memory is read in full. -/
theorem length_slice {length : Nat} (within : offset + length ≤ memory.length) :
    (slice memory offset length).length = length := by
  rw [slice, List.length_take, List.length_drop]
  omega

/-- Writing back what a stretch holds changes nothing. -/
theorem overwrite_slice {length : Nat} (within : offset + length ≤ memory.length) :
    overwrite memory offset (slice memory offset length) = memory := by
  rw [overwrite, length_slice within, slice, ← List.drop_drop, List.append_assoc,
    List.take_append_drop, List.take_append_drop]

/-- Bytes outside the stretch that is written over stay as they are. -/
theorem getElem?_overwrite_outside {bytes : Bytes} {place : Nat} (inside : offset ≤ memory.length)
    (outside : place < offset ∨ offset + bytes.length ≤ place) :
    (overwrite memory offset bytes)[place]? = memory[place]? := by
  have front : (memory.take offset).length = offset := by
    rw [List.length_take]
    exact Nat.min_eq_left inside
  rw [overwrite, List.append_assoc, List.getElem?_append, front]
  rcases outside with before | behind
  · rw [if_pos before, List.getElem?_take_of_lt before]
  · rw [if_neg (by omega), List.getElem?_append_right (by omega), List.getElem?_drop]
    congr 1
    omega

/-- A stretch after bytes were written to its start: as many of them as it holds, and its old rest. -/
theorem slice_overwrite {length : Nat} (bytes : Bytes) (within : offset + length ≤ memory.length) :
    slice (overwrite memory offset (bytes.take length)) offset length =
      bytes.take length ++ (slice memory offset length).drop bytes.length := by
  have front : (memory.take offset).length = offset := by
    rw [List.length_take]
    omega
  have behind : (overwrite memory offset (bytes.take length)).drop offset =
      bytes.take length ++ memory.drop (offset + (bytes.take length).length) := by
    rw [overwrite, List.append_assoc]
    exact List.drop_left' front
  have written : (bytes.take length).length = min length bytes.length := List.length_take
  rw [slice, behind, List.take_append, List.take_take, Nat.min_self, slice, List.drop_take,
    List.drop_drop, written]
  -- What is left of the stretch starts behind the bytes, unless they fill it.
  rcases Nat.le_total bytes.length length with short | long
  · rw [Nat.min_eq_right short]
  · rw [Nat.min_eq_left long, Nat.sub_self, Nat.sub_eq_zero_of_le long, List.take_zero, List.take_zero]

end Stretch

namespace Segment

/-- The bytes of a segment. -/
def bytes (segment : Segment) (memory : Bytes) : Bytes :=
  slice memory segment.offset segment.length

/-- A place of the memory belongs to the segment. -/
def Covers (segment : Segment) (place : Nat) : Prop :=
  segment.offset ≤ place ∧ place < segment.offset + segment.length

/-- No place belongs to both segments. -/
def Apart (first second : Segment) : Prop :=
  ∀ place, first.Covers place → ¬ second.Covers place

/-- The segment lies inside a memory of so many bytes. -/
def Within (segment : Segment) (size : Nat) : Prop :=
  segment.offset + segment.length ≤ size

instance (segment : Segment) (size : Nat) : Decidable (segment.Within size) :=
  Nat.decLe (segment.offset + segment.length) size

/-- Segments are apart exactly if one is empty or one ends before the other starts. -/
theorem apart_iff (first second : Segment) :
    first.Apart second ↔ first.length = 0 ∨ second.length = 0
      ∨ first.offset + first.length ≤ second.offset ∨ second.offset + second.length ≤ first.offset := by
  constructor
  · -- Otherwise the later one of the two starts belongs to both.
    intro apart
    by_contra shared
    have both := apart (max first.offset second.offset)
    simp only [Covers] at both
    omega
  · intro order place inFirst inSecond
    simp only [Covers] at inFirst inSecond
    omega

instance (first second : Segment) : Decidable (first.Apart second) :=
  decidable_of_iff _ (apart_iff first second).symm

/-- The memory after a source was written to the segment, as far as the one goes or the other reaches. -/
def fill (segment : Segment) (memory source : Bytes) : Bytes :=
  overwrite memory segment.offset (source.take segment.length)

/-- Memories that agree on a segment have the same bytes there. -/
theorem bytes_congr {segment : Segment} {memory other : Bytes}
    (same : ∀ place, segment.Covers place → other[place]? = memory[place]?) :
    segment.bytes other = segment.bytes memory := by
  apply List.ext_getElem?
  intro place
  rw [bytes, bytes, slice, slice, List.getElem?_take, List.getElem?_take, List.getElem?_drop,
    List.getElem?_drop]
  split
  · exact same _ ⟨by omega, by omega⟩
  · rfl

section Fill

variable {segment : Segment} {memory : Bytes} (within : segment.Within memory.length) (source : Bytes)

include within

/-- A source goes over the start of the bytes and leaves their rest. -/
theorem bytes_fill :
    segment.bytes (segment.fill memory source) =
      source.take segment.length ++ (segment.bytes memory).drop source.length :=
  slice_overwrite source within

/-- A memory keeps its length. -/
theorem length_fill : (segment.fill memory source).length = memory.length := by
  have reach : (source.take segment.length).length ≤ segment.length := List.length_take_le ..
  exact length_overwrite (Nat.le_trans (Nat.add_le_add_left reach _) within)

/-- Places outside the segment keep their bytes. -/
theorem getElem?_fill {place : Nat} (outside : ¬ segment.Covers place) :
    (segment.fill memory source)[place]? = memory[place]? := by
  have reach : (source.take segment.length).length ≤ segment.length := List.length_take_le ..
  apply getElem?_overwrite_outside (Nat.le_trans (Nat.le_add_right _ _) within)
  by_cases before : place < segment.offset
  · exact .inl before
  · -- Neither before the segment nor in it, the place is behind all that is written.
    refine .inr (Nat.le_trans (Nat.add_le_add_left reach _) (Nat.not_lt.mp fun inside => ?_))
    exact outside ⟨Nat.not_lt.mp before, inside⟩

end Fill

end Segment

/-- The bytes of segments, one behind another. -/
def joinedBytes (memory : Bytes) (segments : List Segment) : Bytes :=
  segments.flatMap fun segment => segment.bytes memory

/-- The bytes of the first segment come first. -/
theorem joinedBytes_cons (memory : Bytes) (segment : Segment) (rest : List Segment) :
    joinedBytes memory (segment :: rest) = segment.bytes memory ++ joinedBytes memory rest :=
  List.flatMap_cons

/-- Segments inside a memory have as many bytes as their lengths say. -/
theorem length_joinedBytes {memory : Bytes} {segments : List Segment}
    (within : ∀ segment ∈ segments, segment.Within memory.length) :
    (joinedBytes memory segments).length = (segments.map Segment.length).sum := by
  rw [joinedBytes, List.length_flatMap]
  congr 1
  apply List.map_congr_left
  intro segment member
  exact length_slice (within segment member)

/-- Gathering reads the bytes of the segments, as far as there is room. -/
theorem gathered_eq {memory : Bytes} {segments : List Segment}
    (within : ∀ segment ∈ segments, segment.Within memory.length) (room : Nat) :
    gathered memory segments room = (joinedBytes memory segments).take room := by
  induction segments generalizing room with
  | nil => simp [gathered, joinedBytes]
  | cons segment rest ih =>
    obtain ⟨first, others⟩ := List.forall_mem_cons.mp within
    have full : (segment.bytes memory).length = segment.length := length_slice first
    have front : slice memory segment.offset (min segment.length room) =
        (segment.bytes memory).take room := by
      rw [Segment.bytes, slice, slice, List.take_take, Nat.min_comm]
    have left : room - min segment.length room = room - segment.length := by omega
    rw [gathered, front, ih others, left, joinedBytes_cons, List.take_append, full]

/-- The loop copies behind what was copied before what is gathered into the rest of the destination. -/
theorem copyOut_eq {memory : Bytes} {segments : List Segment}
    (within : ∀ segment ∈ segments, segment.Within memory.length) {copied : Nat} {destination : Bytes}
    (le : copied ≤ destination.length) :
    let bytes := gathered memory segments (destination.length - copied)
    copyOut memory copied destination segments =
      (copied + bytes.length, overwrite destination copied bytes) := by
  induction segments generalizing copied destination with
  | nil => simp [copyOut, gathered]
  | cons segment rest ih =>
    obtain ⟨first, others⟩ := List.forall_mem_cons.mp within
    rw [copyOut]
    split
    · -- A full destination takes nothing more.
      rename_i full
      simp [full, gathered_zero]
    · let count := min segment.length (destination.length - copied)
      let bytes := slice memory segment.offset count
      have moved : bytes.length = count :=
        length_slice (Nat.le_trans (Nat.add_le_add_left (Nat.min_le_left ..) _) first)
      have kept : (overwrite destination copied bytes).length = destination.length :=
        length_overwrite (by omega)
      have joined := overwrite_overwrite bytes
        (gathered memory rest (destination.length - copied - count)) le
      rw [moved] at joined
      rw [gathered]
      refine (ih others (by rw [kept]; omega)).trans ?_
      rw [kept, Nat.sub_add_eq, joined, List.length_append, moved, Nat.add_assoc]

/-- The loop scatters what is behind the part of the source that was copied before. -/
theorem copyIn_eq {source : Bytes} {copied : Nat} (memory : Bytes) (segments : List Segment)
    (le : copied ≤ source.length) :
    copyIn source copied memory segments =
      (copied + (scattered memory segments (source.drop copied)).1,
        (scattered memory segments (source.drop copied)).2) := by
  induction segments generalizing copied memory with
  | nil => rfl
  | cons segment rest ih =>
    rw [copyIn]
    split
    · -- Nothing is left of a source that was copied to its end.
      rename_i used
      rw [used, List.drop_length, scattered_nil]
      rfl
    · rw [ih _ (by omega), scattered, List.length_drop, List.drop_drop, Nat.add_assoc]
      rfl

/-- Scattering fills the first segment, and goes on with what the source has left. -/
theorem scattered_cons (memory : Bytes) (segment : Segment) (rest : List Segment) (source : Bytes) :
    scattered memory (segment :: rest) source =
      (min segment.length source.length
          + (scattered (segment.fill memory source) rest (source.drop segment.length)).1,
        (scattered (segment.fill memory source) rest (source.drop segment.length)).2) := by
  have written : source.take (min segment.length source.length) = source.take segment.length :=
    List.take_eq_take_min.symm
  have left : source.drop (min segment.length source.length) = source.drop segment.length := by
    rcases Nat.le_total segment.length source.length with whole | short
    · rw [Nat.min_eq_left whole]
    · rw [Nat.min_eq_right short, List.drop_length, List.drop_of_length_le short]
  rw [scattered, written, left]
  rfl

/-- Scattering tells as many bytes as there are, up to the lengths of the segments. -/
theorem scattered_count (memory : Bytes) (segments : List Segment) (source : Bytes) :
    (scattered memory segments source).1 =
      min source.length (segments.map Segment.length).sum := by
  induction segments generalizing memory source with
  | nil => simp [scattered]
  | cons segment rest ih =>
    rw [scattered_cons, ih, List.map_cons, List.sum_cons, List.length_drop]
    omega

section Scatter

variable {memory : Bytes} {segments : List Segment}
  (within : ∀ segment ∈ segments, segment.Within memory.length) (source : Bytes)

include within

/-- Scattering keeps the length of the memory. -/
theorem length_scattered : (scattered memory segments source).2.length = memory.length := by
  induction segments generalizing memory source with
  | nil => rfl
  | cons segment rest ih =>
    obtain ⟨first, others⟩ := List.forall_mem_cons.mp within
    have kept := Segment.length_fill first source
    rw [scattered_cons, ih (by rwa [kept]), kept]

/-- A place outside all segments keeps its byte. -/
theorem getElem?_scattered {place : Nat} (outside : ∀ segment ∈ segments, ¬ segment.Covers place) :
    (scattered memory segments source).2[place]? = memory[place]? := by
  induction segments generalizing memory source with
  | nil => rfl
  | cons segment rest ih =>
    obtain ⟨first, others⟩ := List.forall_mem_cons.mp within
    obtain ⟨apart, beyond⟩ := List.forall_mem_cons.mp outside
    rw [scattered_cons, ih (by rwa [Segment.length_fill first]) _ beyond,
      Segment.getElem?_fill first source apart]

/-- Segments that share no place take the source in order, and keep their old bytes behind it. -/
theorem joinedBytes_scattered (apart : segments.Pairwise Segment.Apart) :
    joinedBytes (scattered memory segments source).2 segments =
      source.take (segments.map Segment.length).sum
        ++ (joinedBytes memory segments).drop source.length := by
  induction segments generalizing memory source with
  | nil => simp [joinedBytes]
  | cons segment rest ih =>
    obtain ⟨first, others⟩ := List.forall_mem_cons.mp within
    obtain ⟨apartFirst, apartRest⟩ := List.pairwise_cons.mp apart
    have others' : ∀ other ∈ rest, other.Within (segment.fill memory source).length := by
      rwa [Segment.length_fill first]
    -- What goes to the others does not touch the first segment.
    have firstBytes : segment.bytes (scattered (segment.fill memory source) rest
        (source.drop segment.length)).2 = segment.bytes (segment.fill memory source) :=
      Segment.bytes_congr fun place covered => getElem?_scattered others' _
        fun other member => apartFirst other member place covered
    -- What goes to the first segment does not touch the others.
    have otherBytes : joinedBytes (segment.fill memory source) rest = joinedBytes memory rest := by
      refine List.flatMap_congr fun other member => Segment.bytes_congr fun place covered => ?_
      exact Segment.getElem?_fill first source fun inFirst =>
        apartFirst other member place inFirst covered
    rw [scattered_cons, joinedBytes_cons, firstBytes, Segment.bytes_fill first, ih others' _ apartRest,
      otherBytes, List.map_cons, List.sum_cons, List.take_add, joinedBytes_cons, List.drop_append,
      List.length_drop, show (segment.bytes memory).length = _ from length_slice first]
    -- Either the first segment is full, or the source is used up.
    rcases Nat.le_total segment.length source.length with whole | short
    · have full : (segment.bytes memory).length ≤ source.length :=
        Nat.le_trans (Nat.le_of_eq (length_slice first)) whole
      rw [List.drop_of_length_le full]
      simp
    · rw [List.drop_of_length_le short]
      simp

/-- Scattering bytes that the segments hold already changes nothing. -/
theorem scattered_own (room : Nat) :
    (scattered memory segments ((joinedBytes memory segments).take room)).2 = memory := by
  induction segments generalizing room with
  | nil => rfl
  | cons segment rest ih =>
    obtain ⟨first, others⟩ := List.forall_mem_cons.mp within
    have full : (segment.bytes memory).length = segment.length := length_slice first
    have first_kept : segment.fill memory ((joinedBytes memory (segment :: rest)).take room) =
        memory := by
      -- The segment gets the front of its own bytes.
      have own : ((joinedBytes memory (segment :: rest)).take room).take segment.length =
          slice memory segment.offset (min room segment.length) := by
        rw [List.take_take, Nat.min_comm, ← List.take_take, joinedBytes_cons, List.take_left' full,
          Segment.bytes, slice, slice, List.take_take]
      rw [Segment.fill, own]
      exact overwrite_slice
        (Nat.le_trans (Nat.add_le_add_left (Nat.min_le_right room _) segment.offset) first)
    have left : ((joinedBytes memory (segment :: rest)).take room).drop segment.length =
        (joinedBytes memory rest).take (room - segment.length) := by
      rw [List.drop_take, joinedBytes_cons, List.drop_left' full]
    rw [scattered_cons, first_kept, left]
    exact ih others _

end Scatter

/-- A list that was made by appends of stretches of a memory of so many bytes. -/
inductive SegmentList.MadeOver (size : Nat) : SegmentList → Prop where
  /-- Every list starts without segments. -/
  | empty : MadeOver size .empty
  /-- A segment inside the memory was appended to a list that had room. -/
  | append {list longer : SegmentList} {segment : Segment} (made : MadeOver size list)
    (within : segment.Within size) (appended : list.append segment = .ok longer) : MadeOver size longer

namespace SegmentList

/-- What an append that succeeds leaves. -/
theorem eq_of_append {list longer : SegmentList} {segment : Segment}
    (appended : list.append segment = .ok longer) :
    longer = ⟨list.segments ++ [segment], list.totalLength + segment.length⟩ := by
  rw [append] at appended
  split at appended
  · exact (Except.ok.inj appended).symm
  · cases appended

namespace MadeOver

variable {size : Nat} {list : SegmentList}

/-- Every segment lies inside the memory. -/
theorem within (made : list.MadeOver size) : ∀ segment ∈ list.segments, segment.Within size := by
  induction made with
  | empty => exact fun _ member => nomatch member
  | append made inside appended ih =>
    rw [eq_of_append appended]
    intro other member
    rcases List.mem_append.mp member with earlier | last
    · exact ih other earlier
    · rwa [List.mem_singleton.mp last]

/-- The length of the list is the sum of the lengths of its segments. -/
theorem total_eq (made : list.MadeOver size) :
    list.totalLength = (list.segments.map Segment.length).sum := by
  induction made with
  | empty => rfl
  | append made inside appended ih =>
    rw [eq_of_append appended, List.map_append, List.sum_append, ← ih, List.map_singleton,
      List.sum_singleton]

end MadeOver

/-- The bytes of a list: those of its segments, one behind another. -/
def contents (list : SegmentList) (memory : Bytes) : Bytes :=
  joinedBytes memory list.segments

section Contents

variable {list : SegmentList} {memory : Bytes} (made : list.MadeOver memory.length)

include made

/-- A list has as many bytes as its length says. -/
theorem length_contents : (list.contents memory).length = list.totalLength := by
  rw [contents, length_joinedBytes made.within, made.total_eq]

/-- Gathering copies the bytes of the list over the start of the destination. -/
theorem gather_eq (destination : Bytes) :
    let count := min destination.length list.totalLength
    list.gather memory destination =
      (count, (list.contents memory).take count ++ destination.drop count) := by
  intro count
  have bytes : gathered memory list.segments destination.length = (list.contents memory).take count := by
    rw [gathered_eq made.within, List.take_eq_take_min, length_joinedBytes made.within, ← made.total_eq]
    rfl
  have moved : ((list.contents memory).take count).length = count := by
    rw [List.length_take, length_contents made]
    exact Nat.min_eq_left (Nat.min_le_right ..)
  simp only [gather, bytes, moved, overwrite, List.take_zero, List.nil_append, Nat.zero_add]

/-- Gathering is what the loop does to the whole destination. -/
theorem copyOut_segments (destination : Bytes) :
    copyOut memory 0 destination list.segments = list.gather memory destination := by
  rw [copyOut_eq made.within (Nat.zero_le _), Nat.sub_zero, Nat.zero_add]
  rfl

/-- The start of a destination holds the start of the bytes of the list. -/
theorem take_gather {destination : Bytes} {count : Nat}
    (le : count ≤ min destination.length list.totalLength) :
    (list.gather memory destination).2.take count = (list.contents memory).take count := by
  have reach : count ≤
      ((list.contents memory).take (min destination.length list.totalLength)).length := by
    rw [List.length_take, length_contents made]
    omega
  rw [gather_eq made, List.take_append_of_le_length reach, List.take_take, Nat.min_eq_left le]

/-- Scattering copies a source over the bytes of the list. -/
theorem contents_scatter (apart : list.segments.Pairwise Segment.Apart) (source : Bytes) :
    let count := min source.length list.totalLength
    list.contents (list.scatter memory source).2 =
      source.take count ++ (list.contents memory).drop count := by
  intro count
  have front : source.take list.totalLength = source.take count := by
    rw [List.take_eq_take_min, Nat.min_comm]
  have rest : (list.contents memory).drop source.length = (list.contents memory).drop count := by
    rcases Nat.le_total source.length list.totalLength with short | long
    · rw [show count = _ from Nat.min_eq_left short]
    · have all := length_contents made
      rw [show count = _ from Nat.min_eq_right long, List.drop_of_length_le (by omega),
        List.drop_of_length_le (by omega)]
  rw [← front, ← rest, made.total_eq]
  exact joinedBytes_scattered made.within source apart

end Contents

end SegmentList

/-- Scattering is what the loop does with the whole source. -/
theorem SegmentList.copyIn_segments (list : SegmentList) (memory source : Bytes) :
    copyIn source 0 memory list.segments = list.scatter memory source := by
  rw [copyIn_eq memory list.segments (Nat.zero_le _), List.drop_zero, Nat.zero_add]
  rfl

/--
Gathering and scattering are exact, and each gives back what the other one moved.

Both do what their loops do. Gathering copies the bytes of the list over the start of a destination
and leaves its rest. Scattering over segments that share no place copies a source over the bytes of
the list, leaves those behind it, and touches nothing outside the segments.
-/
theorem gather_scatter_exact {list : SegmentList} {memory : Bytes}
    (made : list.MadeOver memory.length) :
    (∀ destination : Bytes,
      let count := min destination.length list.totalLength
      copyOut memory 0 destination list.segments = list.gather memory destination
        ∧ list.gather memory destination =
          (count, (list.contents memory).take count ++ destination.drop count)
        ∧ list.scatter memory ((list.gather memory destination).2.take count) = (count, memory))
    ∧ (list.segments.Pairwise Segment.Apart → ∀ source : Bytes,
      let count := min source.length list.totalLength
      let after := (list.scatter memory source).2
      copyIn source 0 memory list.segments = list.scatter memory source
        ∧ (list.scatter memory source).1 = count
        ∧ list.contents after = source.take count ++ (list.contents memory).drop count
        ∧ after.length = memory.length
        ∧ (∀ place, (∀ segment ∈ list.segments, ¬ segment.Covers place) →
          after[place]? = memory[place]?)
        ∧ ∀ destination : Bytes,
          let moved := min destination.length count
          (list.gather after destination).2.take moved = source.take moved) := by
  have all := SegmentList.length_contents made
  constructor
  · intro destination count
    have gathers := SegmentList.gather_eq made destination
    refine ⟨SegmentList.copyOut_segments made destination, gathers, ?_⟩
    -- What was gathered is the front of the bytes that the segments hold already.
    have moved : ((list.contents memory).take count).length = count := by
      rw [List.length_take, all]
      exact Nat.min_eq_left (Nat.min_le_right ..)
    rw [SegmentList.take_gather made (Nat.le_refl count)]
    apply Prod.ext
    · rw [SegmentList.scatter, scattered_count, moved, ← made.total_eq]
      exact Nat.min_eq_left (Nat.min_le_right ..)
    · exact scattered_own made.within count
  · intro apart source count after
    have contents := SegmentList.contents_scatter made apart source
    have kept : after.length = memory.length := length_scattered made.within source
    refine ⟨list.copyIn_segments memory source, ?_, contents, kept, ?_, ?_⟩
    · rw [SegmentList.scatter, scattered_count, ← made.total_eq]
    · intro place outside
      exact getElem?_scattered made.within source outside
    · intro destination moved
      -- The source stands at the start of the bytes that are gathered.
      have front : moved ≤ (source.take count).length := by
        rw [List.length_take]
        omega
      rw [SegmentList.take_gather (kept ▸ made) (by omega), contents,
        List.take_append_of_le_length front, List.take_take, Nat.min_eq_left (Nat.min_le_right ..)]

/-- Three segments out of order, the second one empty, and a source that ends within the last one. -/
theorem gather_scatter_exact_out_of_order :
    let list : SegmentList := ⟨[⟨5, 3⟩, ⟨1, 0⟩, ⟨1, 2⟩], 5⟩
    let memory : Bytes := [0, 1, 2, 3, 4, 5, 6, 7]
    let source : Bytes := [0xA0, 0xA1, 0xA2, 0xA3]
    let after := (list.scatter memory source).2
    list.MadeOver memory.length ∧ list.segments.Pairwise Segment.Apart
      ∧ list.gather memory [9, 9, 9, 9, 9, 9, 9] = (5, [5, 6, 7, 1, 2, 9, 9])
      ∧ (list.scatter memory source).1 = 4
      ∧ list.contents after = [0xA0, 0xA1, 0xA2, 0xA3, 2]
      ∧ after[0]? = some 0
      ∧ (list.gather after [9, 9, 9, 9, 9]).2.take 4 = source := by
  intro list memory source after
  have one : SegmentList.MadeOver 8 ⟨[⟨5, 3⟩], 3⟩ :=
    .append .empty (show Segment.Within ⟨5, 3⟩ 8 by decide) rfl
  have two : SegmentList.MadeOver 8 ⟨[⟨5, 3⟩, ⟨1, 0⟩], 3⟩ :=
    .append one (show Segment.Within ⟨1, 0⟩ 8 by decide) rfl
  have made : list.MadeOver memory.length :=
    .append two (show Segment.Within ⟨1, 2⟩ 8 by decide) rfl
  have apart : list.segments.Pairwise Segment.Apart := by decide
  obtain ⟨gathers, scatters⟩ := gather_scatter_exact made
  obtain ⟨-, copied, contents, -, outside, back⟩ := scatters apart source
  refine ⟨made, apart, (gathers _).2.1, copied, contents, outside 0 ?_, back [9, 9, 9, 9, 9]⟩
  simp [list, Segment.Covers]

end CardLink
