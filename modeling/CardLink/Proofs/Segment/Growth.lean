import CardLink.Segment.Growth
import Mathlib.Algebra.Ring.Nat

/-!
A segment list holds the first eight segments that it is offered, in order, and the sum of their
lengths; every later one is refused and changes nothing.
-/

namespace CardLink

/-- A change after another starts from what that one left, and is left out if it failed. -/
theorem SegmentChange.run_then (first second : SegmentChange) (list : SegmentList) :
    (first >>= fun _ => second).run list =
      match first.run list with
      | (.ok (), next) => second.run next
      | (.error cause, next) => (.error cause, next) := by
  simp only [bind, ExceptT.bind, ExceptT.mk, StateT.bind, ExceptT.bindCont, ExceptT.run]
  cases first list with
  | mk outcome next => cases outcome <;> rfl

namespace SegmentList

section Push

variable (width : LengthWidth) {list : SegmentList} (segment : Segment)

/-- A segment is placed as long as there are fewer than eight. -/
theorem run_place :
    (place segment).run list =
      if list.segments.length < 8 then
        (.ok (), { list with segments := list.segments ++ [segment] })
      else (.error .segmentsFull, list) := by
  change (if list.segments.length < capacity then set _ else throw _ : SegmentChange).run list = _
  by_cases room : list.segments.length < 8
  · rw [if_pos room, if_pos (show _ < capacity from room)]
    rfl
  · rw [if_neg room, if_neg (show ¬ _ < capacity from room)]
    rfl

/-- A list with room takes a segment and counts its bytes. -/
theorem run_push_of_room (room : list.segments.length < 8) :
    (push width segment).run list =
      (.ok (), ⟨list.segments ++ [segment],
        (list.totalLength + segment.length) % (width.greatest + 1)⟩) := by
  rw [push, SegmentChange.run_then, run_place, if_pos room]
  rfl

/-- A full list refuses a segment, and its number of bytes stays as it is. -/
theorem run_push_of_full (full : 8 ≤ list.segments.length) :
    (push width segment).run list = (.error .segmentsFull, list) := by
  rw [push, SegmentChange.run_then, run_place, if_neg (Nat.not_lt.mpr full)]

/-- As long as the word holds the number of bytes, growing in place is appending. -/
theorem run_push_eq_append (fits : list.totalLength + segment.length ≤ width.greatest) :
    (push width segment).run list =
      match list.append segment with
      | .ok longer => (.ok (), longer)
      | .error cause => (.error cause, list) := by
  rw [append]
  by_cases room : list.segments.length < capacity
  · rw [run_push_of_room width segment room, if_pos room, Nat.mod_eq_of_lt (by omega)]
  · rw [run_push_of_full width segment (Nat.not_lt.mp room), if_neg room]

end Push

/-- A run of appends is the run of the first ones and, from the list they leave, that of the others. -/
theorem pushAll_append (width : LengthWidth) (list : SegmentList) (first second : List Segment) :
    pushAll width list (first ++ second) =
      ((pushAll width list first).1 ++ (pushAll width (pushAll width list first).2 second).1,
        (pushAll width (pushAll width list first).2 second).2) := by
  induction first generalizing list with
  | nil => rfl
  | cons segment rest ih => simp only [List.cons_append, pushAll, ih]

/-- From a full list on, every append is refused, and the list stays as it is. -/
theorem pushAll_of_full (width : LengthWidth) {list : SegmentList} (full : 8 ≤ list.segments.length)
    (offered : List Segment) :
    pushAll width list offered = (List.replicate offered.length (.error .segmentsFull), list) := by
  induction offered with
  | nil => rfl
  | cons segment rest ih =>
    simp only [pushAll, run_push_of_full width segment full, ih, List.length_cons,
      List.replicate_succ]

/-- A list holds what it was offered: the first eight segments, and the sum of their lengths. -/
structure HoldsFirst (offered : List Segment) (list : SegmentList) : Prop where
  /-- The first eight segments are held, in order. -/
  segments_eq : list.segments = offered.take 8
  /-- Their bytes are counted, and no others. -/
  total_eq : list.totalLength = (list.segments.map Segment.length).sum

namespace HoldsFirst

variable {width : LengthWidth} {offered : List Segment} {list : SegmentList}

/-- The number of segments held tells how many were offered, up to eight. -/
theorem length_segments (holds : HoldsFirst offered list) :
    list.segments.length = min 8 offered.length := by
  rw [holds.segments_eq, List.length_take]

/-- No more bytes are counted than were offered. -/
theorem total_le (holds : HoldsFirst offered list) :
    list.totalLength ≤ (offered.map Segment.length).sum := by
  have parts : offered.take 8 ++ offered.drop 8 = offered := List.take_append_drop 8 offered
  calc list.totalLength
      _ = ((offered.take 8).map Segment.length).sum := by rw [holds.total_eq, holds.segments_eq]
      _ ≤ ((offered.take 8).map Segment.length).sum + ((offered.drop 8).map Segment.length).sum :=
        Nat.le_add_right _ _
      _ = (offered.map Segment.length).sum := by rw [← List.sum_append, ← List.map_append, parts]

/-- One more segment keeps a list to what it was offered. -/
theorem push (holds : HoldsFirst offered list) (segment : Segment)
    (fits : ((offered ++ [segment]).map Segment.length).sum ≤ width.greatest) :
    HoldsFirst (offered ++ [segment]) ((SegmentList.push width segment).run list).2 := by
  have held := holds.length_segments
  by_cases room : offered.length < 8
  · -- All segments so far are held, and the sum of their lengths fits the word.
    have all : list.segments = offered :=
      holds.segments_eq.trans (List.take_of_length_le (Nat.le_of_lt room))
    have total : list.totalLength + segment.length ≤ width.greatest := by
      rw [holds.total_eq, all]
      simpa using fits
    rw [run_push_of_room width segment (by omega)]
    constructor
    · dsimp only
      rw [all, List.take_of_length_le (by rw [List.length_append, List.length_singleton]; omega)]
    · dsimp only
      rw [Nat.mod_eq_of_lt (Nat.lt_succ_of_le total), holds.total_eq, List.map_append,
        List.sum_append, List.map_singleton, List.sum_singleton]
  · -- A ninth segment is none of the first eight, and the list does not change.
    rw [run_push_of_full width segment (by omega)]
    refine ⟨?_, holds.total_eq⟩
    rw [List.take_append_of_le_length (Nat.not_lt.mp room)]
    exact holds.segments_eq

/-- So does a run of appends. -/
theorem pushAll (holds : HoldsFirst offered list) (later : List Segment)
    (fits : ((offered ++ later).map Segment.length).sum ≤ width.greatest) :
    HoldsFirst (offered ++ later) (SegmentList.pushAll width list later).2 := by
  -- The first of the segments is offered like any other, and then belongs to those before.
  induction later generalizing offered list with
  | nil => rwa [List.append_nil]
  | cons segment rest ih =>
    rw [← List.singleton_append, ← List.append_assoc] at fits ⊢
    refine ih (holds.push segment ?_) fits
    rw [List.map_append, List.sum_append] at fits
    exact Nat.le_trans (Nat.le_add_right _ _) fits

end HoldsFirst

/-- A list that only held what it was offered is empty exactly if no append succeeded. -/
theorem isEmpty_pushAll_iff (width : LengthWidth) (offered : List Segment)
    (fits : (offered.map Segment.length).sum ≤ width.greatest) :
    (pushAll width .empty offered).2.isEmpty = true
      ↔ Except.ok () ∉ (pushAll width .empty offered).1 := by
  have start : HoldsFirst [] SegmentList.empty := ⟨rfl, rfl⟩
  have holds := start.pushAll offered fits
  cases offered with
  | nil => simp [pushAll, empty, isEmpty]
  | cons segment rest =>
    -- The empty list has room, so the first append succeeds, and its segment stays.
    have first : (push width segment).run .empty =
        (.ok (), ⟨[segment], segment.length % (width.greatest + 1)⟩) := by
      rw [run_push_of_room width segment (by decide)]
      simp [empty]
    have taken : Except.ok () ∈ (pushAll width .empty (segment :: rest)).1 := by
      simp [pushAll, first]
    have some_held : (pushAll width .empty (segment :: rest)).2.segments ≠ [] := by
      rw [holds.segments_eq]
      simp
    simp [isEmpty, taken, some_held]

end SegmentList

/--
A segment list at any moment of a run of appends: after the ones before, and ahead of the later ones.

It holds the first eight of the segments it was offered, as they were and in order, together with the
sum of their lengths, and is empty exactly if no append succeeded. The next append is refused exactly
if eight segments are held; from then on nothing changes, and every append is refused.
-/
theorem first_segments_held (width : LengthWidth) (before later : List Segment)
    (fits : ((before ++ later).map Segment.length).sum ≤ width.greatest) :
    let (answers, held) := SegmentList.pushAll width .empty before
    let (further, final) := SegmentList.pushAll width held later
    SegmentList.pushAll width .empty (before ++ later) = (answers ++ further, final)
      ∧ held.segments = before.take 8
      ∧ held.totalLength = (held.segments.map Segment.length).sum
      ∧ (held.isEmpty = true ↔ Except.ok () ∉ answers)
      ∧ (∀ segment rest, later = segment :: rest →
        let outcome := (SegmentList.push width segment).run held
        outcome.1 = (if held.segments.length = 8 then .error .segmentsFull else .ok ())
          ∧ outcome =
            match held.append segment with
            | .ok longer => (.ok (), longer)
            | .error cause => (.error cause, held))
      ∧ (held.segments.length = 8 →
        further = List.replicate later.length (.error .segmentsFull) ∧ final = held) := by
  have start : SegmentList.HoldsFirst [] SegmentList.empty := ⟨rfl, rfl⟩
  have fitsBefore : (before.map Segment.length).sum ≤ width.greatest := by
    rw [List.map_append, List.sum_append] at fits
    omega
  have holds := start.pushAll before fitsBefore
  rw [List.nil_append] at holds
  have held := holds.length_segments
  refine ⟨SegmentList.pushAll_append width .empty before later, holds.segments_eq, holds.total_eq,
    SegmentList.isEmpty_pushAll_iff width before fitsBefore, ?_, ?_⟩
  · rintro segment rest rfl outcome
    constructor
    · by_cases room : before.length < 8
      · rw [show outcome = _ from SegmentList.run_push_of_room width segment (by omega),
          if_neg (by omega)]
      · rw [show outcome = _ from SegmentList.run_push_of_full width segment (by omega),
          if_pos (by omega)]
    · -- What is held comes from the segments before, so the sum with the next one fits as well.
      have within := holds.total_le
      rw [List.map_append, List.sum_append, List.map_cons, List.sum_cons] at fits
      exact SegmentList.run_push_eq_append width segment (by omega)
  · intro full
    have refused := SegmentList.pushAll_of_full width (Nat.le_of_eq full.symm) later
    constructor <;> rw [refused]

/-- Eight segments, of which some overlap and one is empty, leave no place for a ninth. -/
theorem first_segments_held_ninth :
    let eight : List Segment :=
      [⟨0, 4⟩, ⟨2, 4⟩, ⟨9, 0⟩, ⟨9, 1⟩, ⟨0, 4⟩, ⟨20, 0⟩, ⟨30, 7⟩, ⟨100, 0xFFFFFF00⟩]
    let later : List Segment := [⟨40, 230⟩, ⟨50, 0⟩]
    ((eight ++ later).map Segment.length).sum ≤ LengthWidth.bits32.greatest
      ∧ SegmentList.pushAll .bits32 .empty (eight ++ later) =
        (List.replicate 8 (.ok ()) ++ List.replicate 2 (.error .segmentsFull), ⟨eight, 0xFFFFFF14⟩) := by
  intro eight later
  have fits : ((eight ++ later).map Segment.length).sum ≤ LengthWidth.bits32.greatest := by decide
  obtain ⟨together, -, -, -, -, refused⟩ := first_segments_held .bits32 eight later fits
  obtain ⟨answers, final⟩ := refused rfl
  refine ⟨fits, ?_⟩
  rw [together, answers, final]
  rfl

end CardLink
