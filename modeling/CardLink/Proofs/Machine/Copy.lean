import CardLink.Machine.Copy
import CardLink.Proofs.Machine
import CardLink.Proofs.Segment.Copy

/-!
Copies between segments and one buffer do not depend on how wide the machine is: no mishap happens to them,
and they move and count what they move and count without a machine.
-/

namespace CardLink

namespace Machine

variable {width : LengthWidth} (rigour : Rigour)

section Step

variable {buffer : Bytes} {copied : Nat} (fits : buffer.length ≤ width.greatest)
  (le : copied ≤ buffer.length)

include fits le

/-- A count is the length of the buffer exactly if it is in words. -/
theorem ofNat_eq_ofBytes_iff :
    BitVec.ofNat width.bits copied = LengthWord.ofBytes width buffer ↔ copied = buffer.length := by
  rw [← BitVec.toNat_inj, LengthWord.toNat_ofNat width (Nat.le_trans le fits),
    LengthWord.toNat_ofBytes fits]

/-- The bytes to copy are counted exactly. -/
theorem copyCount_eq {segment : Segment} (held : segment.length ≤ width.greatest) :
    copyCount rigour segment buffer (.ofNat width.bits copied) =
      .ok (.ofNat width.bits (min segment.length (buffer.length - copied))) := by
  have leftFits := Nat.le_trans (Nat.sub_le buffer.length copied) fits
  rw [copyCount, LengthWord.ofBytes, LengthWord.difference_ofNat rigour fits le]
  change Except.ok (LengthWord.least (.ofNat width.bits segment.length) _) = _
  rw [LengthWord.least_ofNat held leftFits]

/-- Bytes that the buffer has behind those copied before are found there. -/
theorem stretch_eq {count : Nat} (room : count ≤ buffer.length - copied) :
    stretch rigour buffer (.ofNat width.bits copied) (.ofNat width.bits count) =
      .ok (slice buffer copied count) := by
  have before := LengthWord.toNat_ofNat width (Nat.le_trans le fits)
  have further : (BitVec.ofNat width.bits count).toNat = count :=
    LengthWord.toNat_ofNat width (by omega)
  rw [stretch, behind_eq rigour fits (by rw [before]; exact le), before]
  change front rigour (buffer.drop copied) _ = _
  rw [front_eq rigour (by rw [List.length_drop]; omega) (by rw [further, List.length_drop]; exact room),
    further, slice]

end Step

section Loop

variable {segments : List Segment} (held : ∀ segment ∈ segments, segment.length ≤ width.greatest)

include held

/-- The loop that gathers copies and counts as without a machine. -/
theorem copyOut_eq (memory : Bytes) {copied : Nat} {destination : Bytes}
    (fits : destination.length ≤ width.greatest) (le : copied ≤ destination.length) :
    let after := CardLink.copyOut memory copied destination segments
    copyOut rigour memory (.ofNat width.bits copied) destination segments =
        .ok (.ofNat width.bits after.1, after.2)
      ∧ after.1 ≤ destination.length := by
  -- The count never passes the end of the destination, which keeps its length.
  induction segments generalizing copied destination with
  | nil => exact ⟨rfl, le⟩
  | cons segment rest ih =>
    obtain ⟨first, others⟩ := List.forall_mem_cons.mp held
    simp only [copyOut, CardLink.copyOut, ofNat_eq_ofBytes_iff fits le]
    split
    · exact ⟨rfl, le⟩
    · rw [copyCount_eq rigour fits le first]
      generalize moved : min segment.length (destination.length - copied) = count
      have room : count ≤ destination.length - copied := moved ▸ Nat.min_le_right ..
      have written : (slice memory segment.offset count).length ≤ count := List.length_take_le ..
      have kept : (overwrite destination copied (slice memory segment.offset count)).length =
          destination.length := length_overwrite (by omega)
      have further : copied + count ≤ width.greatest := by omega
      have later := ih others (Nat.le_trans (Nat.le_of_eq kept) fits)
        (show copied + count ≤ _ by rw [kept]; omega)
      rw [kept] at later
      simp only [stretch_eq rigour fits le room, LengthWord.sum_ofNat rigour further,
        LengthWord.toNat_ofNat width (Nat.le_trans (Nat.le_add_right ..) further),
        LengthWord.toNat_ofNat width (Nat.le_trans (Nat.le_add_left ..) further), bind, Except.bind]
      exact later

/-- The loop that scatters copies and counts as without a machine. -/
theorem copyIn_eq (memory : Bytes) {source : Bytes} {copied : Nat}
    (fits : source.length ≤ width.greatest) (le : copied ≤ source.length) :
    let after := CardLink.copyIn source copied memory segments
    copyIn rigour source (.ofNat width.bits copied) memory segments =
        .ok (.ofNat width.bits after.1, after.2)
      ∧ after.1 ≤ source.length := by
  -- The count never passes the end of the source.
  induction segments generalizing copied memory with
  | nil => exact ⟨rfl, le⟩
  | cons segment rest ih =>
    obtain ⟨first, others⟩ := List.forall_mem_cons.mp held
    simp only [copyIn, CardLink.copyIn, ofNat_eq_ofBytes_iff fits le]
    split
    · exact ⟨rfl, le⟩
    · rw [copyCount_eq rigour fits le first]
      generalize moved : min segment.length (source.length - copied) = count
      have room : count ≤ source.length - copied := moved ▸ Nat.min_le_right ..
      have further : copied + count ≤ width.greatest := by omega
      simp only [stretch_eq rigour fits le room, LengthWord.sum_ofNat rigour further, bind, Except.bind]
      exact ih others _ (by omega)

end Loop

end Machine

/-- What a machine computes for copies between segments and one buffer, with nothing lost on the way. -/
structure ExactCopy (rigour : Rigour) (width : LengthWidth) (list : SegmentList) (memory : Bytes) :
    Prop where
  /-- Gathering into any destination that the machine can hold. -/
  gathered (destination : Bytes) (fits : destination.length ≤ width.greatest) :
    Machine.gather rigour width list memory destination = .ok (list.gather memory destination)
  /-- Scattering any source that the machine can hold. -/
  scattered (source : Bytes) (fits : source.length ≤ width.greatest) :
    Machine.scatter rigour width list memory source = .ok (list.scatter memory source)

/-- A machine copies exactly with a list of segments that it can hold. -/
theorem ExactCopy.of_made (rigour : Rigour) {width : LengthWidth} {list : SegmentList} {memory : Bytes}
    (made : list.MadeOver memory.length)
    (held : ∀ segment ∈ list.segments, segment.length ≤ width.greatest) :
    ExactCopy rigour width list memory where
  gathered destination fits := by
    obtain ⟨copies, within⟩ := Machine.copyOut_eq rigour held memory fits (Nat.zero_le _)
    rw [SegmentList.copyOut_segments made] at copies within
    rw [Machine.gather, copies]
    change Except.ok (BitVec.toNat (BitVec.ofNat _ _), _) = _
    rw [LengthWord.toNat_ofNat width (Nat.le_trans within fits)]
  scattered source fits := by
    obtain ⟨copies, within⟩ := Machine.copyIn_eq rigour held memory fits (Nat.zero_le _)
    rw [SegmentList.copyIn_segments] at copies within
    rw [Machine.scatter, copies]
    change Except.ok (BitVec.toNat (BitVec.ofNat _ _), _) = _
    rw [LengthWord.toNat_ofNat width (Nat.le_trans within fits)]

end CardLink
