import CardLink.Machine.Spread
import CardLink.Proofs.Device.Spread
import CardLink.Proofs.Machine.Block
import CardLink.Proofs.Machine.Copy

/-!
Block transfers over several buffers do not depend on how wide the machine is either. Together with those
from one buffer and with the copies, their arithmetic is exact, and no mishap ends them.
-/

namespace CardLink

namespace Machine

variable {width : LengthWidth} (rigour : Rigour)

/-- A segment is appended as without a machine, if the bytes of the longer list can be counted. -/
theorem append_eq (width : LengthWidth) {list : SegmentList} (segment : Segment)
    (fits : list.segments.length < 8 → list.totalLength + segment.length ≤ width.greatest) :
    append rigour width list segment = .ok (list.append segment) := by
  rw [append, SegmentList.append]
  split
  · rename_i room
    rw [LengthWord.sum_ofNat rigour (fits room)]
    change Except.ok (Except.ok (SegmentList.mk _ (BitVec.toNat _))) = _
    rw [LengthWord.toNat_ofNat width (fits room)]
  · rfl

/-- Segments are appended as without a machine, if the bytes of those that find a place can be counted. -/
theorem appendAll_eq (width : LengthWidth) (list : SegmentList) (offset : Nat) (lengths : List Nat)
    (fits : list.totalLength + (lengths.take (8 - list.segments.length)).sum ≤ width.greatest) :
    appendAll rigour width list offset lengths = .ok (list.appendAll offset lengths) := by
  -- The first segment without a place ends the run, and none behind it is counted.
  induction lengths generalizing list offset with
  | nil => rfl
  | cons length rest ih =>
    by_cases room : list.segments.length < 8
    · have places : 8 - list.segments.length = 8 - (list.segments.length + 1) + 1 := by omega
      rw [places, List.take_succ_cons, List.sum_cons] at fits
      rw [appendAll, SegmentList.appendAll,
        append_eq rigour width ⟨offset, length⟩ (fun _ => by dsimp only; omega)]
      rw [SegmentList.append, if_pos (show _ < SegmentList.capacity from room)]
      apply ih
      simp only [List.length_append, List.length_singleton]
      omega
    · have full : list.append ⟨offset, length⟩ = .error .segmentsFull := by
        rw [SegmentList.append, if_neg (show ¬ _ < SegmentList.capacity from room)]
      rw [appendAll, SegmentList.appendAll, append_eq rigour width _ (absurd · room), full]
      rfl

/-- Blocks across several buffers are counted as without a machine. -/
theorem spreadBlockCount_eq (totalLength : LengthWord width) (blockSize : UInt32) :
    spreadBlockCount rigour totalLength blockSize =
      .ok (CardLink.spreadBlockCount totalLength.toNat blockSize) := by
  rw [spreadBlockCount, CardLink.spreadBlockCount]
  simp only [bind, Except.bind, throw, throwThe, MonadExceptOf.throw, pure, Except.pure]
  split
  · rfl
  · rename_i fine
    have positive : 1 ≤ blockSize.toNat :=
      Nat.pos_of_ne_zero fun zero => fine (.inl (UInt32.toNat_inj.mp zero))
    obtain ⟨computed, left⟩ := LengthWord.remainder_ofCount rigour totalLength positive
    simp only [computed, LengthWord.eq_zero_iff, left, ne_eq]
    by_cases empty : totalLength.toNat = 0
    · rw [if_pos empty, if_pos (.inl empty)]
    · by_cases whole : totalLength.toNat % blockSize.toNat = 0
      · -- The division is exact, and the limit on the blocks makes their number fit 32 bits.
        obtain ⟨divided, value⟩ := LengthWord.quotient_ofCount rigour totalLength positive
          (Nat.dvd_of_mod_eq_zero whole)
        have most : maxBlockCount.toNat = 511 := rfl
        rw [if_neg empty, if_neg (not_not_intro whole), if_neg (by omega), divided]
        simp only [LengthWord.eq_one_iff, gt_iff_lt, BitVec.lt_def, LengthWord.toNat_ofCount, value]
        split
        · rfl
        · rw [LengthWord.toCount_of_lt rigour (by rw [value]; omega), value]
      · rw [if_neg empty, if_pos whole, if_pos (.inr whole)]

/-- The blocks of an accepted total make up all of it, and their number fits 32 bits. -/
theorem toNat_of_spreadBlockCount {totalLength : LengthWord width} {blockSize blocks : UInt32}
    (counted : spreadBlockCount rigour totalLength blockSize = .ok (.ok blocks)) :
    blocks.toNat * blockSize.toNat = totalLength.toNat := by
  rw [spreadBlockCount_eq, CardLink.spreadBlockCount_eq] at counted
  split at counted
  · cases counted
  · rename_i fine
    cases counted
    rw [UInt32.toNat_ofNat', Nat.mod_eq_of_lt (by omega),
      Nat.div_mul_cancel (Nat.dvd_of_mod_eq_zero (by omega))]

/-- A transfer with a valid target is laid out and issued as without a machine. -/
theorem moveLaidOut_eq (config : DeviceConfig) (request : BlockRequest) {lengths : List Nat}
    (memory : Bytes) (fits : (lengths.take 8).sum ≤ config.lengthWidth.greatest)
    (address_le : request.address.toNat ≤ 0x1FFFF) :
    moveLaidOut rigour config request lengths memory =
      liftM (CardLink.moveLaidOut config request lengths memory) := by
  have appended := appendAll_eq rigour config.lengthWidth .empty 0 lengths
    (by rw [SegmentList.empty]; simpa using fits)
  rw [moveLaidOut, CardLink.moveLaidOut, appended, ← SegmentList.ofLengths]
  simp only [liftM_ok, pure_bind]
  cases laid : SegmentList.ofLengths lengths with
  | error cause => rfl
  | ok list =>
    -- A list of all segments counts all of their bytes.
    rw [SegmentList.ofLengths_eq] at laid
    split at laid
    · rename_i few
      cases laid
      have total := LengthWord.toNat_ofNat config.lengthWidth
        (List.take_of_length_le few ▸ fits)
      simp only [spreadBlockCount_eq, total, liftM_ok, pure_bind]
      cases CardLink.spreadBlockCount lengths.sum request.blockSize with
      | error cause => rfl
      | ok blockCount => simp only [addressField_of_le rigour address_le, liftM_ok, pure_bind]
    · cases laid

/-- Several buffers are moved as without a machine, whatever becomes of the request. -/
theorem moveSpread_eq (config : DeviceConfig) (request : BlockRequest) {buffers : List Bytes}
    (fits : ((buffers.take 8).map List.length).sum ≤ config.lengthWidth.greatest) :
    moveSpread rigour config request buffers =
      liftM (CardLink.moveSpread config request buffers) := by
  rw [List.map_take] at fits
  rw [moveSpread, CardLink.moveSpread]
  cases checked : checkTarget request.function request.address with
  | error cause => rfl
  | ok target =>
    have valid := ValidTarget.of_check checked
    simp only [moveLaidOut_eq rigour config request buffers.flatten fits valid.address_le]
    rw [← holdingBus_eq]
    simp only [liftM_bind, liftM_pure]

/-- A write across several buffers is carried out as without a machine. -/
theorem writeSpread_eq (config : DeviceConfig) (function : UInt8) (address blockSize : UInt32)
    {buffers : List Bytes}
    (fits : ((buffers.take 8).map List.length).sum ≤ config.lengthWidth.greatest) :
    writeSpread rigour config function address blockSize buffers =
      liftM (CardLink.writeSpread config function address blockSize buffers) := by
  rw [writeSpread, CardLink.writeSpread, moveSpread_eq rigour config _ fits]
  simp only [liftM_bind, liftM_pure]

end Machine

/-- What a machine computes for several buffers, with nothing lost on the way. -/
structure ExactSpread (rigour : Rigour) (width : LengthWidth) (blockSize : UInt32)
    (buffers : List Bytes) : Prop where
  /-- The bytes of the list are counted in full. -/
  listed : Machine.appendAll rigour width .empty 0 (buffers.map List.length) =
    .ok (SegmentList.ofLengths (buffers.map List.length))
  /-- Any number of bytes is judged by the true number of its blocks. -/
  judged (total : LengthWord width) : Machine.spreadBlockCount rigour total blockSize =
    .ok (spreadBlockCount total.toNat blockSize)
  /-- The blocks of an accepted number of bytes make up all of it, and fit 32 bits. -/
  counted (total : LengthWord width) (blocks : UInt32)
    (accepted : Machine.spreadBlockCount rigour total blockSize = .ok (.ok blocks)) :
    blocks.toNat * blockSize.toNat = total.toNat

/-- A machine computes exactly with buffers whose bytes it can count. -/
theorem ExactSpread.of_fits (rigour : Rigour) (width : LengthWidth) (blockSize : UInt32)
    {buffers : List Bytes} (fits : ((buffers.take 8).map List.length).sum ≤ width.greatest) :
    ExactSpread rigour width blockSize buffers where
  listed := by
    rw [List.map_take] at fits
    exact Machine.appendAll_eq rigour width .empty 0 _ (by simpa [SegmentList.empty] using fits)
  judged total := Machine.spreadBlockCount_eq rigour total blockSize
  counted _ _ accepted := Machine.toNat_of_spreadBlockCount rigour accepted

/--
The arithmetic of block transfers is exact, whether lengths have 32 or 64 bits and whatever the arguments.

A product of block count and block size is missing only where no length word holds it, so the accepted
requests are those that pass every check. All that is computed for them is exact, and so are the copies
between segments and one buffer. Under any rigour, the exacting one included, no mishap ends a request,
and every request is the one without a machine.
-/
theorem block_arithmetic_exact (rigour : Rigour) (config : DeviceConfig) (function : UInt8)
    (address blockCount blockSize : UInt32) (buffer : Bytes) (buffers : List Bytes)
    (fits : buffer.length ≤ config.lengthWidth.greatest)
    (allFit : ((buffers.take 8).map List.length).sum ≤ config.lengthWidth.greatest) :
    let width := config.lengthWidth
    let length? := Machine.blockLength function address blockCount blockSize (.ofBytes width buffer)
    (LengthWord.product? (.ofCount width blockCount) (.ofCount width blockSize) = none ↔
        width.greatest < blockCount.toNat * blockSize.toNat)
      ∧ ((∃ length, length? = .ok length) ↔
          AcceptedBlocks function address blockCount blockSize buffer.length)
      ∧ (∀ length, length? = .ok length →
          ExactBlocks rigour address blockCount blockSize buffer length)
      ∧ ExactSpread rigour width blockSize buffers
      ∧ (∀ list memory, list.MadeOver memory.length →
          (∀ segment ∈ list.segments, segment.length ≤ width.greatest) →
          ExactCopy rigour width list memory)
      ∧ (Machine.readBlocks rigour config function address blockCount blockSize buffer).run =
          .ok <$> readBlocks config function address blockCount blockSize buffer
      ∧ (Machine.writeBlocks rigour config function address blockCount blockSize buffer).run =
          .ok <$> writeBlocks config function address blockCount blockSize buffer
      ∧ (Machine.readSpread rigour config function address blockSize buffers).run =
          .ok <$> readSpread config function address blockSize buffers
      ∧ (Machine.writeSpread rigour config function address blockSize buffers).run =
          .ok <$> writeSpread config function address blockSize buffers := by
  intro width length?
  refine ⟨?_, ⟨?_, ?_⟩, ?_, ExactSpread.of_fits rigour width blockSize allFit,
    fun _ _ => ExactCopy.of_made rigour, ?_, ?_, ?_, ?_⟩
  · rw [LengthWord.product?_eq_none_iff, LengthWord.toNat_ofCount, LengthWord.toNat_ofCount]
  · rintro ⟨length, checked⟩
    exact (Machine.accepted_of_blockLength config fits checked).2
  · exact Machine.blockLength_of_accepted config fits
  · intro length checked
    exact .of_accepted rigour config fits checked
  · rw [Machine.readBlocks, Machine.moveBlocks_eq rigour config _ blockCount fits]
    rfl
  · rw [Machine.writeBlocks_eq rigour config function address blockCount blockSize fits]
    rfl
  · rw [Machine.readSpread, Machine.moveSpread_eq rigour config _ allFit]
    rfl
  · rw [Machine.writeSpread_eq rigour config function address blockSize allFit]
    rfl

/-- With words of 32 bits, blocks of the greatest size pass the end of the addresses in two commands. -/
theorem block_arithmetic_exact_narrow :
    let config : DeviceConfig := { incrementAddress := true, lengthWidth := .bits32 }
    let buffer : Bytes := List.replicate 1050630 7
    let buffers : List Bytes := [List.replicate 4000 1, [], List.replicate 96 2]
    let length : LengthWord config.lengthWidth := 1050624
    let list : SegmentList := ⟨[⟨0, 4000⟩, ⟨4000, 96⟩], 4096⟩
    buffer.length ≤ config.lengthWidth.greatest
      ∧ ((buffers.take 8).map List.length).sum ≤ config.lengthWidth.greatest
      ∧ Machine.blockLength 1 0x1FFFF 513 2048 (.ofBytes config.lengthWidth buffer) = .ok length
      ∧ ExactBlocks .exacting 0x1FFFF 513 2048 buffer length
      ∧ ExactSpread .exacting config.lengthWidth 2048 buffers
      ∧ ExactCopy .exacting config.lengthWidth list buffers.flatten
      ∧ (Machine.readBlocks .exacting config 1 0x1FFFF 513 2048 buffer).run =
          .ok <$> readBlocks config 1 0x1FFFF 513 2048 buffer
      ∧ (Machine.writeBlocks .exacting config 1 0x1FFFF 513 2048 buffer).run =
          .ok <$> writeBlocks config 1 0x1FFFF 513 2048 buffer
      ∧ (Machine.readSpread .exacting config 1 0x1FFFF 2048 buffers).run =
          .ok <$> readSpread config 1 0x1FFFF 2048 buffers
      ∧ (Machine.writeSpread .exacting config 1 0x1FFFF 2048 buffers).run =
          .ok <$> writeSpread config 1 0x1FFFF 2048 buffers := by
  intro config buffer buffers length list
  have bytes : buffer.length = 1050630 := List.length_replicate
  have sum : ((buffers.take 8).map List.length).sum = 4096 := by
    -- The buffers are too long to be written out.
    simp [buffers, -List.reduceReplicate]
  have memory : buffers.flatten.length = 4096 := by
    simp [buffers, -List.reduceReplicate]
  -- Only the lengths matter from here on.
  clear_value buffer buffers
  have fits : buffer.length ≤ config.lengthWidth.greatest := by
    rw [bytes]
    decide
  have allFit : ((buffers.take 8).map List.length).sum ≤ config.lengthWidth.greatest := by
    rw [sum]
    decide
  have checked : Machine.blockLength 1 0x1FFFF 513 2048 (.ofBytes config.lengthWidth buffer) =
      .ok length := by
    rw [LengthWord.ofBytes, bytes]
    change Machine.blockLength 1 0x1FFFF 513 2048 (1050630 : LengthWord .bits32) =
      .ok (1050624 : LengthWord .bits32)
    rfl
  have made : list.MadeOver buffers.flatten.length := by
    rw [memory]
    have one : SegmentList.MadeOver 4096 ⟨[⟨0, 4000⟩], 4000⟩ :=
      .append .empty (show Segment.Within ⟨0, 4000⟩ 4096 by decide) rfl
    exact .append one (show Segment.Within ⟨4000, 96⟩ 4096 by decide) rfl
  have held : ∀ segment ∈ list.segments, segment.length ≤ config.lengthWidth.greatest := by decide
  obtain ⟨-, -, blocks, spread, copies, programs⟩ :=
    block_arithmetic_exact .exacting config 1 0x1FFFF 513 2048 buffer buffers fits allFit
  exact ⟨fits, allFit, checked, blocks length checked, spread, copies list _ made held, programs⟩

end CardLink
