import CardLink.Proofs.Device.Request
import CardLink.Proofs.Operation.Single

/-! What a register access makes of the answer, and which bits of a response decide over a command. -/

namespace CardLink

/-- The register value in a response word is its low byte. -/
theorem IoStatus.data_eq (status : IoStatus) : status.data = UInt8.ofNat (status.word.toNat % 256) := by
  -- A byte word keeps what is left of a division by 256.
  apply UInt8.toNat_inj.mp
  rw [IoStatus.data, UInt32.toNat_toUInt8, UInt8.toNat_ofNat']
  omega

/-- Words with the same low bits have the same low byte. -/
theorem lowByte_congr {word other : UInt32}
    (agree : ∀ bit ∈ List.range 8, bitSet other bit = bitSet word bit) :
    other.toNat % 256 = word.toNat % 256 := by
  -- Bits from the eighth on are lost, and the ones below are the same.
  change other.toNat % 2 ^ 8 = word.toNat % 2 ^ 8
  apply Nat.eq_of_testBit_eq
  intro bit
  rw [Nat.testBit_mod_two_pow, Nat.testBit_mod_two_pow]
  by_cases low : bit < 8
  · exact congrArg (decide (bit < 8) && ·) (agree bit (List.mem_range.mpr low))
  · rw [decide_eq_false low, Bool.false_and, Bool.false_and]

/-- A fault in the I/O status counts like a failed transfer, and the value is in the low byte. -/
def registerRule : Judgement DeviceError UInt8 where
  cause := .bus .transferFailed
  faults := ioFaultBits
  accept word := .ok (UInt8.ofNat (word.toNat % 256))
  further := List.range 8
  accept_congr word other agree := by rw [lowByte_congr agree]

/-- A plain write is judged like any register access, and its value is dropped. -/
def registerWriteRule : Judgement DeviceError Unit where
  cause := .bus .transferFailed
  faults := ioFaultBits
  accept _ := .ok ()
  further := []
  accept_congr _ _ _ := rfl

/-- What becomes of an I/O command, in terms of the end of its transfer and of the fault bits. -/
theorem TransferReply.verdict_eq (reply : TransferReply) :
    reply.verdict =
      if reply.completed && !ioFaultBits.any (bitSet reply.response.word0) then .ok ()
      else .error (.bus .transferFailed) := by
  cases outcome : reply.outcome with
  | error cause => simp [verdict, failed, completed, outcome]
  | ok done =>
    -- The two sides ask for the fault bits in opposite ways.
    cases faults : ioFaultBits.any (bitSet reply.response.word0) <;>
      simp [verdict, failed, completed, outcome, faults]

section Access

variable (config : DeviceConfig) {access : DirectAccess}

/-- With a free bus, an access to a valid target does what it does under the lock. -/
theorem run_accessLocked {σ : Type} (model : HostModel σ) {state : BusState σ}
    (valid : ValidTarget access.function access.address) (free : state.locked = false) :
    let accessed := Bus.run model (accessLocked config access).run state
    let answered := model.answer (.transfer access.transfer) state.host
    accessed.value = answered.1.verdict.map (fun _ => IoStatus.data ⟨answered.1.response.word0⟩)
      ∧ accessed.state.host = answered.2
      ∧ accessed.exchanges = [⟨.transfer access.transfer, answered.1⟩] := by
  -- The check comes before the lock, and neither is a call.
  obtain ⟨value, host, -, exchanges⟩ := run_accessRegister model { state with locked := true } access
  rw [accessLocked_eq, valid.check]
  simp only [run_locking_free model config _ _ free]
  exact ⟨value, host, exchanges⟩

/-- An access whose value is passed on in some form is judged by its I/O status. -/
theorem judged_accessLocked {α : Type} {rule : Judgement DeviceError α} (take : UInt8 → α)
    (cause : rule.cause = .bus .transferFailed) (faults : rule.faults = ioFaultBits)
    (accept : ∀ word, rule.accept word = .ok (take (IoStatus.data ⟨word⟩)))
    (valid : ValidTarget access.function access.address) :
    JudgedBy rule (.ioDirect access) (fun state => state.locked = false)
      (take <$> accessLocked config access) := by
  apply JudgedBy.of_value
  · intro state free
    obtain ⟨-, -, exchanges⟩ := run_accessLocked config ScriptedHost.model valid free
    rw [ExceptT.run_map, Bus.run_map]
    exact ⟨_, exchanges⟩
  · intro state free
    obtain ⟨value, -, -⟩ := run_accessLocked config ScriptedHost.model valid free
    have verdict := TransferReply.verdict_eq (state.host.transfer access.transfer).1
    have word : (state.host.transfer access.transfer).1.response.word0 = state.host.nextWord :=
      ScriptedHost.word0_command state.host rfl
    rw [ScriptedHost.completed_transfer, word, ← faults] at verdict
    rw [ExceptT.run_map, Bus.run_map]
    change Except.map take _ = _
    rw [value]
    change Except.map take ((state.host.transfer access.transfer).1.verdict.map fun _ =>
      IoStatus.data ⟨(state.host.transfer access.transfer).1.response.word0⟩) = _
    rw [verdict, word, Judgement.verdict]
    -- Either the cause or the value goes through both functions.
    split
    · exact (accept _).symm
    · exact congrArg Except.error cause.symm

/-- An access that passes on the value itself takes the low byte. -/
theorem judged_accessLocked_value (valid : ValidTarget access.function access.address) :
    JudgedBy registerRule (.ioDirect access) (fun state => state.locked = false)
      (accessLocked config access) := by
  have passed : JudgedBy registerRule (.ioDirect access) (fun state => state.locked = false)
      (id <$> accessLocked config access) :=
    judged_accessLocked config id rfl rfl
      (fun word => congrArg Except.ok (IoStatus.data_eq ⟨word⟩).symm) valid
  rwa [id_map] at passed

/-- An access that drops the value takes any word without a fault. -/
theorem judged_accessLocked_unit (valid : ValidTarget access.function access.address) :
    JudgedBy registerWriteRule (.ioDirect access) (fun state => state.locked = false)
      (accessLocked config access >>= fun _ => pure ()) := by
  rw [bind_pure_comp]
  exact judged_accessLocked config (fun _ => ()) rfl rfl (fun _ => rfl) valid

end Access

/-- Which answers an operation of one command takes: those without a fault bit, behind a transfer that
was carried out; the announcement of an application command asks for one bit more, and the value of a
register is in the low byte. The commands are those of the indices 7, 23, 16, 55 and 52. -/
theorem responses_taken (config : DeviceConfig) (card : UInt16) (count size : UInt32)
    (function : UInt8) (address : UInt32) (value : UInt8) :
    ([Command.selectCard card true, .setBlockCount count, .setBlockSize size,
        .announceApplication card].map Command.index = [7, 23, 16, 55]
      ∧ ∀ access : DirectAccess, (Command.ioDirect access).index = 52)
      ∧ JudgedBy statusRule (.selectCard card true) (fun _ => True) (selectCard card true)
      ∧ JudgedBy statusRule (.setBlockCount count) (fun _ => True) (setBlockCount count)
      ∧ JudgedBy statusRule (.setBlockSize size) (fun _ => True) (setBlockSize size)
      ∧ JudgedBy applicationRule (.announceApplication card) (fun _ => True) (announceApplication card)
      ∧ (ValidTarget function address →
          JudgedBy registerRule (.ioDirect ⟨false, function, address, false, 0⟩)
            (fun state => state.locked = false) (readRegister config function address)
          ∧ JudgedBy registerWriteRule (.ioDirect ⟨true, function, address, false, value⟩)
            (fun state => state.locked = false) (writeRegister config function address value)
          ∧ JudgedBy registerRule (.ioDirect ⟨true, function, address, true, value⟩)
            (fun state => state.locked = false) (writeReadRegister config function address value)) := by
  refine ⟨⟨rfl, fun _ => rfl⟩, judged_issueChecked_only _ rfl, judged_issueChecked_only _ rfl,
    judged_issueChecked_only _ rfl, judged_announceApplication card, ?_⟩
  intro valid
  exact ⟨judged_accessLocked_value config valid, judged_accessLocked_unit config valid,
    judged_accessLocked_value config valid⟩

/-- Bits that are no faults of a register access are faults of a card operation. -/
theorem responses_taken_last_register :
    let answering (word : UInt32) : BusState ScriptedHost := {
      host := .ofScript { transfers := [{ response := [word, 0xFFFFFFFF] }] }
      logger := { filter := .off } }
    let read := (readRegister {} 7 0x1FFFF).run
    let announce := (announceApplication 1).run
    ValidTarget 7 0x1FFFF
      ∧ (Bus.run ScriptedHost.model read (answering 0xFFFF30A5)).value = .ok 0xA5
      ∧ (Bus.run ScriptedHost.model read (answering 0x000001A5)).value = .error (.bus .transferFailed)
      ∧ (Bus.run ScriptedHost.model announce (answering 0x00000F20)).value = .ok ()
      ∧ (Bus.run ScriptedHost.model announce (answering 0x00000F00)).value =
          .error .commandUnsupported
      ∧ (Bus.run ScriptedHost.model announce (answering 0xFFFF30A5)).value = .error .transferFailed := by
  intro answering read announce
  have valid : ValidTarget 7 0x1FFFF := ⟨by decide, by decide⟩
  obtain ⟨-, -, -, -, announced, register⟩ := responses_taken {} 1 0 0 7 0x1FFFF 0
  obtain ⟨accessed, -, -⟩ := register valid
  -- The bits of each word that are faults under the rule it is judged by.
  have value : ioFaultBits.any (bitSet 0xFFFF30A5) = false := by decide
  have fault : ioFaultBits.any (bitSet 0x000001A5) = true := by decide
  have taken : cardFaultBits.any (bitSet 0x00000F20) = false := by decide
  have refused : cardFaultBits.any (bitSet 0x00000F00) = false := by decide
  have failed : cardFaultBits.any (bitSet 0xFFFF30A5) = true := by decide
  exact ⟨valid,
    (accessed.value (answering 0xFFFF30A5) rfl).trans (registerRule.verdict_clear value),
    (accessed.value (answering 0x000001A5) rfl).trans (registerRule.verdict_flagged fault),
    (announced.value (answering 0x00000F20) trivial).trans (applicationRule.verdict_clear taken),
    (announced.value (answering 0x00000F00) trivial).trans (applicationRule.verdict_clear refused),
    (announced.value (answering 0xFFFF30A5) trivial).trans (applicationRule.verdict_flagged failed)⟩

end CardLink
