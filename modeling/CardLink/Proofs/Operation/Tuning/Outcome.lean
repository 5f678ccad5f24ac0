import CardLink.Proofs.Bus.Echo
import CardLink.Proofs.Operation.Tuning.Course

/-!
The outcome of a tuning, which the course of its windows fixes, and which depends neither on response
words nor on nameless bits.
-/

namespace CardLink

open Bus

/-- A flag within a mask is still there when the bits outside the mask are cleared. -/
theorem containsBits_and (bits : UInt32) {mask wanted : UInt32} (within : mask &&& wanted = wanted) :
    containsBits (bits &&& mask) wanted = containsBits bits wanted := by
  unfold containsBits
  rw [UInt32.and_assoc, within]

namespace TuningStatus

/-- The state with all but its three named bits cleared. -/
def named (status : TuningStatus) : TuningStatus := ⟨status.bits &&& 7⟩

@[simp] theorem named_active (status : TuningStatus) : status.named.active = status.active :=
  containsBits_and status.bits rfl

@[simp] theorem named_failed (status : TuningStatus) : status.named.failed = status.failed :=
  containsBits_and status.bits rfl

@[simp] theorem named_sampling (status : TuningStatus) : status.named.sampling = status.sampling :=
  containsBits_and status.bits rfl

end TuningStatus

/-- Two ends of a window that differ in nameless bits at most. -/
inductive WindowEnd.Matches : WindowEnd → WindowEnd → Prop where
  | aborted (cause : CardError) : Matches (.aborted cause) (.aborted cause)
  | exhausted : Matches .exhausted .exhausted
  | settled {status other : TuningStatus} (agree : status.named = other.named) :
      Matches (.settled status) (.settled other)

/-- The host as a tuning sees it: without response words, and without nameless bits. -/
def ScriptedHost.tuningView (host : ScriptedHost) : ScriptedHost :=
  host.blurred (fun _ => []) (· &&& 7)

/-- Two hosts that a tuning sees as one. -/
def SameTuning (host other : ScriptedHost) : Prop := host.tuningView = other.tuningView

namespace SameTuning

variable {host other : ScriptedHost}

theorem outcome (same : SameTuning host other) (asked : Transfer) :
    (host.transfer asked).1.outcome = (other.transfer asked).1.outcome := by
  rw [← ScriptedHost.outcome_blurred (fun _ => []) (· &&& 7) host,
    ← ScriptedHost.outcome_blurred (fun _ => []) (· &&& 7) other]
  exact congrArg (fun view => (view.transfer asked).1.outcome) same

theorem memory (same : SameTuning host other) (asked : Transfer) :
    (host.transfer asked).1.memory = (other.transfer asked).1.memory := by
  rw [← ScriptedHost.memory_blurred (fun _ => []) (· &&& 7) host,
    ← ScriptedHost.memory_blurred (fun _ => []) (· &&& 7) other]
  exact congrArg (fun view => (view.transfer asked).1.memory) same

theorem status (same : SameTuning host other) :
    (ScriptedHost.answer .tuningStatus host).1.named =
      (ScriptedHost.answer .tuningStatus other).1.named := by
  -- Clearing the nameless bits of every entry clears those of the entry that is read.
  have entries := congrArg (fun view => entryAt view.script.tuningStatuses view.tuningReads) same
  simp only [ScriptedHost.tuningView, ScriptedHost.blurred, HostScript.blurred,
    @entryAt_map (· &&& 7) rfl] at entries
  exact congrArg TuningStatus.mk entries

theorem answer (same : SameTuning host other) (asked : HostCall) :
    SameTuning (ScriptedHost.answer asked host).2 (ScriptedHost.answer asked other).2 :=
  ScriptedHost.answer_alike _ _ same asked

end SameTuning

section Echo

theorem echoes_request (asked : HostCall) (matching : asked.Reply → asked.Reply → Prop)
    (answers : ∀ here there, SameTuning here there →
      matching (ScriptedHost.answer asked here).1 (ScriptedHost.answer asked there).1) :
    Echoes ScriptedHost.model SameTuning matching (request asked) (request asked) :=
  .of_request fun _ _ same => ⟨answers _ _ same, same.answer asked⟩

theorem echoes_look :
    Echoes ScriptedHost.model SameTuning (fun status other => status.named = other.named)
      (request .tuningStatus) (request .tuningStatus) :=
  echoes_request _ _ fun _ _ same => same.status

/-- Two answers that a tuning goes on with in the same way. -/
def TransferReply.SameTuning (reply other : TransferReply) : Prop :=
  reply.outcome = other.outcome ∧ reply.memory = other.memory

theorem echoes_execute (asked : Transfer) :
    Echoes ScriptedHost.model SameTuning TransferReply.SameTuning (execute asked) (execute asked) := by
  have transfers : Echoes ScriptedHost.model SameTuning TransferReply.SameTuning
      (request (.transfer asked)) (request (.transfer asked)) :=
    echoes_request _ _ fun _ _ same => ⟨same.outcome asked, same.memory asked⟩
  apply transfers.bind
  -- The outcome alone decides whether a failure is logged.
  rintro ⟨outcome, response, memory, moved⟩ ⟨-, response', -, moved'⟩ ⟨rfl, rfl⟩
  cases outcome with
  | ok done => exact .of_pure ⟨rfl, rfl⟩
  | error cause => exact (Echoes.of_log _ _ _ _).bind fun _ _ _ => .of_pure ⟨rfl, rfl⟩

/-- Windows that match in how they ended, and left the same buffer. -/
def SameWindow (ended other : WindowEnd × Bytes) : Prop := ended.1.Matches other.1 ∧ ended.2 = other.2

theorem echoes_tuningWindow (index : UInt8) (blockSize : UInt32) (left : Nat) (buffer : Bytes) :
    Echoes ScriptedHost.model SameTuning SameWindow (tuningWindow index blockSize left buffer)
      (tuningWindow index blockSize left buffer) := by
  -- Both hosts want another command at the same times, since that is a named bit.
  induction left generalizing buffer with
  | zero => exact .of_pure ⟨.exhausted, rfl⟩
  | succ left ih =>
    apply (echoes_execute _).bind
    rintro ⟨outcome, response, memory, moved⟩ ⟨-, response', -, moved'⟩ ⟨rfl, rfl⟩
    cases outcome with
    | error cause => exact .of_pure ⟨.aborted cause, rfl⟩
    | ok done =>
      have waits := echoes_request (.delay tuningPollDelay) Eq fun _ _ _ => rfl
      refine waits.bind fun _ _ _ => echoes_look.bind fun status other agree => ?_
      have active : status.active = other.active := by
        rw [← status.named_active, agree, other.named_active]
      rw [active]
      split
      · exact ih _
      · exact .of_pure ⟨.settled agree, rfl⟩

theorem echoes_freshWindow (index : UInt8) (blockSize start step : UInt32) (buffer : Bytes) :
    Echoes ScriptedHost.model SameTuning SameWindow (freshWindow index blockSize start step buffer)
      (freshWindow index blockSize start step buffer) := by
  have enables := echoes_request (.tune start step true) Eq fun _ _ _ => rfl
  exact enables.bind fun _ _ _ => echoes_tuningWindow index blockSize tuningCommandLimit buffer

theorem echoes_tuningWindows (index : UInt8) (blockSize start step : UInt32) :
    Echoes ScriptedHost.model SameTuning WindowEnd.Matches (tuningWindows index blockSize start step)
      (tuningWindows index blockSize start step) := by
  have fresh := echoes_freshWindow index blockSize start step
  apply (fresh _).bind
  rintro ⟨first, buffer⟩ ⟨other, -⟩ ⟨agree, rfl⟩
  cases agree with
  | aborted cause => exact .of_pure (.aborted cause)
  | exhausted => exact .of_pure .exhausted
  | @settled status other agree =>
    -- An error is a named bit, too.
    have failed : status.failed = other.failed := by
      rw [← status.named_failed, agree, other.named_failed]
    simp only [failed]
    split
    · exact (Echoes.of_log _ _ _ _).bind fun _ _ _ => (fresh buffer).bind fun _ _ same =>
        .of_pure same.1
    · exact .of_pure (.settled agree)

theorem echoes_concludeTuning (start step : UInt32) {last other : WindowEnd}
    (same : last.Matches other) :
    Echoes ScriptedHost.model SameTuning Eq (concludeTuning start step last).run
      (concludeTuning start step other).run := by
  have disables := echoes_request (.tune start step false) Eq fun _ _ _ => rfl
  cases same with
  | aborted cause => exact disables.bind_lift fun _ _ _ => .of_pure rfl
  | exhausted =>
    refine (Echoes.of_log _ _ _ _).bind_lift fun _ _ _ => ?_
    exact disables.bind_lift fun _ _ _ => .of_pure rfl
  | settled _ =>
    -- What the last look decides by is a named bit as well.
    apply echoes_look.bind_lift
    intro status other agree
    have sampling : status.sampling = other.sampling := by
      rw [← status.named_sampling, agree, other.named_sampling]
    rw [sampling]
    split
    · exact .of_pure rfl
    · exact (Echoes.of_log _ _ _ _).bind_lift fun _ _ _ => .of_pure rfl

theorem echoes_executeTuning (index : UInt8) (blockSize start step : UInt32) :
    Echoes ScriptedHost.model SameTuning Eq (executeTuning index blockSize start step).run
      (executeTuning index blockSize start step).run := by
  by_cases fits : blockSize.toNat = 0 ∨ blockSize.toNat > maxTuningBlockSize
  · rw [executeTuning, if_pos fits]
    exact .of_pure rfl
  · rw [executeTuning_eq index blockSize start step fits]
    exact (echoes_tuningWindows index blockSize start step).bind_lift fun _ _ same =>
      echoes_concludeTuning start step same

end Echo

/--
A block of an impossible size is refused without a call to the host; any other tuning takes its course.

Hosts that differ in response words and nameless bits only are called alike, to the same result.
-/
theorem tuning_outcome (state : BusState ScriptedHost) (index : UInt8) (blockSize start step : UInt32) :
    let ran := Bus.run ScriptedHost.model (executeTuning index blockSize start step).run state
    (ran.value = .error .argumentInvalid ↔ blockSize.toNat = 0 ∨ blockSize.toNat > 128)
      ∧ (ran.value = .error .argumentInvalid → ran.exchanges = [])
      ∧ (0 < blockSize.toNat → blockSize.toNat ≤ 128 → ∃ course : TuningCourse blockSize,
        ran.exchanges = course.exchanges index start step ∧ ran.value = course.result)
      ∧ ∀ other : BusState ScriptedHost, other.host.tuningView = state.host.tuningView →
        let elsewhere := Bus.run ScriptedHost.model (executeTuning index blockSize start step).run other
        elsewhere.value = ran.value
          ∧ elsewhere.exchanges.map Exchange.call = ran.exchanges.map Exchange.call := by
  intro ran
  have apart (other : BusState ScriptedHost) (same : other.host.tuningView = state.host.tuningView) :
      let elsewhere := Bus.run ScriptedHost.model (executeTuning index blockSize start step).run other
      elsewhere.value = ran.value
        ∧ elsewhere.exchanges.map Exchange.call = ran.exchanges.map Exchange.call := by
    obtain ⟨value, -, calls⟩ := echoes_executeTuning index blockSize start step other state same
    exact ⟨value, calls⟩
  by_cases refused : blockSize.toNat = 0 ∨ blockSize.toNat > maxTuningBlockSize
  · have ended : ran = ⟨.error .argumentInvalid, state, [], []⟩ :=
      run_executeTuning_refused ScriptedHost.model state index start step refused
    have value : ran.value = .error .argumentInvalid := congrArg Outcome.value ended
    have quiet : ran.exchanges = [] := congrArg Outcome.exchanges ended
    refine ⟨iff_of_true value refused, fun _ => quiet, fun positive fits => ?_, apart⟩
    exact absurd refused (not_or.mpr ⟨Nat.ne_of_gt positive, Nat.not_lt_of_le fits⟩)
  · obtain ⟨course, value, exchanges⟩ :=
      exists_course ScriptedHost.model state index start step refused
    have accepted : ran.value ≠ .error .argumentInvalid := value ▸ course.result_ne_argumentInvalid
    exact ⟨iff_of_false accepted refused, fun invalid => absurd invalid accepted,
      fun _ _ => ⟨course, exchanges, value⟩, apart⟩

/-- An error after the second command, and success in the second window, however noisy the host is. -/
theorem tuning_outcome_restarted :
    let state : BusState ScriptedHost := {
      host := .ofScript { tuningStatuses := [1, 2, 1, 0, 4] }, logger := { filter := .off } }
    let noise : TransferScript := { response := [0xFFFFFFFF] }
    let noisy : HostScript :=
      { furtherTransfers := noise, tuningStatuses := [0x81, 0x42, 0x21, 0x10, 0x0C] }
    let other : BusState ScriptedHost := { host := .ofScript noisy, logger := { filter := .off } }
    let ran := Bus.run ScriptedHost.model (executeTuning 19 64 0 1).run state
    let elsewhere := Bus.run ScriptedHost.model (executeTuning 19 64 0 1).run other
    (∃ course : TuningCourse 64,
        ran.exchanges = course.exchanges 19 0 1 ∧ ran.value = course.result)
      ∧ ran.value = .ok ()
      ∧ other.host.tuningView = state.host.tuningView
      ∧ elsewhere.value = ran.value
      ∧ elsewhere.exchanges.map Exchange.call = ran.exchanges.map Exchange.call := by
  intro state noise noisy other ran elsewhere
  have same : other.host.tuningView = state.host.tuningView := by decide
  obtain ⟨-, -, course, apart⟩ := tuning_outcome state 19 64 0 1
  refine ⟨course (by decide) (by decide), ?_, same, apart other same⟩
  simp only [ran, executeTuning_eq 19 64 0 1 (by decide)]
  decide +kernel

end CardLink
