import CardLink.Proofs.Judgement
import CardLink.Proofs.Response

/-! Which rule each operation of one command is judged by: its transfer alone, or the card status too. -/

namespace CardLink

/-- The transfer decides alone. -/
def transferRule : Judgement CardError Unit where
  cause := .transferFailed
  faults := []
  accept _ := .ok ()
  further := []
  accept_congr _ _ _ := rfl

/-- The word behind such a transfer counts for nothing. -/
theorem transferRule_verdict (completed : Bool) (word : UInt32) :
    transferRule.verdict completed word = if completed then .ok () else .error .transferFailed := by
  cases completed with
  | false => rfl
  | true => exact transferRule.verdict_clear rfl

/-- A fault in the card status counts like a failed transfer. -/
def statusRule : Judgement CardError Unit where
  cause := .transferFailed
  faults := cardFaultBits
  accept _ := .ok ()
  further := []
  accept_congr _ _ _ := rfl

/-- A status without a fault also has to take the next command as an application command. -/
def applicationRule : Judgement CardError Unit where
  cause := .transferFailed
  faults := cardFaultBits
  accept word := if bitSet word 5 then .ok () else .error .commandUnsupported
  further := [5]
  accept_congr word other agree := by rw [agree 5 (List.mem_singleton_self 5)]

/-- The card status decides otherwise than the transfer alone only by a fault that the card flags after
a transfer that was carried out. -/
theorem statusRule_verdict_iff (completed : Bool) (word : UInt32) :
    statusRule.verdict completed word = transferRule.verdict completed word
      ↔ completed = false ∨ ∀ bit ∈ cardFaultBits, bitSet word bit = false := by
  have clear : (∀ bit ∈ cardFaultBits, bitSet word bit = false)
      ↔ cardFaultBits.any (bitSet word) = false := by
    simp only [List.any_eq_false, Bool.not_eq_true]
  rw [clear]
  cases completed with
  | false =>
    -- Both rules name the same cause.
    exact ⟨fun _ => .inl rfl, fun _ => rfl⟩
  | true =>
    rw [transferRule.verdict_clear rfl]
    cases faults : cardFaultBits.any (bitSet word) with
    | false => exact ⟨fun _ => .inr rfl, fun _ => statusRule.verdict_clear faults⟩
    | true =>
      rw [statusRule.verdict_flagged faults]
      exact ⟨nofun, by simp⟩

/-- A command whose response is ignored is judged by its transfer. -/
theorem judged_issueUnchecked (command : Command) :
    JudgedBy transferRule command (fun _ => True) (issueUnchecked command) := by
  -- Nothing is read off the answer but how the transfer ended.
  apply JudgedBy.of_value
  · intro state _
    exact ⟨_, (run_issueUnchecked ScriptedHost.model state command).2.2⟩
  · intro state _
    rw [(run_issueUnchecked ScriptedHost.model state command).1]
    change (if (state.host.transfer { command }).1.completed then _ else _) = _
    rw [ScriptedHost.completed_transfer, transferRule_verdict]

/-- A command whose status is checked is judged by that status, and by what is read off it. -/
theorem judged_issueChecked {rule : Judgement CardError Unit} {command : Command}
    {rest : CardStatus → CardProgram Unit} (unanswered : command.response = {})
    (cause : rule.cause = .transferFailed) (faults : rule.faults = cardFaultBits)
    (read : ∀ status (state : BusState ScriptedHost),
      let ran := Bus.run ScriptedHost.model (rest status).run state
      ran.value = rule.accept status.word ∧ ran.exchanges = []) :
    JudgedBy rule command (fun _ => True) (issueChecked command >>= rest) := by
  -- The two parts: the status is accepted or not, and only then read.
  have run : ∀ state : BusState ScriptedHost,
      let ran := Bus.run ScriptedHost.model (issueChecked command >>= rest).run state
      let answered := state.host.transfer { command }
      ran.value = rule.verdict state.host.completesNext state.host.nextWord
        ∧ ran.exchanges = [⟨.transfer { command }, answered.1⟩] := by
    intro state
    obtain ⟨value, -, exchanges⟩ := run_issueChecked ScriptedHost.model state command
    have answer : ScriptedHost.model.answer (.transfer { command }) state.host
        = state.host.transfer { command } := rfl
    rw [answer] at value exchanges
    rw [ScriptedHost.completed_transfer, CardStatus.faulty_eq, ScriptedHost.word0_command _ unanswered,
      ← faults] at value
    dsimp only
    rw [Bus.run_bind_except]
    simp only [value, exchanges]
    cases state.host.completesNext with
    | false => exact ⟨congrArg Except.error cause.symm, rfl⟩
    | true =>
      cases flagged : rule.faults.any (bitSet state.host.nextWord) with
      | true => exact ⟨(congrArg Except.error cause.symm).trans (rule.verdict_flagged flagged).symm, rfl⟩
      | false =>
        rw [rule.verdict_clear flagged]
        obtain ⟨taken, silent⟩ := read ⟨state.host.nextWord⟩
          (Bus.run ScriptedHost.model (issueChecked command).run state).state
        exact ⟨taken, congrArg (_ :: ·) silent⟩
  exact .of_value (fun state _ => ⟨_, (run state).2⟩) fun state _ => (run state).1

/-- A checked command that goes on with nothing is judged by its status. -/
theorem judged_issueChecked_only (command : Command) (unanswered : command.response = {}) :
    JudgedBy statusRule command (fun _ => True) (issueChecked command >>= fun _ => pure ()) :=
  judged_issueChecked unanswered rfl rfl fun _ _ => ⟨rfl, rfl⟩

/-- The announcement of an application command also looks at whether the card takes it. -/
theorem judged_announceApplication (card : UInt16) :
    JudgedBy applicationRule (.announceApplication card) (fun _ => True) (announceApplication card) := by
  apply judged_issueChecked rfl rfl rfl
  intro status state
  dsimp only
  cases taken : status.applicationCommand with
  | true =>
    have accepted : applicationRule.accept status.word = .ok () := if_pos taken
    rw [accepted, if_pos rfl]
    exact ⟨rfl, rfl⟩
  | false =>
    -- A card that does not take it is logged, and a record is no exchange.
    have refused : applicationRule.accept status.word = .error .commandUnsupported :=
      if_neg (ne_true_of_eq_false taken)
    rw [refused, if_neg Bool.false_ne_true, Bus.run_bind_lift, Bus.run_log]
    exact ⟨rfl, rfl⟩

/-- The commands that expect no response: all but the deselection are judged by their transfer alone,
and the deselection is exactly if its transfer fails or the first response word has no fault bit. -/
theorem unanswered_commands (card : UInt16) :
    (Command.goIdle.responseType = .none
        ∧ JudgedBy transferRule .goIdle (fun _ => True) goIdle)
      ∧ (Command.goPreIdle.responseType = .none
        ∧ JudgedBy transferRule .goPreIdle (fun _ => True) goPreIdle)
      ∧ ((Command.goInactive card).responseType = .none
        ∧ JudgedBy transferRule (.goInactive card) (fun _ => True) (setCardInactive card))
      ∧ (Command.selectCard card false).responseType = .none
      ∧ JudgedBy statusRule (.selectCard card false) (fun _ => True) (selectCard card false)
      ∧ ∀ state : BusState ScriptedHost,
          (Bus.run ScriptedHost.model (selectCard card false).run state).value =
              transferRule.verdict state.host.completesNext state.host.nextWord
            ↔ state.host.completesNext = false
              ∨ ∀ bit ∈ cardFaultBits, bitSet state.host.nextWord bit = false := by
  have deselection : JudgedBy statusRule (.selectCard card false) (fun _ => True)
      (selectCard card false) := judged_issueChecked_only _ rfl
  refine ⟨⟨rfl, judged_issueUnchecked _⟩, ⟨rfl, judged_issueUnchecked _⟩,
    ⟨rfl, judged_issueUnchecked _⟩, rfl, deselection, ?_⟩
  intro state
  rw [deselection.value state trivial]
  exact statusRule_verdict_iff _ _

/-- A fault bit fails a deselection though its transfer was carried out and no response was expected. -/
theorem deselection_judges_stored_word :
    let stored : BusState ScriptedHost := {
      host := .ofScript { transfers := [{ response := [0x00080000] }] }, logger := { filter := .off } }
    let silent : BusState ScriptedHost := { host := .ofScript {}, logger := { filter := .off } }
    (Command.selectCard 1 false).responseType = .none
      ∧ stored.host.completesNext = true ∧ silent.host.completesNext = true
      ∧ (Bus.run ScriptedHost.model (selectCard 1 false).run stored).value = .error .transferFailed
      ∧ (Bus.run ScriptedHost.model (selectCard 1 false).run silent).value = .ok () := by
  intro stored silent
  have deselection := (judged_issueChecked_only (.selectCard 1 false) rfl).value
  -- The stored word has a fault bit, and the word of a host that stores none is zero.
  have flagged := (deselection stored trivial).trans (statusRule.verdict_flagged (by decide))
  have clear := (deselection silent trivial).trans (statusRule.verdict_clear (by decide))
  exact ⟨rfl, rfl, rfl, flagged, clear⟩

end CardLink
