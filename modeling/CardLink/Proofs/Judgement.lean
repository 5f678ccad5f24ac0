import CardLink.Host.Scripted
import CardLink.Proofs.Operation.Issue
import CardLink.Proofs.Response

/-!
How the answer to one command is judged: by the end of its transfer, and by some bits of the first
response word.
-/

namespace CardLink

/-- A rule by which the answer to a command is judged. -/
structure Judgement (ε α : Type) where
  /-- What a failed transfer leads to, and a fault that the card flags. -/
  cause : ε
  /-- The bits of the first response word that flag a fault. -/
  faults : List Nat
  /-- What a word without a fault is taken for. -/
  accept : UInt32 → Except ε α
  /-- The bits that it is taken by. -/
  further : List Nat
  /-- No other bit counts for that. -/
  accept_congr : ∀ word other, (∀ bit ∈ further, bitSet other bit = bitSet word bit) →
    accept other = accept word

namespace Judgement

variable {ε α : Type} (rule : Judgement ε α) (completed : Bool)

/-- What a rule makes of the end of a transfer and of the first response word. -/
def verdict (word : UInt32) : Except ε α :=
  if completed && !rule.faults.any (bitSet word) then rule.accept word else .error rule.cause

/-- A failed transfer counts whatever the word is. -/
@[simp] theorem verdict_failed (word : UInt32) : rule.verdict false word = .error rule.cause := rfl

variable {completed} {word : UInt32}

/-- A fault counts even if the transfer was carried out. -/
theorem verdict_flagged (flagged : rule.faults.any (bitSet word) = true) :
    rule.verdict completed word = .error rule.cause := by
  rw [verdict, flagged, Bool.not_true, Bool.and_false, if_neg Bool.false_ne_true]

/-- A word without a fault is read after a transfer that was carried out. -/
theorem verdict_clear (clear : rule.faults.any (bitSet word) = false) :
    rule.verdict true word = rule.accept word := by
  rw [verdict, clear, Bool.not_false, Bool.and_true, if_pos rfl]

variable (completed)

/-- Words with the same of these bits are judged alike, whatever their other bits are. -/
theorem verdict_congr {other : UInt32}
    (agree : ∀ bit ∈ rule.faults ++ rule.further, bitSet other bit = bitSet word bit) :
    rule.verdict completed other = rule.verdict completed word := by
  have faults : rule.faults.any (bitSet other) = rule.faults.any (bitSet word) := by
    rw [Bool.eq_iff_iff, List.any_eq_true, List.any_eq_true]
    apply exists_congr
    intro bit
    apply and_congr_right
    intro member
    rw [agree bit (List.mem_append_left _ member)]
  have taken : rule.accept other = rule.accept word :=
    rule.accept_congr _ _ fun bit member => agree bit (List.mem_append_right _ member)
  rw [verdict, verdict, faults, taken]

end Judgement

namespace ScriptedHost

/-- The next transfer will be carried out. -/
def completesNext (host : ScriptedHost) : Bool := host.nextTransfer.failure.isNone

/-- The first response word behind the next transfer: zero, unless the host stores another one. -/
def nextWord (host : ScriptedHost) : UInt32 := host.nextTransfer.response.headD 0

variable (host : ScriptedHost)

theorem completed_transfer (asked : Transfer) :
    (host.transfer asked).1.completed = host.completesNext := by
  -- With data or without, the outcome is that of the script.
  simp only [transfer, completesNext, TransferReply.completed]
  cases host.nextTransfer.failure <;> cases asked.data <;> rfl

theorem word0_command {command : Command} (unanswered : command.response = {}) :
    (host.transfer { command }).1.response.word0 = host.nextWord := by
  -- A command starts with zero words, and the host replaces the first ones.
  simp only [transfer, unanswered, Response.store, nextWord, List.headD_eq_head?_getD,
    List.head?_eq_getElem?]

end ScriptedHost

section JudgedBy

variable {ε α : Type}

/-- An operation that issues one command, and is judged by its answer alone. -/
structure JudgedBy (rule : Judgement ε α) (command : Command)
    (ready : BusState ScriptedHost → Prop) (operation : ExceptT ε Bus α) : Prop where
  /-- The command is the only call, and has no data. -/
  single : ∀ state, ready state → ∃ reply,
    (Bus.run ScriptedHost.model operation.run state).exchanges = [⟨.transfer { command }, reply⟩]
  /-- The rule decides, once the transfer has come to its end. -/
  value : ∀ state, ready state →
    (Bus.run ScriptedHost.model operation.run state).value =
      rule.verdict state.host.completesNext state.host.nextWord
  /-- Hosts whose answers agree on the bits of the rule lead to the same result. -/
  alike : ∀ state other, ready state → ready other →
    other.host.completesNext = state.host.completesNext →
    (∀ bit ∈ rule.faults ++ rule.further,
      bitSet other.host.nextWord bit = bitSet state.host.nextWord bit) →
    (Bus.run ScriptedHost.model operation.run other).value =
      (Bus.run ScriptedHost.model operation.run state).value

/-- Whoever follows the rule cannot tell apart what the rule does not. -/
theorem JudgedBy.of_value {rule : Judgement ε α} {command : Command}
    {ready : BusState ScriptedHost → Prop} {operation : ExceptT ε Bus α}
    (single : ∀ state, ready state → ∃ reply,
      (Bus.run ScriptedHost.model operation.run state).exchanges = [⟨.transfer { command }, reply⟩])
    (value : ∀ state, ready state →
      (Bus.run ScriptedHost.model operation.run state).value =
        rule.verdict state.host.completesNext state.host.nextWord) :
    JudgedBy rule command ready operation := by
  refine ⟨single, value, ?_⟩
  intro state other here there completed agree
  rw [value other there, value state here, completed]
  exact rule.verdict_congr _ agree

end JudgedBy

end CardLink
