import CardLink.BusLaws
import CardLink.Host.Scripted

/-!
Programs that run alike on hosts that are alike, and scripted hosts that differ only in what a program
does not read of their answers.
-/

namespace CardLink

namespace Bus

variable {σ α β γ δ : Type}

/-- On hosts that are alike, two programs make the same calls, end with values that match, and leave
hosts that are alike. -/
def Echoes (model : HostModel σ) (like : σ → σ → Prop) (matching : α → β → Prop)
    (program : Bus α) (echo : Bus β) : Prop :=
  ∀ here there : BusState σ, like here.host there.host →
    let first := program.run model here
    let second := echo.run model there
    matching first.value second.value ∧ like first.state.host second.state.host
      ∧ first.exchanges.map Exchange.call = second.exchanges.map Exchange.call

namespace Echoes

variable {model : HostModel σ} {like : σ → σ → Prop} {matching : α → β → Prop}
  {further : γ → δ → Prop}

theorem of_pure {value : α} {other : β} (agree : matching value other) :
    Echoes model like matching (pure value) (pure other) :=
  fun _ _ alike => ⟨agree, alike, rfl⟩

/-- A call is echoed by the same call, provided that the answers match. -/
theorem of_request {asked : HostCall} {matching : asked.Reply → asked.Reply → Prop}
    (answers : ∀ here there, like here there →
      matching (model.answer asked here).1 (model.answer asked there).1
        ∧ like (model.answer asked here).2 (model.answer asked there).2) :
    Echoes model like matching (request asked) (request asked) :=
  fun _ _ alike => ⟨(answers _ _ alike).1, (answers _ _ alike).2, rfl⟩

/-- No host learns of a record. -/
theorem of_log (level other : LogLevel) (message different : String) :
    Echoes model like Eq (log level message) (log other different) := by
  intro here there alike
  rw [run_log, run_log]
  exact ⟨rfl, alike, rfl⟩

/-- Programs in two parts run alike if their parts do. -/
theorem bind {program : Bus α} {echo : Bus β} {rest : α → Bus γ} {others : β → Bus δ}
    (first : Echoes model like matching program echo)
    (second : ∀ value other, matching value other →
      Echoes model like further (rest value) (others other)) :
    Echoes model like further (program >>= rest) (echo >>= others) := by
  -- The second parts start on hosts that the first parts left alike.
  intro here there alike
  obtain ⟨agree, between, calls⟩ := first here there alike
  obtain ⟨ended, after, later⟩ := second _ _ agree _ _ between
  simp only [run_bind, List.map_append]
  exact ⟨ended, after, congr (congrArg _ calls) later⟩

/-- So do programs whose first parts cannot fail. -/
theorem bind_lift {ε : Type} {program : Bus α} {echo : Bus β} {rest : α → ExceptT ε Bus γ}
    {others : β → ExceptT ε Bus δ} {further : Except ε γ → Except ε δ → Prop}
    (first : Echoes model like matching program echo)
    (second : ∀ value other, matching value other →
      Echoes model like further (rest value).run (others other).run) :
    Echoes model like further (monadLift program >>= rest : ExceptT ε Bus γ).run
      (monadLift echo >>= others : ExceptT ε Bus δ).run := by
  rw [bind_monadLift, bind_monadLift]
  exact first.bind second

end Echoes

end Bus

/-- A script of a transfer with its response words replaced. -/
def TransferScript.blurred (words : List UInt32 → List UInt32) (entry : TransferScript) :
    TransferScript :=
  { entry with response := words entry.response }

/-- A script with the response words of all transfers, and the states of tuning, replaced. -/
def HostScript.blurred (words : List UInt32 → List UInt32) (bits : UInt32 → UInt32)
    (script : HostScript) : HostScript :=
  { script with
    transfers := script.transfers.map (·.blurred words)
    furtherTransfers := script.furtherTransfers.blurred words
    tuningStatuses := script.tuningStatuses.map bits }

theorem entryAt_map {change : UInt32 → UInt32} (zero : change 0 = 0) (entries : List UInt32)
    (place : Nat) :
    entryAt (entries.map change) place = change (entryAt entries place) := by
  -- The entry at the place, the last entry and the zero in their stead are all changed alike.
  unfold entryAt
  rw [List.getElem?_map, List.getLast?_map]
  cases entries[place]? with
  | some entry => rfl
  | none =>
    cases entries.getLast? with
    | some entry => rfl
    | none => exact zero.symm

namespace ScriptedHost

/-- A host whose script is blurred. -/
def blurred (words : List UInt32 → List UInt32) (bits : UInt32 → UInt32) (host : ScriptedHost) :
    ScriptedHost :=
  { host with script := host.script.blurred words bits }

variable (words : List UInt32 → List UInt32) (bits : UInt32 → UInt32) (host : ScriptedHost)

theorem nextTransfer_blurred :
    (host.blurred words bits).nextTransfer = host.nextTransfer.blurred words := by
  simp only [nextTransfer, blurred, HostScript.blurred, List.getElem?_map]
  cases host.script.transfers[host.transfers]? <;> rfl

/-- A blurred host goes on as the host does, and stays blurred. -/
theorem answer_blurred (asked : HostCall) :
    (answer asked (host.blurred words bits)).2 = (answer asked host).2.blurred words bits := by
  cases asked with
  | transfer asked =>
    -- How many bytes move depends on the limit and the failure alone.
    have moves (length : Nat) : (host.nextTransfer.blurred words).moves length =
        host.nextTransfer.moves length := rfl
    simp only [answer, transfer, nextTransfer_blurred]
    cases asked.data with
    | none => rfl
    | some data =>
      simp only [moves, moveData]
      cases data.buffer.direction <;> rfl
  | _ => rfl

/-- A transfer comes to the same end on a blurred host. -/
theorem outcome_blurred (asked : Transfer) :
    ((host.blurred words bits).transfer asked).1.outcome = (host.transfer asked).1.outcome := by
  simp only [transfer, nextTransfer_blurred]
  cases asked.data <;> rfl

/-- It leaves the same bytes in its buffer. -/
theorem memory_blurred (asked : Transfer) :
    ((host.blurred words bits).transfer asked).1.memory = (host.transfer asked).1.memory := by
  have moves (length : Nat) : (host.nextTransfer.blurred words).moves length =
      host.nextTransfer.moves length := rfl
  simp only [transfer, nextTransfer_blurred]
  cases asked.data with
  | none => rfl
  | some data =>
    -- The bytes that the card sends do not depend on the response words.
    simp only [moves, moveData]
    cases data.buffer.direction <;> rfl

/-- Two hosts that are alike when they are blurred still are after the same call. -/
theorem answer_alike {host other : ScriptedHost}
    (alike : host.blurred words bits = other.blurred words bits) (asked : HostCall) :
    (answer asked host).2.blurred words bits = (answer asked other).2.blurred words bits := by
  rw [← answer_blurred, alike, answer_blurred]

end ScriptedHost

end CardLink
