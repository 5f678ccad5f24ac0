import CardLink.BusLaws

/-!
What the host makes of the calls of a program, properties that programs inherit from their parts, and
programs in a series, each of which runs on the state that the ones before it left behind.
-/

namespace CardLink

/-- The answers of a host to calls in a series, and the host after them. -/
def HostModel.answers {σ : Type} (model : HostModel σ) : List HostCall → σ → List Exchange × σ
  | [], host => ([], host)
  | asked :: rest, host =>
    let answered := model.answer asked host
    let others := model.answers rest answered.2
    (⟨asked, answered.1⟩ :: others.1, others.2)

namespace Bus

/-- A property that host calls and log records have, and that programs inherit from their parts. -/
structure Compositional (holds : ∀ {α : Type}, Bus α → Prop) : Prop where
  /-- A program without effects has it. -/
  of_pure : ∀ {α : Type} (value : α), holds (pure value)
  /-- A host call has it. -/
  of_request : ∀ asked : HostCall, holds (request asked)
  /-- A record has it. -/
  of_log : ∀ (level : LogLevel) (message : String), holds (log level message)
  /-- A program in two parts has it if both parts do. -/
  bind : ∀ {α β : Type} {program : Bus α} {rest : α → Bus β},
    holds program → (∀ value, holds (rest value)) → holds (program >>= rest)

namespace Compositional

variable {holds : ∀ {α : Type}, Bus α → Prop} (composes : Compositional holds) {α β ε : Type}

include composes

/-- A failure ends a program in two parts, and only then the second part is left out. -/
theorem bind_except {program : ExceptT ε Bus α} {rest : α → ExceptT ε Bus β}
    (first : holds program.run) (second : ∀ value, holds (rest value).run) :
    holds (program >>= rest).run := by
  -- The result of the first part picks the second one, or ends the program.
  rw [ExceptT.run_bind]
  apply composes.bind first
  intro result
  cases result with
  | ok value => exact second value
  | error cause => exact composes.of_pure _

/-- A program without failures of its own is one that never fails. -/
theorem lift {program : Bus α} (has : holds program) :
    holds (monadLift program : ExceptT ε Bus α).run :=
  composes.bind has fun _ => composes.of_pure _

/-- A function on the value of a program changes none of its effects. -/
theorem map {program : Bus α} (has : holds program) (change : α → β) :
    holds (change <$> program) := by
  rw [← bind_pure_comp]
  exact composes.bind has fun _ => composes.of_pure _

end Compositional

/-- Two runs that a host cannot tell apart, and that end with the same value. -/
structure Alike {σ α : Type} (here there : Outcome σ α) : Prop where
  /-- They end with the same value. -/
  value : here.value = there.value
  /-- They leave the host in the same state. -/
  host : here.state.host = there.state.host
  /-- They make the same calls and get the same answers. -/
  exchanges : here.exchanges = there.exchanges

/-- A program leaves the bus lock as it is and depends on the host only, whoever holds the lock. -/
def LeavesLock {σ α : Type} (model : HostModel σ) (program : Bus α) : Prop :=
  ∀ state other : BusState σ, state.host = other.host →
    Alike (program.run model state) (program.run model other)
      ∧ (program.run model state).state.locked = state.locked

section Run

variable {σ α : Type} (model : HostModel σ)

/-- Whatever a program does, the host answers its calls, and nothing else changes the host. -/
theorem answers_run (program : Bus α) (state : BusState σ) :
    let ran := program.run model state
    model.answers (ran.exchanges.map Exchange.call) state.host = (ran.exchanges, ran.state.host) := by
  -- Only a call is an exchange, and only a call changes the host.
  induction program generalizing state with
  | done value => rfl
  | call asked next ih => simp only [run, List.map_cons, HostModel.answers, ih]
  | readFilter next ih => exact ih _ _
  | note record next ih => exact ih _
  | tryLock next ih => exact ih _ _
  | unlock next ih => exact ih _

/-- Programs leave the lock alone if their parts do. -/
theorem compositional_leavesLock : Compositional (LeavesLock model) where
  of_pure _ _ _ same := ⟨⟨rfl, same, rfl⟩, rfl⟩
  of_request asked state other same := by
    rw [run_request, run_request, same]
    exact ⟨⟨rfl, rfl, rfl⟩, rfl⟩
  of_log level message _ _ same := by
    rw [run_log, run_log]
    exact ⟨⟨rfl, same, rfl⟩, rfl⟩
  bind first second state other same := by
    -- The second part meets hosts that the first part left alike.
    obtain ⟨alike, locked⟩ := first state other same
    obtain ⟨later, kept⟩ := second _ _ _ alike.host
    rw [run_bind, run_bind]
    dsimp only
    rw [← alike.value, ← alike.exchanges]
    exact ⟨⟨later.value, later.host, congrArg (_ ++ ·) later.exchanges⟩, kept.trans locked⟩

/-- The report at a place is that of the program there, run on what the programs before it left. -/
theorem runAll_getElem? (programs : List (Bus α)) (state : BusState σ) (place : Nat) :
    (runAll model programs state).1[place]? = programs[place]?.map fun program =>
      let ran := program.run model (runAll model (programs.take place) state).2
      ⟨ran.value, ran.exchanges, ran.lines⟩ := by
  -- The first program passes its state on to the series behind it.
  induction programs generalizing state place with
  | nil => simp [runAll]
  | cons program rest ih =>
    cases place with
    | zero => simp [runAll]
    | succ place => simp [runAll, ih]

/-- A property that every program of a series keeps still holds at its end. -/
theorem runAll_keeps (holds : BusState σ → Prop) (programs : List (Bus α))
    (kept : ∀ program ∈ programs, ∀ state, holds state → holds (program.run model state).state)
    {state : BusState σ} (start : holds state) : holds (runAll model programs state).2 := by
  -- The state behind the first program is where the rest of the series starts.
  induction programs generalizing state with
  | nil => exact start
  | cons program rest ih =>
    apply ih fun later member => kept later (List.mem_cons_of_mem _ member)
    exact kept program List.mem_cons_self state start

/-- The state behind one more program is the one that it leaves. -/
theorem runAll_take_succ (programs : List (Bus α)) (state : BusState σ) {place : Nat} {program : Bus α}
    (found : programs[place]? = some program) :
    (runAll model (programs.take (place + 1)) state).2 =
      (program.run model (runAll model (programs.take place) state).2).state := by
  induction programs generalizing state place with
  | nil => simp at found
  | cons first rest ih =>
    cases place with
    | zero =>
      cases found
      rfl
    | succ place => exact ih _ found

end Run

end Bus

end CardLink
