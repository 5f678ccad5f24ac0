import CardLink.Bus

/-! Bus programs form a monad, and a program in two parts runs as one part after the other. -/

namespace CardLink

namespace Bus

/-- Going on with nothing changes no program. -/
theorem bind_done {α : Type} (program : Bus α) : program.bind done = program := by
  -- Every effect is kept, and the rest of the program is unchanged in turn.
  induction program with
  | done value => rfl
  | call request next ih => simp only [bind, ih]
  | readFilter next ih => simp only [bind, ih]
  | note record next ih => simp only [bind, ih]
  | tryLock next ih => simp only [bind, ih]
  | unlock next ih => simp only [bind, ih]

/-- The grouping of three programs in sequence does not matter. -/
theorem bind_bind {α β γ : Type} (program : Bus α) (second : α → Bus β) (third : β → Bus γ) :
    (program.bind second).bind third = program.bind fun value => (second value).bind third := by
  -- The effects of the first program come first under both groupings.
  induction program with
  | done value => rfl
  | call request next ih => simp only [bind, ih]
  | readFilter next ih => simp only [bind, ih]
  | note record next ih => simp only [bind, ih]
  | tryLock next ih => simp only [bind, ih]
  | unlock next ih => simp only [bind, ih]

/-- Bus programs form a monad. -/
instance : LawfulMonad Bus :=
  LawfulMonad.mk' Bus bind_done (fun _ _ => rfl) bind_bind

variable {σ α β : Type} (model : HostModel σ) (state : BusState σ)

/-- A program without effects ends at once. -/
@[simp] theorem run_pure (value : α) :
    (pure value : Bus α).run model state = ⟨value, state, [], []⟩ := rfl

/-- A program in two parts runs the second part on what the first one left behind. -/
theorem run_bind (program : Bus α) (rest : α → Bus β) :
    (program >>= rest).run model state =
      let first := program.run model state
      let second := (rest first.value).run model first.state
      ⟨second.value, second.state, first.exchanges ++ second.exchanges, first.lines ++ second.lines⟩ := by
  -- Each effect of the first part is met in the same state on both sides.
  change (program.bind rest).run model state = _
  induction program generalizing state with
  | done value => rfl
  | call request next ih => simp only [bind, run, ih, List.cons_append]
  | readFilter next ih => simp only [bind, run, ih]
  | note record next ih => simp only [bind, run, ih, List.append_assoc]
  | tryLock next ih => simp only [bind, run, ih]
  | unlock next ih => simp only [bind, run, ih]

/-- A function on the value of a program changes nothing else that it leaves behind. -/
@[simp] theorem run_map (change : α → β) (program : Bus α) :
    (change <$> program).run model state =
      let first := program.run model state
      ⟨change first.value, first.state, first.exchanges, first.lines⟩ := by
  -- The function is applied by a second part that has no effects.
  rw [← bind_pure_comp, run_bind]
  simp only [run_pure, List.append_nil]

/-- A failure ends a program in two parts; otherwise the second part runs on the value of the first. -/
theorem run_bind_except {ε : Type} (program : ExceptT ε Bus α) (rest : α → ExceptT ε Bus β) :
    (program >>= rest).run.run model state =
      let first := program.run.run model state
      match first.value with
      | .error cause => ⟨.error cause, first.state, first.exchanges, first.lines⟩
      | .ok value =>
        let second := (rest value).run.run model first.state
        ⟨second.value, second.state, first.exchanges ++ second.exchanges,
          first.lines ++ second.lines⟩ := by
  -- The second part is chosen by the value that the first one ends with.
  rw [ExceptT.run_bind, run_bind]
  dsimp only
  split <;> simp_all

/-- A program that cannot fail is followed by the second part in any case. -/
theorem bind_monadLift {ε : Type} (program : Bus α) (rest : α → ExceptT ε Bus β) :
    (monadLift program >>= rest : ExceptT ε Bus β).run = program >>= fun value => (rest value).run :=
  ExceptT.run_bind_lift program rest

theorem run_bind_lift {ε : Type} (program : Bus α) (rest : α → ExceptT ε Bus β) :
    (monadLift program >>= rest : ExceptT ε Bus β).run.run model state =
      let first := program.run model state
      let second := (rest first.value).run.run model first.state
      ⟨second.value, second.state, first.exchanges ++ second.exchanges,
        first.lines ++ second.lines⟩ := by
  rw [bind_monadLift, run_bind]

/-- A host call changes the host alone and is the only exchange. -/
@[simp] theorem run_request (asked : HostCall) :
    (request asked).run model state =
      let answered := model.answer asked state.host
      ⟨answered.1, { state with host := answered.2 }, [⟨asked, answered.1⟩], []⟩ := rfl

/-- A record changes the logger alone and leaves at most one line. -/
@[simp] theorem run_log (level : LogLevel) (message : String) :
    (log level message).run model state =
      let offered := state.logger.offer ⟨level, message⟩
      ⟨(), { state with logger := offered.2 }, [], offered.1.toList⟩ := by
  -- A record that the program holds back would not have become a line, either.
  rw [log, run]
  split
  · simp only [run, List.append_nil]
  · rename_i hidden
    rw [Logger.offer, if_neg hidden]
    rfl

/-- An attempt at the lock leaves it held, and succeeds if it was free. -/
@[simp] theorem run_attemptLock :
    attemptLock.run model state = ⟨!state.locked, { state with locked := true }, [], []⟩ := rfl

/-- A release leaves the lock free. -/
@[simp] theorem run_release :
    release.run model state = ⟨(), { state with locked := false }, [], []⟩ := rfl

end Bus

end CardLink
