import CardLink.Proofs.Operation.Tuning.Course

/-!
The calls of one tuning window: how many there are, which of them can be found in it, and where a call
stands that is found in a window and what follows it.
-/

namespace CardLink

namespace Exchange

def isTransfer (exchange : Exchange) : Bool :=
  match exchange.call with
  | .transfer _ => true
  | _ => false

/-- Tuning is switched on, or off. -/
def switchesTuning (exchange : Exchange) (on : Bool) : Bool :=
  match exchange.call with
  | .tune _ _ switched => switched == on
  | _ => false

/-- A transfer that the host did not carry out. -/
def isFailure : Exchange → Bool
  | ⟨.transfer _, reply⟩ => !reply.completed
  | _ => false

/-- A look at tuning that finds it no longer active. -/
def isIdle : Exchange → Bool
  | ⟨.tuningStatus, status⟩ => !bitSet status.bits 0
  | _ => false

end Exchange

/-- The read of one tuning block, as the host is asked for it. -/
structure Transfer.ReadsTuningBlock (index : UInt8) (blockSize : UInt32) (asked : Transfer) : Prop where
  /-- The command is the given one, with argument zero. -/
  command : asked.command.index = index ∧ asked.command.argument = 0
  /-- One block is read over as many bytes, and marked as tuning. -/
  data : ∃ bytes : Bytes, bytes.length = blockSize.toNat ∧ asked.data = some {
    blockSize, blockCount := 1, buffer := .plain .fromCard bytes, tuning := true }

/-- The transfer of a tuning command reads one block. -/
theorem TuningCommand.reads {blockSize : UInt32} (command : TuningCommand blockSize) (index : UInt8) :
    (command.transfer index).ReadsTuningBlock index blockSize :=
  ⟨⟨rfl, rfl⟩, command.bytes, command.length_eq, rfl⟩

section Suffix

variable {α : Type} {entry last : α} {front back rest : List α}

/-- An entry that is not in the front of a list is in the back. -/
theorem suffix_back (absent : entry ∉ front) (place : entry :: rest <:+ front ++ back) :
    entry :: rest <:+ back := by
  -- Each entry of the front is passed over, since it is another one.
  induction front with
  | nil => exact place
  | cons first front ih =>
    obtain ⟨other, within⟩ := not_or.mp (mt List.mem_cons.mpr absent)
    obtain same | place := List.suffix_cons_iff.mp place
    · exact absurd (List.cons.inj same).1 other
    · exact ih within place

/-- If it is not at the head of the back, either, then the entry before it is in the back as well. -/
theorem suffix_pair_back {before : α} (absent : entry ∉ front)
    (place : before :: entry :: rest <:+ front ++ back) :
    before :: entry :: rest <:+ back ∨ front.getLast? = some before ∧ entry :: rest = back := by
  -- Only the last entry of the front has one behind it that is not in the front.
  induction front with
  | nil => exact .inl place
  | cons first front ih =>
    obtain ⟨-, within⟩ := not_or.mp (mt List.mem_cons.mpr absent)
    obtain same | place := List.suffix_cons_iff.mp place
    · obtain ⟨rfl, later⟩ := List.cons.inj same
      cases front with
      | nil => exact .inr ⟨rfl, later⟩
      | cons second front => exact absurd (.inl (List.cons.inj later).1) (mt List.mem_cons.mpr within)
    · obtain inside | ⟨last, same⟩ := ih within place
      · exact .inl inside
      · refine .inr ⟨?_, same⟩
        rw [List.getLast?_cons, last]
        rfl

theorem suffix_singleton (place : entry :: rest <:+ [last]) : entry = last ∧ rest = [] := by
  obtain same | place := List.suffix_cons_iff.mp place
  · exact List.cons.inj same
  · cases List.suffix_nil.mp place

end Suffix

namespace TuningRound

variable (index : UInt8) {blockSize : UInt32} (round : TuningRound blockSize)

theorem any_isFailure :
    (round.exchanges index).any Exchange.isFailure = !round.reply.completed := by
  simp [exchanges, TuningCommand.exchange, Exchange.isFailure]

theorem any_isIdle :
    (round.exchanges index).any Exchange.isIdle = !bitSet round.status.bits 0 := by
  simp [exchanges, TuningCommand.exchange, Exchange.isIdle]

theorem any_switchesTuning (on : Bool) :
    (round.exchanges index).any (·.switchesTuning on) = false :=
  rfl

variable {other : Transfer} {reply : TransferReply} {rest tail : List Exchange}

/-- The only transfer of a round is its first call. -/
theorem transfer_place (place : ⟨.transfer other, reply⟩ :: rest <:+ round.exchanges index ++ tail) :
    ⟨.transfer other, reply⟩ :: rest <:+ tail
      ∨ other.ReadsTuningBlock index blockSize ∧ reply = round.reply
        ∧ rest = ⟨.delay 1, ()⟩ :: ⟨.tuningStatus, round.status⟩ :: tail := by
  obtain same | place := List.suffix_cons_iff.mp place
  · obtain ⟨⟨⟩, rfl⟩ := List.cons.inj same
    exact .inr ⟨round.reads index, rfl, rfl⟩
  · -- Neither the wait nor the look is a transfer.
    left
    have absent : (⟨.transfer other, reply⟩ : Exchange) ∉
        [⟨.delay 1, ()⟩, ⟨.tuningStatus, round.status⟩] := by
      simp
    exact suffix_back absent place

theorem transfer_place_rounds {rounds : List (TuningRound blockSize)}
    (lasts : ∀ round ∈ rounds, round.lasts = true)
    (place : ⟨.transfer other, reply⟩ :: rest <:+ rounds.flatMap (·.exchanges index) ++ tail) :
    ⟨.transfer other, reply⟩ :: rest <:+ tail
      ∨ other.ReadsTuningBlock index blockSize ∧ reply.completed = true ∧ ∃ status further,
        rest = ⟨.delay 1, ()⟩ :: ⟨.tuningStatus, status⟩ :: further := by
  -- Of the rounds, one has the transfer at its head, and the ones before it are passed over.
  induction rounds with
  | nil => exact .inl place
  | cons round rounds ih =>
    obtain ⟨lasting, others⟩ := List.forall_mem_cons.mp lasts
    rw [List.flatMap_cons, List.append_assoc] at place
    obtain later | ⟨reads, rfl, next⟩ := round.transfer_place index place
    · exact ih others later
    · exact .inr ⟨reads, (Bool.and_eq_true_iff.mp lasting).1, _, _, next⟩

end TuningRound

namespace TuningWindow

variable {limit : Nat} {blockSize : UInt32} (index : UInt8) (window : TuningWindow blockSize limit)

/-- What no lasting round has is in a window exactly if it is in its ending. -/
theorem any_exchanges {found : Exchange → Bool}
    (round : ∀ round : TuningRound blockSize, round.lasts = true →
      (round.exchanges index).any found = false) :
    (window.exchanges index).any found = (window.ending.exchanges index).any found := by
  have rounds : (window.rounds.flatMap (·.exchanges index)).any found = false := by
    rw [List.any_flatMap, List.any_eq_false]
    intro earlier member
    rw [round earlier (window.lasts earlier member)]
    exact Bool.false_ne_true
  rw [exchanges, List.any_append, rounds, Bool.false_or]

theorem any_switchesTuning (on : Bool) :
    (window.exchanges index).any (·.switchesTuning on) = false := by
  rw [window.any_exchanges index fun round _ => round.any_switchesTuning index on]
  cases window.ending with
  | aborted command => rfl
  | settled round => exact round.any_switchesTuning index on
  | exhausted => rfl

/-- Tuning is neither switched on nor off within a window. -/
theorem tune_notMem (start step : UInt32) (on : Bool) :
    ⟨.tune start step on, ()⟩ ∉ window.exchanges index := by
  intro member
  have absent := List.any_eq_false.mp (window.any_switchesTuning index on) _ member
  simp [Exchange.switchesTuning] at absent

theorem any_isFailure :
    (window.exchanges index).any Exchange.isFailure = window.ending.isAborted := by
  -- A round that lasts had its command carried out.
  have lasting (round : TuningRound blockSize) (lasts : round.lasts = true) :
      (round.exchanges index).any Exchange.isFailure = false := by
    rw [round.any_isFailure, (Bool.and_eq_true_iff.mp lasts).1]
    rfl
  rw [window.any_exchanges index lasting]
  obtain ⟨rounds, ending, -, closes⟩ := window
  cases ending with
  | aborted command =>
    simp [TuningEnding.exchanges, TuningEnding.isAborted, TuningCommand.exchange, Exchange.isFailure,
      closes.2]
  | settled round =>
    rw [TuningEnding.exchanges, round.any_isFailure, (Bool.and_eq_true_iff.mp closes.2).1]
    rfl
  | exhausted => rfl

theorem any_isIdle : (window.exchanges index).any Exchange.isIdle = window.ending.isSettled := by
  -- A round that lasts found tuning active.
  have lasting (round : TuningRound blockSize) (lasts : round.lasts = true) :
      (round.exchanges index).any Exchange.isIdle = false := by
    rw [round.any_isIdle, (Bool.and_eq_true_iff.mp lasts).2]
    rfl
  rw [window.any_exchanges index lasting]
  obtain ⟨rounds, ending, -, closes⟩ := window
  cases ending with
  | aborted command => rfl
  | settled round =>
    rw [TuningEnding.exchanges, round.any_isIdle, (Bool.and_eq_true_iff.mp closes.2).2]
    rfl
  | exhausted => rfl

/-- What every round has so many times is there so many times for each round, and in the ending. -/
theorem countP_exchanges {found : Exchange → Bool} {each : Nat}
    (round : ∀ round : TuningRound blockSize, (round.exchanges index).countP found = each) :
    (window.exchanges index).countP found =
      each * window.rounds.length + (window.ending.exchanges index).countP found := by
  have rounds : (window.rounds.flatMap (·.exchanges index)).countP found =
      each * window.rounds.length := by
    induction window.rounds with
    | nil => rfl
    | cons first rounds ih =>
      rw [List.flatMap_cons, List.countP_append, round, ih, List.length_cons, Nat.mul_succ]
      exact Nat.add_comm _ _
  rw [exchanges, List.countP_append, rounds]

theorem countP_isTransfer : (window.exchanges index).countP Exchange.isTransfer =
    window.rounds.length + (window.ending.exchanges index).countP Exchange.isTransfer := by
  rw [window.countP_exchanges index fun _ => rfl, Nat.one_mul]

theorem countP_isTransfer_le : (window.exchanges index).countP Exchange.isTransfer ≤ limit := by
  -- An ending with a transfer is possible only where a command is left.
  rw [countP_isTransfer]
  obtain ⟨rounds, ending, -, closes⟩ := window
  cases ending with
  | aborted command => exact closes.1
  | settled round => exact closes.1
  | exhausted => exact Nat.le_of_eq closes

theorem length_exchanges_le : (window.exchanges index).length ≤ 3 * limit := by
  -- No ending is longer than a round.
  rw [← List.countP_true, window.countP_exchanges index fun _ => rfl, List.countP_true]
  obtain ⟨rounds, ending, -, closes⟩ := window
  cases ending with
  | aborted command =>
    show 3 * rounds.length + 1 ≤ 3 * limit
    have within : rounds.length < limit := closes.1
    omega
  | settled round =>
    show 3 * rounds.length + 3 ≤ 3 * limit
    have within : rounds.length < limit := closes.1
    omega
  | exhausted => exact Nat.mul_le_mul_left 3 (Nat.le_of_eq closes)

/-- A window with at least one command begins with a transfer. -/
theorem exchanges_eq_cons (positive : 0 < limit) :
    ∃ (command : TuningCommand blockSize) (rest : List Exchange),
      window.exchanges index = command.exchange index :: rest := by
  obtain ⟨rounds, ending, -, closes⟩ := window
  cases rounds with
  | cons round rounds => exact ⟨_, _, rfl⟩
  | nil =>
    cases ending with
    | aborted command => exact ⟨_, _, rfl⟩
    | settled round => exact ⟨_, _, rfl⟩
    | exhausted => exact absurd closes (Nat.ne_of_lt positive)

/-- A transfer in front of some tail is in the tail, or in a round of the window, or it fails at its end. -/
theorem transfer_place {other : Transfer} {reply : TransferReply} {rest tail : List Exchange}
    (place : ⟨.transfer other, reply⟩ :: rest <:+ window.exchanges index ++ tail) :
    ⟨.transfer other, reply⟩ :: rest <:+ tail
      ∨ other.ReadsTuningBlock index blockSize
        ∧ (reply.completed = true ∧ (∃ status further,
            rest = ⟨.delay 1, ()⟩ :: ⟨.tuningStatus, status⟩ :: further)
          ∨ reply.completed = false ∧ window.ending.isAborted = true ∧ rest = tail) := by
  -- It is looked for in the rounds first, and then in the ending.
  obtain ⟨rounds, ending, lasts, closes⟩ := window
  rw [exchanges, List.append_assoc] at place
  obtain place | ⟨reads, completed, next⟩ := TuningRound.transfer_place_rounds index lasts place
  · cases ending with
    | aborted command =>
      obtain same | later := List.suffix_cons_iff.mp place
      · obtain ⟨⟨⟩, rfl⟩ := List.cons.inj same
        exact .inr ⟨command.reads index, .inr ⟨closes.2, rfl, rfl⟩⟩
      · exact .inl later
    | settled round =>
      obtain later | ⟨reads, rfl, next⟩ := round.transfer_place index place
      · exact .inl later
      · have completed := (Bool.and_eq_true_iff.mp closes.2).1
        exact .inr ⟨reads, .inl ⟨completed, _, _, next⟩⟩
    | exhausted => exact .inl place
  · exact .inr ⟨reads, .inl ⟨completed, next⟩⟩

/-- The last call of a window that settles is the look at tuning. -/
theorem getLast?_settled {round : TuningRound blockSize} (settled : window.ending = .settled round) :
    (window.exchanges index).getLast? = some ⟨.tuningStatus, round.status⟩ := by
  rw [exchanges, settled, List.getLast?_append]
  rfl

variable {before : Exchange} {start step point stride : UInt32} {rest tail : List Exchange}

/-- Tuning is switched on in front of a window, and not again before the tail. -/
theorem on_place (place : ⟨.tune point stride true, ()⟩ :: rest <:+
      ⟨.tune start step true, ()⟩ :: (window.exchanges index ++ tail)) :
    point = start ∧ stride = step ∧ rest = window.exchanges index ++ tail
      ∨ ⟨.tune point stride true, ()⟩ :: rest <:+ tail := by
  obtain same | place := List.suffix_cons_iff.mp place
  · obtain ⟨⟨⟩, rfl⟩ := List.cons.inj same
    exact .inl ⟨rfl, rfl, rfl⟩
  · exact .inr (suffix_back (window.tune_notMem index point stride true) place)

theorem on_place_pair (positive : 0 < limit) (place : before :: ⟨.tune point stride true, ()⟩ :: rest <:+
      ⟨.tune start step true, ()⟩ :: (window.exchanges index ++ tail)) :
    before :: ⟨.tune point stride true, ()⟩ :: rest <:+ tail
      ∨ (window.exchanges index).getLast? = some before
        ∧ ⟨.tune point stride true, ()⟩ :: rest = tail := by
  obtain same | place := List.suffix_cons_iff.mp place
  · -- What follows in front of the window is a transfer.
    obtain ⟨command, others, begins⟩ := window.exchanges_eq_cons index positive
    rw [begins] at same
    cases (List.cons.inj (List.cons.inj same).2).1
  · exact suffix_pair_back (window.tune_notMem index point stride true) place

end TuningWindow

theorem TuningEnding.isSettled_of_isAborted {blockSize : UInt32} {ending : TuningEnding blockSize}
    (aborted : ending.isAborted = true) : ending.isSettled = false := by
  cases ending with
  | aborted command => rfl
  | settled round => cases aborted
  | exhausted => rfl

theorem TuningEnding.eq_settled_of_isErroneous {blockSize : UInt32} {ending : TuningEnding blockSize}
    (erroneous : ending.isErroneous = true) :
    ∃ round, ending = settled round ∧ bitSet round.status.bits 1 = true := by
  cases ending with
  | aborted command => cases erroneous
  | settled round => exact ⟨round, rfl, erroneous⟩
  | exhausted => cases erroneous

end CardLink
