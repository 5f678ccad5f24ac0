import CardLink.Proofs.Operation.Issue
import CardLink.Proofs.Operation.Tuning.Loop
import CardLink.Proofs.Response

/-!
The course of a tuning: its windows as the host saw and answered them, and what follows the last one. All
commands read into one buffer, so that each is handed the bytes that the one before it left.
-/

namespace CardLink

namespace TuningStatus

/-- The host wants more as long as bit 0 is set. -/
theorem active_eq (status : TuningStatus) : status.active = bitSet status.bits 0 :=
  containsBits_two_pow status.bits 0 (by decide)

/-- An error is bit 1. -/
theorem failed_eq (status : TuningStatus) : status.failed = bitSet status.bits 1 :=
  containsBits_two_pow status.bits 1 (by decide)

/-- The use of the tuned clock is bit 2. -/
theorem sampling_eq (status : TuningStatus) : status.sampling = bitSet status.bits 2 :=
  containsBits_two_pow status.bits 2 (by decide)

end TuningStatus

/-- A tuning command as the host was given and answered it. -/
structure TuningCommand (blockSize : UInt32) where
  /-- The bytes that its block is read over. -/
  bytes : Bytes
  /-- They are as long as the block. -/
  length_eq : bytes.length = blockSize.toNat
  /-- The answer. -/
  reply : TransferReply

section Parts

variable {blockSize : UInt32}

namespace TuningCommand

/-- What the host is asked for: a read of one block for tuning, by a command with argument zero. -/
def transfer (index : UInt8) (command : TuningCommand blockSize) : Transfer where
  command := { index, argument := 0, responseType := .r1, response := ⟨0, 0, 0, 0⟩ }
  data := some { blockSize, blockCount := 1, buffer := .plain .fromCard command.bytes, tuning := true }

/-- The request and the answer. -/
def exchange (index : UInt8) (command : TuningCommand blockSize) : Exchange :=
  ⟨.transfer (command.transfer index), command.reply⟩

/-- The bytes after the command: what the host stored, and behind it what was there before. -/
def left (command : TuningCommand blockSize) : Bytes :=
  (command.reply.memory ++ command.bytes.drop command.reply.memory.length).take blockSize.toNat

/-- The first command is handed the given bytes, and each other one those that the one before it left. -/
def Handed : Bytes → List (TuningCommand blockSize) → Prop
  | _, [] => True
  | bytes, command :: rest => command.bytes = bytes ∧ Handed command.left rest

/-- The bytes behind commands that are given these bytes. -/
def bytesBehind (bytes : Bytes) (commands : List (TuningCommand blockSize)) : Bytes :=
  commands.foldl (fun _ command => command.left) bytes

theorem handed_append {bytes : Bytes} {first second : List (TuningCommand blockSize)}
    (front : Handed bytes first) (back : Handed (bytesBehind bytes first) second) :
    Handed bytes (first ++ second) := by
  induction first generalizing bytes with
  | nil => exact back
  | cons command rest ih => exact ⟨front.1, ih front.2 back⟩

end TuningCommand

/-- A command that the host carried out, with the state of tuning that it reported next. -/
structure TuningRound (blockSize : UInt32) extends TuningCommand blockSize where
  /-- The state of tuning after the wait. -/
  status : TuningStatus

namespace TuningRound

variable (round : TuningRound blockSize)

/-- The host carried the command out, and wants more. -/
def lasts : Bool := round.reply.completed && bitSet round.status.bits 0

/-- The host carried the command out, and wants no more. -/
def settles : Bool := round.reply.completed && !bitSet round.status.bits 0

/-- What the host is asked in a round, and its answers. -/
def exchanges (index : UInt8) : List Exchange :=
  [round.exchange index, ⟨.delay 1, ()⟩, ⟨.tuningStatus, round.status⟩]

end TuningRound

/-- What follows the rounds after which the host wants more. -/
inductive TuningEnding (blockSize : UInt32) where
  /-- The host does not carry out the next command. -/
  | aborted (command : TuningCommand blockSize)
  /-- After the next command, the host wants no more. -/
  | settled (round : TuningRound blockSize)
  /-- There is no command left. -/
  | exhausted

namespace TuningEnding

/-- An ending is possible after so many rounds of a window that has a limit. -/
def Closes (limit count : Nat) : TuningEnding blockSize → Prop
  | aborted command => count < limit ∧ command.reply.completed = false
  | settled round => count < limit ∧ round.settles = true
  | exhausted => count = limit

/-- The command at the end of a window, if there is one. -/
def commands : TuningEnding blockSize → List (TuningCommand blockSize)
  | aborted command => [command]
  | settled round => [round.toTuningCommand]
  | exhausted => []

/-- What the host is asked at the end of a window, and its answers. -/
def exchanges (index : UInt8) : TuningEnding blockSize → List Exchange
  | aborted command => [command.exchange index]
  | settled round => round.exchanges index
  | exhausted => []

/-- The last command was not carried out. -/
def isAborted : TuningEnding blockSize → Bool
  | aborted _ => true
  | settled _ | exhausted => false

/-- The host wants no more. -/
def isSettled : TuningEnding blockSize → Bool
  | settled _ => true
  | aborted _ | exhausted => false

/-- The host wants no more, since it found an error. -/
def isErroneous : TuningEnding blockSize → Bool
  | settled round => bitSet round.status.bits 1
  | aborted _ | exhausted => false

/-- The end of a window as the program tells it. -/
def result : TuningEnding blockSize → WindowEnd
  | aborted _ => .aborted .transferFailed
  | settled round => .settled round.status
  | exhausted => .exhausted

end TuningEnding

/-- A window of at most so many commands. -/
structure TuningWindow (blockSize : UInt32) (limit : Nat) where
  /-- The rounds after which the host wanted more. -/
  rounds : List (TuningRound blockSize)
  /-- What followed them. -/
  ending : TuningEnding blockSize
  /-- The host wanted more after each of the rounds. -/
  lasts : ∀ round ∈ rounds, round.lasts = true
  /-- The ending is possible where it stands. -/
  closes : ending.Closes limit rounds.length

namespace TuningWindow

variable {limit : Nat}

/-- The commands of a window. -/
def commands (window : TuningWindow blockSize limit) : List (TuningCommand blockSize) :=
  window.rounds.map TuningRound.toTuningCommand ++ window.ending.commands

/-- What the host is asked in a window, and its answers. -/
def exchanges (index : UInt8) (window : TuningWindow blockSize limit) : List Exchange :=
  window.rounds.flatMap (·.exchanges index) ++ window.ending.exchanges index

/-- One more round in front of a window. -/
def cons (round : TuningRound blockSize) (lasting : round.lasts = true)
    (window : TuningWindow blockSize limit) : TuningWindow blockSize (limit + 1) where
  rounds := round :: window.rounds
  ending := window.ending
  lasts := List.forall_mem_cons.mpr ⟨lasting, window.lasts⟩
  closes := by
    obtain ⟨rounds, ending, -, closes⟩ := window
    cases ending with
    | aborted command => exact ⟨Nat.succ_lt_succ closes.1, closes.2⟩
    | settled round => exact ⟨Nat.succ_lt_succ closes.1, closes.2⟩
    | exhausted => exact congrArg Nat.succ closes

end TuningWindow

/-- The commands of a window that there may be. -/
def againCommands (again : Option (TuningWindow blockSize 40)) : List (TuningCommand blockSize) :=
  (again.map TuningWindow.commands).getD []

/-- What the host is asked in a window that tuning is switched on again for, and its answers. -/
def againExchanges (index : UInt8) (start step : UInt32) :
    Option (TuningWindow blockSize 40) → List Exchange
  | none => []
  | some window => ⟨.tune start step true, ()⟩ :: window.exchanges index

end Parts

/-- A tuning from its first window to what follows the last one. -/
structure TuningCourse (blockSize : UInt32) where
  /-- The first window. -/
  first : TuningWindow blockSize 40
  /-- The second window, which has as many commands as the first. -/
  second : Option (TuningWindow blockSize 40)
  /-- The state of tuning in the last look at it. -/
  final : Option TuningStatus
  /-- There is a second window exactly if the host found an error in the first one. -/
  restarts : second.isSome = first.ending.isErroneous
  /-- There is a last look exactly if the host wanted no more in the last window. -/
  looks : final.isSome = (second.getD first).ending.isSettled
  /-- All commands read into one buffer, which is zero at first. -/
  handed : TuningCommand.Handed (List.replicate blockSize.toNat 0)
    (first.commands ++ againCommands second)

namespace TuningCourse

variable {blockSize : UInt32} (course : TuningCourse blockSize)

/-- The last window. -/
def last : TuningWindow blockSize 40 := course.second.getD course.first

/-- What follows the last window: tuning is switched off, or its state is looked at once more. -/
def closing (start step : UInt32) : Exchange :=
  match course.final with
  | none => ⟨.tune start step false, ()⟩
  | some status => ⟨.tuningStatus, status⟩

/-- What the host is asked in the whole course, and its answers. -/
def exchanges (index : UInt8) (start step : UInt32) : List Exchange :=
  ⟨.tune start step true, ()⟩ :: course.first.exchanges index
    ++ againExchanges index start step course.second ++ [course.closing start step]

/-- The last look decides, if there is one; else it matters how the last window came to its end. -/
def result : Except CardError Unit :=
  match course.final with
  | some status => if bitSet status.bits 2 then .ok () else .error .tuningFailed
  | none =>
    match course.last.ending with
    | .aborted _ => .error .transferFailed
    | .settled _ | .exhausted => .error .tuningFailed

theorem result_ne_argumentInvalid : course.result ≠ .error .argumentInvalid := by
  unfold result
  split
  · split <;> simp
  · split <;> simp

end TuningCourse

section Buffer

variable {blockSize : UInt32}

/-- Commands that read into the front of a buffer one after another, between two contents of it. -/
structure ReadsInto (before after : Bytes) (commands : List (TuningCommand blockSize)) : Prop where
  /-- The buffer still holds a block. -/
  room : blockSize.toNat ≤ after.length
  /-- Each command is handed what the one before it left. -/
  handed : TuningCommand.Handed (before.take blockSize.toNat) commands
  /-- The front of the buffer is what the last one left. -/
  behind : after.take blockSize.toNat =
    TuningCommand.bytesBehind (before.take blockSize.toNat) commands

/-- The front of a buffer after bytes were stored there depends on its front alone. -/
theorem take_overwrite (buffer bytes : Bytes) (length : Nat) :
    (overwrite buffer 0 bytes).take length =
      (bytes ++ (buffer.take length).drop bytes.length).take length := by
  rw [overwrite, List.take_zero, List.nil_append, Nat.zero_add, List.take_append, List.take_append,
    List.drop_take, List.take_take, Nat.min_self]

/-- The command that is handed the front of a buffer. -/
def TuningCommand.ofBuffer {buffer : Bytes} (room : blockSize.toNat ≤ buffer.length)
    (reply : TransferReply) : TuningCommand blockSize where
  bytes := buffer.take blockSize.toNat
  length_eq := by rw [List.length_take, Nat.min_eq_left room]
  reply := reply

namespace ReadsInto

variable {before after later : Bytes} {first second : List (TuningCommand blockSize)}

/-- A command that is handed the front of a buffer stores its bytes there. -/
theorem single (room : blockSize.toNat ≤ before.length) (reply : TransferReply) :
    ReadsInto before (overwrite before 0 reply.memory) [TuningCommand.ofBuffer room reply] where
  room := by
    rw [overwrite, List.take_zero, List.nil_append, Nat.zero_add, List.length_append,
      List.length_drop]
    omega
  handed := ⟨rfl, trivial⟩
  behind := take_overwrite before reply.memory blockSize.toNat

theorem append (front : ReadsInto before after first) (back : ReadsInto after later second) :
    ReadsInto before later (first ++ second) where
  room := back.room
  handed := TuningCommand.handed_append front.handed (front.behind ▸ back.handed)
  behind := by
    rw [back.behind, front.behind, TuningCommand.bytesBehind, TuningCommand.bytesBehind,
      TuningCommand.bytesBehind, List.foldl_append]

end ReadsInto

end Buffer

section Run

variable {σ : Type} (model : HostModel σ) (state : BusState σ) (index : UInt8) {blockSize : UInt32}
  (start step : UInt32)

/-- A window runs as the answers of the host have it. -/
theorem exists_window (left : Nat) {buffer : Bytes} (room : blockSize.toNat ≤ buffer.length) :
    ∃ window : TuningWindow blockSize left,
      let ran := (tuningWindow index blockSize left buffer).run model state
      ran.value.1 = window.ending.result ∧ ran.exchanges = window.exchanges index
        ∧ ReadsInto buffer ran.value.2 window.commands := by
  induction left generalizing state buffer with
  | zero => exact ⟨⟨[], .exhausted, by simp, rfl⟩, rfl, rfl, ⟨room, trivial, rfl⟩⟩
  | succ left ih =>
    let asked := tuningTransfer index blockSize buffer
    let answered := model.answer (.transfer asked) state.host
    let command := TuningCommand.ofBuffer room answered.1
    have reads : ReadsInto buffer (overwrite buffer 0 answered.1.memory) [command] := .single room _
    obtain ⟨value, host, exchanges⟩ := run_execute model state asked
    rw [tuningWindow, Bus.run_bind]
    simp only [asked, value, exchanges]
    cases completed : answered.1.completed with
    | false =>
      -- A transfer that the host does not carry out is the last one.
      refine ⟨⟨[], .aborted command, by simp, Nat.succ_pos _, completed⟩, ?_⟩
      simp only [Bool.false_eq_true, if_false]
      exact ⟨rfl, rfl, reads⟩
    | true =>
      -- The wait and the look at the state of tuning complete the round.
      simp only [if_true, Bus.run_bind]
      let waited := (Bus.request (.delay tuningPollDelay)).run model
        ((execute asked).run model state).state
      let looked := (Bus.request .tuningStatus).run model waited.state
      let round : TuningRound blockSize := { command with status := looked.value }
      have active := round.status.active_eq
      split
      · rename_i more
        have lasts : round.lasts = true := Bool.and_eq_true_iff.mpr ⟨completed, active ▸ more⟩
        obtain ⟨window, result, others, later⟩ := ih looked.state reads.room
        refine ⟨window.cons round lasts, result, ?_, reads.append later⟩
        exact congrArg (round.exchanges index ++ ·) others
      · rename_i enough
        have settles : round.settles = true := by
          rw [TuningRound.settles, ← active]
          exact Bool.and_eq_true_iff.mpr ⟨completed, by simpa using enough⟩
        exact ⟨⟨[], .settled round, by simp, Nat.succ_pos _, settles⟩, rfl, rfl, reads⟩

/-- So does a window that tuning was switched on for. -/
theorem exists_freshWindow {buffer : Bytes} (room : blockSize.toNat ≤ buffer.length) :
    ∃ window : TuningWindow blockSize 40,
      let ran := (freshWindow index blockSize start step buffer).run model state
      ran.value.1 = window.ending.result
        ∧ ran.exchanges = ⟨.tune start step true, ()⟩ :: window.exchanges index
        ∧ ReadsInto buffer ran.value.2 window.commands := by
  let enabled := (Bus.request (.tune start step true)).run model state
  obtain ⟨window, result, exchanges, reads⟩ := exists_window model enabled.state index 40 room
  rw [freshWindow, Bus.run_bind]
  exact ⟨window, result, congrArg (enabled.exchanges ++ ·) exchanges, reads⟩

/-- The windows run one after the other, the second one only after an error in the first. -/
theorem exists_windows (fits : blockSize.toNat ≤ maxTuningBlockSize) :
    ∃ (first : TuningWindow blockSize 40) (second : Option (TuningWindow blockSize 40)),
      let ran := (tuningWindows index blockSize start step).run model state
      second.isSome = first.ending.isErroneous
        ∧ ran.value = (second.getD first).ending.result
        ∧ ran.exchanges = ⟨.tune start step true, ()⟩ :: first.exchanges index
          ++ againExchanges index start step second
        ∧ TuningCommand.Handed (List.replicate blockSize.toNat 0)
          (first.commands ++ againCommands second) := by
  have room : blockSize.toNat ≤ (List.replicate maxTuningBlockSize (0 : UInt8)).length := by
    rw [List.length_replicate]
    exact fits
  have zeros : (List.replicate maxTuningBlockSize (0 : UInt8)).take blockSize.toNat =
      List.replicate blockSize.toNat 0 := by
    rw [List.take_replicate, Nat.min_eq_left fits]
  obtain ⟨first, result, exchanges, reads⟩ := exists_freshWindow model state index start step room
  have alone : TuningCommand.Handed (List.replicate blockSize.toNat 0)
      (first.commands ++ againCommands none) := by
    rw [← zeros]
    exact TuningCommand.handed_append reads.handed trivial
  rw [tuningWindows, Bus.run_bind]
  simp only [result, exchanges]
  refine ⟨first, ?_⟩
  cases ending : first.ending with
  | aborted command => exact ⟨none, rfl, by rw [Option.getD_none, ending]; rfl, rfl, alone⟩
  | exhausted => exact ⟨none, rfl, by rw [Option.getD_none, ending]; rfl, rfl, alone⟩
  | settled round =>
    simp only [TuningEnding.result, TuningEnding.isErroneous, ← round.status.failed_eq]
    cases failed : round.status.failed with
    | false => exact ⟨none, rfl, by rw [Option.getD_none, ending]; rfl, rfl, alone⟩
    | true =>
      -- The second window starts on the buffer that the first one left.
      simp only [if_true, Bus.run_bind, Bus.run_log, Bus.run_pure, List.nil_append, List.append_nil]
      obtain ⟨second, result, exchanges, later⟩ :=
        exists_freshWindow model _ index start step reads.room
      exact ⟨some second, rfl, result, congrArg _ exchanges, zeros ▸ (reads.append later).handed⟩

theorem run_executeTuning_refused
    (refused : blockSize.toNat = 0 ∨ blockSize.toNat > maxTuningBlockSize) :
    Bus.run model (executeTuning index blockSize start step).run state =
      ⟨.error .argumentInvalid, state, [], []⟩ := by
  rw [executeTuning, if_pos refused]
  rfl

/-- Tuning with a block that fits takes its course. -/
theorem exists_course (fits : ¬ (blockSize.toNat = 0 ∨ blockSize.toNat > maxTuningBlockSize)) :
    ∃ course : TuningCourse blockSize,
      let ran := Bus.run model (executeTuning index blockSize start step).run state
      ran.value = course.result ∧ ran.exchanges = course.exchanges index start step := by
  obtain ⟨first, second, restarts, result, exchanges, handed⟩ :=
    exists_windows model state index start step (Nat.le_of_not_lt (not_or.mp fits).2)
  rw [executeTuning_eq index blockSize start step fits]
  simp only [Bus.run_bind_lift, result, exchanges]
  let course (final : Option TuningStatus) (looks : final.isSome = (second.getD first).ending.isSettled) :
      TuningCourse blockSize := ⟨first, second, final, restarts, looks, handed⟩
  cases ending : (second.getD first).ending with
  | aborted command =>
    have looks : (none : Option TuningStatus).isSome = (second.getD first).ending.isSettled := by
      rw [ending]
      rfl
    have failed : (course none looks).result = .error .transferFailed := by
      simp [course, TuningCourse.result, TuningCourse.last, ending]
    exact ⟨course none looks, failed.symm, rfl⟩
  | exhausted =>
    have looks : (none : Option TuningStatus).isSome = (second.getD first).ending.isSettled := by
      rw [ending]
      rfl
    have failed : (course none looks).result = .error .tuningFailed := by
      simp [course, TuningCourse.result, TuningCourse.last, ending]
    -- The record in front of the last call is no exchange.
    simp only [TuningEnding.result, concludeTuning, Bus.run_bind_lift, Bus.run_log, List.nil_append]
    exact ⟨course none looks, failed.symm, rfl⟩
  | settled round =>
    -- The last look is at the state in which the last window left the host.
    let ended := (tuningWindows index blockSize start step).run model state
    let status := ((Bus.request .tuningStatus).run model ended.state).value
    have looks : (some status).isSome = (second.getD first).ending.isSettled := by
      rw [ending]
      rfl
    refine ⟨course (some status) looks, ?_⟩
    simp only [TuningEnding.result, concludeTuning, Bus.run_bind_lift]
    have sampling := TuningStatus.sampling_eq status
    split
    · rename_i selected
      have passed : (course (some status) looks).result = .ok () := if_pos (sampling ▸ selected)
      exact ⟨passed.symm, rfl⟩
    · rename_i missing
      have failed : (course (some status) looks).result = .error .tuningFailed :=
        if_neg (sampling ▸ missing)
      simp only [Bus.run_bind_lift, Bus.run_log]
      exact ⟨failed.symm, rfl⟩

end Run

end CardLink
