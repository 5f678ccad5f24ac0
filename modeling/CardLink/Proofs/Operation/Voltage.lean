import CardLink.Operation.Voltage
import CardLink.Proofs.Bus
import CardLink.Proofs.Bus.Echo
import CardLink.Proofs.Judgement
import CardLink.Proofs.Response

/-! The handshake of the switch to 1.8 V: its order, where it may end, and how it leaves the host. -/

namespace CardLink

/-- The bits of a line status that hold the levels of the data lines. -/
def dataLineBits : List Nat := [0, 1, 2, 3]

/-- A data line is high in a line status word. -/
def dataLineHigh (word : UInt32) : Bool := dataLineBits.any (bitSet word)

/-- The data lines of a status are those four bits of its word. -/
theorem LineStatus.anyDataHigh_eq (status : LineStatus) :
    status.anyDataHigh = dataLineHigh status.bits := by
  -- The mask of the data lines has these bits and no other.
  have mask : LineStatus.dataLines = maskOf dataLineBits := by decide
  rw [anyDataHigh, sharesBits, mask]
  exact and_maskOf_ne_zero (by decide) status.bits

/-- How a host drives the clock of the card. -/
structure ClockDrive where
  /-- The clock runs. -/
  clock : Bool := true
  /-- The clock is kept running without a command. -/
  forced : Bool := false

namespace ClockDrive

/-- How it is driven after a call. -/
def see (drive : ClockDrive) : HostCall → ClockDrive
  | .cardClock on => { drive with clock := on }
  | .forceClock on => { drive with forced := on }
  | .bringUp | .transfer _ | .lowVoltage _ | .delay _ | .tune _ _ _ | .lineStatus
  | .tuningStatus => drive

/-- How it is driven after calls in a series. -/
def after (drive : ClockDrive) (calls : List HostCall) : ClockDrive := calls.foldl see drive

end ClockDrive

/-- The command that asks the card for the switch: index 11 and argument zero, without data. -/
def voltageCommand : Transfer where
  command := { index := 11, argument := 0, responseType := .r1, response := ⟨0, 0, 0, 0⟩ }
  data := none

/-- The calls of a handshake that comes to its end, in order. -/
def voltageCalls : List HostCall :=
  [.transfer voltageCommand, .cardClock false, .lineStatus, .lowVoltage true,
    .delay 5, .cardClock true, .forceClock true, .delay 1, .forceClock false, .lineStatus]

/-- A switch to 1.8 V as the host saw and answered it. -/
inductive VoltageCourse where
  /-- The host does not carry the command out. -/
  | aborted (reply : TransferReply) (failed : reply.completed = false)
  /-- With the clock gated, the card does not hold the data lines low. -/
  | unheld (reply : TransferReply) (before : LineStatus) (carriedOut : reply.completed = true)
    (high : before.anyDataHigh = true)
  /-- The handshake comes to its end, with a last look at the lines. -/
  | finished (reply : TransferReply) (before after : LineStatus) (carriedOut : reply.completed = true)
    (low : before.anyDataHigh = false)

namespace VoltageCourse

/-- What the host is asked, and its answers. -/
def exchanges : VoltageCourse → List Exchange
  | aborted reply _ => [⟨.transfer voltageCommand, reply⟩]
  | unheld reply before _ _ =>
    [⟨.transfer voltageCommand, reply⟩, ⟨.cardClock false, ()⟩, ⟨.lineStatus, before⟩]
  | finished reply before after _ _ =>
    [⟨.transfer voltageCommand, reply⟩, ⟨.cardClock false, ()⟩, ⟨.lineStatus, before⟩,
      ⟨.lowVoltage true, ()⟩, ⟨.delay 5, ()⟩, ⟨.cardClock true, ()⟩, ⟨.forceClock true, ()⟩,
      ⟨.delay 1, ()⟩, ⟨.forceClock false, ()⟩, ⟨.lineStatus, after⟩]

/-- The result that the course leads to. -/
def result : VoltageCourse → Except CardError Unit
  | aborted _ _ => .error .transferFailed
  | unheld _ _ _ _ => .error .voltageSwitchFailed
  | finished _ _ after _ _ => if after.anyDataHigh then .ok () else .error .voltageSwitchFailed

/-- The calls of a course. -/
def calls (course : VoltageCourse) : List HostCall := course.exchanges.map Exchange.call

end VoltageCourse

/-- A handshake that keeps to the order, and to what each step of it asks for. -/
structure SafeHandshake (exchanges : List Exchange) : Prop where
  /-- The calls are the first ones of the whole handshake. -/
  order : exchanges.map Exchange.call <+: voltageCalls
  /-- The level is switched only with the clock gated, right after all data lines were seen low. -/
  switches : ∀ earlier later, exchanges = earlier ++ ⟨.lowVoltage true, ()⟩ :: later →
    (∀ drive : ClockDrive, (drive.after (earlier.map Exchange.call)).clock = false)
      ∧ ∃ status, earlier.getLast? = some ⟨.lineStatus, status⟩ ∧ dataLineHigh status.bits = false
  /-- A clock that was forced on is released later. -/
  releases : ∀ earlier later, exchanges = earlier ++ ⟨.forceClock true, ()⟩ :: later →
    ⟨.forceClock false, ()⟩ ∈ later
      ∧ ∀ drive : ClockDrive, (drive.after (exchanges.map Exchange.call)).forced = false

namespace VoltageCourse

variable (course : VoltageCourse)

/-- A course that ends early leaves out the end of the whole handshake, and nothing else. -/
theorem calls_prefix : course.calls <+: voltageCalls := by
  cases course with
  | aborted reply failed => exact ⟨voltageCalls.drop 1, rfl⟩
  | unheld reply before carriedOut high => exact ⟨voltageCalls.drop 3, rfl⟩
  | finished reply before after carriedOut low => exact List.prefix_refl _

/-- Whatever stands in a course stands at the same place of the whole handshake. -/
theorem place {earlier later : List Exchange} {exchange : Exchange}
    (split : course.exchanges = earlier ++ exchange :: later) :
    voltageCalls[earlier.length]? = some exchange.call ∧ earlier.length < course.exchanges.length
      ∧ earlier = course.exchanges.take earlier.length
      ∧ later = course.exchanges.drop (earlier.length + 1) := by
  -- The calls that a course leaves out stand behind all of its own.
  obtain ⟨rest, whole⟩ := course.calls_prefix
  refine ⟨?_, ?_, ?_, ?_⟩
  · rw [← whole, calls, split]
    simp
  · rw [split, List.length_append, List.length_cons]
    omega
  · rw [split, List.take_left]
  · rw [split, ← List.drop_drop, List.drop_left]
    rfl

/-- A call that the whole handshake makes in one place only is found in no other. -/
theorem place_eq {call : HostCall} {only place : Nat}
    (once : ∀ other < voltageCalls.length, voltageCalls[other]? = some call → other = only)
    (found : voltageCalls[place]? = some call) : place = only :=
  once place (List.getElem?_eq_some_iff.mp found).1 found

/-- Only a course that comes to its end goes on after the look at the lines. -/
theorem exists_finished (long : 3 < course.exchanges.length) :
    ∃ reply before after carriedOut low, course = finished reply before after carriedOut low := by
  cases course with
  | aborted reply failed => simp [exchanges] at long
  | unheld reply before carriedOut high => simp [exchanges] at long
  | finished reply before after carriedOut low => exact ⟨reply, before, after, carriedOut, low, rfl⟩

/-- Every course keeps to the order, and to what its steps ask for. -/
theorem safe : SafeHandshake course.exchanges where
  order := course.calls_prefix
  switches := by
    intro earlier later split
    obtain ⟨found, within, front, -⟩ := course.place split
    have fourth : earlier.length = 3 := place_eq (by decide) found
    rw [fourth] at front within
    -- Whoever comes this far saw all data lines low.
    obtain ⟨reply, before, after, carriedOut, low, rfl⟩ := course.exists_finished within
    rw [LineStatus.anyDataHigh_eq] at low
    rw [front]
    exact ⟨fun drive => rfl, before, rfl, low⟩
  releases := by
    intro earlier later split
    obtain ⟨found, within, -, back⟩ := course.place split
    have seventh : earlier.length = 6 := place_eq (by decide) found
    rw [seventh] at back within
    obtain ⟨reply, before, after, carriedOut, low, rfl⟩ :=
      course.exists_finished (Nat.lt_trans (by decide) within)
    rw [back]
    exact ⟨List.mem_cons_of_mem _ List.mem_cons_self, fun drive => rfl⟩

end VoltageCourse

section Run

variable {σ : Type} (model : HostModel σ) (state : BusState σ)

/-- The switch to 1.8 V runs as the answers of the host have it. -/
theorem exists_voltageCourse :
    ∃ course : VoltageCourse,
      let ran := Bus.run model switchVoltage.run state
      ran.value = course.result ∧ ran.exchanges = course.exchanges := by
  -- The command comes first, and a host that does not carry it out is asked nothing else.
  let asked := model.answer (.transfer { command := .voltageSwitch }) state.host
  obtain ⟨value, -, exchanges⟩ := run_issueUnchecked model state .voltageSwitch
  rw [switchVoltage, Bus.run_bind_except]
  simp only [value, exchanges]
  cases carriedOut : asked.1.completed with
  | false => exact ⟨.aborted asked.1 carriedOut, rfl, rfl⟩
  | true =>
    simp only [if_true, Bus.run_bind_lift]
    -- The look at the lines with the clock gated decides whether the level is switched at all.
    split
    · rename_i high
      simp only [Bus.run_bind_lift, Bus.run_log]
      exact ⟨.unheld asked.1 _ carriedOut high, rfl, rfl⟩
    · rename_i low
      simp only [Bus.run_bind_lift]
      split
      · rename_i released
        refine ⟨.finished asked.1 _ _ carriedOut (eq_false_of_ne_true low), ?_, rfl⟩
        exact (if_pos released).symm
      · rename_i stuck
        simp only [Bus.run_bind_lift, Bus.run_log]
        refine ⟨.finished asked.1 _ _ carriedOut (eq_false_of_ne_true low), ?_, rfl⟩
        exact (if_neg stuck).symm

end Run

/-- The calls and the result of a switch to 1.8 V, in terms of how the command ends and of the line
status words behind it. -/
def voltageOutcome (completed : Bool) (before after : UInt32) :
    List HostCall × Except CardError Unit :=
  if !completed then (voltageCalls.take 1, .error .transferFailed)
  else if dataLineHigh before then (voltageCalls.take 3, .error .voltageSwitchFailed)
  else (voltageCalls, if dataLineHigh after then .ok () else .error .voltageSwitchFailed)

/-- The clock is left gated exactly if a data line was high while it was gated. -/
theorem clock_voltageOutcome (completed : Bool) (before after : UInt32) {drive : ClockDrive}
    (running : drive.clock = true) :
    (drive.after (voltageOutcome completed before after).1).clock = false
      ↔ completed = true ∧ dataLineHigh before = true := by
  unfold voltageOutcome
  cases completed with
  | false =>
    -- The command alone does not touch the clock.
    change drive.clock = false ↔ _
    simp [running]
  | true =>
    cases high : dataLineHigh before with
    | true => exact iff_of_true rfl ⟨rfl, rfl⟩
    | false =>
      -- The whole handshake switches the clock on again.
      exact iff_of_false nofun nofun

/-- The line status word that a host will report after so many others. -/
def ScriptedHost.lineWord (host : ScriptedHost) (others : Nat) : UInt32 :=
  entryAt host.script.lineStatuses (host.lineReads + others)

/-- What a scripted host answers fixes the course. -/
theorem VoltageCourse.outcome (course : VoltageCourse) (host : ScriptedHost)
    (answered : (ScriptedHost.model.answers course.calls host).1 = course.exchanges) :
    (course.calls, course.result) =
      voltageOutcome host.completesNext (host.lineWord 0) (host.lineWord 1) := by
  have completes := host.completed_transfer voltageCommand
  unfold voltageOutcome
  -- The answers that the course tells of are those of the script, in order.
  cases course <;>
    simp only [calls, exchanges, List.map_cons, List.map_nil, HostModel.answers, List.cons.injEq,
      Exchange.mk.injEq, heq_eq_eq, true_and, and_true] at answered
  case aborted reply failed =>
    obtain rfl : (host.transfer voltageCommand).1 = reply := answered
    rw [← completes, failed]
    rfl
  case unheld reply before carriedOut high =>
    obtain ⟨command, look⟩ := answered
    obtain rfl : (host.transfer voltageCommand).1 = reply := command
    obtain rfl : ⟨host.lineWord 0⟩ = before := look
    rw [LineStatus.anyDataHigh_eq] at high
    rw [← completes, carriedOut, high]
    rfl
  case finished reply before after carriedOut low =>
    obtain ⟨command, look, last⟩ := answered
    obtain rfl : (host.transfer voltageCommand).1 = reply := command
    obtain rfl : ⟨host.lineWord 0⟩ = before := look
    obtain rfl : ⟨host.lineWord 1⟩ = after := last
    rw [LineStatus.anyDataHigh_eq] at low
    rw [← completes, carriedOut, low, ← LineStatus.anyDataHigh_eq ⟨host.lineWord 1⟩]
    rfl

/-- The host as the handshake sees it: without response words, and with no levels but those of the data
lines. -/
def ScriptedHost.voltageView (host : ScriptedHost) : ScriptedHost :=
  let wordless := host.blurred (fun _ => []) id
  { wordless with script := { wordless.script with
      lineStatuses := wordless.script.lineStatuses.map (· &&& 0xF) } }

theorem ScriptedHost.completesNext_voltageView (host : ScriptedHost) :
    host.voltageView.completesNext = host.completesNext := by
  -- The levels have no part in a transfer.
  have next : host.voltageView.nextTransfer = host.nextTransfer.blurred fun _ => [] :=
    host.nextTransfer_blurred (fun _ => []) id
  rw [completesNext, next]
  rfl

/-- Clearing the other bits changes nothing about the data lines. -/
theorem dataLineHigh_and (word : UInt32) :
    dataLineHigh (word &&& LineStatus.dataLines) = dataLineHigh word := by
  -- A mask that is applied twice does no more than one that is applied once.
  have masked := LineStatus.anyDataHigh_eq ⟨word &&& LineStatus.dataLines⟩
  rw [LineStatus.anyDataHigh, sharesBits, UInt32.and_assoc, UInt32.and_self] at masked
  exact masked.symm.trans (LineStatus.anyDataHigh_eq ⟨word⟩)

theorem ScriptedHost.dataLineHigh_voltageView (host : ScriptedHost) (others : Nat) :
    dataLineHigh (host.voltageView.lineWord others) = dataLineHigh (host.lineWord others) := by
  have word : host.voltageView.lineWord others = host.lineWord others &&& LineStatus.dataLines :=
    entryAt_map (by decide) _ _
  rw [word, dataLineHigh_and]

/-- Hosts that the handshake sees as one lead to the same calls and the same result. -/
theorem voltageOutcome_congr {host other : ScriptedHost}
    (same : other.voltageView = host.voltageView) :
    voltageOutcome other.completesNext (other.lineWord 0) (other.lineWord 1) =
      voltageOutcome host.completesNext (host.lineWord 0) (host.lineWord 1) := by
  -- The outcome asks for nothing that the handshake does not see.
  unfold voltageOutcome
  rw [← other.completesNext_voltageView, ← other.dataLineHigh_voltageView 0,
    ← other.dataLineHigh_voltageView 1, same, host.completesNext_voltageView,
    host.dataLineHigh_voltageView, host.dataLineHigh_voltageView]

/--
The handshake ends early in two places only, and it is safe wherever it ends.

Hosts that differ in response words and in bits beyond the data lines only are called alike, to the same
result.
-/
theorem voltage_switch_handshake (state : BusState ScriptedHost) :
    let host := state.host
    let ran := Bus.run ScriptedHost.model switchVoltage.run state
    let calls := ran.exchanges.map Exchange.call
    (calls, ran.value) = voltageOutcome host.completesNext (host.lineWord 0) (host.lineWord 1)
      ∧ SafeHandshake ran.exchanges
      ∧ (∀ drive : ClockDrive, drive.clock = true →
        ((drive.after calls).clock = false
          ↔ host.completesNext = true ∧ dataLineHigh (host.lineWord 0) = true))
      ∧ ∀ other : BusState ScriptedHost, other.host.voltageView = host.voltageView →
        let elsewhere := Bus.run ScriptedHost.model switchVoltage.run other
        elsewhere.value = ran.value ∧ elsewhere.exchanges.map Exchange.call = calls := by
  -- What holds of one run is said of any, since the last part compares two of them.
  have outcome (state : BusState ScriptedHost) :
      let ran := Bus.run ScriptedHost.model switchVoltage.run state
      (ran.exchanges.map Exchange.call, ran.value) = voltageOutcome state.host.completesNext
          (state.host.lineWord 0) (state.host.lineWord 1)
        ∧ SafeHandshake ran.exchanges := by
    obtain ⟨course, value, exchanges⟩ := exists_voltageCourse ScriptedHost.model state
    have answered := Bus.answers_run ScriptedHost.model switchVoltage.run state
    dsimp only at answered ⊢
    rw [exchanges] at answered
    rw [exchanges, value]
    exact ⟨course.outcome state.host (congrArg Prod.fst answered), course.safe⟩
  intro host ran calls
  obtain ⟨ends, safe⟩ := outcome state
  refine ⟨ends, safe, ?_, ?_⟩
  · intro drive running
    have called : calls = _ := congrArg Prod.fst ends
    rw [called]
    exact clock_voltageOutcome _ _ _ running
  · intro other same
    have alike := (outcome other).1.trans ((voltageOutcome_congr same).trans ends.symm)
    exact ⟨congrArg Prod.snd alike, congrArg Prod.fst alike⟩

/-- A switch that succeeds, on hosts that agree on the data lines and on nothing else. -/
theorem voltage_switch_handshake_noisy :
    let state : BusState ScriptedHost := {
      host := .ofScript { lineStatuses := [0x30, 0x08] }, logger := { filter := .off } }
    let noise : TransferScript := { response := [0xFFFFFFFF] }
    let other : BusState ScriptedHost := {
      host := .ofScript { furtherTransfers := noise, lineStatuses := [0xFFFFFFF0, 0x18] }
      logger := { filter := .off } }
    let ran := Bus.run ScriptedHost.model switchVoltage.run state
    let elsewhere := Bus.run ScriptedHost.model switchVoltage.run other
    other.host.voltageView = state.host.voltageView
      ∧ ran.value = .ok () ∧ ran.exchanges.map Exchange.call = voltageCalls
      ∧ elsewhere.value = ran.value
      ∧ elsewhere.exchanges.map Exchange.call = ran.exchanges.map Exchange.call := by
  intro state noise other ran elsewhere
  have same : other.host.voltageView = state.host.voltageView := by decide
  obtain ⟨ends, -, -, apart⟩ := voltage_switch_handshake state
  have held : dataLineHigh (state.host.lineWord 0) = false := by decide
  have released : dataLineHigh (state.host.lineWord 1) = true := by decide
  rw [voltageOutcome, held, released] at ends
  have value : ran.value = .ok () := congrArg Prod.snd ends
  have calls : ran.exchanges.map Exchange.call = voltageCalls := congrArg Prod.fst ends
  exact ⟨same, value, calls, apart other same⟩

end CardLink
