import CardLink.Log
import CardLink.Status
import CardLink.Transfer

/-!
Programs for the bus: sequences of host calls, uses of the log and uses of the bus lock, and what one
does on a given host.
-/

namespace CardLink

/-- A call to the host controller. -/
inductive HostCall where
  /-- Brings the controller up. -/
  | bringUp
  /-- Runs one transfer to its end. -/
  | transfer (transfer : Transfer)
  /-- Gates the clock of the card. -/
  | cardClock (on : Bool)
  /-- Keeps the clock running without a command. -/
  | forceClock (on : Bool)
  /-- Selects signalling at 1.8 V. -/
  | lowVoltage (on : Bool)
  /-- Waits. -/
  | delay (milliseconds : UInt32)
  /-- Starts or stops standard tuning. -/
  | tune (start step : UInt32) (on : Bool)
  /-- Reads the line levels. -/
  | lineStatus
  /-- Reads the progress of tuning. -/
  | tuningStatus
  deriving DecidableEq

/-- What the host answers to a call. -/
abbrev HostCall.Reply : HostCall → Type
  | .bringUp => Except CardError Unit
  | .transfer _ => TransferReply
  | .cardClock _ | .forceClock _ | .lowVoltage _ | .delay _ | .tune _ _ _ => Unit
  | .lineStatus => LineStatus
  | .tuningStatus => TuningStatus

/-- A call together with its answer. -/
structure Exchange where
  /-- The call. -/
  call : HostCall
  /-- The answer. -/
  reply : call.Reply

/-- A program that ends with a value after finitely many effects. -/
inductive Bus (α : Type) : Type where
  /-- The end. -/
  | done (value : α)
  /-- A host call, and the rest in terms of its answer. -/
  | call (request : HostCall) (next : request.Reply → Bus α)
  /-- A look at the log filter in force, and the rest in terms of it. -/
  | readFilter (next : LogFilter → Bus α)
  /-- A record for the logger, and the rest. -/
  | note (record : LogRecord) (next : Bus α)
  /-- One attempt at the bus lock, and the rest in terms of its success. -/
  | tryLock (next : Bool → Bus α)
  /-- The release of the bus lock, and the rest. -/
  | unlock (next : Bus α)

namespace Bus

/-- Runs a second program on the value of a first. -/
def bind {α β : Type} : Bus α → (α → Bus β) → Bus β
  | done value, rest => rest value
  | call request next, rest => call request fun reply => (next reply).bind rest
  | readFilter next, rest => readFilter fun filter => (next filter).bind rest
  | note record next, rest => note record (next.bind rest)
  | tryLock next, rest => tryLock fun free => (next free).bind rest
  | unlock next, rest => unlock (next.bind rest)

instance : Monad Bus where
  pure := done
  bind := bind

/-- One host call. -/
def request (asked : HostCall) : Bus asked.Reply := call asked done

/-- One log record, which goes to the logger only if the filter in force permits its level. -/
def log (level : LogLevel) (message : String) : Bus Unit :=
  readFilter fun filter =>
    if filter.permits level then note ⟨level, message⟩ (done ()) else done ()

/-- One attempt at the bus lock: whether it was free and is now held. -/
def attemptLock : Bus Bool := tryLock done

/-- Gives the bus lock back. -/
def release : Bus Unit := unlock (done ())

end Bus

/-- A host controller as seen from the bus: how its state answers each call. -/
structure HostModel (σ : Type) where
  /-- The answer to a call, and the state after it. -/
  answer : (call : HostCall) → σ → call.Reply × σ

/-- What a program works on. -/
structure BusState (σ : Type) where
  /-- The state of the host. -/
  host : σ
  /-- The bus lock is held. -/
  locked : Bool := false
  /-- The logger. -/
  logger : Logger

/-- What a program leaves behind. -/
structure Outcome (σ α : Type) where
  /-- The value it ended with. -/
  value : α
  /-- The state at the end. -/
  state : BusState σ
  /-- The host calls with their answers, in order. -/
  exchanges : List Exchange
  /-- The log lines, in order. -/
  lines : List LogLine

/-- Runs a program on a host. -/
def Bus.run {σ α : Type} (model : HostModel σ) : Bus α → BusState σ → Outcome σ α
  | done value, state => ⟨value, state, [], []⟩
  | call request next, state =>
    let answered := model.answer request state.host
    let rest := (next answered.1).run model { state with host := answered.2 }
    { rest with exchanges := ⟨request, answered.1⟩ :: rest.exchanges }
  | readFilter next, state => (next state.logger.filter).run model state
  | note record next, state =>
    let offered := state.logger.offer record
    let rest := next.run model { state with logger := offered.2 }
    { rest with lines := offered.1.toList ++ rest.lines }
  | tryLock next, state => (next !state.locked).run model { state with locked := true }
  | unlock next, state => next.run model { state with locked := false }

/-- What one program of a series did. -/
structure Report (α : Type) where
  /-- The value it ended with. -/
  value : α
  /-- Its host calls with their answers, in order. -/
  exchanges : List Exchange
  /-- Its log lines, in order. -/
  lines : List LogLine

/-- Runs programs one after another: what each did, and the state at the end. -/
def Bus.runAll {σ α : Type} (model : HostModel σ) :
    List (Bus α) → BusState σ → List (Report α) × BusState σ
  | [], state => ([], state)
  | program :: rest, state =>
    let first := program.run model state
    let others := Bus.runAll model rest first.state
    (⟨first.value, first.exchanges, first.lines⟩ :: others.1, others.2)

end CardLink
