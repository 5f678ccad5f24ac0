import CardLink.Relay

/-!
Runs of the relay with clients that call back: each write of the mask and each handler call runs
the next list of requests in its script, before the request that caused it ends.
-/

namespace CardLink

/-- Something that the clients of the relay can see. -/
inductive RelayEvent where
  /-- The mask was written. -/
  | mask (on : Bool)
  /-- A handler was called. -/
  | enter (registration : Registration)
  /-- A handler returned. -/
  | leave (handler : Nat)
  /-- A request from inside a mask write or a handler ended. -/
  | did (request : RelayRequest) (answer : RelayAnswer)
  deriving DecidableEq

/-- A stage of a request that is under way. -/
inductive RelayFrame where
  /-- A request about to begin. -/
  | start (request : RelayRequest)
  /-- Requests that a client is still going to make. -/
  | script (requests : List RelayRequest)
  /-- A client that waits for the answer to its request. -/
  | report (request : RelayRequest)
  /-- A mask write after which the slot is changed. -/
  | install (content : Option Registration)
  /-- A mask write after which the switch is set. -/
  | settle
  /-- A mask write after which an interrupt is handed to the slot. -/
  | deliver
  /-- A handler that is running. -/
  | handler (registration : Registration)
  deriving DecidableEq

/-- A relay in the middle of a run. -/
structure RelayRun where
  /-- The relay. -/
  relay : Relay := {}
  /-- The scripts of the mask writes to come. -/
  control : List (List RelayRequest)
  /-- For each handler, the scripts of its calls to come. -/
  handlers : List (List (List RelayRequest))
  /-- The logger. -/
  logger : Logger
  /-- The stages under way, the innermost first. -/
  stack : List RelayFrame := []
  /-- The answer to the request that ended last. -/
  answer : RelayAnswer := .switched
  /-- Everything seen so far, in order. -/
  events : List RelayEvent := []
  /-- Every log line so far, in order. -/
  lines : List LogLine := []
  deriving DecidableEq

namespace RelayRun

/-- Puts a stage on top of the others. -/
def push (run : RelayRun) (frame : RelayFrame) : RelayRun :=
  { run with stack := frame :: run.stack }

/-- Notes an event. -/
def see (run : RelayRun) (event : RelayEvent) : RelayRun :=
  { run with events := run.events ++ [event] }

/-- Ends a request with an answer. -/
def reply (run : RelayRun) (answer : RelayAnswer) : RelayRun := { run with answer }

/-- Offers a record to the log. -/
def note (run : RelayRun) (level : LogLevel) (message : String) : RelayRun :=
  let offered := run.logger.offer ⟨level, message⟩
  { run with logger := offered.2, lines := run.lines ++ offered.1.toList }

/-- Sets the switch and writes the mask, whose script runs before the given stage goes on. -/
def switch (run : RelayRun) (on : Bool) (continuation : RelayFrame) : RelayRun :=
  let switched := ({ run with relay := run.relay.switch on }.see (.mask on)).push continuation
  match run.control with
  | [] => switched
  | script :: rest => { switched with control := rest }.push (.script script)

/-- Begins to change the slot; refused while anybody uses the slot. -/
def change (run : RelayRun) (content : Option Registration) : RelayRun :=
  match run.relay.use.beginWrite? with
  | none => run.reply (.refused .lockTimeout)
  | some use => { run with relay := { run.relay with use } }.switch false (.install content)

/-- Calls a handler, which runs its next script. -/
def callHandler (run : RelayRun) (registration : Registration) : RelayRun :=
  let entered := (run.see (.enter registration)).push (.handler registration)
  match run.handlers[registration.handler]? with
  | some (script :: rest) =>
    { entered with handlers := run.handlers.set registration.handler rest }.push (.script script)
  | _ => entered

/-- Hands an interrupt to the slot; it is lost if the slot is empty or being changed. -/
def hand (run : RelayRun) : RelayRun :=
  match run.relay.use.beginRead?, run.relay.slot with
  | none, _ => run.reply (.truth false)
  | some _, none =>
    (run.note .warn "SDIO: card interrupt with no handler registered").reply (.truth false)
  | some use, some registration =>
    { run with relay := { run.relay with use } }.callHandler registration

/-- Begins a request. -/
def begin (run : RelayRun) : RelayRequest → RelayRun
  | .register registration => run.change (some registration)
  | .unregister => run.change none
  | .enable => run.switch true .settle
  | .disable => run.switch false .settle
  -- A relay that is not armed lets nothing through and changes nothing.
  | .interrupt => if run.relay.armed then run.switch false .deliver else run.reply (.truth false)
  | .isEnabled => run.reply (.truth run.relay.armed)

/-- Ends a change of the slot. -/
def installed (run : RelayRun) (content : Option Registration) : RelayRun :=
  let changed := { run with relay := { run.relay with slot := content, use := .free } }
  let noted := match content with
    | none => changed
    | some registration => changed.note .debug
        ("SDIO: card interrupt handler registered, data=" ++ hexadecimal 1 registration.data.toNat)
  noted.reply .changed

/-- Ends the call of a handler. -/
def returned (run : RelayRun) (registration : Registration) : RelayRun :=
  ({ run with relay := { run.relay with use := run.relay.use.endRead } }.see
    (.leave registration.handler)).reply (.truth true)

/-- Goes on with a stage that was on top. -/
def advance (run : RelayRun) : RelayFrame → RelayRun
  | .start request => run.begin request
  | .script [] => run
  | .script (request :: rest) =>
    ((run.push (.script rest)).push (.report request)).push (.start request)
  | .report request => run.see (.did request run.answer)
  | .install content => run.installed content
  | .settle => run.reply .switched
  | .deliver => run.hand
  | .handler registration => run.returned registration

/-- One step of a run: the stage on top goes on; a run without stages stays as it is. -/
def step (run : RelayRun) : RelayRun :=
  match run.stack with
  | [] => run
  | frame :: rest => { run with stack := rest }.advance frame

/-- So many steps. -/
def steps : Nat → RelayRun → RelayRun
  | 0, run => run
  | count + 1, run => steps count run.step

end RelayRun

/-- A bound on the steps of a script. -/
def scriptWork (requests : List RelayRequest) : Nat := 5 * requests.length + 1

/-- A bound on the steps of several scripts. -/
def scriptsWork (scripts : List (List RelayRequest)) : Nat :=
  scripts.foldr (fun script work => scriptWork script + work) 0

/-- A bound on the steps of the scripts of all handlers. -/
def handlersWork (handlers : List (List (List RelayRequest))) : Nat :=
  handlers.foldr (fun scripts work => scriptsWork scripts + work) 0

/-- A bound on the steps that a stage causes, the scripts it starts apart. -/
def RelayFrame.work : RelayFrame → Nat
  | .start _ => 3
  | .script requests => scriptWork requests
  | .report _ => 1
  | .install _ => 1
  | .settle => 1
  | .deliver => 2
  | .handler _ => 1

/-- A bound on the steps that the stages of a stack cause. -/
def stackWork (stack : List RelayFrame) : Nat :=
  stack.foldr (fun frame work => frame.work + work) 0

/-- A bound on the steps until no stage is under way. -/
def RelayRun.work (run : RelayRun) : Nat :=
  stackWork run.stack + scriptsWork run.control + handlersWork run.handlers

/-- Runs until no stage is under way. -/
def RelayRun.finish (run : RelayRun) : RelayRun := run.steps run.work

/-- Makes a request from outside and runs it to its end. -/
def RelayRun.perform (run : RelayRun) (request : RelayRequest) : RelayRun :=
  (run.push (.start request)).finish

/-- What one request from outside did. -/
structure RelayReport where
  /-- The answer. -/
  answer : RelayAnswer
  /-- What was seen meanwhile, in order. -/
  events : List RelayEvent
  /-- The log lines written meanwhile, in order. -/
  lines : List LogLine
  /-- The relay afterwards. -/
  relay : Relay

/-- Makes requests from outside one after another: what each did, and the run at the end. -/
def RelayRun.performAll (run : RelayRun) : List RelayRequest → List RelayReport × RelayRun
  | [] => ([], run)
  | request :: rest =>
    let next := run.perform request
    let report : RelayReport :=
      ⟨next.answer, next.events.drop run.events.length, next.lines.drop run.lines.length, next.relay⟩
    let others := next.performAll rest
    (report :: others.1, others.2)

end CardLink
