import MediaOverQuic.Scenario.Handshakes
import MediaOverQuic.Scenario.Outcome
import MediaOverQuic.Session.Requests

/-!
# Two connected sessions

The sessions at both ends of a connection, on which calls are made one after the other. Each side
may also process control messages in the background.
-/
namespace MediaOverQuic.Scenario.Sessions

/-- Processing in the background. -/
inductive Background
  | running (call : Receiving)
  | ended (result : Except Failure Unit)

namespace Background

def isRunning : Background → Bool
  | running _ => true
  | ended _ => false

end Background

structure Side where
  session : Session
  /-- Whether the application still has the session. -/
  kept : Bool
  /-- All processing that was started, one after the other. -/
  processing : List Background
  /-- Which of it the result is asked of, if that was not given out yet. -/
  asked : Option Nat

namespace Side

def start (session : Session) : Side := ⟨session, true, [], none⟩

/-- Whether the session is still there, for the application or in the background. -/
def isAlive (s : Side) : Bool := s.kept || s.processing.any (·.isRunning)

/-- Starts to process once more. -/
def process (s : Side) (call : Receiving) : Side :=
  { s with
    processing := s.processing ++ [.running call]
    asked := some s.processing.length }

def setProcessing (s : Side) (i : Nat) (b : Background) : Side :=
  { s with processing := s.processing.set i b }

end Side

/-- The call that the scenario is waiting for. -/
inductive Call
  | newRequest (call : NewRequest)
  | granting (call : Granting)
  | sending (type : MessageType) (call : Sending)
  | receiving (call : Receiving)
  | processing (call : Receiving)

structure State where
  now : Nat
  link : Link
  sides : PerRole Side
  /-- The call under way, its side and when it is given up. -/
  call : Option (Role × Call × Nat)
  outcome : Outcome

inductive Step
  | newRequestId
  | grant (limit : Nat)
  | send (m : Message)
  | handle (m : Message)
  | receive
  | process
  | processStart
  | processResult
  | close
  | closeWithError (f : Failure)
  | closeReason
  | drop
  | allocate
  | acceptIncoming (id : Nat)
  | reserve (size : Nat)
  | release (size : Nat)

namespace State

def session (s : State) (r : Role) : Session := (s.sides.get r).session

/-- Lets go of what belongs to a session that nobody has any more. -/
def letGo (s : State) (r : Role) : State :=
  if (s.sides.get r).isAlive then s
  else { s with link := (s.link.release (s.session r).control.stream r).detach r }

def setSession (s : State) (r : Role) (session : Session) (l : Link) : State :=
  { s with
    link := l
    sides := s.sides.update r fun side => { side with session := session } }

def setProcessing (s : State) (r : Role) (i : Nat) (b : Background) : State :=
  { s with sides := s.sides.update r fun side => side.setProcessing i b }

/-- Ends the call under way. -/
def finish (s : State) (outcome : Outcome) : State := { s with call := none, outcome := outcome }

def setCall (s : State) (r : Role) (call : Call) (deadline : Nat) : State :=
  { s with call := some (r, call, deadline) }

/-- Ends a call whose sending took too long. -/
def sendingTimedOut (s : State) (r : Role) (type : MessageType) (call : Sending) : State :=
  let (e, session, l) := Session.sendingTimedOut type call (s.session r) s.link
  (s.setSession r session l).finish (.error e)

/-- Gives the call under way up. -/
def giveUp (s : State) (r : Role) : Call → State
  | .newRequest (.reporting call) => s.sendingTimedOut r .requestsBlocked call
  | .newRequest _ => s.finish .pending
  | .granting (.telling call) => s.sendingTimedOut r .maxRequestId call
  | .granting _ => s.finish .pending
  | .sending type call => s.sendingTimedOut r type call
  | .receiving call | .processing call =>
    (s.setSession r (Session.abandonReceiving call (s.session r)) s.link).finish .pending

/-- Goes on with a call, of which `again` makes what is still under way and `ended` what it came
to. -/
def proceed (s : State) (r : Role) (deadline : Nat) (call : Call)
    (attempt : Attempt (κ × Session × Link) (α × Session × Link)) (again : κ → Call)
    (ended : α → Outcome) : Option State :=
  match attempt with
  | .goesOn (next, session, l) => some ((s.setSession r session l).setCall r (again next) deadline)
  | .ends (a, session, l) => some ((s.setSession r session l).finish (ended a))
  | .waits => if s.now < deadline then none else some (s.giveUp r call)

/-- The actor that makes the calls. -/
def caller : Actor State := fun s =>
  match s.call with
  | none => none
  | some (r, call, deadline) =>
    let session := s.session r
    match call with
    | .newRequest c =>
      s.proceed r deadline call (c.step session s.link) .newRequest fun
        | .ok id => .requestId id
        | .error e => .error e
    | .granting c => s.proceed r deadline call (c.step session s.link) .granting .ofResult
    | .sending type c =>
      s.proceed r deadline call (Session.stepSending c session s.link) (.sending type) .ofResult
    | .receiving c =>
      s.proceed r deadline call (Session.stepReceiving c session s.link) .receiving fun
        | .ok m => .message m
        | .error f => .failure f
    | .processing c =>
      s.proceed r deadline call (Session.stepProcessing c session s.link) .processing .ofFailure

/-- The actor that processes messages of a side in the background. -/
def processor (r : Role) (i : Nat) : Actor State := fun s =>
  match (s.sides.get r).processing[i]? with
  | some (.running call) =>
    match Session.stepProcessing call (s.session r) s.link with
    | .waits => none
    | .goesOn (call, session, l) =>
      some ((s.setSession r session l).setProcessing r i (.running call))
    | .ends (result, session, l) =>
      some (((s.setSession r session l).setProcessing r i (.ended result)).letGo r)
  | _ => none

def processors (s : State) (r : Role) : List (Actor State) :=
  (List.range (s.sides.get r).processing.length).map (processor r)

/-- Lets the clock jump to when the call under way is given up. -/
def tick : Actor State := fun s =>
  (nextMoment s.now [s.call.map (·.2.2)]).map fun now => { s with now := now }

def play (s : State) : State :=
  run (fun s => caller :: s.processors .client ++ s.processors .server) tick s

/-- Makes a call that is given up after `patience`. -/
def wait (s : State) (r : Role) (patience : Nat) (call : Call) : State :=
  s.setCall r call (s.now + patience)

/-- Does something that needs no waiting. -/
def change (s : State) (r : Role) (f : SessionState → Except Error SessionState) : State :=
  let session := s.session r
  match f session.state with
  | .error e => s.finish (.error e)
  | .ok state => (s.setSession r { session with state := state } s.link).finish .done

/-- Starts to process in the background. What was started before goes on. -/
def processStart (s : State) (r : Role) : State :=
  let (call, session) := (s.session r).receive
  let next := s.setSession r session s.link
  { next with sides := next.sides.update r fun side => side.process call }.finish .done

/-- Starts a step on a session that is there. -/
def start (s : State) (r : Role) : Step → State
  | .newRequestId =>
    s.wait r (s.session r).config.controlMessageTimeout.nanos (.newRequest .allocating)
  | .grant limit =>
    s.wait r (s.session r).config.controlMessageTimeout.nanos (.granting (.raising limit))
  | .send m =>
    match (s.session r).send m with
    | .error e => s.finish (.error e)
    | .ok (call, session) =>
      (s.setSession r session s.link).wait r session.config.controlMessageTimeout.nanos
        (.sending m.type call)
  | .handle m => s.change r fun state => state.handle m
  | .receive =>
    let (call, session) := (s.session r).receive
    (s.setSession r session s.link).wait r moment (.receiving call)
  | .process =>
    let (call, session) := (s.session r).receive
    (s.setSession r session s.link).wait r moment (.processing call)
  | .processStart => s.processStart r
  | .close => { s with link := Session.close s.link }.finish .done
  | .closeWithError f => { s with link := Session.terminate s.link f }.finish .done
  | .closeReason => s.finish (.closing s.link.closing)
  | .allocate =>
    let session := s.session r
    let (id, state) := session.state.allocate
    (s.setSession r { session with state := state } s.link).finish (.requestId id)
  | .acceptIncoming id => s.change r fun state => state.acceptIncoming id
  | .reserve size => s.change r fun state => state.reserveTokens size
  | .release size => s.change r fun state => .ok (state.releaseTokens size)
  | .drop =>
    ({ s with sides := s.sides.update r fun side => { side with kept := false } }.letGo r).finish
      .done
  | .processResult => s.finish .absent

/-- The result of what was started last in the background, which is given out once. -/
def processResult (s : State) (r : Role) : State :=
  let side := s.sides.get r
  match side.asked.bind (side.processing[·]?) with
  | none => s.finish .nothing
  | some (.running _) => s.finish .pending
  | some (.ended result) =>
    { s with sides := s.sides.set r { side with asked := none } }.finish (.ofFailure result)

/-- Takes a step on a side, after which the background goes on as far as it can. -/
def perform (s : State) (r : Role) (step : Step) : State :=
  match step with
  | .processResult => (s.processResult r).play
  | step => if (s.sides.get r).kept then (s.start r step).play else s.finish .absent

end State

/-- Two sessions over a connection of their own, if the handshakes lead to them. -/
def connect (config : Config) (clientParams serverParams : List KeyValuePair) :
    Except Failure State := do
  config.check
  let encounter :=
    (Encounter.start (.fresh false 1) (.both config) ⟨clientParams, serverParams⟩).play
  let result (r : Role) : Except Failure Session :=
    (encounter.parties.get r).result.getD (.error (.plain ""))
  let client ← result .client
  let server ← result .server
  return {
    now := encounter.now
    link := encounter.link
    sides := ⟨.start client, .start server⟩
    call := none
    outcome := .done }

end MediaOverQuic.Scenario.Sessions
