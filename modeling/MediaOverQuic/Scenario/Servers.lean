import MediaOverQuic.Scenario.FarEnd
import MediaOverQuic.Scenario.Party
import MediaOverQuic.Server.Admission
import MediaOverQuic.Server.Handler

/-!
# A server and its clients

A server accepts connections from a listener in the background, and a handler runs the handshake on
each of them and passes the sessions on. The client sides of the connections are used from outside.
-/
namespace MediaOverQuic.Scenario.Servers

/-- What a listener that follows a plan comes up with. -/
inductive Planned
  | connection
  | failure
  | shutdown
  deriving DecidableEq

/-- Where connections come from. -/
inductive Source
  /-- Connections that clients make wait in a queue to be accepted. -/
  | queued (waiting : Channel Nat)
  | planned (plan : List Planned)

structure Listener where
  overlay : Bool
  maxStreams : Nat
  source : Source

/-- A listener that clients connect to. -/
def Listener.fresh (overlay : Bool) (maxStreams : Nat) : Listener :=
  ⟨overlay, maxStreams, .queued (.empty Link.queueSize)⟩

/-- A listener that follows a plan. -/
def Listener.following (overlay : Bool) (maxStreams : Nat) (plan : List Planned) : Listener :=
  ⟨overlay, maxStreams, .planned plan⟩

/-- A connection from the side of its client. -/
structure ClientSide where
  link : Nat
  /-- The stream that is used byte by byte. -/
  stream : Option Nat

/-- The call that the scenario is waiting for. -/
inductive Call
  | connecting (link : Nat)
  | initiating (client : ClientSide) (party : Party)
  | opening (client : Nat) (call : Opening)
  | far (client : Nat) (call : FarCall)
  | sleeping

structure State where
  now : Nat
  listener : Listener
  admission : Admission
  /-- Whether the result of the accept loop was given out. -/
  reported : Bool
  /-- Whether the handler waits for connections. -/
  handling : Bool
  handler : Handler
  /-- When the handshake of each guest stops waiting. -/
  deadlines : List Nat
  clients : List ClientSide
  /-- The call under way, and when it is given up. -/
  call : Option (Call × Nat)
  outcome : Outcome

inductive Step
  | connect
  | initiate (client : Nat) (params : List KeyValuePair) (config : Option Config)
  | «open» (client : Nat)
  | far (client : Nat) (call : FarCall)
  | nextSession
  | take
  | dropQueue
  | dropSessions
  | closeReason (client : Nat)
  | count
  | maxRequestId
  | sleep (time : Duration)
  | cancel
  | runResult
  | handlerRunning

namespace State

def link (s : State) (id : Nat) : Link := s.handler.link id

def setLink (s : State) (id : Nat) (l : Link) : State :=
  { s with handler := s.handler.setLink id l }

def setSource (s : State) (source : Source) : State :=
  { s with listener := { s.listener with source := source } }

/-- Makes a new connection. -/
def addLink (s : State) : Nat × State :=
  let links := s.handler.links
  let fresh := Link.fresh s.listener.overlay s.listener.maxStreams
  (links.length, { s with handler := { s.handler with links := links ++ [fresh] } })

/-- Lets go of the server's side of a connection. -/
def detach (s : State) (id : Nat) : State := { s with handler := s.handler.detach id }

/-- Ends the call under way. -/
def finish (s : State) (outcome : Outcome) : State := { s with call := none, outcome := outcome }

def setCall (s : State) (call : Call) (deadline : Nat) : State :=
  { s with call := some (call, deadline) }

/-! ## The accept loop -/

/-- Goes on with the accept loop. A connection that it held and gives up is let go of. -/
def setAdmission (s : State) (a : Admission) : State :=
  let next := { s with admission := a }
  match s.admission.loop, a.loop with
  | .handing id, .ended _ => next.detach id
  | _, _ => next

/-- Takes what the listener came up with. A connection that can not be handed on is let go of. -/
def arrive (s : State) (arrival : Arrival) : State :=
  let next := s.setAdmission (s.admission.accept arrival)
  match arrival, next.admission.result? with
  | .connection id, some _ => next.detach id
  | _, _ => next

/-- What the listener has ready. -/
def arrival? (s : State) : Option (Arrival × State) :=
  match s.listener.source with
  | .queued waiting =>
    waiting.take?.map fun (id, waiting) => (.connection id, s.setSource (.queued waiting))
  | .planned [] => none
  | .planned (next :: rest) =>
    let s := s.setSource (.planned rest)
    match next with
    | .failure => some (.failure, s)
    | .shutdown => some (.shutdown, s)
    | .connection =>
      let (id, s) := s.addLink
      some (.connection id, { s with clients := s.clients ++ [⟨id, none⟩] })

def acceptor : Actor State := fun s =>
  if s.admission.isAccepting then s.arrival?.map fun (arrival, s) => s.arrive arrival
  else s.admission.proceed?.map s.setAdmission

/-! ## The handler -/

/-- Starts to receive a connection. -/
def invite (s : State) (id : Nat) : State :=
  let handler := s.handler.invite id
  let limit := match handler.run? s.handler.guests.length with
    | some run => run.limit.nanos
    | none => 0
  { s with handler := handler, deadlines := s.deadlines ++ [s.now + limit] }

def receptionist : Actor State := fun s =>
  if !s.handling then none
  else
    match s.admission.take? with
    | some (id, a) => some ({ s with admission := a }.invite id)
    | none => if s.admission.isDrained then some { s with handling := false } else none

/-- When the handshake of a guest stops waiting. -/
def deadline (s : State) (i : Nat) : Nat := s.deadlines.getD i 0

/-- Goes on with a guest. -/
def setHandler (s : State) (i : Nat) (handler : Handler) : State :=
  let deadlines := match s.handler.run? i, handler.run? i with
    | some before, some after =>
      s.deadlines.set i (nextDeadline s.now (s.deadline i) before after)
    | _, _ => s.deadlines
  { s with handler := handler, deadlines := deadlines }

def guest (pick : Pick) (i : Nat) : Actor State := fun s =>
  match s.handler.serve? pick i with
  | some handler => some (s.setHandler i handler)
  | none =>
    if (s.handler.run? i).isSome ∧ s.deadline i ≤ s.now then
      some (s.setHandler i (s.handler.expire i))
    else none

/-! ## The clients -/

/-- Gives a client's connection its number. -/
def addClient (s : State) (id : Nat) : State :=
  let client : ClientSide := ⟨id, none⟩
  { s with clients := s.clients ++ [client] }.finish (.number s.clients.length)

/-- Does something on a connection while the call goes on. -/
def onLink (s : State) (id : Nat) (call : Call) (deadline : Nat) (l : Link) : State :=
  (s.setLink id l).setCall call deadline

/-- Uses a new stream of a client instead of the one before. -/
def useStream (s : State) (client : Nat) (c : ClientSide) (stream : Nat) (l : Link) : State :=
  let l := match c.stream with
    | some old => l.release old .client
    | none => l
  { s.setLink c.link l with clients := s.clients.set client { c with stream := some stream } }

/-- Goes on connecting. -/
def connecting (s : State) (id : Nat) (deadline : Nat) : Option State :=
  match s.listener.source with
  | .planned _ => some (s.finish .absent)
  | .queued waiting =>
    match waiting.enter? id with
    | some c => some ((s.setSource (.queued c)).addClient id)
    | none =>
      if s.now < deadline then none
      else some ((s.setSource (.queued (waiting.withdraw id))).finish .pending)

/-- Goes on initiating a session. -/
def initiating (s : State) (c : ClientSide) (party : Party) (deadline : Nat) : Option State :=
  match party.result with
  | some (.ok session) => some (s.finish (.session session.state))
  | some (.error f) => some (s.finish (.failure f))
  | none =>
    (party.step s.now (s.link c.link)).map fun (party, l) =>
      s.onLink c.link (.initiating c party) deadline l

/-- Goes on opening a stream. -/
def opening (s : State) (client : Nat) (c : ClientSide) (call : Opening) (deadline : Nat) :
    Option State :=
  match call.step .client (s.link c.link) with
  | .goesOn (call, l) => some (s.onLink c.link (.opening client call) deadline l)
  | .ends (.ok stream, l) => some ((s.useStream client c stream l).finish .done)
  | .ends (.error f, l) => some ((s.setLink c.link l).finish (.failure f))
  | .waits =>
    if s.now < deadline then none
    else some ((s.setLink c.link (call.abandon .client (s.link c.link))).finish .pending)

/-- Goes on with a stream that is used byte by byte. -/
def far (s : State) (client id stream : Nat) (call : FarCall) (deadline : Nat) : Option State :=
  match call.step .client stream (s.link id) with
  | .goesOn (call, l) => some (s.onLink id (.far client call) (s.now + moment) l)
  | .ends (outcome, l) => some ((s.setLink id l).finish outcome)
  | .waits => if s.now < deadline then none else some (s.finish call.givenUp)

/-- The actor that makes the calls. -/
def caller : Actor State := fun s =>
  match s.call with
  | none => none
  | some (.sleeping, deadline) => if s.now < deadline then none else some (s.finish .done)
  | some (.connecting id, deadline) => s.connecting id deadline
  | some (.initiating c party, deadline) => s.initiating c party deadline
  | some (.opening client call, deadline) =>
    match s.clients[client]? with
    | some c => s.opening client c call deadline
    | none => some (s.finish .absent)
  | some (.far client call, deadline) =>
    match s.clients[client]? with
    | some ⟨id, some stream⟩ => s.far client id stream call deadline
    | _ => some (s.finish .absent)

/-! ## Time -/

/-- The moments at which someone stops waiting. -/
def alarms (s : State) : List (Option Nat) :=
  (match s.call with
    | some (.initiating _ party, _) => party.alarm
    | some (_, deadline) => some deadline
    | none => none)
  :: (List.range s.handler.guests.length).map fun i =>
    (s.handler.run? i).map fun _ => s.deadline i

/-- Lets the clock jump while a call is waited for. -/
def tick : Actor State := fun s =>
  if s.call.isNone then none
  else (nextMoment s.now s.alarms).map fun now => { s with now := now }

def play (s : State) : State :=
  run (fun s => [caller, acceptor, receptionist]
    ++ (List.range s.handler.guests.length).map (guest .stream)) tick s

/-! ## Steps -/

/-- Why there is nothing to receive. -/
def nothingToReceive (closed : Bool) : Outcome :=
  .text (if closed then "receiving on a closed channel" else "receiving on an empty channel")

def wait (s : State) (patience : Nat) (call : Call) : State := s.setCall call (s.now + patience)

/-- Starts to connect to the listener. -/
def connect (s : State) : State :=
  match s.listener.source with
  | .planned _ => s.finish .absent
  | .queued waiting =>
    let (id, s) := s.addLink
    let s := s.setSource (.queued (waiting.offer id))
    if waiting.hasRoom then s.addClient id else s.wait moment (.connecting id)

/-- Starts the client's handshake on a connection. -/
def initiate (s : State) (c : ClientSide) (params : List KeyValuePair) (config : Config) : State :=
  match config.check with
  | .error f => s.finish (.failure f)
  | .ok () =>
    let party := Party.begin s.now (.start .client config) (s.link c.link).overlay params
    s.wait 0 (.initiating c party)

/-- Takes the next session, which the application keeps. -/
def nextSession (s : State) : State :=
  if !s.handler.received then s.finish .absent
  else
    match s.handler.takeSession? with
    | none => s.finish (nothingToReceive (!s.handling && !s.handler.isBusy))
    | some (session, handler) => { s with handler := handler }.finish (.session session.state)

/-- Takes the next connection instead of the handler, shows it and lets go of it. -/
def take (s : State) : State :=
  if s.handling || !s.admission.received then s.finish .absent
  else
    match s.admission.take? with
    | none => s.finish (nothingToReceive s.admission.result?.isSome)
    | some (id, a) =>
      ({ s with admission := a }.detach id).finish (.text (Link.remoteHost .server))

/-- Stops to receive connections, unless the handler does that. Those in the queue are let go of. -/
def dropQueue (s : State) : State :=
  if s.handling then s.finish .done
  else
    let dropped := s.admission.queue.queue
    (dropped.foldl detach { s with admission := s.admission.stopReceiving }).finish .done

def start (s : State) : Step → State
  | .connect => s.connect
  | .initiate client params config =>
    match s.clients[client]? with
    | none => s.finish .absent
    | some c => s.initiate c params (config.getD s.handler.config)
  | .open client => s.wait moment (.opening client (.start .bidirectional))
  | .far client call =>
    match s.clients[client]? with
    | some ⟨id, some stream⟩ =>
      if call.isPossible .client ((s.link id).stream stream) then s.wait moment (.far client call)
      else s.finish .absent
    | _ => s.finish .absent
  | .nextSession => s.nextSession
  | .take => s.take
  | .dropQueue => s.dropQueue
  | .dropSessions => { s with handler := s.handler.stopReceiving }.finish .done
  | .closeReason client =>
    match s.clients[client]? with
    | none => s.finish .absent
    | some c => s.finish (.closing (s.link c.link).closing)
  | .count => s.finish (.number s.clients.length)
  | .maxRequestId => s.finish (.number s.handler.config.maxIncomingRequestId)
  | .sleep time => s.wait time.nanos .sleeping
  | .cancel => (s.setAdmission s.admission.cancel).finish .done
  | .runResult =>
    match s.admission.result? with
    | none => s.finish .pending
    | some result =>
      if s.reported then s.finish .nothing
      else { s with reported := true }.finish (.ofFailure result)
  | .handlerRunning => s.finish (if s.handling then .done else .nothing)

/-- Takes a step, after which the background goes on as far as it can. -/
def perform (s : State) (step : Step) : State := (s.start step).play

end State

/-- A server with its accept loop, and with a handler if sessions are to be established. -/
def serve (config : Config) (params : List KeyValuePair) (listener : Listener) (handling : Bool)
    (sessionQueue : Nat) : Except Failure State := do
  config.check
  let handler := Handler.start config params sessionQueue
  return State.play {
    now := 0
    listener := listener
    admission := .start config.connectionQueueSize
    reported := false
    handling := handling
    handler := { handler with received := handling }
    deadlines := []
    clients := []
    call := none
    outcome := .done }

end MediaOverQuic.Scenario.Servers
