import MediaOverQuic.Scenario.FarEnd

/-!
# A control stream and its far end

The client's end of a stream is used for control messages, the server's end byte by byte.
-/
namespace MediaOverQuic.Scenario.ControlStreams

structure State where
  control : ControlStream
  link : Link

/-- A control stream on a connection of its own. -/
def start (limit : Nat) : State where
  control := .fresh 0 limit
  link := { Link.fresh false 1 with streams := [.fresh .bidirectional .client] }

inductive Step
  | receive
  | send (m : Message)
  | sendAll (messages : List Message)
  | far (call : FarCall)
  | farShutdown
  | farDrop

def receive (s : State) : Outcome × State :=
  let (call, control) := s.control.receive
  match alone (fun (call, c, l) => call.stepOn .client c l) maxTurns (call, control, s.link) with
  | .inl (call, control, link) => (.pending, ⟨call.abandon control, link⟩)
  | .inr (result, control, link) => (.ofMessage result, ⟨control, link⟩)

def send (s : State) (m : Message) : Outcome × State :=
  match s.control.send m with
  | .error e => (.error e, s)
  | .ok (call, control) =>
    match alone (fun (call, c, l) => call.stepOn .client c l) maxTurns (call, control, s.link) with
    | .inl (call, control, link) => (.pending, ⟨call.abandon control, link⟩)
    | .inr (result, control, link) => (.ofResult result, ⟨control, link⟩)

/-- Several calls that send at the same time, each with its outcome once it has one, and what the
far end has read meanwhile. -/
structure Rush where
  state : State
  calls : List (Sending ⊕ Outcome)
  got : Bytes

/-- Adds a call that sends a message. -/
def Rush.add (r : Rush) (m : Message) : Rush :=
  match r.state.control.send m with
  | .error e => { r with calls := r.calls ++ [.inr (.error e)] }
  | .ok (call, control) =>
    { r with state := { r.state with control := control }, calls := r.calls ++ [.inl call] }

/-- A step of one of the calls. -/
def Rush.sender (i : Nat) : Actor Rush := fun r =>
  match r.calls[i]? with
  | some (.inl call) =>
    match call.stepOn .client r.state.control r.state.link with
    | .waits => none
    | .goesOn (call, control, link) => some ⟨⟨control, link⟩, r.calls.set i (.inl call), r.got⟩
    | .ends (result, control, link) =>
      some ⟨⟨control, link⟩, r.calls.set i (.inr (.ofResult result)), r.got⟩
  | _ => none

/-- Reads what has arrived at the far end. -/
def Rush.reader : Actor Rush := fun r =>
  if !(r.state.link.stream 0).canRead .server then none
  else
    match (FarCall.reading r.got).step .server 0 r.state.link with
    | .goesOn (.reading got, link) =>
      some { r with state := { r.state with link := link }, got := got }
    | _ => none

def sendAll (s : State) (messages : List Message) : Outcome × State :=
  let rush := messages.foldl Rush.add ⟨s, [], []⟩
  let senders := (List.range messages.length).map Rush.sender
  let rush := run (fun _ => senders ++ [Rush.reader]) (fun _ => none) rush
  let results := rush.calls.map fun
    | .inl _ => .pending
    | .inr outcome => outcome
  let (received, link) := (FarCall.reading rush.got).perform .server 0 rush.state.link
  (.concurrent results received, { rush.state with link := link })

def perform (s : State) : Step → Outcome × State
  | .receive => receive s
  | .send m => send s m
  | .sendAll messages => sendAll s messages
  | .far call =>
    let (outcome, link) := call.perform .server 0 s.link
    (outcome, { s with link := link })
  | .farShutdown =>
    let (outcome, link) := shutdown .server 0 s.link
    (outcome, { s with link := link })
  | .farDrop =>
    let (outcome, link) := drop .server 0 s.link
    (outcome, { s with link := link })

end MediaOverQuic.Scenario.ControlStreams
