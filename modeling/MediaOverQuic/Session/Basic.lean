import MediaOverQuic.Control.Stream
import MediaOverQuic.Session.Config
import MediaOverQuic.Session.State

/-!
# Sessions

An established session: one side of a connection, its control stream, and what was agreed on. The
calls on a session are given as what they do step by step, since any of them may have to wait, and
while it waits others go on.
-/
namespace MediaOverQuic

structure Session where
  role : Role
  control : ControlStream
  state : SessionState
  config : Config
  deriving DecidableEq, Repr

namespace Session

/-- The far side's name in messages. -/
def remoteHost (s : Session) : String := Link.remoteHost s.role

/-- Ends the session with an error code and an explanation. -/
def terminate (l : Link) (f : Failure) : Link := l.close f.termination.1 f.termination.2

/-- Ends the session without an error. -/
def close (l : Link) : Link := l.close .noError .empty

/-! ## Sending -/

/-- Starts to send a message. -/
def send (s : Session) (m : Message) : Except Error (Sending × Session) :=
  (s.control.send m).map fun (call, control) => (call, { s with control := control })

def stepSending (call : Sending) (s : Session) (l : Link) :
    Attempt (Sending × Session × Link) (Except Error Unit × Session × Link) :=
  (call.stepOn s.role s.control l).map
    (fun (call, control, l) => (call, { s with control := control }, l))
    (fun (result, control, l) => (result, { s with control := control }, l))

/-- Gives up sending a message because it took too long. The stream may then hold a part of it, so
the session is ended. -/
def sendingTimedOut (type : MessageType) (call : Sending) (s : Session) (l : Link) :
    Error × Session × Link :=
  let e := Error.timeout s.config.controlMessageTimeout
  (e, { s with control := call.abandon s.control },
    terminate l ((Failure.ofError e).within ("sending " ++ type.name)))

/-! ## Receiving -/

/-- Starts to receive a message. -/
def receive (s : Session) : Receiving × Session :=
  let (call, control) := s.control.receive
  (call, { s with control := control })

def stepReading (call : Receiving) (s : Session) (l : Link) :
    Attempt (Receiving × Session × Link) (Except Error Message × Session × Link) :=
  (call.stepOn s.role s.control l).map
    (fun (call, control, l) => (call, { s with control := control }, l))
    (fun (result, control, l) => (result, { s with control := control }, l))

def abandonReceiving (call : Receiving) (s : Session) : Session :=
  { s with control := call.abandon s.control }

/-- Waits for a message, or for the connection to be closed. -/
def stepReceiving (call : Receiving) (s : Session) (l : Link) :
    Attempt (Receiving × Session × Link) (Except Failure Message × Session × Link) :=
  match stepReading call s l with
  | .goesOn next => .goesOn next
  | .ends (result, s, l) => .ends (failing result, s, l)
  | .waits =>
    if l.isClosed then
      .ends (.error (.plain ("connection to " ++ s.remoteHost ++ " was closed")),
        abandonReceiving call s, l)
    else .waits

/-! ## Handling messages -/

/-- Applies a message that came after the handshake. -/
def handle (s : Session) (m : Message) : Except Error Session :=
  (s.state.handle m).map fun state => { s with state := state }

/-- Receives and handles messages until the connection is closed. What is wrong with one of them
ends the session. -/
def stepProcessing (call : Receiving) (s : Session) (l : Link) :
    Attempt (Receiving × Session × Link) (Except Failure Unit × Session × Link) :=
  let fail (e : Error) (s : Session) (l : Link) :=
    let f := (Failure.ofError e).within "processing control messages"
    (.error f, s, terminate l f)
  match stepReading call s l with
  | .goesOn next => .goesOn next
  | .ends (.error e, s, l) => .ends (fail e s l)
  | .ends (.ok m, s, l) =>
    match s.handle m with
    | .error e => .ends (fail e s l)
    | .ok s =>
      let (call, s) := s.receive
      .goesOn (call, s, l)
  | .waits => if l.isClosed then .ends (.ok (), abandonReceiving call s, l) else .waits

end Session

end MediaOverQuic
