import MediaOverQuic.Session.Basic

/-!
# Handshakes

The client opens the control stream and sends its setup message; the server accepts the stream,
reads that message and answers with its own. A handshake runs only once, any failure is final, and
whoever runs it has to close the connection after one. `Run.step` is what happens when something can
go on, `Run.expire` what happens when waiting took too long.
-/
namespace MediaOverQuic

/-- How far a handshake got. -/
inductive HandshakeStage
  | idle
  | streamOpening
  | awaitingPeerSetup
  | established
  | failed
  deriving DecidableEq, Repr

namespace HandshakeStage

def name : HandshakeStage → String
  | idle => "Idle"
  | streamOpening => "StreamOpening"
  | awaitingPeerSetup => "AwaitingPeerSetup"
  | established => "Established"
  | failed => "Failed"

end HandshakeStage

structure Handshake where
  role : Role
  config : Config
  stage : HandshakeStage
  deriving DecidableEq, Repr

namespace Handshake

def start (role : Role) (config : Config) : Handshake := ⟨role, config, .idle⟩

/-! ## Parameters -/

/-- Below an overlay the outer protocol says what path and authority are. -/
def checkOverlay (overlay : Bool) (params : List KeyValuePair) : Except Error Unit :=
  if overlay && namesDestination params then .error (.violation .pathOrAuthorityOnOverlay)
  else .ok ()

/-- Only the client names path and authority. -/
def checkDirection (role : Role) (params : List KeyValuePair) : Except Error Unit :=
  if role = .server ∧ namesDestination params then
    .error (.violation .pathOrAuthorityInServerSetup)
  else .ok ()

/-- Adds a limit that is not zero, unless the parameters name it already. -/
def withLimit (p : SetupParameter) (limit : Nat) (params : List KeyValuePair) :
    Except Error (List KeyValuePair) :=
  if !p.isPresent params ∧ 0 < limit then
    (p.pair (.int limit)).map fun pair => params ++ [pair]
  else .ok params

/-- The parameters with the limits that the configuration sets. -/
def withLimits (config : Config) (params : List KeyValuePair) :
    Except Error (List KeyValuePair) := do
  let params ← withLimit .maxRequestId config.maxIncomingRequestId params
  withLimit .maxAuthTokenCacheSize config.localTokenCacheSize params

/-- The parameters to send, if those that were given are allowed. -/
def outgoing (role : Role) (config : Config) (overlay : Bool) (params : List KeyValuePair) :
    Except Failure (List KeyValuePair) := do
  during ("validating " ++ Violation.setupName role ++ " parameters")
    (failing (checkOverlay overlay params *> checkDirection role params))
  failing (withLimits config params)

/-- Refuses what the peer's setup message must not name. -/
def checkPeerSetup (role : Role) (overlay : Bool) (params : List KeyValuePair) :
    Except Error Unit :=
  match role with
  | .server => checkOverlay overlay params
  | .client =>
    if SetupParameter.path.isPresent params then .error (.violation .pathFromServer)
    else if SetupParameter.authority.isPresent params then .error (.violation .authorityFromServer)
    else .ok ()

/-- The parameters of the setup message that the peer has to send. -/
def peerSetup (role : Role) (m : Message) : Except Error (List KeyValuePair) :=
  match role, m with
  | .client, .serverSetup params => .ok params
  | .server, .clientSetup params => .ok params
  | _, _ => .error (.violation (.notTheSetup role.peer m.type))

/-! ## Running -/

/-- What a running handshake waits for. -/
inductive Activity
  | opening
  | accepting
  | sending
  | reading
  deriving DecidableEq, Repr

namespace Activity

def text (role : Role) : Activity → String
  | opening => "opening control stream"
  | accepting => "accepting control stream"
  | sending => "sending " ++ Violation.setupName role
  | reading => "reading " ++ Violation.setupName role.peer

/-- How long it may take. -/
def limit (config : Config) : Activity → Duration
  | opening => config.openStreamTimeout
  | accepting => config.controlStreamTimeout
  | sending | reading => config.controlMessageTimeout

end Activity

/-- Where a running handshake is. -/
inductive Phase
  | opening (call : Opening)
  | accepting (call : Accepting)
  | sending (session : Session) (call : Sending)
  | reading (session : Session) (call : Receiving)
  deriving DecidableEq, Repr

/-- A running handshake. -/
structure Run where
  role : Role
  config : Config
  /-- The parameters that are sent. -/
  params : List KeyValuePair
  phase : Phase
  deriving DecidableEq, Repr

namespace Run

/-- Where a run can get in a step. -/
abbrev Progress := Attempt (Run × Link) (Except Failure Session × Link)

def activity (run : Run) : Activity :=
  match run.phase with
  | .opening _ => .opening
  | .accepting _ => .accepting
  | .sending .. => .sending
  | .reading .. => .reading

def stage (run : Run) : HandshakeStage :=
  match run.role, run.phase with
  | _, .opening _ | _, .accepting _ | .client, .sending .. => .streamOpening
  | .server, .sending .. | _, .reading .. => .awaitingPeerSetup

/-- How long what it waits for may take. -/
def limit (run : Run) : Duration := run.activity.limit run.config

/-- Ends the run with a failure. -/
def fail (run : Run) (f : Failure) (l : Link) : Progress :=
  .ends (.error (f.within (run.activity.text run.role)), l)

/-- Ends the run with a failure, and lets go of the control stream. -/
def failOn (session : Session) (f : Failure) (l : Link) : Progress :=
  .ends (.error f, l.release session.control.stream session.role)

/-- Starts to send the setup message. -/
def beginSending (run : Run) (session : Session) (l : Link) : Progress :=
  match session.send (.setup run.role run.params) with
  | .error e =>
    failOn session ((Failure.ofError e).within (Activity.sending.text run.role)) l
  | .ok (call, session) => .goesOn ({ run with phase := .sending session call }, l)

/-- Starts to read the peer's setup message. -/
def beginReading (run : Run) (session : Session) (l : Link) : Progress :=
  let (call, session) := session.receive
  .goesOn ({ run with phase := .reading session call }, l)

/-- The session on a new control stream, before anything is agreed on. -/
def newSession (run : Run) (stream : Nat) : Session where
  role := run.role
  control := .fresh stream run.config.maxControlMessageLength
  state := .start run.role run.config.maxIncomingRequestId run.config.localTokenCacheSize
  config := run.config

/-- Takes over the parameters that this side sends. -/
def applyOwn (run : Run) (session : Session) : Session :=
  { session with state := session.state.applyAllLocal run.params }

/-- Goes on with a control stream. -/
def withStream (run : Run) (stream : Nat) (l : Link) : Progress :=
  match run.role with
  | .client => run.beginSending (run.applyOwn (run.newSession stream)) l
  | .server => run.beginReading (run.newSession stream) l

/-- Goes on after the setup message is sent. -/
def afterSending (run : Run) (session : Session) (l : Link) : Progress :=
  match run.role with
  | .client => run.beginReading session l
  | .server => .ends (.ok (run.applyOwn session), l)

/-- Goes on with the message that the peer sent. -/
def afterReading (run : Run) (m : Message) (session : Session) (l : Link) : Progress :=
  match peerSetup run.role m with
  | .error e => failOn session ((Failure.ofError e).within (Activity.reading.text run.role)) l
  | .ok params =>
    match checkPeerSetup run.role l.overlay params with
    | .error e =>
      failOn session
        ((Failure.ofError e).within ("validating " ++ Violation.setupName run.role.peer)) l
    | .ok () =>
      let session := { session with state := session.state.applyAllPeer params }
      match run.role with
      | .client => .ends (.ok session, l)
      | .server => run.beginSending session l

/-- Goes on as far as possible without waiting for anyone. -/
def step (run : Run) (pick : Pick) (l : Link) : Progress :=
  match run.phase with
  | .opening call =>
    match call.step run.role l with
    | .waits => .waits
    | .goesOn (call, l) => .goesOn ({ run with phase := .opening call }, l)
    | .ends (.error f, l) => run.fail f l
    | .ends (.ok stream, l) => run.withStream stream l
  | .accepting call =>
    match call.step run.role pick l with
    | .waits => .waits
    | .goesOn (call, l) => .goesOn ({ run with phase := .accepting call }, l)
    | .ends (.error f, l) => run.fail f l
    | .ends (.ok stream, l) => run.withStream stream l
  | .sending session call =>
    match Session.stepSending call session l with
    | .waits => .waits
    | .goesOn (call, session, l) => .goesOn ({ run with phase := .sending session call }, l)
    | .ends (.error e, session, l) =>
      failOn session ((Failure.ofError e).within (run.activity.text run.role)) l
    | .ends (.ok (), session, l) => run.afterSending session l
  | .reading session call =>
    match Session.stepReading call session l with
    | .waits => .waits
    | .goesOn (call, session, l) => .goesOn ({ run with phase := .reading session call }, l)
    | .ends (.error e, session, l) =>
      failOn session ((Failure.ofError e).within (run.activity.text run.role)) l
    | .ends (.ok m, session, l) => run.afterReading m session l

/-- Lets go of what a run that is given up holds. -/
def abandon (run : Run) (l : Link) : Link :=
  match run.phase with
  | .opening call => call.abandon run.role l
  | .accepting _ => l
  | .sending session _ | .reading session _ => l.release session.control.stream run.role

/-- Ends the run because what it waits for took too long. -/
def expire (run : Run) (l : Link) : Failure × Link :=
  ((Failure.ofError (.timeout run.limit)).within (run.activity.text run.role), run.abandon l)

end Run

/-- The first phase of a side. -/
def firstPhase : Role → Phase
  | .client => .opening (.start .bidirectional)
  | .server => .accepting (.start .bidirectional)

/-- Starts to run the handshake, which is refused if it was started before or if the parameters are
not allowed. -/
def begin (h : Handshake) (overlay : Bool) (params : List KeyValuePair) :
    Except Failure Run × Handshake :=
  if h.stage ≠ .idle then
    (.error (.plain ("handshake was already started, state is " ++ h.stage.name)), h)
  else
    match outgoing h.role h.config overlay params with
    | .error f => (.error f, { h with stage := .failed })
    | .ok params =>
      let run : Run := ⟨h.role, h.config, params, firstPhase h.role⟩
      (.ok run, { h with stage := run.stage })

/-- The handshake while it runs. -/
def observe (h : Handshake) (run : Run) : Handshake := { h with stage := run.stage }

/-- The handshake after its run. -/
def conclude (h : Handshake) (result : Except Failure Session) : Handshake :=
  { h with stage := match result with
    | .ok _ => .established
    | .error _ => .failed }

end Handshake

end MediaOverQuic
