import Mathlib.Tactic
import MediaOverQuic.Proofs.Session.Steps

/-!
# Sessions that take and grant request ids

Two sessions at the ends of one control stream. On each side any number of calls take request ids,
one call at a time raises the limit for the peer's requests, and the messages that come are received
and handled one after the other. The steps of all of these come in any order, every call may be
given up, and an id that was taken is presented to the peer at any later time.
-/
namespace MediaOverQuic

/-- Gives up what a call was sending. -/
def Session.giveUp (s : Session) : Option Sending → Session
  | some call => { s with control := call.abandon s.control }
  | none => s

namespace Exchange

/-- How far a side is with the messages that come. -/
inductive Reader
  | idle
  | receiving (call : Receiving)
  | received (m : Message)
  /-- Receiving has failed or was given up, with a part of a frame. There is no way to go on. -/
  | stopped (got : Bytes)
  deriving DecidableEq

namespace Reader

/-- What was read of a frame that is not complete. -/
def got : Reader → Bytes
  | receiving call => call.got
  | stopped got => got
  | idle | received _ => []

/-- The messages that were received and not handled. -/
def inbox : Reader → List Message
  | received m => [m]
  | idle | receiving _ | stopped _ => []

end Reader

structure Side where
  session : Session
  /-- The calls that take a request id. -/
  requests : List NewRequest
  /-- The call that raises the limit for the peer's requests. -/
  grant : Option Granting
  reader : Reader
  /-- The ids that were taken and were not presented to the peer yet. -/
  ids : List Nat

namespace Side

def start (session : Session) : Side := ⟨session, [], none, .idle, []⟩

/-- The calls that are sending a message. -/
def live (s : Side) : Multiset Sending :=
  ((s.grant.bind Granting.sending?).toList : Multiset Sending) +
    s.requests.filterMap NewRequest.sending?

end Side

/-- What can be done on a side. -/
inductive Action
  | ask
  | request (i : Nat)
  | giveUpRequest (i : Nat)
  | requestTimesOut (i : Nat)
  | grant (limit : Nat)
  | granting
  | giveUpGrant
  | grantTimesOut
  | receive
  | read
  | giveUpReading
  | handle
  /-- The side is presented with the peer's next id. -/
  | accept

end Exchange

structure Exchange where
  link : Link
  sides : PerRole Exchange.Side

namespace Exchange

/-- Both sides after their handshakes. -/
def start (l : Link) (sessions : PerRole Session) : Exchange :=
  ⟨l, ⟨.start sessions.client, .start sessions.server⟩⟩

def side (x : Exchange) (r : Role) : Side := x.sides.get r

def put (x : Exchange) (r : Role) (side : Side) (l : Link) : Exchange := ⟨l, x.sides.set r side⟩

/-- The id that a request was given, if any. -/
def idOf : Except Error (Option Nat) → List Nat
  | .ok (some id) => [id]
  | .ok none | .error _ => []

def afterRequest (x : Exchange) (r : Role) (i : Nat) :
    Attempt (NewRequest × Session × Link) (Except Error (Option Nat) × Session × Link) →
      Option Exchange
  | .waits => none
  | .goesOn (n, s, l) =>
    some (x.put r { x.side r with session := s, requests := (x.side r).requests.set i n } l)
  | .ends (result, s, l) =>
    some (x.put r { x.side r with
      session := s
      requests := (x.side r).requests.eraseIdx i
      ids := (x.side r).ids ++ idOf result } l)

def afterGranting (x : Exchange) (r : Role) :
    Attempt (Granting × Session × Link) (Except Error Unit × Session × Link) → Option Exchange
  | .waits => none
  | .goesOn (g, s, l) => some (x.put r { x.side r with session := s, grant := some g } l)
  | .ends (_, s, l) => some (x.put r { x.side r with session := s, grant := none } l)

def afterReading (x : Exchange) (r : Role) (got : Bytes) :
    Attempt (Receiving × Session × Link) (Except Error Message × Session × Link) → Option Exchange
  | .waits => none
  | .goesOn (call, s, l) =>
    some (x.put r { x.side r with session := s, reader := .receiving call } l)
  | .ends (.ok m, s, l) => some (x.put r { x.side r with session := s, reader := .received m } l)
  | .ends (.error _, s, l) =>
    some (x.put r { x.side r with session := s, reader := .stopped got } l)

/-- What becomes of the two sides when one of them acts, if it can do that. -/
def act (x : Exchange) (r : Role) (a : Action) : Option Exchange :=
  let side := x.side r
  let peer := x.side r.peer
  match a with
  | .ask => some (x.put r { side with requests := side.requests ++ [.allocating] } x.link)
  | .request i =>
    side.requests[i]?.bind fun n => x.afterRequest r i (n.step side.session x.link)
  | .giveUpRequest i =>
    side.requests[i]?.map fun n =>
      x.put r { side with
        session := side.session.giveUp n.sending?
        requests := side.requests.eraseIdx i } x.link
  | .requestTimesOut i =>
    (side.requests[i]?.bind (·.sending?)).map fun call =>
      let (_, s, l) := Session.sendingTimedOut .requestsBlocked call side.session x.link
      x.put r { side with session := s, requests := side.requests.eraseIdx i } l
  | .grant limit =>
    match side.grant with
    | none => some (x.put r { side with grant := some (.raising limit) } x.link)
    | some _ => none
  | .granting => side.grant.bind fun g => x.afterGranting r (g.step side.session x.link)
  | .giveUpGrant =>
    side.grant.map fun g =>
      x.put r { side with session := side.session.giveUp g.sending?, grant := none } x.link
  | .grantTimesOut =>
    (side.grant.bind (·.sending?)).map fun call =>
      let (_, s, l) := Session.sendingTimedOut .maxRequestId call side.session x.link
      x.put r { side with session := s, grant := none } l
  | .receive =>
    match side.reader with
    | .idle =>
      let (call, s) := side.session.receive
      some (x.put r { side with session := s, reader := .receiving call } x.link)
    | _ => none
  | .read =>
    match side.reader with
    | .receiving call => x.afterReading r call.got (Session.stepReading call side.session x.link)
    | _ => none
  | .giveUpReading =>
    match side.reader with
    | .receiving call =>
      some (x.put r { side with
        session := Session.abandonReceiving call side.session
        reader := .stopped call.got } x.link)
    | _ => none
  | .handle =>
    match side.reader with
    | .received m =>
      (side.session.handle m).toOption.map fun s =>
        x.put r { side with session := s, reader := .idle } x.link
    | _ => none
  | .accept =>
    match peer.ids with
    | [] => none
    | id :: later =>
      (side.session.state.acceptIncoming id).toOption.map fun state =>
        (x.put r { side with session := { side.session with state := state } } x.link).put r.peer
          { peer with ids := later } x.link

/-- All that can happen. Besides what the sides do, the connection and its streams may change in any
way that leaves alone what is on the control stream. -/
inductive Step : Exchange → Exchange → Prop
  | act {x x' : Exchange} (r : Role) (a : Action) (h : x.act r a = some x') : Step x x'
  | elsewhere {x : Exchange} {l : Link} (hl : 0 < l.streams.length)
      (h : ∀ r, (l.inbound 0 r).buffer = (x.link.inbound 0 r).buffer) : Step x { x with link := l }

/-- Lets the sides act in this order. -/
def follow (x : Exchange) (order : List (Role × Action)) : Option Exchange :=
  order.foldlM (fun x (r, a) => x.act r a) x

theorem reaches_follow {order : List (Role × Action)} {x x' : Exchange}
    (h : x.follow order = some x') : Relation.ReflTransGen Step x x' :=
  reaches_of_foldlM (fun h => .act _ _ h) h

end Exchange

end MediaOverQuic
