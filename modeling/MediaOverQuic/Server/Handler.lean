import MediaOverQuic.Server.Reception
import MediaOverQuic.Transport.Channel

/-!
# Handling connections

The handler of a server receives each connection that it is handed, all at the same time, and passes
the sessions on to the application. A session waits until there is a place for it; if nobody
receives sessions any more it is dropped.
-/
namespace MediaOverQuic

/-- How far a session is passed on. -/
inductive Passing
  | unoffered
  | waiting
  | finished
  deriving DecidableEq, Repr

/-- A connection that was handed to the handler. -/
structure Guest where
  /-- Which connection it is. -/
  link : Nat
  reception : Reception
  passing : Passing
  deriving DecidableEq

structure Handler where
  config : Config
  /-- The parameters of the server's setup message. -/
  params : List KeyValuePair
  /-- All connections; each is known by its place in this list. -/
  links : List Link
  guests : List Guest
  /-- The sessions on their way to the application, by the place of their guest. -/
  sessions : Channel Nat
  /-- Whether the application still receives sessions. -/
  received : Bool

namespace Handler

def start (config : Config) (params : List KeyValuePair) (sessionQueue : Nat) : Handler where
  config := config
  params := params
  links := []
  guests := []
  sessions := .empty sessionQueue
  received := true

def link (h : Handler) (id : Nat) : Link := h.links.getD id (.fresh false 0)

def setLink (h : Handler) (id : Nat) (l : Link) : Handler := { h with links := h.links.set id l }

/-- Lets go of the server's side of a connection. -/
def detach (h : Handler) (id : Nat) : Handler := h.setLink id ((h.link id).detach .server)

/-- Puts a guest into its place. A connection that was refused is let go of. -/
def setGuest (h : Handler) (i : Nat) (g : Guest) (l : Link) : Handler :=
  let h := { h with guests := h.guests.set i g }
  match g.reception with
  | .refused _ => h.setLink g.link (l.detach .server)
  | _ => h.setLink g.link l

/-- Starts to receive a connection. -/
def invite (h : Handler) (id : Nat) : Handler :=
  let (r, l) := Reception.begin h.config h.params (h.link id)
  let g : Guest := ⟨id, r, .unoffered⟩
  { h with guests := h.guests ++ [g] }.setGuest h.guests.length g l

/-- Lets go of the session of a guest. -/
def dropSession (h : Handler) (i : Nat) : Handler :=
  match h.guests[i]? with
  | some ⟨id, .established session, _⟩ =>
    h.setLink id (((h.link id).release session.control.stream .server).detach .server)
  | _ => h

def setPassing (h : Handler) (i : Nat) (g : Guest) (p : Passing) : Handler :=
  { h with guests := h.guests.set i { g with passing := p } }

/-- Passes the session of a guest on, unless it has to wait for a place. -/
def pass? (h : Handler) (i : Nat) (g : Guest) : Option Handler :=
  match g.passing with
  | .finished => none
  | .unoffered =>
    if !h.received then some ((h.setPassing i g .finished).dropSession i)
    else
      let next := if h.sessions.hasRoom then Passing.finished else .waiting
      some ({ h with sessions := h.sessions.offer i }.setPassing i g next)
  | .waiting =>
    if !h.received then
      some (({ h with sessions := h.sessions.withdraw i }.setPassing i g .finished).dropSession i)
    else
      (h.sessions.enter? i).map fun c => { h with sessions := c }.setPassing i g .finished

/-- Goes on with a guest, unless it has to wait or nothing is left to do. -/
def serve? (h : Handler) (pick : Pick) (i : Nat) : Option Handler :=
  match h.guests[i]? with
  | none => none
  | some g =>
    match g.reception with
    | .established _ => h.pass? i g
    | r => (r.step? pick (h.link g.link)).map fun (r, l) => h.setGuest i { g with reception := r } l

/-- Ends the handshake of a guest because it waited too long. -/
def expire (h : Handler) (i : Nat) : Handler :=
  match h.guests[i]? with
  | none => h
  | some g =>
    let (r, l) := g.reception.expire (h.link g.link)
    h.setGuest i { g with reception := r } l

/-- The handshake of a guest that still runs. -/
def run? (h : Handler) (i : Nat) : Option Handshake.Run :=
  h.guests[i]?.bind fun g => g.reception.run?

/-- Takes the next session. -/
def takeSession? (h : Handler) : Option (Session × Handler) :=
  match h.sessions.take? with
  | none => none
  | some (i, rest) =>
    match h.guests[i]? with
    | some ⟨_, .established session, _⟩ => some (session, { h with sessions := rest })
    | _ => none

/-- Stops receiving sessions. Those on their way are dropped. -/
def stopReceiving (h : Handler) : Handler :=
  h.sessions.queue.foldl dropSession
    { h with received := false, sessions := h.sessions.clear }

/-- Whether a guest may still lead to a session that is passed on. -/
def isBusy (h : Handler) : Bool :=
  h.guests.any fun g =>
    match g.reception with
    | .shaking _ => true
    | .established _ => g.passing ≠ .finished
    | .refused _ => false

end Handler

end MediaOverQuic
