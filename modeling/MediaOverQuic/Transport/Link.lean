import MediaOverQuic.Error
import MediaOverQuic.Transport.Channel
import MediaOverQuic.Transport.Stream

/-!
# Links

A connection between a client and a server in one process. Each side can open streams, which wait
for the other side to accept them, and close the connection, which both sides then see; the first
reason given stays. Closing ends opening and accepting, not the streams that there are.
-/
namespace MediaOverQuic

structure Link where
  /-- Whether the connection is layered on top of another protocol. -/
  overlay : Bool
  /-- How many bidirectional streams each side may open. -/
  maxStreams : Nat
  /-- All streams that there ever were; a stream is known by its place in this list. -/
  streams : List Stream
  /-- The bidirectional streams that each side has not accepted yet. -/
  bidirectional : PerRole (Channel Nat)
  /-- The unidirectional streams that each side has not accepted yet. -/
  unidirectional : PerRole (Channel Nat)
  /-- How many bidirectional streams each side is counted as having opened. -/
  opened : PerRole Nat
  /-- What the connection was closed with, each time that one of the sides closed it. -/
  closes : List (TerminationCode × ReasonPhrase)
  /-- Whether each side still has its end of the connection. -/
  held : PerRole Bool
  deriving DecidableEq

namespace Link

/-- How many streams of a kind can wait to be accepted. -/
def queueSize : Nat := 16

def fresh (overlay : Bool) (maxStreams : Nat) : Link where
  overlay := overlay
  maxStreams := maxStreams
  streams := []
  bidirectional := .both (.empty queueSize)
  unidirectional := .both (.empty queueSize)
  opened := .both 0
  closes := []
  held := .both true

/-- What a side calls the other one. -/
def remoteHost : Role → String
  | .client => "server.memory"
  | .server => "client.memory"

/-- What the connection is closed with: the reason that was given first. -/
def closing (l : Link) : Option (TerminationCode × ReasonPhrase) := l.closes.head?

def isClosed (l : Link) : Bool := l.closing.isSome

/-- Closes the connection. A reason that was given before stays. -/
def close (l : Link) (code : TerminationCode) (reason : ReasonPhrase) : Link :=
  { l with closes := l.closes ++ [(code, reason)] }

@[simp] theorem closing_close (l : Link) (code : TerminationCode) (reason : ReasonPhrase) :
    (l.close code reason).closing = l.closing.or (some (code, reason)) := by
  simp [closing, close]

/-! ## Streams -/

def stream (l : Link) (id : Nat) : Stream := l.streams.getD id .gone

def updateStream (l : Link) (id : Nat) (f : Stream → Stream) : Link :=
  { l with streams := l.streams.modify id f }

/-- The pipe that a side writes to. -/
def outbound (l : Link) (id : Nat) (r : Role) : Pipe := (l.stream id).outbound r

def setOutbound (l : Link) (id : Nat) (r : Role) (p : Pipe) : Link :=
  l.updateStream id (·.setOutbound r p)

/-- The pipe that a side reads from. -/
def inbound (l : Link) (id : Nat) (r : Role) : Pipe := (l.stream id).inbound.get r

def setInbound (l : Link) (id : Nat) (r : Role) (p : Pipe) : Link :=
  l.updateStream id (·.setInbound r p)

/-- Lets go of a side's end of a stream. -/
def release (l : Link) (id : Nat) (r : Role) : Link := l.updateStream id (·.release r)

/-- Lets go of both ends of a stream. -/
def discard (l : Link) (id : Nat) : Link := (l.release id .client).release id .server

/-! ## Streams on their way -/

/-- The streams that side `r` has not accepted yet. -/
def arrivals (l : Link) (kind : StreamKind) (r : Role) : Channel Nat :=
  match kind with
  | .bidirectional => l.bidirectional.get r
  | .unidirectional => l.unidirectional.get r

def setArrivals (l : Link) (kind : StreamKind) (r : Role) (c : Channel Nat) : Link :=
  match kind with
  | .bidirectional => { l with bidirectional := l.bidirectional.set r c }
  | .unidirectional => { l with unidirectional := l.unidirectional.set r c }

/-- Lets go of the ends that a side has not accepted yet. -/
def dropArrivals (l : Link) (kind : StreamKind) (r : Role) : Link :=
  let c := l.arrivals kind r
  c.queue.foldl (fun l id => l.release id r) (l.setArrivals kind r c.clear)

/-- Lets go of a side's end of the connection. Streams that it has got stay. -/
def detach (l : Link) (r : Role) : Link :=
  { (l.dropArrivals .bidirectional r).dropArrivals .unidirectional r with
    held := l.held.set r false }

/-- Counts one more bidirectional stream of a side. -/
def takeSlot (l : Link) (kind : StreamKind) (r : Role) : Link :=
  match kind with
  | .bidirectional => { l with opened := l.opened.update r (· + 1) }
  | .unidirectional => l

/-- Whether a side has opened as many streams as it may. -/
def isFull (l : Link) (kind : StreamKind) (r : Role) : Bool :=
  kind = .bidirectional && l.maxStreams ≤ l.opened.get r

end Link

/-- A call that opens a stream. -/
inductive Opening
  | start (kind : StreamKind)
  /-- The stream waits for a place among those that the other side has not accepted yet. -/
  | handing (kind : StreamKind) (id : Nat)
  deriving DecidableEq, Repr

namespace Opening

def peerGone (r : Role) : Failure := Failure.plain ("peer " ++ Link.remoteHost r ++ " is gone")

/-- Offers a new stream to the other side. -/
def offer (r : Role) (kind : StreamKind) (l : Link) :
    Attempt (Opening × Link) (Except Failure Nat × Link) :=
  let id := l.streams.length
  let arrivals := l.arrivals kind r.peer
  let offered := { l with streams := l.streams ++ [Stream.fresh kind r] }.setArrivals kind r.peer
    (arrivals.offer id)
  if arrivals.hasRoom then .ends (.ok id, offered) else .goesOn (.handing kind id, offered)

def step (r : Role) : Opening → Link → Attempt (Opening × Link) (Except Failure Nat × Link)
  | start kind, l =>
    if l.isClosed then
      .ends (.error (.plain ("connection to " ++ Link.remoteHost r ++ " is closed")), l)
    else if l.isFull kind r then
      .ends (.error (.ofError (.violation (.tooManyStreams l.maxStreams))), l)
    else if !l.held.get r.peer then .ends (.error (peerGone r), l.takeSlot kind r)
    else offer r kind (l.takeSlot kind r)
  | handing kind id, l =>
    let arrivals := l.arrivals kind r.peer
    if !l.held.get r.peer then
      .ends (.error (peerGone r),
        (l.setArrivals kind r.peer (arrivals.withdraw id)).discard id)
    else
      match arrivals.enter? id with
      | some entered => .ends (.ok id, l.setArrivals kind r.peer entered)
      | none => .waits

/-- Gives the call up. A stream that was not handed over yet is dropped, but stays counted. -/
def abandon (r : Role) : Opening → Link → Link
  | start _, l => l
  | handing kind id, l =>
    (l.setArrivals kind r.peer ((l.arrivals kind r.peer).withdraw id)).discard id

end Opening

/-- What a call that waits for a stream notes first, if both have happened: that a stream has
arrived, or that the connection was closed. Nothing says beforehand which of the two it is. -/
inductive Pick
  | stream
  | closing
  deriving DecidableEq, Repr

/-- A call that accepts a stream. -/
inductive Accepting
  | start (kind : StreamKind)
  | waiting (kind : StreamKind)
  deriving DecidableEq, Repr

namespace Accepting

def wasClosed (r : Role) : Failure :=
  Failure.plain ("connection to " ++ Link.remoteHost r ++ " was closed")

def step (r : Role) (pick : Pick) :
    Accepting → Link → Attempt (Accepting × Link) (Except Failure Nat × Link)
  | start kind, l =>
    if l.isClosed then
      .ends (.error (.plain ("connection to " ++ Link.remoteHost r ++ " is closed")), l)
    else .goesOn (.waiting kind, l)
  | waiting kind, l =>
    let arrivals := l.arrivals kind r
    if l.isClosed ∧ pick = .closing then .ends (.error (wasClosed r), l)
    else
      match arrivals.take? with
      | some (id, rest) => .ends (.ok id, l.setArrivals kind r rest)
      | none =>
        if !l.held.get r.peer && arrivals.isEmpty then .ends (.error (Opening.peerGone r), l)
        else if l.isClosed then .ends (.error (wasClosed r), l)
        else .waits

end Accepting

end MediaOverQuic
