import MediaOverQuic.Control.Frame
import MediaOverQuic.Control.Turns
import MediaOverQuic.Transport.Link

/-!
# Control streams

The end of a stream that control messages are sent and received on. Calls of each kind take turns,
so frames are never interleaved. Once the writing of a frame has begun, the stream is marked until
it is complete: after a call that failed or was given up in between, nothing is written any more.
-/
namespace MediaOverQuic

structure ControlStream where
  /-- Which stream of the connection it is. -/
  stream : Nat
  /-- The most bytes of a payload. -/
  limit : Nat
  /-- Whether a frame was begun that is not complete. -/
  incomplete : Bool
  writers : Turns
  readers : Turns
  deriving DecidableEq, Repr

/-- A call that sends a message. -/
inductive Sending
  | waiting (ticket : Nat) (frame : Bytes)
  | writing (ticket : Nat) (rest : Bytes)
  deriving DecidableEq, Repr

/-- A call that receives a message. -/
inductive Receiving
  | waiting (ticket : Nat)
  | reading (ticket : Nat) (got : Bytes)
  deriving DecidableEq, Repr

namespace ControlStream

def fresh (stream limit : Nat) : ControlStream := ⟨stream, limit, false, .nobody, .nobody⟩

/-- Starts to send a message. One that can not be framed is refused before anything is written. -/
def send (c : ControlStream) (m : Message) : Except Error (Sending × ControlStream) :=
  match Frame.encode c.limit m with
  | .error e => .error e
  | .ok frame =>
    let (ticket, writers) := c.writers.join
    .ok (.waiting ticket frame, { c with writers := writers })

/-- Starts to receive a message. -/
def receive (c : ControlStream) : Receiving × ControlStream :=
  let (ticket, readers) := c.readers.join
  (.waiting ticket, { c with readers := readers })

end ControlStream

namespace Sending

def ticket : Sending → Nat
  | waiting ticket _ => ticket
  | writing ticket _ => ticket

/-- Leaves the line of the writers. -/
def leave (s : Sending) (c : ControlStream) : ControlStream :=
  { c with writers := c.writers.leave s.ticket }

/-- Gives the call up. What it has written stays, and so does the mark if it has begun. -/
def abandon (s : Sending) (c : ControlStream) : ControlStream := s.leave c

/-- A step of the call on a stream that takes bytes by `write`. -/
def stepWith (s : Sending) (c : ControlStream) (out : σ)
    (write : Bytes → Attempt (Bytes × σ) (Except StreamError Unit × σ)) :
    Attempt (Sending × ControlStream × σ) (Except Error Unit × ControlStream × σ) :=
  match s with
  | waiting ticket frame =>
    if !c.writers.isFirst ticket then .waits
    else if c.incomplete then .ends (.error (.transport .incompleteFrame), s.leave c, out)
    else .goesOn (writing ticket frame, { c with incomplete := true }, out)
  | writing ticket rest =>
    match write rest with
    | .waits => .waits
    | .goesOn (rest, out) => .goesOn (writing ticket rest, c, out)
    | .ends (.ok (), out) => .ends (.ok (), s.leave { c with incomplete := false }, out)
    | .ends (.error e, out) => .ends (.error (.transport e), s.leave c, out)

def step (s : Sending) (c : ControlStream) (p : Pipe) :
    Attempt (Sending × ControlStream × Pipe) (Except Error Unit × ControlStream × Pipe) :=
  s.stepWith c p p.write

/-- A step of side `r` of a connection. -/
def stepOn (r : Role) (s : Sending) (c : ControlStream) (l : Link) :
    Attempt (Sending × ControlStream × Link) (Except Error Unit × ControlStream × Link) :=
  (s.step c (l.outbound c.stream r)).map
    (fun (s, c', p) => (s, c', l.setOutbound c.stream r p))
    (fun (result, c', p) => (result, c', l.setOutbound c.stream r p))

end Sending

namespace Receiving

def ticket : Receiving → Nat
  | waiting ticket => ticket
  | reading ticket _ => ticket

/-- Leaves the line of the readers. -/
def leave (s : Receiving) (c : ControlStream) : ControlStream :=
  { c with readers := c.readers.leave s.ticket }

/-- Gives the call up. What it has read is lost. -/
def abandon (s : Receiving) (c : ControlStream) : ControlStream := s.leave c

/-- A step of the call on a stream that hands out bytes by `read`. -/
def stepWith (s : Receiving) (c : ControlStream) (source : σ)
    (read : Nat → Attempt (Bytes × σ) σ) :
    Attempt (Receiving × ControlStream × σ) (Except Error Message × ControlStream × σ) :=
  match s with
  | waiting ticket =>
    if c.readers.isFirst ticket then .goesOn (reading ticket [], c, source) else .waits
  | reading ticket got =>
    match (Frame.scan c.limit).pull got source read with
    | .waits => .waits
    | .goesOn (got, source) => .goesOn (reading ticket got, c, source)
    | .ends (.ok result, source) => .ends (result, s.leave c, source)
    | .ends (.error e, source) => .ends (.error (.transport e), s.leave c, source)

def step (s : Receiving) (c : ControlStream) (p : Pipe) :
    Attempt (Receiving × ControlStream × Pipe) (Except Error Message × ControlStream × Pipe) :=
  s.stepWith c p p.read

/-- A step of side `r` of a connection. -/
def stepOn (r : Role) (s : Receiving) (c : ControlStream) (l : Link) :
    Attempt (Receiving × ControlStream × Link) (Except Error Message × ControlStream × Link) :=
  (s.step c (l.inbound c.stream r)).map
    (fun (s, c', p) => (s, c', l.setInbound c.stream r p))
    (fun (result, c', p) => (result, c', l.setInbound c.stream r p))

end Receiving

end MediaOverQuic
