import MediaOverQuic.Role
import MediaOverQuic.Transport.Pipe

/-!
# Streams

A stream between the two sides of a connection has a pipe for each direction. A unidirectional
stream is one of which only the opening side's writing half and the other side's reading half are
handed out. Letting go of an end closes both directions.
-/
namespace MediaOverQuic

inductive StreamKind
  | bidirectional
  | unidirectional
  deriving DecidableEq, Repr

structure Stream where
  kind : StreamKind
  opener : Role
  /-- The pipe that each side reads from. -/
  inbound : PerRole Pipe
  /-- Whether each side still has its end. -/
  held : PerRole Bool
  deriving DecidableEq, Repr

namespace Stream

def fresh (kind : StreamKind) (opener : Role) : Stream :=
  ⟨kind, opener, .both .fresh, .both true⟩

/-- A stream that neither side has. -/
def gone : Stream :=
  ⟨.bidirectional, .client, .both Pipe.fresh.close, .both false⟩

def outbound (s : Stream) (r : Role) : Pipe := s.inbound.get r.peer

def setOutbound (s : Stream) (r : Role) (p : Pipe) : Stream :=
  { s with inbound := s.inbound.set r.peer p }

def setInbound (s : Stream) (r : Role) (p : Pipe) : Stream :=
  { s with inbound := s.inbound.set r p }

/-- Whether the side has a half to write to. -/
def canWrite (s : Stream) (r : Role) : Bool :=
  s.held.get r && (s.kind = .bidirectional || s.opener = r)

/-- Whether the side has a half to read from. -/
def canRead (s : Stream) (r : Role) : Bool :=
  s.held.get r && (s.kind = .bidirectional || s.opener ≠ r)

/-- Ends the direction that the side writes to. -/
def finish (s : Stream) (r : Role) : Stream := s.setOutbound r (s.outbound r).close

/-- Lets go of the side's end. -/
def release (s : Stream) (r : Role) : Stream :=
  { s with
    inbound := ⟨s.inbound.client.close, s.inbound.server.close⟩
    held := s.held.set r false }

end Stream

end MediaOverQuic
