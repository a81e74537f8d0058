import MediaOverQuic.Session.Handshake

/-!
# Receiving connections

A server runs the handshake on each connection that it was handed, independently of the others. It
leads to a session, or the connection is closed for the reason that the handshake failed.
-/
namespace MediaOverQuic

/-- What has become of a connection. -/
inductive Reception
  | shaking (run : Handshake.Run)
  /-- The session is to be passed on. -/
  | established (session : Session)
  /-- The connection was closed. -/
  | refused (f : Failure)
  deriving DecidableEq

namespace Reception

/-- Goes on after the handshake. -/
def conclude : Except Failure Session × Link → Reception × Link
  | (.ok session, l) => (established session, l)
  | (.error f, l) => (refused f, Session.terminate l f)

/-- Starts to run the handshake on a connection. -/
def begin (config : Config) (params : List KeyValuePair) (l : Link) : Reception × Link :=
  match ((Handshake.start .server config).begin l.overlay params).1 with
  | .error f => conclude (.error f, l)
  | .ok run => (shaking run, l)

/-- Goes on with the handshake, unless it has to wait or is over. -/
def step? (pick : Pick) : Reception → Link → Option (Reception × Link)
  | shaking run, l =>
    match run.step pick l with
    | .waits => none
    | .goesOn (run, l) => some (shaking run, l)
    | .ends result => some (conclude result)
  | established _, _ | refused _, _ => none

/-- The handshake, while it runs. -/
def run? : Reception → Option Handshake.Run
  | shaking run => some run
  | established _ | refused _ => none

/-- Ends a handshake that waited too long. -/
def expire : Reception → Link → Reception × Link
  | shaking run, l =>
    let (f, l) := run.expire l
    conclude (.error f, l)
  | r, l => (r, l)

end Reception

end MediaOverQuic
