import MediaOverQuic.Session.State

/-!
# Operations on the state of a session

All that can be done with the state of a session, one thing at a time, and what each of them comes
to. What is refused leaves the state as it was.
-/
namespace MediaOverQuic.SessionState

/-- What can be done with the state of a session. -/
inductive Operation
  | applyLocal (params : List KeyValuePair)
  | applyPeer (params : List KeyValuePair)
  | allocate
  | raiseOutgoing (limit : Nat)
  | acceptIncoming (id : Nat)
  | grant (limit : Nat)
  | reserveTokens (size : Nat)
  | releaseTokens (size : Nat)
  deriving DecidableEq, Repr

/-- What an operation comes to. -/
inductive Answer
  | done
  /-- The id for a new request, unless the peer's limit is reached. -/
  | allocated (id? : Option Nat)
  /-- What the peer has to be told, if anything. -/
  | granted (message? : Option Message)
  | refused (e : Error)
  deriving DecidableEq, Repr

/-- The state after an operation that may be refused. -/
def unlessRefused (s : SessionState) : Except Error SessionState → Answer × SessionState
  | .ok s' => (.done, s')
  | .error e => (.refused e, s)

def perform (s : SessionState) : Operation → Answer × SessionState
  | .applyLocal params => (.done, s.applyAllLocal params)
  | .applyPeer params => (.done, s.applyAllPeer params)
  | .allocate => (.allocated s.allocate.1, s.allocate.2)
  | .raiseOutgoing limit => s.unlessRefused (s.raiseOutgoing limit)
  | .acceptIncoming id => s.unlessRefused (s.acceptIncoming id)
  | .grant limit => (.granted (s.grant limit).1, (s.grant limit).2)
  | .reserveTokens size => s.unlessRefused (s.reserveTokens size)
  | .releaseTokens size => (.done, s.releaseTokens size)

end MediaOverQuic.SessionState
