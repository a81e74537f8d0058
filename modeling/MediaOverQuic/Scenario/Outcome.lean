import MediaOverQuic.Session.Basic

/-!
# Outcomes

What the steps of a scenario come to.
-/
namespace MediaOverQuic.Scenario

inductive Outcome
  | done
  /-- The call still waited when nothing else could happen, and was given up. -/
  | pending
  /-- There is nothing to do the step with. -/
  | absent
  /-- No result is there to be given out. -/
  | nothing
  | streamError (e : StreamError)
  | error (e : Error)
  | failure (f : Failure)
  /-- What was there to read, and whether it is the last. -/
  | received (bytes : Bytes) (ended : Bool)
  | message (m : Message)
  | requestId (id : Option Nat)
  | session (state : SessionState)
  /-- The number of a stream that was got. -/
  | stream (n : Nat)
  | info (overlay : Bool) (remoteHost : String)
      (closing : Option (TerminationCode × ReasonPhrase))
  | number (n : Nat)
  | text (s : String)
  /-- Why the connection was closed, if it was. -/
  | closing (reason : Option (TerminationCode × ReasonPhrase))
  | concurrent (results : List Outcome) (received : Outcome)
  deriving Inhabited

namespace Outcome

def ofResult : Except Error Unit → Outcome
  | .ok () => done
  | .error e => error e

def ofFailure : Except Failure Unit → Outcome
  | .ok () => done
  | .error f => failure f

def ofMessage : Except Error Message → Outcome
  | .ok m => message m
  | .error e => error e

end Outcome

end MediaOverQuic.Scenario
