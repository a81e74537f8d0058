import MediaOverQuic.Scenario.Clock
import MediaOverQuic.Scenario.Outcome

/-!
# Far ends

The end of a stream that is used byte by byte, without any protocol.
-/
namespace MediaOverQuic.Scenario

/-- A call on a far end. -/
inductive FarCall
  | writing (rest : Bytes)
  /-- Reads on until nothing more comes. -/
  | reading (got : Bytes)
  deriving DecidableEq, Repr

namespace FarCall

/-- Whether the end that side `r` has of a stream can do this. -/
def isPossible (call : FarCall) (r : Role) (s : Stream) : Bool :=
  match call with
  | writing _ => s.canWrite r
  | reading _ => s.canRead r

def step (call : FarCall) (r : Role) (id : Nat) (l : Link) :
    Attempt (FarCall × Link) (Outcome × Link) :=
  match call with
  | writing rest =>
    (((l.outbound id r).write rest)).map
      (fun (rest, p) => (writing rest, l.setOutbound id r p))
      (fun (result, p) =>
        (match result with
          | .ok () => .done
          | .error e => .streamError e, l.setOutbound id r p))
  | reading got =>
    let p := l.inbound id r
    match p.buffer with
    | [] => if p.closed then .ends (.received got true, l) else .waits
    | bytes => .goesOn (reading (got ++ bytes), l.setInbound id r p.drain)

/-- What the call comes to if it is given up. -/
def givenUp : FarCall → Outcome
  | writing _ => .pending
  | reading got => .received got false

/-- Makes the call while nobody else does anything. -/
def perform (call : FarCall) (r : Role) (id : Nat) (l : Link) : Outcome × Link :=
  if !call.isPossible r (l.stream id) then (.absent, l)
  else
    match alone (fun (call, l) => call.step r id l) maxTurns (call, l) with
    | .inl (call, l) => (call.givenUp, l)
    | .inr result => result

end FarCall

/-- Ends the writing direction of a far end. -/
def shutdown (r : Role) (id : Nat) (l : Link) : Outcome × Link :=
  if (l.stream id).canWrite r then (.done, l.updateStream id (·.finish r)) else (.absent, l)

/-- Lets go of a far end. -/
def drop (r : Role) (id : Nat) (l : Link) : Outcome × Link := (.done, l.release id r)

/-- Closes the connection, if the reason is short enough. -/
def closeWith (code : TerminationCode) (reason : String) (l : Link) : Outcome × Link :=
  match ReasonPhrase.ofText reason with
  | .error e => (.error e, l)
  | .ok phrase => (.done, l.close code phrase)

end MediaOverQuic.Scenario
