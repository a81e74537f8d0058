import MediaOverQuic.Session.Basic

/-!
# Request ids

Taking an id for a new request, and allowing the peer more of them. Both may have to tell the peer,
and looking at the state, changing it and sending are separate steps, between which other calls on
the session can come.
-/
namespace MediaOverQuic

/-- A call that takes a request id, or tells the peer that its limit is in the way. -/
inductive NewRequest
  | allocating
  /-- There was no id; the limit to report is looked up next. -/
  | blocked
  | reporting (call : Sending)
  deriving DecidableEq, Repr

namespace NewRequest

def step (n : NewRequest) (s : Session) (l : Link) :
    Attempt (NewRequest × Session × Link) (Except Error (Option Nat) × Session × Link) :=
  match n with
  | allocating =>
    match s.state.allocate with
    | (some id, state) => .ends (.ok (some id), { s with state := state }, l)
    | (none, state) => .goesOn (blocked, { s with state := state }, l)
  | blocked =>
    match s.send (.requestsBlocked s.state.maxOutgoing) with
    | .error e => .ends (.error e, s, l)
    | .ok (call, s) => .goesOn (reporting call, s, l)
  | reporting call =>
    (Session.stepSending call s l).map (fun (call, rest) => (reporting call, rest))
      (fun (result, rest) => (result.map fun _ => none, rest))

end NewRequest

/-- A call that raises the limit for the peer's requests. -/
inductive Granting
  | raising (limit : Nat)
  /-- The limit is raised, and the peer has to be told. -/
  | raised (m : Message)
  | telling (call : Sending)
  deriving DecidableEq, Repr

namespace Granting

def step (g : Granting) (s : Session) (l : Link) :
    Attempt (Granting × Session × Link) (Except Error Unit × Session × Link) :=
  match g with
  | raising limit =>
    match s.state.grant limit with
    | (none, state) => .ends (.ok (), { s with state := state }, l)
    | (some m, state) => .goesOn (raised m, { s with state := state }, l)
  | raised m =>
    match s.send m with
    | .error e => .ends (.error e, s, l)
    | .ok (call, s) => .goesOn (telling call, s, l)
  | telling call =>
    (Session.stepSending call s l).map (fun (call, rest) => (telling call, rest)) id

end Granting

end MediaOverQuic
