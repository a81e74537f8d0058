import MediaOverQuic.Scenario.FarEnd

/-!
# Both sides of a connection

Streams are opened and accepted on both sides and used byte by byte. They are called by numbers, in
the order they were got.
-/
namespace MediaOverQuic.Scenario.Links

structure State where
  link : Link
  /-- The side and the place of each stream that was got. -/
  streams : List (Role × Nat)

def start (overlay : Bool) (maxStreams : Nat) : State := ⟨.fresh overlay maxStreams, []⟩

inductive Step
  | «open» (r : Role) (kind : StreamKind)
  | accept (r : Role) (kind : StreamKind)
  | close (r : Role) (code : TerminationCode) (reason : String)
  | acceptThenClose (r : Role) (kind : StreamKind) (code : TerminationCode) (reason : String)
  | info (r : Role)
  | detach (r : Role)
  | far (stream : Nat) (call : FarCall)
  | shutdown (stream : Nat)
  | drop (stream : Nat)

/-- Gives the next number to a stream. -/
def State.add (s : State) (r : Role) (id : Nat) (l : Link) : Outcome × State :=
  (.stream s.streams.length, ⟨l, s.streams ++ [(r, id)]⟩)

/-- What opening or accepting came to. -/
def State.got (s : State) (r : Role) : Except Failure Nat × Link → Outcome × State
  | (.ok id, l) => s.add r id l
  | (.error f, l) => (.failure f, { s with link := l })

/-- Does something with a stream that was got. -/
def State.on (s : State) (stream : Nat) (f : Role → Nat → Link → Outcome × Link) :
    Outcome × State :=
  match s.streams[stream]? with
  | none => (.absent, s)
  | some (r, id) =>
    let (outcome, l) := f r id s.link
    (outcome, { s with link := l })

/-- Accepts a stream, and closes the connection while that waits. -/
def State.acceptThenClose (s : State) (r : Role) (kind : StreamKind) (code : TerminationCode)
    (reason : String) : Outcome × State :=
  match ReasonPhrase.ofText reason with
  | .error e => (.error e, s)
  | .ok phrase =>
    let accept := alone (fun (call, l) => Accepting.step r .stream call l) maxTurns
    let ended : Except Failure Nat × Link → Outcome × State
      | (.ok id, l) => (.done, { s with link := l.release id r })
      | (.error f, l) => (.failure f, { s with link := l })
    match accept (.start kind, s.link) with
    | .inr (result, l) => ended (result, l.close code phrase)
    | .inl (call, l) =>
      match accept (call, l.close code phrase) with
      | .inr result => ended result
      | .inl (_, l) => (.pending, { s with link := l })

def perform (s : State) : Step → Outcome × State
  | .open r kind =>
    if !s.link.held.get r then (.absent, s)
    else
      match alone (fun (call, l) => Opening.step r call l) maxTurns (.start kind, s.link) with
      | .inl (call, l) => (.pending, { s with link := call.abandon r l })
      | .inr result => s.got r result
  | .accept r kind =>
    if !s.link.held.get r then (.absent, s)
    else
      let step := fun (call, l) => Accepting.step r .stream call l
      match alone step maxTurns (.start kind, s.link) with
      | .inl (_, l) => (.pending, { s with link := l })
      | .inr result => s.got r result
  | .close r code reason =>
    if !s.link.held.get r then (.absent, s)
    else
      let (outcome, l) := closeWith code reason s.link
      (outcome, { s with link := l })
  | .acceptThenClose r kind code reason =>
    if s.link.held.get r then s.acceptThenClose r kind code reason else (.absent, s)
  | .info r =>
    if s.link.held.get r then (.info s.link.overlay (Link.remoteHost r) s.link.closing, s)
    else (.absent, s)
  | .detach r => (.done, { s with link := s.link.detach r })
  | .far stream call => s.on stream fun r id l => call.perform r id l
  | .shutdown stream => s.on stream fun r id l => Scenario.shutdown r id l
  | .drop stream => s.on stream fun r id l => Scenario.drop r id l

end MediaOverQuic.Scenario.Links
