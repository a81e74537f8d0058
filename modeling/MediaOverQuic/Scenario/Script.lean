import MediaOverQuic.Scenario.Clock
import MediaOverQuic.Scenario.FarEnd

/-!
# Scripts

What a side of a connection does that follows no protocol: it opens or accepts streams, of which the
last one is used byte by byte, sleeps, and closes the connection.
-/
namespace MediaOverQuic.Scenario

inductive ScriptStep
  | «open»
  | accept
  | far (call : FarCall)
  | shutdown
  | drop
  | detach
  | sleep (time : Duration)
  | close (code : TerminationCode) (reason : String)

/-- A step that is under way. -/
inductive ScriptCall
  | opening (call : Opening)
  | accepting (call : Accepting)
  | far (call : FarCall)
  | sleeping

structure Script where
  role : Role
  steps : List ScriptStep
  /-- The step under way, and when it is given up. -/
  call : Option (ScriptCall × Nat)
  /-- The stream in use. -/
  stream : Option Nat
  outcomes : List Outcome

namespace Script

def start (role : Role) (steps : List ScriptStep) : Script := ⟨role, steps, none, none, []⟩

def isOver (s : Script) : Bool := s.steps.isEmpty && s.call.isNone

/-- Notes what the step came to. -/
def note (s : Script) (outcome : Outcome) : Script :=
  { s with call := none, outcomes := s.outcomes ++ [outcome] }

/-- Uses a new stream instead of the one before. -/
def useStream (s : Script) (id : Nat) (l : Link) : Script × Link :=
  ({ s.note .done with stream := some id },
    match s.stream with
    | some old => l.release old s.role
    | none => l)

/-- Starts a call that is given up after a while. -/
def wait (s : Script) (deadline : Nat) (call : ScriptCall) : Script :=
  { s with call := some (call, deadline) }

/-- Does something with the stream in use. -/
def onStream (s : Script) (l : Link) (f : Role → Nat → Link → Outcome × Link) : Script × Link :=
  match s.stream with
  | none => (s.note .absent, l)
  | some id =>
    let (outcome, l) := f s.role id l
    (s.note outcome, l)

/-- Whether a call can be made on the stream in use. -/
def canUse (s : Script) (call : FarCall) (l : Link) : Bool :=
  match s.stream with
  | none => false
  | some id => call.isPossible s.role (l.stream id)

/-- Starts the next step. -/
def begin (now : Nat) (s : Script) (l : Link) : ScriptStep → Script × Link
  | .open =>
    if l.held.get s.role then
      (s.wait (now + moment) (.opening (.start .bidirectional)), l)
    else (s.note .absent, l)
  | .accept =>
    if l.held.get s.role then
      (s.wait (now + moment) (.accepting (.start .bidirectional)), l)
    else (s.note .absent, l)
  | .far call =>
    if s.canUse call l then (s.wait (now + moment) (.far call), l) else (s.note .absent, l)
  | .shutdown => s.onStream l fun r id l => Scenario.shutdown r id l
  | .drop =>
    match s.stream with
    | none => (s.note .done, l)
    | some id => ({ s.note .done with stream := none }, l.release id s.role)
  | .detach => (s.note .done, l.detach s.role)
  | .sleep time => (s.wait (now + time.nanos) .sleeping, l)
  | .close code reason =>
    if l.held.get s.role then
      let (outcome, l) := closeWith code reason l
      (s.note outcome, l)
    else (s.note .absent, l)

/-- Goes on after a stream was opened or accepted, or was not. -/
def gotStream (s : Script) : Except Failure Nat × Link → Script × Link
  | (.ok id, l) => s.useStream id l
  | (.error f, l) => (s.note (.failure f), l)

/-- Goes on with the call under way. -/
def stepCall (now : Nat) (s : Script) (call : ScriptCall) (deadline : Nat) (l : Link) :
    Option (Script × Link) :=
  match call with
  | .sleeping => if now < deadline then none else some (s.note .done, l)
  | .opening call =>
    match call.step s.role l with
    | .goesOn (call, l) => some (s.wait deadline (.opening call), l)
    | .ends result => some (s.gotStream result)
    | .waits => if now < deadline then none else some (s.note .pending, call.abandon s.role l)
  | .accepting call =>
    match call.step s.role .stream l with
    | .goesOn (call, l) => some (s.wait deadline (.accepting call), l)
    | .ends result => some (s.gotStream result)
    | .waits => if now < deadline then none else some (s.note .pending, l)
  | .far call =>
    match s.stream with
    | none => some (s.note .absent, l)
    | some id =>
      match call.step s.role id l with
      | .goesOn (call, l) => some (s.wait (now + moment) (.far call), l)
      | .ends (outcome, l) => some (s.note outcome, l)
      | .waits => if now < deadline then none else some (s.note call.givenUp, l)

def step (now : Nat) (s : Script) (l : Link) : Option (Script × Link) :=
  match s.call with
  | some (call, deadline) => s.stepCall now call deadline l
  | none =>
    match s.steps with
    | [] => none
    | next :: rest => some ({ s with steps := rest }.begin now l next)

/-- When the script stops waiting. -/
def alarm (s : Script) : Option Nat := s.call.map (·.2)

end Script

end MediaOverQuic.Scenario
