import MediaOverQuic.Scenario.Party
import MediaOverQuic.Scenario.Script

/-!
# Handshakes on one clock

A handshake against a script on the other side, and the handshakes of both sides of a connection.
-/
namespace MediaOverQuic.Scenario

/-- One side runs its handshake, the other one a script. -/
structure Rehearsal where
  now : Nat
  link : Link
  party : Party
  script : Script

namespace Rehearsal

def partyStep : Actor Rehearsal := fun s =>
  (s.party.step s.now s.link).map fun (party, link) => { s with party := party, link := link }

def scriptStep : Actor Rehearsal := fun s =>
  (s.script.step s.now s.link).map fun (script, link) => { s with script := script, link := link }

/-- Lets the clock jump to when one of the two stops waiting. -/
def tick : Actor Rehearsal := fun s =>
  (nextMoment s.now [s.party.alarm, s.script.alarm]).map fun now => { s with now := now }

def play (s : Rehearsal) : Rehearsal := run (fun _ => [partyStep, scriptStep]) tick s

/-- Opens streams on a side before the handshake runs. -/
def openBefore (r : Role) : Nat → Link → Link
  | 0, l => l
  | count + 1, l =>
    match alone (fun (call, l) => Opening.step r call l) maxTurns (.start .bidirectional, l) with
    | .inl (call, l) => openBefore r count (call.abandon r l)
    | .inr (_, l) => openBefore r count l

/-- Runs a handshake on a connection while the other side follows a script. -/
def perform (h : Handshake) (params : List KeyValuePair) (steps : List ScriptStep) (l : Link) :
    Rehearsal :=
  play {
    now := 0
    link := l
    party := .begin 0 h l.overlay params
    script := .start h.role.peer steps }

/-- Reads what is there after both are done. -/
def rest (s : Rehearsal) : Outcome :=
  let reading := { s.script with steps := [.far (.reading [])] }
  match { s with script := reading }.play.script.outcomes.getLast? with
  | some outcome => outcome
  | none => .absent

end Rehearsal

/-- Both sides run their handshakes. -/
structure Encounter where
  now : Nat
  link : Link
  parties : PerRole Party

namespace Encounter

def partyStep (r : Role) : Actor Encounter := fun s =>
  ((s.parties.get r).step s.now s.link).map fun (party, link) =>
    { s with parties := s.parties.set r party, link := link }

/-- Lets the clock jump to when one of the two stops waiting. -/
def tick : Actor Encounter := fun s =>
  (nextMoment s.now [s.parties.client.alarm, s.parties.server.alarm]).map fun now =>
    { s with now := now }

def play (s : Encounter) : Encounter := run (fun _ => [partyStep .client, partyStep .server]) tick s

/-- The handshakes of both sides of a connection, with the configuration and parameters of each. -/
def start (l : Link) (config : PerRole Config) (params : PerRole (List KeyValuePair)) :
    Encounter :=
  let party (r : Role) := Party.begin 0 (.start r (config.get r)) l.overlay (params.get r)
  ⟨0, l, ⟨party .client, party .server⟩⟩

end Encounter

end MediaOverQuic.Scenario
