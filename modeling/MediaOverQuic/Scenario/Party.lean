import MediaOverQuic.Scenario.Clock
import MediaOverQuic.Session.Handshake

/-!
# Parties to a handshake

A side of a connection that runs its handshake, with the moment at which it stops waiting for what
it waits for.
-/
namespace MediaOverQuic.Scenario

/-- When a handshake stops waiting for what it waits for after a step. -/
def nextDeadline (now deadline : Nat) (before after : Handshake.Run) : Nat :=
  if after.activity = before.activity then deadline else now + after.limit.nanos

structure Party where
  handshake : Handshake
  run : Option Handshake.Run
  deadline : Nat
  result : Option (Except Failure Session)

namespace Party

/-- Starts a handshake. -/
def begin (now : Nat) (h : Handshake) (overlay : Bool) (params : List KeyValuePair) : Party :=
  match h.begin overlay params with
  | (.error f, h) => ⟨h, none, now, some (.error f)⟩
  | (.ok run, h) => ⟨h, some run, now + run.limit.nanos, none⟩

/-- The party after its handshake is over. -/
def finish (p : Party) (result : Except Failure Session) : Party :=
  { p with handshake := p.handshake.conclude result, run := none, result := some result }

/-- The party further on. What it waits for now may take as long as is allowed for that. -/
def goOn (p : Party) (now : Nat) (before after : Handshake.Run) : Party where
  handshake := p.handshake.observe after
  run := some after
  deadline := nextDeadline now p.deadline before after
  result := none

/-- Goes on, or stops waiting. Nobody closes a connection on which a party waits for a stream, so it
does not matter what it would note first. -/
def step (now : Nat) (p : Party) (l : Link) : Option (Party × Link) :=
  match p.run with
  | none => none
  | some run =>
    match run.step .stream l with
    | .goesOn (after, l) => some (p.goOn now run after, l)
    | .ends (result, l) => some (p.finish result, l)
    | .waits =>
      if now < p.deadline then none
      else
        let (f, l) := run.expire l
        some (p.finish (.error f), l)

/-- When the party stops waiting. -/
def alarm (p : Party) : Option Nat := p.run.map fun _ => p.deadline

end Party

end MediaOverQuic.Scenario
