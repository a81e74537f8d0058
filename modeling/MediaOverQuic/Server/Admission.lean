import MediaOverQuic.Error
import MediaOverQuic.Transport.Channel

/-!
# Admitting connections

The accept loop of a server takes connections from a listener and hands them on through a queue. A
connection for which there is no place is held, and no further one is accepted meanwhile. Failures
to accept are passed over. The loop ends when the listener or the application says so, or when
nobody receives from the queue any more.
-/
namespace MediaOverQuic

/-- What a listener comes up with. -/
inductive Arrival
  | connection (id : Nat)
  | failure
  | shutdown
  deriving DecidableEq, Repr

inductive AcceptLoop
  | accepting
  /-- A connection waits for a place in the queue. -/
  | handing (id : Nat)
  | ended (result : Except Failure Unit)

/-- The accept loop, and the queue that it hands connections on through. -/
structure Admission where
  loop : AcceptLoop
  queue : Channel Nat
  /-- Whether someone may still take connections from the queue. -/
  received : Bool

namespace Admission

def start (queueSize : Nat) : Admission := ⟨.accepting, .empty queueSize, true⟩

def isAccepting (a : Admission) : Bool :=
  match a.loop with
  | .accepting => true
  | _ => false

def result? (a : Admission) : Option (Except Failure Unit) :=
  match a.loop with
  | .ended result => some result
  | _ => none

def handlerGone : Failure := Failure.plain "connection handler is gone"

/-- Hands a connection on, or holds it until there is a place. -/
def hand (a : Admission) (id : Nat) : Admission :=
  if !a.received then { a with loop := .ended (.error handlerGone) }
  else
    { a with
      loop := if a.queue.hasRoom then .accepting else .handing id
      queue := a.queue.offer id }

/-- Takes what the listener came up with, if the loop waits for it. -/
def accept (a : Admission) (arrival : Arrival) : Admission :=
  match a.loop, arrival with
  | .accepting, .connection id => a.hand id
  | .accepting, .failure => a
  | .accepting, .shutdown => { a with loop := .ended (.ok ()) }
  | _, _ => a

/-- Goes on with a connection that is held, unless it still has to wait. -/
def proceed? (a : Admission) : Option Admission :=
  match a.loop with
  | .handing id =>
    if !a.received then
      some { a with loop := .ended (.error handlerGone), queue := a.queue.withdraw id }
    else (a.queue.enter? id).map fun queue => { a with loop := .accepting, queue := queue }
  | _ => none

/-- Ends the loop. A connection that is held is dropped. -/
def cancel (a : Admission) : Admission :=
  match a.loop with
  | .accepting => { a with loop := .ended (.ok ()) }
  | .handing id => { a with loop := .ended (.ok ()), queue := a.queue.withdraw id }
  | .ended _ => a

/-- Takes the next connection from the queue. -/
def take? (a : Admission) : Option (Nat × Admission) :=
  a.queue.take?.map fun (id, queue) => (id, { a with queue := queue })

/-- Stops receiving. The connections in the queue are dropped. -/
def stopReceiving (a : Admission) : Admission :=
  { a with received := false, queue := a.queue.clear }

/-- Whether no connection will ever come out of the queue again. -/
def isDrained (a : Admission) : Bool := a.result?.isSome && a.queue.queue.isEmpty

end Admission

end MediaOverQuic
