import Mathlib.Tactic
import MediaOverQuic.Proofs.Eventually
import MediaOverQuic.Proofs.Transport.Ends
import MediaOverQuic.Proofs.Transport.Lane

/-!
# Calls on both ends of a connection

The two ends of a connection are used by calls that open and accept streams, and by closes, in any
order. Calls wait for each other, so they go on in steps, and each can be given up where it is. What
one step does to the connection is one of a few moves.
-/
namespace MediaOverQuic

/-- Why a side can not begin to open or accept a stream. -/
def Link.refusal (r : Role) : Failure :=
  .plain ("connection to " ++ Link.remoteHost r ++ " is closed")

/-- Which kind of stream a call accepts. -/
def Accepting.kind : Accepting → StreamKind
  | start kind | waiting kind => kind

namespace Pairing

/-! ## Calls and closes on both sides -/

/-- What is noted down in the order in which it happens. -/
inductive Event
  | opened (r : Role) (kind : StreamKind) (id : Nat)
  | accepted (r : Role) (kind : StreamKind) (id : Nat)
  | closed (r : Role) (code : TerminationCode) (reason : ReasonPhrase)
  deriving DecidableEq

namespace Event

def opened? (r : Role) (kind : StreamKind) : Event → Option Nat
  | opened r' kind' id => if r' = r ∧ kind' = kind then some id else none
  | accepted .. | closed .. => none

def accepted? (r : Role) (kind : StreamKind) : Event → Option Nat
  | accepted r' kind' id => if r' = r ∧ kind' = kind then some id else none
  | opened .. | closed .. => none

def closed? : Event → Option (TerminationCode × ReasonPhrase)
  | closed _ code reason => some (code, reason)
  | opened .. | accepted .. => none

end Event

/-- A call that is to get a stream. -/
inductive Task
  | opening (call : Opening)
  | accepting (call : Accepting)
  deriving DecidableEq

namespace Task

/-- Whether nothing was done for the call yet. -/
def isNew : Task → Bool
  | opening (.start _) | accepting (.start _) => true
  | opening (.handing ..) | accepting (.waiting _) => false

def step (r : Role) (pick : Pick) :
    Task → Link → Attempt (Task × Link) (Except Failure Nat × Link)
  | opening call, l => (call.step r l).map (Prod.map opening id) id
  | accepting call, l => (call.step r pick l).map (Prod.map accepting id) id

/-- Gives the call up. -/
def abandon (r : Role) : Task → Link → Link
  | opening call, l => call.abandon r l
  | accepting _, l => l

/-- What is noted down when the call of a side ends. -/
def events (r : Role) : Task → Except Failure Nat → List Event
  | opening call, .ok id => [.opened r call.kind id]
  | accepting call, .ok id => [.accepted r call.kind id]
  | _, .error _ => []

end Task

inductive Progress
  | underWay (task : Task)
  | returned (result : Except Failure Nat)
  | givenUp
  deriving DecidableEq

structure Call where
  role : Role
  progress : Progress
  deriving DecidableEq

namespace Call

def underWay? (c : Call) : Option Task :=
  match c.progress with
  | .underWay task => some task
  | .returned _ | .givenUp => none

theorem eq_underWay {c : Call} {task : Task} (h : c.underWay? = some task) :
    c.progress = .underWay task := by
  obtain ⟨r, progress⟩ := c
  cases progress with
  | underWay task' => rw [Option.some.inj h]
  | returned result => cases h
  | givenUp => cases h

/-- Whether the call has not done anything yet, was refused because the connection is closed, or was
given up. -/
def IsOut (c : Call) : Prop :=
  match c.progress with
  | .underWay task => task.isNew = true
  | .returned result => result = .error (Link.refusal c.role)
  | .givenUp => True

end Call

inductive Action
  | «open» (r : Role) (kind : StreamKind)
  | accept (r : Role) (kind : StreamKind)
  | goOn (i : Nat)
  | giveUp (i : Nat)
  | close (r : Role) (code : TerminationCode) (reason : ReasonPhrase)
  | leave (r : Role)

end Pairing

/-- The two ends of a connection, all calls on them, and what has happened. -/
structure Pairing where
  link : Link
  calls : List Pairing.Call
  events : List Pairing.Event
  deriving DecidableEq

namespace Pairing

def start (l : Link) : Pairing := ⟨l, [], []⟩

def openedIn (events : List Event) (r : Role) (kind : StreamKind) : List Nat :=
  events.filterMap (·.opened? r kind)

def acceptedIn (events : List Event) (r : Role) (kind : StreamKind) : List Nat :=
  events.filterMap (·.accepted? r kind)

/-- The streams of a kind that a side has opened, in this order. -/
def opened (x : Pairing) (r : Role) (kind : StreamKind) : List Nat := openedIn x.events r kind

/-- The streams of a kind that a side has accepted, in this order. -/
def accepted (x : Pairing) (r : Role) (kind : StreamKind) : List Nat := acceptedIn x.events r kind

/-- What the connection was closed with, each time. -/
def closes (x : Pairing) : List (TerminationCode × ReasonPhrase) :=
  x.events.filterMap Event.closed?

def begin (x : Pairing) (r : Role) (task : Task) : Pairing :=
  { x with calls := x.calls ++ [⟨r, .underWay task⟩] }

/-- The connection and a call become `l` and `progress`. -/
def set (x : Pairing) (i : Nat) (c : Call) (progress : Progress) (events : List Event) (l : Link) :
    Pairing :=
  ⟨l, x.calls.set i { c with progress := progress }, x.events ++ events⟩

def close (x : Pairing) (r : Role) (code : TerminationCode) (reason : ReasonPhrase) : Pairing :=
  { x with link := x.link.close code reason, events := x.events ++ [.closed r code reason] }

/-- All that can happen. Besides what is done with the connection, the streams may be used. A call
that waits for a stream may note first that the connection was closed, even if there is one. -/
inductive Step : Pairing → Pairing → Prop
  | begins {x : Pairing} {r : Role} {task : Task} (hnew : task.isNew = true) :
    Step x (x.begin r task)
  | goesOn {x : Pairing} {i : Nat} {c : Call} {task task' : Task} {l : Link}
    (pick : Pick) (hi : x.calls[i]? = some c) (hc : c.progress = .underWay task)
    (h : task.step c.role pick x.link = .goesOn (task', l)) :
    Step x (x.set i c (.underWay task') [] l)
  | ends {x : Pairing} {i : Nat} {c : Call} {task : Task} {result : Except Failure Nat} {l : Link}
    (pick : Pick) (hi : x.calls[i]? = some c) (hc : c.progress = .underWay task)
    (h : task.step c.role pick x.link = .ends (result, l)) :
    Step x (x.set i c (.returned result) (task.events c.role result) l)
  | givenUp {x : Pairing} {i : Nat} {c : Call} {task : Task}
    (hi : x.calls[i]? = some c) (hc : c.progress = .underWay task) :
    Step x (x.set i c .givenUp [] (task.abandon c.role x.link))
  | closed {x : Pairing} (r : Role) (code : TerminationCode) (reason : ReasonPhrase) :
    Step x (x.close r code reason)
  | left {x : Pairing} (r : Role) : Step x { x with link := x.link.detach r }
  | used {x : Pairing} {streams : List Stream} (h : streams.map Stream.sort = x.link.sorts) :
    Step x { x with link := { x.link with streams := streams } }

/-- What becomes of the connection and the calls when something is done, if it can be done. -/
def act (x : Pairing) : Action → Option Pairing
  | .open r kind => some (x.begin r (.opening (.start kind)))
  | .accept r kind => some (x.begin r (.accepting (.start kind)))
  | .goOn i => do
    let c ← x.calls[i]?
    let task ← c.underWay?
    match task.step c.role .stream x.link with
    | .waits => none
    | .goesOn (task', l) => some (x.set i c (.underWay task') [] l)
    | .ends (result, l) => some (x.set i c (.returned result) (task.events c.role result) l)
  | .giveUp i => do
    let c ← x.calls[i]?
    let task ← c.underWay?
    return x.set i c .givenUp [] (task.abandon c.role x.link)
  | .close r code reason => some (x.close r code reason)
  | .leave r => some { x with link := x.link.detach r }

theorem step_of_act {x x' : Pairing} {a : Action} (h : x.act a = some x') : Step x x' := by
  cases a with
  | «open» r kind | accept r kind =>
    obtain rfl := Option.some.inj h
    exact .begins rfl
  | goOn i =>
    obtain ⟨c, hi, h⟩ := Option.bind_eq_some_iff.mp h
    obtain ⟨task, hc, h⟩ := Option.bind_eq_some_iff.mp h
    split at h
    · cases h
    · next task' l hstep =>
      obtain rfl := Option.some.inj h
      exact .goesOn _ hi (Call.eq_underWay hc) hstep
    · next result l hstep =>
      obtain rfl := Option.some.inj h
      exact .ends _ hi (Call.eq_underWay hc) hstep
  | giveUp i =>
    obtain ⟨c, hi, h⟩ := Option.bind_eq_some_iff.mp h
    obtain ⟨task, hc, h⟩ := Option.bind_eq_some_iff.mp h
    obtain rfl := Option.some.inj h
    exact .givenUp hi (Call.eq_underWay hc)
  | close r code reason =>
    obtain rfl := Option.some.inj h
    exact .closed r code reason
  | leave r =>
    obtain rfl := Option.some.inj h
    exact .left r

/-- Does this in order. -/
def follow (x : Pairing) (actions : List Action) : Option Pairing := actions.foldlM act x

theorem reaches_follow {actions : List Action} {x x' : Pairing}
    (h : x.follow actions = some x') : Relation.ReflTransGen Step x x' :=
  reaches_of_foldlM (f := act) step_of_act h

end Pairing

/-! ## What a step does to the connection -/

namespace Link

variable {l : Link}

/-- A side has taken a slot and offers a new stream. -/
def offered (l : Link) (kind : StreamKind) (r : Role) : Link :=
  let l' := l.takeSlot kind r
  { l' with streams := l'.streams ++ [Stream.fresh kind r] }.setArrivals kind r.peer
    ((l'.arrivals kind r.peer).offer l'.streams.length)

theorem offer_takeSlot (kind : StreamKind) (r : Role) :
    Opening.offer r kind (l.takeSlot kind r) =
      if (l.arrivals kind r.peer).hasRoom then .ends (.ok l.streams.length, l.offered kind r)
      else .goesOn (.handing kind l.streams.length, l.offered kind r) := by
  cases kind <;> rfl

theorem arrivals_offered (kind kind' : StreamKind) (r r' : Role) :
    (l.offered kind r).arrivals kind' r'.peer =
      if kind = kind' ∧ r = r' then (l.arrivals kind r.peer).offer l.sorts.length
      else l.arrivals kind' r'.peer := by
  rw [offered, arrivals_setArrivals, length_sorts]
  cases kind <;> cases kind' <;> rfl

theorem sorts_offered (kind : StreamKind) (r : Role) :
    (l.offered kind r).sorts = l.sorts ++ [(kind, r)] := by
  rw [offered, sorts_setArrivals]
  cases kind <;> simp [sorts, takeSlot, Stream.sort, Stream.fresh]

theorem held_offered (kind : StreamKind) (r : Role) : (l.offered kind r).held = l.held := by
  cases kind <;> rfl

theorem sameSlots_offered (kind : StreamKind) (r : Role) :
    SameSlots (l.takeSlot kind r) (l.offered kind r) := sameSlots_addStream _ _ _ _

end Link

namespace Pairing

/-- What a step does to the connection, and what is noted down. -/
inductive Move : Link → List Event → Link → Prop
  /-- The streams are used, if at all. -/
  | used {l : Link} {streams : List Stream} (h : streams.map Stream.sort = l.sorts) :
    Move l [] { l with streams := streams }
  /-- The other side is gone. -/
  | lost {l : Link} {kind : StreamKind} {r : Role} (hfull : l.isFull kind r = false) :
    Move l [] (l.takeSlot kind r)
  | handed {l : Link} {kind : StreamKind} {r : Role} (hfull : l.isFull kind r = false)
    (hheld : l.held.get r.peer = true) (hroom : (l.arrivals kind r.peer).hasRoom = true) :
    Move l [.opened r kind l.sorts.length] (l.offered kind r)
  | queued {l : Link} {kind : StreamKind} {r : Role} (hfull : l.isFull kind r = false)
    (hroom : (l.arrivals kind r.peer).hasRoom = false) : Move l [] (l.offered kind r)
  | entered {l : Link} {kind : StreamKind} {r : Role} {id : Nat} {c : Channel Nat}
    (hheld : l.held.get r.peer = true) (h : (l.arrivals kind r.peer).enter? id = some c) :
    Move l [.opened r kind id] (l.setArrivals kind r.peer c)
  | withdrawn {l : Link} {kind : StreamKind} {r : Role} {id : Nat} :
    Move l [] ((l.setArrivals kind r.peer ((l.arrivals kind r.peer).withdraw id)).discard id)
  | taken {l : Link} {kind : StreamKind} {r : Role} {id : Nat} {c : Channel Nat}
    (h : (l.arrivals kind r.peer).take? = some (id, c)) :
    Move l [.accepted r.peer kind id] (l.setArrivals kind r.peer c)
  | closed {l : Link} {r : Role} {code : TerminationCode} {reason : ReasonPhrase} :
    Move l [.closed r code reason] (l.close code reason)
  | left {l : Link} {r : Role} : Move l [] (l.detach r)

namespace Move

variable {r : Role} {pick : Pick} {l l' : Link} {result : Except Failure Nat}

theorem stays (l : Link) : Move l [] l := @used l l.streams rfl

theorem of_opening_goesOn {call call' : Opening} (h : call.step r l = .goesOn (call', l')) :
    Move l [] l' := by
  cases call with
  | start kind =>
    simp only [Opening.step, Link.offer_takeSlot] at h
    split_ifs at h with hclosed hfull hgone hroom
    obtain ⟨-, rfl⟩ := by simpa using h
    exact .queued (by simpa using hfull) (by simpa using hroom)
  | handing kind id =>
    simp only [Opening.step] at h
    split_ifs at h
    split at h <;> cases h

theorem of_opening_ends {call : Opening} (h : call.step r l = .ends (result, l')) :
    Move l (Task.events r (.opening call) result) l' := by
  cases call with
  | start kind =>
    simp only [Opening.step, Link.offer_takeSlot] at h
    split_ifs at h with hclosed hfull hgone hroom <;> obtain ⟨rfl, rfl⟩ := by simpa using h
    · exact .stays l
    · exact .stays l
    · exact .lost (by simpa using hfull)
    · have hfree : l.isFull kind r = false := by simpa using hfull
      rw [← Link.length_sorts]
      exact .handed hfree (by simpa using hgone) hroom
  | handing kind id =>
    simp only [Opening.step] at h
    split_ifs at h with hgone
    · obtain ⟨rfl, rfl⟩ := by simpa using h
      exact .withdrawn
    · split at h
      · next c henter =>
        obtain ⟨rfl, rfl⟩ := by simpa using h
        exact .entered (by simpa using hgone) henter
      · cases h

theorem of_accepting_goesOn {call call' : Accepting}
    (h : call.step r pick l = .goesOn (call', l')) : Move l [] l' := by
  obtain rfl := Accepting.eq_of_goesOn h
  exact .stays _

theorem of_accepting_ends {call : Accepting} (h : call.step r pick l = .ends (result, l')) :
    Move l (Task.events r (.accepting call) result) l' := by
  obtain ⟨rfl, f, rfl⟩ | ⟨kind, id, rest, rfl, htake, rfl, rfl⟩ := Accepting.cases_of_ends h
  · exact .stays _
  · obtain ⟨opener, rfl⟩ : ∃ opener : Role, r = opener.peer := ⟨r.peer, r.peer_peer.symm⟩
    exact .taken htake

/-- A call that goes on gets no stream yet. -/
theorem of_goesOn {task task' : Task} (h : task.step r pick l = .goesOn (task', l')) :
    Move l [] l' := by
  cases task with
  | opening call =>
    obtain ⟨⟨call', l''⟩, hstep, he⟩ := Attempt.map_eq_goesOn.mp h
    obtain ⟨rfl, rfl⟩ := Prod.mk.inj he
    exact of_opening_goesOn hstep
  | accepting call =>
    obtain ⟨⟨call', l''⟩, hstep, he⟩ := Attempt.map_eq_goesOn.mp h
    obtain ⟨rfl, rfl⟩ := Prod.mk.inj he
    exact of_accepting_goesOn hstep

theorem of_ends {task : Task} (h : task.step r pick l = .ends (result, l')) :
    Move l (task.events r result) l' := by
  cases task with
  | opening call =>
    obtain ⟨_, hstep, rfl⟩ := Attempt.map_eq_ends.mp h
    exact of_opening_ends hstep
  | accepting call =>
    obtain ⟨_, hstep, rfl⟩ := Attempt.map_eq_ends.mp h
    exact of_accepting_ends hstep

theorem of_abandon (task : Task) : Move l [] (task.abandon r l) := by
  cases task with
  | opening call =>
    cases call with
    | start kind => exact .stays l
    | handing kind id => exact .withdrawn
  | accepting call => exact .stays l

end Move

/-- What a step can do to the connection does not depend on the calls. -/
theorem Step.move {x x' : Pairing} (h : Step x x') :
    ∃ events, x'.events = x.events ++ events ∧ Move x.link events x'.link := by
  cases h with
  | begins => exact ⟨[], (List.append_nil _).symm, .stays _⟩
  | goesOn pick hi hc h => exact ⟨_, rfl, .of_goesOn h⟩
  | ends pick hi hc h => exact ⟨_, rfl, .of_ends h⟩
  | givenUp => exact ⟨_, rfl, .of_abandon _⟩
  | closed => exact ⟨_, rfl, .closed⟩
  | left => exact ⟨[], (List.append_nil _).symm, .left⟩
  | used hsorts => exact ⟨[], (List.append_nil _).symm, .used hsorts⟩

end Pairing

end MediaOverQuic
