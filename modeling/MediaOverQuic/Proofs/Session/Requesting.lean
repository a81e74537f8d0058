import Mathlib.Tactic
import MediaOverQuic.Proofs.Session.Acceptable
import MediaOverQuic.Proofs.Session.Window

/-!
# Limits that are reported

A call that gets no request id tells the peer of the limit that is in the way. It is refused the id
in one step and looks the limit up in a later one, and between the two a higher limit may have come.
So the limit that is reported is reached, or it is higher than the one that was reached.
-/
namespace MediaOverQuic

/-- What a step has added to the bytes that a session's control stream carries to the peer. -/
def Session.written (s : Session) (l l' : Link) : Bytes :=
  (l'.inbound s.control.stream s.role.peer).buffer.drop
    (l.inbound s.control.stream s.role.peer).buffer.length

namespace Requesting

/-- How far a call is that takes a request id. -/
inductive Progress
  | underWay (call : NewRequest)
  | returned (result : Except Error (Option Nat))
  | givenUp
  deriving DecidableEq

/-- A call that takes a request id, and what it has met. -/
structure Call where
  progress : Progress
  /-- The state in which the call asked for an id. -/
  asked : Option SessionState
  /-- The state in which the call looked up the limit to report. -/
  looked : Option SessionState
  /-- What the call has put on the control stream. -/
  sent : Bytes
  deriving DecidableEq

namespace Call

def start : Call := ⟨.underWay .allocating, none, none, []⟩

/-- Notes the state that a step looks at. -/
def meets (c : Call) (n : NewRequest) (state : SessionState) : Call :=
  match n with
  | .allocating => { c with asked := some state }
  | .blocked => { c with looked := some state }
  | .reporting _ => c

def underWay? (c : Call) : Option NewRequest :=
  match c.progress with
  | .underWay n => some n
  | .returned _ | .givenUp => none

end Call

/-- What can be done on a session. -/
inductive Action
  | ask
  | goOn (i : Nat)
  | giveUp (i : Nat)
  | timeOut (i : Nat)
  /-- A message of the peer is handled that raises the limit. -/
  | raise (limit : Nat)

end Requesting

/-- A session and the calls on it that take request ids. -/
structure Requesting where
  session : Session
  link : Link
  calls : List Requesting.Call

namespace Requesting

def start (s : Session) (l : Link) : Requesting := ⟨s, l, []⟩

def afterStep (x : Requesting) (i : Nat) (c : Call) :
    Attempt (NewRequest × Session × Link) (Except Error (Option Nat) × Session × Link) →
      Option Requesting
  | .waits => none
  | .goesOn (n, s, l) => some ⟨s, l, x.calls.set i { c with
      progress := .underWay n
      sent := c.sent ++ x.session.written x.link l }⟩
  | .ends (result, s, l) => some ⟨s, l, x.calls.set i { c with
      progress := .returned result
      sent := c.sent ++ x.session.written x.link l }⟩

/-- What becomes of the session when something is done on it, if that can be done. -/
def act (x : Requesting) (a : Action) : Option Requesting :=
  match a with
  | .ask => some { x with calls := x.calls ++ [.start] }
  | .goOn i => do
    let c ← x.calls[i]?
    let n ← c.underWay?
    x.afterStep i (c.meets n x.session.state) (n.step x.session x.link)
  | .giveUp i => do
    let c ← x.calls[i]?
    let n ← c.underWay?
    return { x with
      session := x.session.giveUp n.sending?
      calls := x.calls.set i { c with progress := .givenUp } }
  | .timeOut i => do
    let c ← x.calls[i]?
    let call ← (← c.underWay?).sending?
    let (e, s, l) := Session.sendingTimedOut .requestsBlocked call x.session x.link
    return ⟨s, l, x.calls.set i { c with progress := .returned (.error e) }⟩
  | .raise limit => do
    let s ← (x.session.handle (.maxRequestId limit)).toOption
    return { x with session := s }

/-- What everything else leaves alone: which control stream it is, and the ids to be taken. -/
structure Keeps (s s' : Session) : Prop where
  role : s'.role = s.role
  stream : s'.control.stream = s.control.stream
  limit : s'.control.limit = s.control.limit
  nextOutgoing : s'.state.nextOutgoing = s.state.nextOutgoing
  maxOutgoing : s'.state.maxOutgoing = s.state.maxOutgoing

/-- All that can happen. Besides what is done, the session and the connection may change in any way
that has to do neither with the ids nor with which control stream it is. -/
inductive Step : Requesting → Requesting → Prop
  | act {x x' : Requesting} (a : Action) (h : x.act a = some x') : Step x x'
  | elsewhere {x : Requesting} {s : Session} {l : Link} (hs : Keeps x.session s)
      (hl : s.control.stream < l.streams.length) : Step x ⟨s, l, x.calls⟩

/-- Does this in order. -/
def follow (x : Requesting) (actions : List Action) : Option Requesting := actions.foldlM act x

theorem reaches_follow {actions : List Action} {x x' : Requesting}
    (h : x.follow actions = some x') : Relation.ReflTransGen Step x x' :=
  reaches_of_foldlM (fun h => .act _ h) h

/-! ## What a call has met -/

/-- The ids that were taken and the limit only grow from one state to another. -/
structure Grows (s s' : SessionState) : Prop where
  nextOutgoing : s.nextOutgoing ≤ s'.nextOutgoing
  maxOutgoing : s.maxOutgoing ≤ s'.maxOutgoing

theorem Grows.refl (s : SessionState) : Grows s s := ⟨le_rfl, le_rfl⟩

theorem Grows.trans {s t u : SessionState} (h : Grows s t) (h' : Grows t u) : Grows s u :=
  ⟨h.nextOutgoing.trans h'.nextOutgoing, h.maxOutgoing.trans h'.maxOutgoing⟩

/-- What always holds of a call, by how far it is. One that was refused an id had found the limit
reached, and what it sends is the limit that it has looked up since. -/
inductive Accounts (limit : Nat) (now : SessionState) : Call → Prop
  | asking : Accounts limit now .start
  | refused {asked : SessionState} (h : asked.maxOutgoing ≤ asked.nextOutgoing)
      (hnow : Grows asked now) :
    Accounts limit now ⟨.underWay .blocked, some asked, none, []⟩
  | reporting {asked looked : SessionState} {call : Sending} {sent : Bytes}
      (h : asked.maxOutgoing ≤ asked.nextOutgoing) (hlooked : Grows asked looked)
      (hsent : Frame.encode limit (.requestsBlocked looked.maxOutgoing) =
        .ok (sent ++ call.unsent)) :
    Accounts limit now ⟨.underWay (.reporting call), some asked, some looked, sent⟩
  | got {asked : SessionState} (h : asked.nextOutgoing < asked.maxOutgoing) :
    Accounts limit now ⟨.returned (.ok (some asked.nextOutgoing)), some asked, none, []⟩
  | reported {asked looked : SessionState} {sent : Bytes}
      (h : asked.maxOutgoing ≤ asked.nextOutgoing) (hlooked : Grows asked looked)
      (hsent : Frame.encode limit (.requestsBlocked looked.maxOutgoing) = .ok sent) :
    Accounts limit now ⟨.returned (.ok none), some asked, some looked, sent⟩
  | failed {asked looked : Option SessionState} {sent : Bytes} (e : Error) :
    Accounts limit now ⟨.returned (.error e), asked, looked, sent⟩
  | givenUp {asked looked : Option SessionState} {sent : Bytes} :
    Accounts limit now ⟨.givenUp, asked, looked, sent⟩

theorem Accounts.mono {limit : Nat} {now later : SessionState} {c : Call}
    (h : Accounts limit now c) (hgrows : Grows now later) : Accounts limit later c := by
  cases h with
  | asking => exact .asking
  | refused h hnow => exact .refused h (hnow.trans hgrows)
  | reporting h hlooked hsent => exact .reporting h hlooked hsent
  | got h => exact .got h
  | reported h hlooked hsent => exact .reported h hlooked hsent
  | failed e => exact .failed e
  | givenUp => exact .givenUp

/-! ## Steps of a call -/

section Call

variable {s s' : Session} {l l' : Link} {n n' : NewRequest} {limit : Nat} {c : Call}

theorem written_self (s : Session) (l : Link) : s.written l l = [] := List.drop_length

theorem written_setInbound (hl : s.control.stream < l.streams.length) {q : Pipe} {chunk : Bytes}
    (hq : q.buffer = (l.inbound s.control.stream s.role.peer).buffer ++ chunk) :
    s.written l (l.setInbound s.control.stream s.role.peer q) = chunk := by
  rw [Session.written, Link.inbound_setInbound hl, hq, List.drop_left]

/-- What a step of a call leaves as it was. -/
structure Keeping (s s' : Session) (l l' : Link) : Prop where
  limit : s'.control.limit = s.control.limit
  stream : s'.control.stream = s.control.stream
  length : l'.streams.length = l.streams.length
  grows : Grows s.state s'.state

theorem Keeping.refl (s : Session) (l : Link) : Keeping s s l l := ⟨rfl, rfl, rfl, .refl _⟩

/-- A call that goes on sending has put the front of what it had to send on the stream. -/
theorem sends_of_goesOn {call call' : Sending} (hl : s.control.stream < l.streams.length)
    (h : Session.stepSending call s l = .goesOn (call', s', l')) :
    call.unsent = s.written l l' ++ call'.unsent ∧ Keeping s s' l l' := by
  obtain ⟨c, q, hcall, rfl, rfl⟩ := Session.stepSending_eq_goesOn h
  obtain ⟨hstream, hlimit, -⟩ := Sending.keeps_of_goesOn (o := .pipe []) hcall
  refine ⟨?_, hlimit, hstream, Link.length_streams_setInbound _ _ _ _, .refl _⟩
  rcases Sending.stepWith_eq_goesOn (o := .pipe []) hcall with
    ⟨t, frame, rfl, -, -, rfl, -, rfl⟩ | ⟨t, chunk, rest, rfl, rfl, -, hq⟩
  · rw [written_setInbound hl (List.append_nil _).symm]
    rfl
  · rw [written_setInbound hl hq]
    rfl

/-- A call that is done sending had nothing left to send. -/
theorem sends_of_ends {call : Sending} {result : Except Error Unit}
    (hl : s.control.stream < l.streams.length)
    (h : Session.stepSending call s l = .ends (result, s', l')) :
    (result = .ok () → call.unsent = s.written l l') ∧ Keeping s s' l l' := by
  obtain ⟨c, q, hcall, rfl, rfl⟩ := Session.stepSending_eq_ends h
  obtain ⟨hstream, hlimit, -⟩ := Sending.keeps_of_ends (o := .pipe []) hcall
  refine ⟨?_, hlimit, hstream, Link.length_streams_setInbound _ _ _ _, .refl _⟩
  rintro rfl
  rcases Sending.stepWith_eq_ends (o := .pipe []) hcall with
    ⟨t, frame, -, -, -, he, -⟩ | ⟨t, rfl, -, -, hq⟩ | ⟨t, rest, chunk, e, -, -, he, -⟩
  · cases he
  · rw [written_setInbound hl (hq.trans (List.append_nil _).symm)]
    rfl
  · cases he

/-- A call that joins the line of the writers has a frame to send. -/
theorem encode_of_send {m : Message} {call : Sending} (h : s.send m = .ok (call, s')) :
    Frame.encode s.control.limit m = .ok call.unsent ∧ Keeping s s' l l := by
  obtain ⟨c, hc, rfl⟩ := Session.send_eq_ok_iff.mp h
  obtain ⟨hstream, hlimit, -⟩ := ControlStream.keeps_of_send hc
  refine ⟨?_, hlimit, hstream, rfl, .refl _⟩
  simp only [ControlStream.send] at hc
  split at hc
  · cases hc
  · next frame hframe =>
    obtain ⟨rfl, -⟩ := Prod.mk.inj (Except.ok.inj hc)
    exact hframe

theorem refused_of_goesOn {next : NewRequest × Session × Link}
    (h : NewRequest.allocating.step s l = .goesOn next) :
    s.state.maxOutgoing ≤ s.state.nextOutgoing := by
  by_contra hlt
  simp only [NewRequest.step, SessionState.allocate, if_pos (Nat.lt_of_not_le hlt)] at h
  cases h

theorem keeping_of_raise {limit : Nat} (h : s.handle (.maxRequestId limit) = .ok s') :
    Keeping s s' l l := by
  simp only [Session.handle] at h
  cases hstate : s.state.handle (.maxRequestId limit) with
  | error e =>
    rw [hstate] at h
    cases h
  | ok state =>
    rw [hstate] at h
    obtain rfl := Except.ok.inj h
    obtain ⟨hlt, rfl⟩ := SessionState.handle_eq_ok_iff.mp hstate
    exact ⟨rfl, rfl, rfl, ⟨le_rfl, Nat.le_of_lt hlt⟩⟩

/-- Going on, a call meets what it has to account for. -/
theorem Accounts.goesOn (h : Accounts s.control.limit s.state c)
    (hl : s.control.stream < l.streams.length) (hn : c.underWay? = some n)
    (hstep : n.step s l = .goesOn (n', s', l')) :
    Keeping s s' l l' ∧ Accounts s.control.limit s'.state { c.meets n s.state with
      progress := .underWay n'
      sent := (c.meets n s.state).sent ++ s.written l l' } := by
  -- the call is refused an id, or looks up the limit, or goes on sending it
  rcases NewRequest.step_eq_goesOn hstep with ⟨rfl, rfl, rfl, rfl⟩ |
    ⟨rfl, call, hsend, rfl, rfl⟩ | ⟨call, call', rfl, rfl, hsending⟩
  · refine ⟨.refl _ _, ?_⟩
    rw [written_self]
    cases h with
    | asking => exact .refused (refused_of_goesOn hstep) (.refl _)
    | _ => cases hn
  · obtain ⟨hframe, hkeep⟩ := encode_of_send hsend (l := l')
    refine ⟨hkeep, ?_⟩
    rw [written_self]
    cases h with
    | refused h hnow => exact .reporting h hnow hframe
    | _ => cases hn
  · obtain ⟨hunsent, hkeep⟩ := sends_of_goesOn hl hsending
    refine ⟨hkeep, ?_⟩
    cases h with
    | reporting h hlooked hsent =>
      obtain rfl : _ = call := by simpa [Call.underWay?] using hn
      refine .reporting h hlooked ?_
      rw [hsent, hunsent]
      simp [Call.meets]
    | _ => cases hn

theorem Accounts.ends {result : Except Error (Option Nat)}
    (h : Accounts s.control.limit s.state c) (hl : s.control.stream < l.streams.length)
    (hn : c.underWay? = some n) (hstep : n.step s l = .ends (result, s', l')) :
    Keeping s s' l l' ∧ Accounts s.control.limit s'.state { c.meets n s.state with
      progress := .returned result
      sent := (c.meets n s.state).sent ++ s.written l l' } := by
  rcases NewRequest.step_eq_ends hstep with ⟨rfl, hlt, rfl, rfl, rfl⟩ |
    ⟨rfl, ⟨e, rfl⟩, rfl, rfl⟩ | ⟨call, sent, rfl, rfl, hsending⟩
  · refine ⟨⟨rfl, rfl, rfl, ⟨Nat.le_add_right _ _, le_rfl⟩⟩, ?_⟩
    rw [written_self]
    cases h with
    | asking => exact .got hlt
    | _ => cases hn
  · exact ⟨.refl _ _, .failed e⟩
  · obtain ⟨hdone, hkeep⟩ := sends_of_ends hl hsending
    refine ⟨hkeep, ?_⟩
    cases sent with
    | error e => exact .failed e
    | ok done =>
      cases h with
      | reporting h hlooked hsent =>
        obtain rfl : _ = call := by simpa [Call.underWay?] using hn
        refine .reported h hlooked ?_
        rw [hsent, hdone rfl]
        rfl
      | _ => cases hn

end Call

/-! ## Runs -/

/-- What always holds of a session and the calls on it. -/
structure Sound (limit : Nat) (x : Requesting) : Prop where
  placed : x.session.control.stream < x.link.streams.length
  limit_eq : x.session.control.limit = limit
  calls : ∀ c ∈ x.calls, Accounts limit x.session.state c

variable {limit : Nat} {x x' : Requesting}

theorem Sound.change (h : Sound limit x) {s : Session} {l : Link}
    (hl : s.control.stream < l.streams.length)
    (hlimit : s.control.limit = x.session.control.limit) (hgrows : Grows x.session.state s.state) :
    Sound limit ⟨s, l, x.calls⟩ :=
  ⟨hl, hlimit.trans h.limit_eq, fun c hc => (h.calls c hc).mono hgrows⟩

theorem Sound.set (h : Sound limit x) (i : Nat) {c : Call}
    (hc : Accounts limit x.session.state c) :
    Sound limit { x with calls := x.calls.set i c } where
  placed := h.placed
  limit_eq := h.limit_eq
  calls := by
    intro c' hmem
    rcases List.mem_or_eq_of_mem_set hmem with hmem | rfl
    · exact h.calls c' hmem
    · exact hc

/-- One call goes on or ends, the others are left as they were. -/
theorem Sound.keep (h : Sound limit x) {s : Session} {l : Link}
    (hkeep : Keeping x.session s x.link l) (i : Nat) {c : Call}
    (hc : Accounts limit s.state c) :
    Sound limit ⟨s, l, x.calls.set i c⟩ := by
  have hl : s.control.stream < l.streams.length := by
    rw [hkeep.stream, hkeep.length]
    exact h.placed
  exact (h.change hl hkeep.limit hkeep.grows).set i hc

theorem Sound.goOn (h : Sound limit x) {i : Nat} {c : Call} {n : NewRequest}
    (hi : x.calls[i]? = some c) (hn : c.underWay? = some n)
    (hx : x.afterStep i (c.meets n x.session.state) (n.step x.session x.link) = some x') :
    Sound limit x' := by
  have hc : Accounts x.session.control.limit x.session.state c :=
    h.limit_eq ▸ h.calls c (List.mem_of_getElem? hi)
  cases hstep : n.step x.session x.link with
  | waits =>
    rw [hstep] at hx
    cases hx
  | goesOn next =>
    rw [hstep] at hx
    obtain rfl := Option.some.inj hx
    obtain ⟨hkeep, hcall⟩ := hc.goesOn h.placed hn hstep
    exact h.keep hkeep i (h.limit_eq ▸ hcall)
  | ends done =>
    rw [hstep] at hx
    obtain rfl := Option.some.inj hx
    obtain ⟨hkeep, hcall⟩ := hc.ends h.placed hn hstep
    exact h.keep hkeep i (h.limit_eq ▸ hcall)

theorem Sound.act (h : Sound limit x) {a : Action} (ha : x.act a = some x') : Sound limit x' := by
  cases a with
  | ask =>
    obtain rfl := Option.some.inj ha
    refine ⟨h.placed, h.limit_eq, fun c hc => ?_⟩
    rcases List.mem_append.mp hc with hc | hc
    · exact h.calls c hc
    · obtain rfl := List.mem_singleton.mp hc
      exact .asking
  | goOn i =>
    obtain ⟨c, hi, ha⟩ := Option.bind_eq_some_iff.mp ha
    obtain ⟨n, hn, hx⟩ := Option.bind_eq_some_iff.mp ha
    exact h.goOn hi hn hx
  | giveUp i =>
    obtain ⟨c, -, ha⟩ := Option.bind_eq_some_iff.mp ha
    obtain ⟨n, -, hx⟩ := Option.bind_eq_some_iff.mp ha
    obtain rfl := Option.some.inj hx
    refine h.keep ?_ i .givenUp
    cases n.sending? <;> exact ⟨rfl, rfl, rfl, .refl _⟩
  | timeOut i =>
    obtain ⟨c, -, ha⟩ := Option.bind_eq_some_iff.mp ha
    obtain ⟨n, -, ha⟩ := Option.bind_eq_some_iff.mp ha
    obtain ⟨call, -, hx⟩ := Option.bind_eq_some_iff.mp ha
    simp only [Session.sendingTimedOut] at hx
    obtain rfl := Option.some.inj hx
    refine h.keep ?_ i (.failed _)
    exact ⟨rfl, rfl, rfl, .refl _⟩
  | raise v =>
    obtain ⟨s, hs, hx⟩ := Option.bind_eq_some_iff.mp ha
    obtain rfl := Option.some.inj hx
    have hkeep : Keeping x.session s x.link x.link := keeping_of_raise (eq_ok_of_toOption hs)
    exact h.change (hkeep.stream ▸ h.placed) hkeep.limit hkeep.grows

theorem Sound.run (h : Sound limit x) (hx : Relation.ReflTransGen Step x x') : Sound limit x' := by
  induction hx with
  | refl => exact h
  | tail _ hstep ih =>
    cases hstep with
    | act a ha => exact ih.act ha
    | elsewhere hs hl =>
      exact ih.change hl hs.limit ⟨hs.nextOutgoing.ge, hs.maxOutgoing.ge⟩

/-- However calls that take request ids interleave with each other, with higher limits that come and
with all else: a call that gets an id has sent nothing. One that gets none has sent the limit that
it has looked up, and nothing else. The limit was reached when the call was refused an id, and the
one that it has looked up is reached at that time, unless it is a higher one that has come since. -/
theorem reported_limit_blocks_unless_raised {s : Session} {l : Link}
    (hl : s.control.stream < l.streams.length)
    (h : Relation.ReflTransGen Step (start s l) x) {c : Call} (hc : c ∈ x.calls) :
    (∀ id, c.progress = .returned (.ok (some id)) → c.sent = [] ∧ c.looked = none ∧
      ∃ asked, c.asked = some asked ∧ asked.nextOutgoing = id ∧ id < asked.maxOutgoing) ∧
    (c.progress = .returned (.ok none) → ∃ asked looked,
      c.asked = some asked ∧ c.looked = some looked ∧
      Frame.encode s.control.limit (.requestsBlocked looked.maxOutgoing) = .ok c.sent ∧
      asked.maxOutgoing ≤ asked.nextOutgoing ∧
      (looked.maxOutgoing ≤ looked.nextOutgoing ∨ asked.maxOutgoing < looked.maxOutgoing)) := by
  have hstart : Sound s.control.limit (start s l) := ⟨hl, rfl, fun c hc => by cases hc⟩
  have hcall : Accounts s.control.limit x.session.state c := (hstart.run h).calls c hc
  constructor
  · intro id hid
    cases hcall with
    | got hlt =>
      obtain rfl : _ = id := by simpa using hid
      exact ⟨rfl, rfl, _, rfl, rfl, hlt⟩
    | _ => cases hid
  · intro hnone
    cases hcall with
    | reported hrefused hgrows hsent =>
      refine ⟨_, _, rfl, rfl, hsent, hrefused, ?_⟩
      -- a limit that is the same as before is still reached, since the next id only grows
      have hnext := hgrows.nextOutgoing
      have hmax := hgrows.maxOutgoing
      omega
    | _ => cases hnone

/-- A client that may not make any request yet, on a connection that has its control stream. -/
def silenced : Session where
  role := .client
  control := .fresh 0 65535
  state := .start .client 1000 0
  config := .standard

def wired : Link := { Link.fresh false 1 with streams := [.fresh .bidirectional .client] }

/-- One call is refused an id and reports that. Then the limit is raised, and another one gets an
id. -/
def inTurn : List Action :=
  [.ask, .goOn 0, .goOn 0, .goOn 0, .goOn 0, .goOn 0, .raise 1, .ask, .goOn 1]

theorem reported_limit_blocks_unless_raised_silenced :
    ∃ (x : Requesting) (c c' : Call), Relation.ReflTransGen Step (start silenced wired) x ∧
      x.calls = [c, c'] ∧ c'.sent = [] ∧ ∃ asked looked,
        c.asked = some asked ∧ c.looked = some looked ∧
        Frame.encode 65535 (.requestsBlocked looked.maxOutgoing) = .ok c.sent ∧
        asked.maxOutgoing ≤ asked.nextOutgoing ∧
        (looked.maxOutgoing ≤ looked.nextOutgoing ∨ asked.maxOutgoing < looked.maxOutgoing) := by
  have hrun : ((start silenced wired).follow inTurn).any (fun x => x.calls.map (·.progress) =
      [.returned (.ok none), .returned (.ok (some 0))]) = true := by
    decide +kernel
  obtain ⟨x, hx, hok⟩ := (Option.any_eq_true _ _).mp hrun
  obtain ⟨c, later, hcalls, hc, hlater⟩ := List.map_eq_cons_iff.mp (of_decide_eq_true hok)
  obtain ⟨c', rfl, hc'⟩ := List.map_eq_singleton_iff.mp hlater
  have hreach := reaches_follow hx
  have hl : silenced.control.stream < wired.streams.length := by decide
  obtain ⟨-, hnone⟩ := reported_limit_blocks_unless_raised hl hreach (c := c) (by simp [hcalls])
  obtain ⟨hsome, -⟩ := reported_limit_blocks_unless_raised hl hreach (c := c') (by simp [hcalls])
  exact ⟨x, c, c', hreach, hcalls, (hsome 0 hc').1, hnone hc⟩

/-- The server allows the requests 0 and 1 at first. -/
def sparing : PerRole Config := ⟨.standard, { Config.standard with maxIncomingRequestId := 2 }⟩

/-- The limit is raised to 6 when a call was refused the id 2 and has not looked up the limit. -/
def overtaken : List Action :=
  [.ask, .goOn 0, .ask, .goOn 1, .raise 6, .goOn 1, .goOn 1, .goOn 1, .goOn 1]

/-- A call that was refused the id 2 looks up the limit when it was raised to 6. It tells the server
that this limit is in the way, and its caller that there is no id, while there are two. -/
theorem reported_limit_leaves_ids :
    ∃ (e : Scenario.Encounter) (c s : Session) (x : Requesting) (call : Call)
      (looked : SessionState),
      Relation.ReflTransGen Scenario.Encounter.Step
        (Scenario.Encounter.start (.fresh false 1) sparing (.both [])) e ∧
      e.parties.client.result = some (.ok c) ∧ e.parties.server.result = some (.ok s) ∧
      Relation.ReflTransGen Step (start c e.link) x ∧ call ∈ x.calls ∧
      call.progress = .returned (.ok none) ∧ call.looked = some looked ∧
      call.sent = Frame.wire (.requestsBlocked looked.maxOutgoing) ∧
      looked.nextOutgoing = 2 ∧ looked.maxOutgoing = 6 := by
  obtain ⟨e, c, s, hrun, hc, hs, hok⟩ := Exchange.exists_sessions_of_follow sparing (.both [])
    Exchange.prompt
    (p := fun e c _ => ((start c e.link).follow overtaken).any fun x => x.calls.any fun call =>
      call.progress = .returned (.ok none) ∧ call.looked.any fun looked =>
        call.sent = Frame.wire (.requestsBlocked looked.maxOutgoing) ∧
        looked.nextOutgoing = 2 ∧ looked.maxOutgoing = 6)
    (by decide +kernel)
  obtain ⟨x, hx, hok⟩ := (Option.any_eq_true _ _).mp hok
  obtain ⟨call, hmem, hok⟩ := List.any_eq_true.mp hok
  obtain ⟨hprogress, hok⟩ := of_decide_eq_true hok
  obtain ⟨looked, hlooked, hok⟩ := (Option.any_eq_true _ _).mp hok
  obtain ⟨hsent, hnext, hmax⟩ := of_decide_eq_true hok
  exact ⟨e, c, s, x, call, looked, hrun, hc, hs, reaches_follow hx, hmem, hprogress, hlooked,
    hsent, hnext, hmax⟩

end Requesting

end MediaOverQuic
