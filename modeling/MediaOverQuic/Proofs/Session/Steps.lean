import Mathlib.Tactic
import MediaOverQuic.Proofs.Control.Calls
import MediaOverQuic.Proofs.Eventually
import MediaOverQuic.Proofs.Transport.Link
import MediaOverQuic.Session.Requests

/-!
# Steps of calls on a session

A step of a call that sends or receives is one on the control stream and on the pipe that its side
writes to or reads from, and on nothing else. So calls that only send do not touch what is read.
-/
namespace MediaOverQuic

theorem ControlStream.keeps_of_send {c c' : ControlStream} {m : Message} {call : Sending}
    (h : c.send m = .ok (call, c')) :
    c'.stream = c.stream ∧ c'.limit = c.limit ∧ c'.readers = c.readers := by
  unfold ControlStream.send at h
  split at h
  · cases h
  · obtain ⟨-, rfl⟩ := Prod.mk.inj (Except.ok.inj h)
    exact ⟨rfl, rfl, rfl⟩

namespace Session

variable {s s' : Session} {l l' : Link}

theorem send_eq_ok_iff {m : Message} {call : Sending} : s.send m = .ok (call, s') ↔
    ∃ c, s.control.send m = .ok (call, c) ∧ s' = { s with control := c } := by
  unfold send
  cases s.control.send m with
  | error e => simp [Except.map]
  | ok next =>
    obtain ⟨call', c⟩ := next
    simp [Except.map, eq_comm]

theorem send_eq_error_iff {m : Message} {e : Error} :
    s.send m = .error e ↔ Frame.encode s.control.limit m = .error e := by
  unfold send ControlStream.send
  cases Frame.encode s.control.limit m <;> simp [Except.map]

/-- A call that sends a message that can be framed joins the line of the writers. -/
theorem send_eq_ok {m : Message} {call : Sending} (hv : m.Valid) (h : s.send m = .ok (call, s')) :
    Frame.Fits s.control.limit m ∧ call = .waiting s.control.writers.next (Frame.wire m) ∧
      s' = { s with control := { s.control with writers := s.control.writers.join.2 } } := by
  unfold send ControlStream.send at h
  cases he : Frame.encode s.control.limit m with
  | error e =>
    rw [he] at h
    cases h
  | ok frame =>
    rw [he] at h
    obtain ⟨hf, rfl⟩ := (Frame.encode_eq_ok_iff hv).mp he
    obtain ⟨rfl, rfl⟩ := Prod.mk.inj (Except.ok.inj h)
    exact ⟨hf, rfl, rfl⟩

theorem send_of_fits {m : Message} (hv : m.Valid) (hf : Frame.Fits s.control.limit m) :
    s.send m = .ok (.waiting s.control.writers.join.1 (Frame.wire m),
      { s with control := { s.control with writers := s.control.writers.join.2 } }) := by
  simp only [send, ControlStream.send, Frame.encode_of_fits hv hf]
  rfl

section Sending

variable {call call' : Sending}

theorem stepSending_eq_goesOn (h : stepSending call s l = .goesOn (call', s', l')) :
    ∃ c q, call.step s.control (l.inbound s.control.stream s.role.peer) = .goesOn (call', c, q) ∧
      s' = { s with control := c } ∧ l' = l.setInbound s.control.stream s.role.peer q := by
  obtain ⟨⟨call₁, c, l₁⟩, h₁, he⟩ := Attempt.map_eq_goesOn.mp h
  obtain ⟨⟨call₂, c₂, q⟩, h₂, he₂⟩ := Attempt.map_eq_goesOn.mp h₁
  obtain ⟨rfl, rfl, rfl⟩ := by simpa using he₂
  obtain ⟨rfl, rfl, rfl⟩ := by simpa using he
  exact ⟨_, _, h₂, rfl, rfl⟩

theorem stepSending_eq_ends {result : Except Error Unit}
    (h : stepSending call s l = .ends (result, s', l')) :
    ∃ c q, call.step s.control (l.inbound s.control.stream s.role.peer) = .ends (result, c, q) ∧
      s' = { s with control := c } ∧ l' = l.setInbound s.control.stream s.role.peer q := by
  obtain ⟨⟨result₁, c, l₁⟩, h₁, he⟩ := Attempt.map_eq_ends.mp h
  obtain ⟨⟨result₂, c₂, q⟩, h₂, he₂⟩ := Attempt.map_eq_ends.mp h₁
  obtain ⟨rfl, rfl, rfl⟩ := by simpa using he₂
  obtain ⟨rfl, rfl, rfl⟩ := by simpa using he
  exact ⟨_, _, h₂, rfl, rfl⟩

theorem stepSending_eq_waits (h : stepSending call s l = .waits) :
    call.step s.control (l.inbound s.control.stream s.role.peer) = .waits :=
  Attempt.map_eq_waits.mp (Attempt.map_eq_waits.mp h)

end Sending

section Receiving

variable {call call' : Receiving}

theorem stepReading_eq_goesOn (h : stepReading call s l = .goesOn (call', s', l')) :
    ∃ c q, call.step s.control (l.inbound s.control.stream s.role) = .goesOn (call', c, q) ∧
      s' = { s with control := c } ∧ l' = l.setInbound s.control.stream s.role q := by
  obtain ⟨⟨call₁, c, l₁⟩, h₁, he⟩ := Attempt.map_eq_goesOn.mp h
  obtain ⟨⟨call₂, c₂, q⟩, h₂, he₂⟩ := Attempt.map_eq_goesOn.mp h₁
  obtain ⟨rfl, rfl, rfl⟩ := by simpa using he₂
  obtain ⟨rfl, rfl, rfl⟩ := by simpa using he
  exact ⟨_, _, h₂, rfl, rfl⟩

theorem stepReading_eq_ends {result : Except Error Message}
    (h : stepReading call s l = .ends (result, s', l')) :
    ∃ c q, call.step s.control (l.inbound s.control.stream s.role) = .ends (result, c, q) ∧
      s' = { s with control := c } ∧ l' = l.setInbound s.control.stream s.role q := by
  obtain ⟨⟨result₁, c, l₁⟩, h₁, he⟩ := Attempt.map_eq_ends.mp h
  obtain ⟨⟨result₂, c₂, q⟩, h₂, he₂⟩ := Attempt.map_eq_ends.mp h₁
  obtain ⟨rfl, rfl, rfl⟩ := by simpa using he₂
  obtain ⟨rfl, rfl, rfl⟩ := by simpa using he
  exact ⟨_, _, h₂, rfl, rfl⟩

end Receiving

end Session

namespace NewRequest

/-- What a request is sending, if it does that. -/
def sending? : NewRequest → Option Sending
  | reporting call => some call
  | allocating | blocked => none

variable {n n' : NewRequest} {s s' : Session} {l l' : Link}

/-- A request that goes on found no id, or begins to report that, or goes on with it. -/
theorem step_eq_goesOn (h : n.step s l = .goesOn (n', s', l')) :
    (n = allocating ∧ n' = blocked ∧ s' = s ∧ l' = l) ∨
    (n = blocked ∧ ∃ call, s.send (.requestsBlocked s.state.maxOutgoing) = .ok (call, s') ∧
      n' = reporting call ∧ l' = l) ∨
    ∃ call call', n = reporting call ∧ n' = reporting call' ∧
      Session.stepSending call s l = .goesOn (call', s', l') := by
  cases n with
  | allocating =>
    simp only [step, SessionState.allocate] at h
    split_ifs at h
    obtain ⟨rfl, rfl, rfl⟩ := by simpa using h
    exact .inl ⟨rfl, rfl, rfl, rfl⟩
  | blocked =>
    simp only [step] at h
    split at h
    · cases h
    · next call s'' hsend =>
      obtain ⟨rfl, rfl, rfl⟩ := by simpa using h
      exact .inr (.inl ⟨rfl, call, hsend, rfl, rfl⟩)
  | reporting call =>
    obtain ⟨⟨call', s₁, l₁⟩, hstep, he⟩ := Attempt.map_eq_goesOn.mp h
    obtain ⟨rfl, rfl, rfl⟩ := by simpa using he
    exact .inr (.inr ⟨call, call', rfl, rfl, hstep⟩)

/-- A request that ends has got the next id, or could not report that there is none, or is done with
that. -/
theorem step_eq_ends {result : Except Error (Option Nat)}
    (h : n.step s l = .ends (result, s', l')) :
    (n = allocating ∧ s.state.nextOutgoing < s.state.maxOutgoing ∧
      result = .ok (some s.state.nextOutgoing) ∧ l' = l ∧
      s' = { s with state := { s.state with nextOutgoing := s.state.nextOutgoing + 2 } }) ∨
    (n = blocked ∧ (∃ e, result = .error e) ∧ s' = s ∧ l' = l) ∨
    ∃ call sent, n = reporting call ∧ result = sent.map (fun _ => none) ∧
      Session.stepSending call s l = .ends (sent, s', l') := by
  cases n with
  | allocating =>
    simp only [step, SessionState.allocate] at h
    split_ifs at h with hlt
    obtain ⟨rfl, rfl, rfl⟩ := by simpa using h
    exact .inl ⟨rfl, hlt, rfl, rfl, rfl⟩
  | blocked =>
    simp only [step] at h
    split at h
    · next e hsend =>
      obtain ⟨rfl, rfl, rfl⟩ := by simpa using h
      exact .inr (.inl ⟨rfl, ⟨e, rfl⟩, rfl, rfl⟩)
    · cases h
  | reporting call =>
    obtain ⟨⟨sent, s₁, l₁⟩, hstep, he⟩ := Attempt.map_eq_ends.mp h
    obtain ⟨rfl, rfl, rfl⟩ := by simpa using he
    exact .inr (.inr ⟨call, sent, rfl, rfl, hstep⟩)

end NewRequest

namespace Granting

def sending? : Granting → Option Sending
  | telling call => some call
  | raising _ | raised _ => none

variable {g g' : Granting} {s s' : Session} {l l' : Link}

/-- A call that goes on has raised the limit, or begins to tell the peer, or goes on with it. -/
theorem step_eq_goesOn (h : g.step s l = .goesOn (g', s', l')) :
    (∃ limit, g = raising limit ∧ s.state.maxIncoming < limit ∧
      g' = raised (.maxRequestId limit) ∧ l' = l ∧
      s' = { s with state := { s.state with maxIncoming := limit } }) ∨
    (∃ m call, g = raised m ∧ s.send m = .ok (call, s') ∧ g' = telling call ∧ l' = l) ∨
    ∃ call call', g = telling call ∧ g' = telling call' ∧
      Session.stepSending call s l = .goesOn (call', s', l') := by
  cases g with
  | raising limit =>
    simp only [step, SessionState.grant] at h
    split_ifs at h with hle
    obtain ⟨rfl, rfl, rfl⟩ := by simpa using h
    exact .inl ⟨limit, rfl, Nat.lt_of_not_le hle, rfl, rfl, rfl⟩
  | raised m =>
    simp only [step] at h
    split at h
    · cases h
    · next call s'' hsend =>
      obtain ⟨rfl, rfl, rfl⟩ := by simpa using h
      exact .inr (.inl ⟨m, call, rfl, hsend, rfl, rfl⟩)
  | telling call =>
    obtain ⟨⟨call', s₁, l₁⟩, hstep, he⟩ := Attempt.map_eq_goesOn.mp h
    obtain ⟨rfl, rfl, rfl⟩ := by simpa using he
    exact .inr (.inr ⟨call, call', rfl, rfl, hstep⟩)

/-- A call that ends had nothing to raise, or could not tell the peer, or is done with that. -/
theorem step_eq_ends {result : Except Error Unit} (h : g.step s l = .ends (result, s', l')) :
    (s' = s ∧ l' = l ∧ g.sending? = none) ∨
    ∃ call, g = telling call ∧ Session.stepSending call s l = .ends (result, s', l') := by
  cases g with
  | raising limit =>
    simp only [step, SessionState.grant] at h
    split_ifs at h
    obtain ⟨rfl, rfl, rfl⟩ := by simpa using h
    exact .inl ⟨rfl, rfl, rfl⟩
  | raised m =>
    simp only [step] at h
    split at h
    · obtain ⟨rfl, rfl, rfl⟩ := by simpa using h
      exact .inl ⟨rfl, rfl, rfl⟩
    · cases h
  | telling call =>
    obtain ⟨⟨sent, s₁, l₁⟩, hstep, he⟩ := Attempt.map_eq_ends.mp h
    obtain ⟨rfl, rfl, rfl⟩ := by simpa using he
    exact .inr ⟨call, rfl, hstep⟩

end Granting

/-! ## Calls that leave reading alone -/

namespace Session

variable {s s' : Session} {l l' : Link}

/-- Whether what is read from the control stream, the limit that the peer set, and whether the
connection is closed, are as before. -/
structure KeepsReading (s s' : Session) (l l' : Link) : Prop where
  role : s'.role = s.role
  stream : s'.control.stream = s.control.stream
  limit : s'.control.limit = s.control.limit
  readers : s'.control.readers = s.control.readers
  maxOutgoing : s'.state.maxOutgoing = s.state.maxOutgoing
  inbound : l'.inbound s.control.stream s.role = l.inbound s.control.stream s.role
  streams : l.streams.length ≤ l'.streams.length
  closing : l'.closing = l.closing

/-- A call that sends leaves what is read alone. -/
theorem KeepsReading.sent {c : ControlStream} (state : SessionState) (q : Pipe)
    (hc : c.stream = s.control.stream ∧ c.limit = s.control.limit ∧ c.readers = s.control.readers)
    (hstate : state.maxOutgoing = s.state.maxOutgoing) :
    KeepsReading s { s with control := c, state := state } l
      (l.setInbound s.control.stream s.role.peer q) where
  role := rfl
  stream := hc.1
  limit := hc.2.1
  readers := hc.2.2
  maxOutgoing := hstate
  inbound := Link.inbound_setInbound_ne (Role.peer_ne s.role).symm q
  streams := (Link.length_streams_setInbound _ _ _ _).ge
  closing := rfl

/-- A call that changes only the state leaves what is read alone, and so does one that only joins
the line of the writers. -/
theorem KeepsReading.stayed {c : ControlStream} (state : SessionState) (l : Link)
    (hc : c.stream = s.control.stream ∧ c.limit = s.control.limit ∧ c.readers = s.control.readers)
    (hstate : state.maxOutgoing = s.state.maxOutgoing) :
    KeepsReading s { s with control := c, state := state } l l :=
  ⟨rfl, hc.1, hc.2.1, hc.2.2, hstate, rfl, le_rfl, rfl⟩

theorem keepsReading_of_sending {call call' : Sending}
    (h : stepSending call s l = .goesOn (call', s', l')) : KeepsReading s s' l l' := by
  obtain ⟨c, q, hstep, rfl, rfl⟩ := stepSending_eq_goesOn h
  exact .sent s.state q (Sending.keeps_of_goesOn (o := .pipe []) hstep) rfl

theorem keepsReading_of_sent {call : Sending} {result : Except Error Unit}
    (h : stepSending call s l = .ends (result, s', l')) : KeepsReading s s' l l' := by
  obtain ⟨c, q, hstep, rfl, rfl⟩ := stepSending_eq_ends h
  exact .sent s.state q (Sending.keeps_of_ends (o := .pipe []) hstep) rfl

theorem keepsReading_of_send {m : Message} {call : Sending} (l : Link)
    (h : s.send m = .ok (call, s')) : KeepsReading s s' l l := by
  obtain ⟨c, hc, rfl⟩ := send_eq_ok_iff.mp h
  exact .stayed s.state l (ControlStream.keeps_of_send hc) rfl

/-- A call that raises the limit for the peer's requests leaves what is read alone. -/
theorem keepsReading_of_granting {g g' : Granting} (h : g.step s l = .goesOn (g', s', l')) :
    KeepsReading s s' l l' := by
  rcases Granting.step_eq_goesOn h with ⟨limit, -, -, -, rfl, rfl⟩ | ⟨m, call, -, hsend, -, rfl⟩ |
    ⟨call, call', -, -, hstep⟩
  · exact .stayed _ l' ⟨rfl, rfl, rfl⟩ rfl
  · exact keepsReading_of_send l' hsend
  · exact keepsReading_of_sending hstep

theorem keepsReading_of_granted {g : Granting} {result : Except Error Unit}
    (h : g.step s l = .ends (result, s', l')) : KeepsReading s s' l l' := by
  rcases Granting.step_eq_ends h with ⟨rfl, rfl, -⟩ | ⟨call, -, hstep⟩
  · exact .stayed s'.state l' ⟨rfl, rfl, rfl⟩ rfl
  · exact keepsReading_of_sent hstep

/-- A call that takes a request id leaves what is read alone. -/
theorem keepsReading_of_newRequest {n n' : NewRequest} (h : n.step s l = .goesOn (n', s', l')) :
    KeepsReading s s' l l' := by
  rcases NewRequest.step_eq_goesOn h with ⟨-, -, rfl, rfl⟩ | ⟨-, call, hsend, -, rfl⟩ |
    ⟨call, call', -, -, hstep⟩
  · exact .stayed s'.state l' ⟨rfl, rfl, rfl⟩ rfl
  · exact keepsReading_of_send l' hsend
  · exact keepsReading_of_sending hstep

theorem keepsReading_of_requested {n : NewRequest} {result : Except Error (Option Nat)}
    (h : n.step s l = .ends (result, s', l')) : KeepsReading s s' l l' := by
  rcases NewRequest.step_eq_ends h with ⟨-, -, -, rfl, rfl⟩ | ⟨-, -, rfl, rfl⟩ |
    ⟨call, sent, -, -, hstep⟩
  · exact .stayed _ l' ⟨rfl, rfl, rfl⟩ rfl
  · exact .stayed s'.state l' ⟨rfl, rfl, rfl⟩ rfl
  · exact keepsReading_of_sent hstep

end Session

end MediaOverQuic
