import Mathlib.Tactic
import MediaOverQuic.Proofs.Session.Course

/-!
# Steps of calls that send

A request and a call that raises the limit keep what is on its way in order, whether they go on, end
or are given up. They do not touch what their side receives.
-/
namespace MediaOverQuic

/-- What sending leaves as it was, when it makes `c` of the control stream and `l'` of the link. -/
structure Session.Wrote (s : Session) (l : Link) (c : ControlStream) (l' : Link) : Prop where
  stream : c.stream = s.control.stream
  limit : c.limit = s.control.limit
  length : l'.streams.length = l.streams.length
  inbound : l'.inbound 0 s.role = l.inbound 0 s.role

namespace Flow

variable {s s' : Session} {l l' : Link} {call call' : Sending} {live : Multiset Sending}
  {limit : Nat} {got : Bytes} {coming : List Message}

theorem stepSending_goesOn
    (h : Flow s.control (call ::ₘ live) limit got (l.inbound 0 s.role.peer).buffer coming)
    (hs : s.control.stream = 0) (hl : 0 < l.streams.length)
    (run : Session.stepSending call s l = .goesOn (call', s', l')) :
    ∃ c, s' = { s with control := c } ∧ s.Wrote l c l' ∧ call'.hasTurn = true ∧
      ((call.hasTurn = false ∧ ∀ m : Message, call.unsent = Frame.wire m → m.Valid →
          Frame.Fits limit m → Flow c (call' ::ₘ live) limit got
            (l'.inbound 0 s.role.peer).buffer (coming ++ [m])) ∨
        (call.hasTurn = true ∧ Flow c (call' ::ₘ live) limit got
          (l'.inbound 0 s.role.peer).buffer coming)) := by
  obtain ⟨c, q, hcall, rfl, rfl⟩ := Session.stepSending_eq_goesOn run
  rw [hs] at hcall ⊢
  obtain ⟨hlimit, hstream, -, hturn, hflow⟩ := h.sending_goesOn hcall
  refine ⟨c, rfl, ⟨hstream, hlimit, Link.length_streams_setInbound _ _ _ _,
    Link.inbound_setInbound_ne s.role.peer_ne.symm _⟩, hturn, ?_⟩
  rw [Link.inbound_setInbound hl]
  exact hflow

theorem stepSending_ends {result : Except Error Unit}
    (h : Flow s.control (call ::ₘ live) limit got (l.inbound 0 s.role.peer).buffer coming)
    (hs : s.control.stream = 0) (hl : 0 < l.streams.length)
    (run : Session.stepSending call s l = .ends (result, s', l')) :
    ∃ c, s' = { s with control := c } ∧ s.Wrote l c l' ∧
      Flow c live limit got (l'.inbound 0 s.role.peer).buffer coming := by
  obtain ⟨c, q, hcall, rfl, rfl⟩ := Session.stepSending_eq_ends run
  rw [hs] at hcall ⊢
  obtain ⟨hlimit, hstream, -, hflow⟩ := h.sending_ends hcall
  refine ⟨c, rfl, ⟨hstream, hlimit, Link.length_streams_setInbound _ _ _ _,
    Link.inbound_setInbound_ne s.role.peer_ne.symm _⟩, ?_⟩
  rw [Link.inbound_setInbound hl]
  exact hflow

/-- What a call that sends was about to write stays unwritten when it is given up. -/
theorem giveUp {sending : Option Sending}
    (h : Flow s.control (sending.elim live (· ::ₘ live)) limit got
      (l.inbound 0 s.role.peer).buffer coming) (hl : l'.streams = l.streams) :
    ∃ c, s.giveUp sending = { s with control := c } ∧ s.Wrote l c l' ∧
      Flow c live limit got (l'.inbound 0 s.role.peer).buffer coming := by
  have hsame : ∀ r, l'.inbound 0 r = l.inbound 0 r := by
    intro r
    rw [Link.inbound, Link.stream, hl]
    rfl
  rw [hsame]
  cases sending with
  | none => exact ⟨s.control, rfl, ⟨rfl, rfl, congrArg _ hl, hsame _⟩, h⟩
  | some call =>
    exact ⟨call.leave s.control, rfl, ⟨rfl, rfl, congrArg _ hl, hsame _⟩, h.leave⟩

end Flow

namespace Exchange

/-- What a step of a side `s` keeps that does not receive anything. -/
structure Outgoing (s s' t : Side) (r : Role) (l l' : Link) : Prop where
  placed : s'.Placed r
  reader : s'.reader = s.reader
  limit : s'.session.control.limit = s.session.control.limit
  maxOutgoing : s'.session.state.maxOutgoing = s.session.state.maxOutgoing
  nextIncoming : s'.session.state.nextIncoming = s.session.state.nextIncoming
  length : l'.streams.length = l.streams.length
  inbound : l'.inbound 0 r = l.inbound 0 r
  course : ∃ coming owed, Course s' t (l'.inbound 0 r.peer).buffer coming owed
  numbered : Numbered s t → Numbered s' t

namespace Outgoing

variable {s t : Side} {r : Role} {l l' : Link} {c : ControlStream}

theorem of_wrote (hs : s.Placed r) (hw : s.session.Wrote l c l') {requests : List NewRequest}
    {grant : Option Granting} (hcourse : ∃ coming owed, Course { s with
      session := { s.session with control := c }
      requests := requests
      grant := grant } t (l'.inbound 0 r.peer).buffer coming owed) :
    Outgoing s { s with
      session := { s.session with control := c }
      requests := requests
      grant := grant } t r l l' where
  placed := ⟨hs.role, hw.stream.trans hs.stream, hs.limit.trans_eq hw.limit.symm⟩
  reader := rfl
  limit := hw.limit
  maxOutgoing := rfl
  nextIncoming := rfl
  length := hw.length
  inbound := hs.role ▸ hw.inbound
  course := hcourse
  numbered := fun h => ⟨h.ids, h.next, h.below⟩

end Outgoing

variable {s t : Side} {r : Role} {l l' : Link} {session : Session} {coming : List Message}
  {owed : List Nat}

/-! ## Requests -/

theorem Course.reports_set (h : Course s t (l.inbound 0 r.peer).buffer coming owed) {i : Nat}
    {n : NewRequest} (hn : n.Reports s.session.state.maxOutgoing) :
    ∀ n' ∈ s.requests.set i n, n'.Reports s.session.state.maxOutgoing := by
  intro n' hn'
  rcases List.mem_or_eq_of_mem_set hn' with hn' | rfl
  · exact h.requests n' hn'
  · exact hn

theorem Course.reports_eraseIdx (h : Course s t (l.inbound 0 r.peer).buffer coming owed) (i : Nat) :
    ∀ n ∈ s.requests.eraseIdx i, n.Reports s.session.state.maxOutgoing :=
  fun n hn => h.requests n (List.mem_of_mem_eraseIdx hn)

theorem Course.ask (h : Course s t (l.inbound 0 r.peer).buffer coming owed) (hs : s.Placed r) :
    Outgoing s { s with requests := s.requests ++ [.allocating] } t r l l := by
  refine Outgoing.of_wrote hs (c := s.session.control) ⟨rfl, rfl, rfl, rfl⟩ ⟨coming, owed, ?_⟩
  refine h.of_requests ?_ ?_ (.inl rfl) rfl rfl
  · rw [Side.live_append_allocating]
    exact h.flow
  · intro n hn
    rw [List.mem_append, List.mem_singleton] at hn
    rcases hn with hn | rfl
    · exact h.requests n hn
    · exact .allocating

theorem Course.request_goesOn (h : Course s t (l.inbound 0 r.peer).buffer coming owed)
    (hs : s.Placed r) (ht : t.Placed r.peer) (hl : 0 < l.streams.length) {i : Nat}
    {n n' : NewRequest} (hi : s.requests[i]? = some n)
    (run : n.step s.session l = .goesOn (n', session, l')) :
    Outgoing s { s with session := session, requests := s.requests.set i n' } t r l l' := by
  obtain rfl := hs.role
  have hreports := h.requests n (List.mem_of_getElem? hi)
  have hflow := h.flow
  rw [Side.live_of_getElem? hi] at hflow
  rcases NewRequest.step_eq_goesOn run with ⟨rfl, rfl, rfl, rfl⟩ | ⟨rfl, call, hsend, rfl, rfl⟩ |
    ⟨call, call', rfl, rfl, hstep⟩
  · refine Outgoing.of_wrote hs (c := s.session.control) ⟨rfl, rfl, rfl, rfl⟩ ⟨coming, owed, ?_⟩
    refine h.of_requests ?_ (h.reports_set .blocked) (.inl rfl) rfl rfl
    rw [Side.live_set hi]
    exact hflow
  · obtain ⟨hfits, rfl, rfl⟩ := Session.send_eq_ok (by simp [Message.Valid, Message.params]) hsend
    refine Outgoing.of_wrote hs
      (c := { s.session.control with writers := s.session.control.writers.join.2 })
      ⟨rfl, rfl, rfl, rfl⟩ ⟨coming, owed, ?_⟩
    refine h.of_requests ?_ (h.reports_set (.waiting _ hfits.1 le_rfl)) (.inl rfl) rfl rfl
    rw [Side.live_set hi]
    exact hflow.join _
  · have hflow : Flow _ (call ::ₘ s.others i) _ _ _ _ := hflow
    obtain ⟨c, rfl, hw, hturn, hnext⟩ := hflow.stepSending_goesOn hs.stream hl hstep
    refine Outgoing.of_wrote hs hw ?_
    cases call' with
    | waiting => cases hturn
    | writing t' rest' =>
      rcases hnext with ⟨hnot, hbegun⟩ | ⟨-, hbegun⟩
      · cases hreports with
        | writing => cases hnot
        | @waiting t' limit hmax hle =>
          refine ⟨_, owed, h.of_requests ?_ (h.reports_set (.writing _ _))
            (.inr ⟨limit, hle, rfl⟩) rfl rfl⟩
          rw [Side.live_set hi]
          exact hbegun _ rfl (by simp [Message.Valid, Message.params])
            (Frame.fits_of_limit? rfl hmax ht.limit)
      · refine ⟨coming, owed, h.of_requests ?_ (h.reports_set (.writing _ _)) (.inl rfl) rfl rfl⟩
        rw [Side.live_set hi]
        exact hbegun

/-- The next id follows those that are on their way. -/
theorem Numbered.take (h : Numbered s t)
    (hlt : s.session.state.nextOutgoing < s.session.state.maxOutgoing)
    (requests : List NewRequest) :
    Numbered { s with
      session := { s.session with
        state := { s.session.state with nextOutgoing := s.session.state.nextOutgoing + 2 } }
      requests := requests
      ids := s.ids ++ [s.session.state.nextOutgoing] } t where
  ids := by
    rw [List.length_append, List.length_singleton, List.range'_concat, ← h.ids, ← h.next]
  next := by
    have hnext := h.next
    simp only [List.length_append, List.length_singleton]
    omega
  below := by
    intro id hid
    rw [List.mem_append, List.mem_singleton] at hid
    rcases hid with hid | rfl
    · exact h.below id hid
    · exact hlt

theorem Course.request_ends (h : Course s t (l.inbound 0 r.peer).buffer coming owed)
    (hs : s.Placed r) (hl : 0 < l.streams.length) {i : Nat} {n : NewRequest}
    {result : Except Error (Option Nat)} (hi : s.requests[i]? = some n)
    (run : n.step s.session l = .ends (result, session, l')) :
    Outgoing s { s with
      session := session
      requests := s.requests.eraseIdx i
      ids := s.ids ++ idOf result } t r l l' := by
  obtain rfl := hs.role
  have hreports := h.reports_eraseIdx i
  have hflow := h.flow
  rw [Side.live_of_getElem? hi] at hflow
  rcases NewRequest.step_eq_ends run with ⟨rfl, hlt, rfl, rfl, rfl⟩ | ⟨rfl, ⟨e, rfl⟩, rfl, rfl⟩ |
    ⟨call, sent, rfl, rfl, hstep⟩
  · exact ⟨⟨hs.role, hs.stream, hs.limit⟩, rfl, rfl, rfl, rfl, rfl, rfl,
      ⟨coming, owed, h.of_requests hflow hreports (.inl rfl) rfl rfl⟩, fun hn => hn.take hlt _⟩
  · rw [idOf, List.append_nil]
    exact Outgoing.of_wrote hs (c := s.session.control) ⟨rfl, rfl, rfl, rfl⟩
      ⟨coming, owed, h.of_requests hflow hreports (.inl rfl) rfl rfl⟩
  · have hflow : Flow _ (call ::ₘ s.others i) _ _ _ _ := hflow
    obtain ⟨c, rfl, hw, hdone⟩ := hflow.stepSending_ends hs.stream hl hstep
    have hnone : idOf (sent.map fun _ => none) = [] := by cases sent <;> rfl
    rw [hnone, List.append_nil]
    exact Outgoing.of_wrote hs hw
      ⟨coming, owed, h.of_requests hdone hreports (.inl rfl) rfl rfl⟩

theorem Course.giveUp_request (h : Course s t (l.inbound 0 r.peer).buffer coming owed)
    (hs : s.Placed r) {i : Nat} {n : NewRequest} (hi : s.requests[i]? = some n)
    (hl : l'.streams = l.streams) :
    Outgoing s { s with
      session := s.session.giveUp n.sending?
      requests := s.requests.eraseIdx i } t r l l' := by
  obtain rfl := hs.role
  have hflow := h.flow
  rw [Side.live_of_getElem? hi] at hflow
  obtain ⟨c, he, hw, hdone⟩ := hflow.giveUp hl
  rw [he]
  exact Outgoing.of_wrote hs hw
    ⟨coming, owed, h.of_requests hdone (h.reports_eraseIdx i) (.inl rfl) rfl rfl⟩

/-! ## Raising the limit -/

theorem Course.grant_starts (h : Course s t (l.inbound 0 r.peer).buffer coming owed)
    (hs : s.Placed r) (hg : s.grant = none) (limit : Nat) :
    Outgoing s { s with grant := some (.raising limit) } t r l l := by
  have hflow := h.flow
  have howes := h.grant
  rw [hg] at howes
  cases howes
  refine Outgoing.of_wrote hs (c := s.session.control) ⟨rfl, rfl, rfl, rfl⟩
    ⟨coming, [], h.of_grant ?_ (.raising limit) (.inl ⟨rfl, List.Sublist.refl _⟩)⟩
  rw [Side.live_grant]
  rw [Side.live, hg] at hflow
  exact hflow

theorem Course.grant_goesOn (h : Course s t (l.inbound 0 r.peer).buffer coming owed)
    (hs : s.Placed r) (ht : t.Placed r.peer) (hl : 0 < l.streams.length) {g g' : Granting}
    (hg : s.grant = some g) (run : g.step s.session l = .goesOn (g', session, l')) :
    Outgoing s { s with session := session, grant := some g' } t r l l' := by
  obtain rfl := hs.role
  have hflow := h.flow
  have howes := h.grant
  rw [hg] at howes
  rw [Side.live_of_grant hg] at hflow
  rcases Granting.step_eq_goesOn run with ⟨limit, rfl, hlt, rfl, rfl, rfl⟩ |
    ⟨m, call, rfl, hsend, rfl, rfl⟩ | ⟨call, call', rfl, rfl, hstep⟩
  · cases howes
    exact ⟨⟨hs.role, hs.stream, hs.limit⟩, rfl, rfl, rfl, rfl, rfl, rfl,
      ⟨coming, [limit], h.raise hlt (Side.live_of_grant hg).symm⟩,
      fun hn => ⟨hn.ids, hn.next, hn.below⟩⟩
  · cases howes with
    | raised limit =>
      obtain ⟨hfits, rfl, rfl⟩ := Session.send_eq_ok (by simp [Message.Valid, Message.params]) hsend
      refine Outgoing.of_wrote hs
        (c := { s.session.control with writers := s.session.control.writers.join.2 })
        ⟨rfl, rfl, rfl, rfl⟩ ⟨coming, [limit], ?_⟩
      refine h.of_grant ?_ (.waiting _ hfits.1) (.inl ⟨rfl, List.Sublist.refl _⟩)
      rw [Side.live_grant]
      exact hflow.join _
  · have hflow : Flow _ (call ::ₘ s.requesting) _ _ _ _ := hflow
    obtain ⟨c, rfl, hw, hturn, hnext⟩ := hflow.stepSending_goesOn hs.stream hl hstep
    refine Outgoing.of_wrote hs hw ?_
    cases call' with
    | waiting => cases hturn
    | writing t' rest' =>
      rcases hnext with ⟨hnot, hbegun⟩ | ⟨hhad, hbegun⟩
      · cases howes with
        | writing => cases hnot
        | @waiting t' limit hmax =>
          refine ⟨_, [], h.of_grant ?_ (.writing _ _) (.inr ⟨limit, rfl, rfl, rfl⟩)⟩
          rw [Side.live_grant]
          exact hbegun _ rfl (by simp [Message.Valid, Message.params])
            (Frame.fits_of_limit? rfl hmax ht.limit)
      · refine ⟨coming, [], h.of_grant ?_ (.writing _ _) (.inl ⟨rfl, List.nil_sublist _⟩)⟩
        rw [Side.live_grant]
        exact hbegun

theorem Course.grant_ends (h : Course s t (l.inbound 0 r.peer).buffer coming owed)
    (hs : s.Placed r) (hl : 0 < l.streams.length) {g : Granting} {result : Except Error Unit}
    (hg : s.grant = some g) (run : g.step s.session l = .ends (result, session, l')) :
    Outgoing s { s with session := session, grant := none } t r l l' := by
  obtain rfl := hs.role
  have hflow := h.flow
  rw [Side.live_of_grant hg] at hflow
  rcases Granting.step_eq_ends run with ⟨rfl, rfl, hnone⟩ | ⟨call, rfl, hstep⟩
  · rw [hnone] at hflow
    exact Outgoing.of_wrote hs (c := s.session.control) ⟨rfl, rfl, rfl, rfl⟩
      ⟨coming, [], h.of_grant hflow .nothing (.inl ⟨rfl, List.nil_sublist _⟩)⟩
  · have hflow : Flow _ (call ::ₘ s.requesting) _ _ _ _ := hflow
    obtain ⟨c, rfl, hw, hdone⟩ := hflow.stepSending_ends hs.stream hl hstep
    exact Outgoing.of_wrote hs hw
      ⟨coming, [], h.of_grant hdone .nothing (.inl ⟨rfl, List.nil_sublist _⟩)⟩

theorem Course.giveUp_grant (h : Course s t (l.inbound 0 r.peer).buffer coming owed)
    (hs : s.Placed r) {g : Granting} (hg : s.grant = some g) (hl : l'.streams = l.streams) :
    Outgoing s { s with session := s.session.giveUp g.sending?, grant := none } t r l l' := by
  obtain rfl := hs.role
  have hflow := h.flow
  rw [Side.live_of_grant hg] at hflow
  obtain ⟨c, he, hw, hdone⟩ := hflow.giveUp hl
  rw [he]
  exact Outgoing.of_wrote hs hw
    ⟨coming, [], h.of_grant hdone .nothing (.inl ⟨rfl, List.nil_sublist _⟩)⟩

end Exchange

end MediaOverQuic
