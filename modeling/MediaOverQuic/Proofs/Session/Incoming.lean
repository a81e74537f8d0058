import Mathlib.Tactic
import MediaOverQuic.Proofs.Session.Course

/-!
# Steps of the reader

What is received is what the peer sent, in order, so every message can be handled, and every id of
the peer is the expected one. A reader does not touch what its side sends.
-/
namespace MediaOverQuic.Exchange

/-- What a step of a side `t` keeps that only receives or handles what the side `s` sends. -/
structure Incoming (s t t' : Side) (r : Role) (l l' : Link) : Prop where
  placed : t'.Placed r
  control : ∃ readers, t'.session.control = { t.session.control with readers := readers }
  requests : t'.requests = t.requests
  grant : t'.grant = t.grant
  maxOutgoing : t.session.state.maxOutgoing ≤ t'.session.state.maxOutgoing
  maxIncoming : t'.session.state.maxIncoming = t.session.state.maxIncoming
  length : l'.streams.length = l.streams.length
  inbound : l'.inbound 0 r.peer = l.inbound 0 r.peer
  course : ∃ coming owed, Course s t' (l'.inbound 0 r).buffer coming owed
  outgoing : Numbered t s → Numbered t' s
  incoming : Numbered s t → Numbered s t'

variable {s t : Side} {r : Role} {l l' : Link} {session : Session} {coming coming' : List Message}
  {owed : List Nat} {buffer buffer' : Bytes} {m : Message}

/-! ## Receiving -/

/-- The reader has got something else of the frames to come. -/
theorem Course.of_reader (h : Course s t buffer coming owed) {c : ControlStream} {reader : Reader}
    (hlimit : c.limit = t.session.control.limit)
    (hflow : Flow s.session.control s.live t.session.control.limit reader.got buffer' coming')
    (hinbox : reader.inbox ++ coming' = t.reader.inbox ++ coming) :
    Course s { t with session := { t.session with control := c }, reader := reader } buffer' coming'
      owed where
  flow := hlimit.symm ▸ hflow
  requests := h.requests
  grant := h.grant
  messages := hinbox.symm ▸ h.messages
  rising := by
    have hrising := h.rising
    rw [← hinbox] at hrising
    exact hrising
  le := by
    have hle := h.le
    rw [← hinbox] at hle
    exact hle

theorem Incoming.of_readers (ht : t.Placed r) {readers : Turns} {reader : Reader}
    (hlength : l'.streams.length = l.streams.length)
    (hinbound : l'.inbound 0 r.peer = l.inbound 0 r.peer)
    (hcourse : ∃ coming owed, Course s { t with
      session := { t.session with control := { t.session.control with readers := readers } }
      reader := reader } (l'.inbound 0 r).buffer coming owed) :
    Incoming s t { t with
      session := { t.session with control := { t.session.control with readers := readers } }
      reader := reader } r l l' where
  placed := ⟨ht.role, ht.stream, ht.limit⟩
  control := ⟨readers, rfl⟩
  requests := rfl
  grant := rfl
  maxOutgoing := le_rfl
  maxIncoming := rfl
  length := hlength
  inbound := hinbound
  course := hcourse
  outgoing := fun h => ⟨h.ids, h.next, h.below⟩
  incoming := fun h => ⟨h.ids, h.next, h.below⟩

theorem Course.receive (h : Course s t (l.inbound 0 r).buffer coming owed) (ht : t.Placed r)
    (hr : t.reader = .idle) :
    Incoming s t { t with
      session := t.session.receive.2
      reader := .receiving t.session.receive.1 } r l l := by
  have hflow := h.flow
  rw [hr] at hflow
  refine Incoming.of_readers ht rfl rfl ⟨coming, owed, h.of_reader rfl hflow ?_⟩
  rw [hr]
  rfl

theorem Course.read_goesOn (h : Course s t (l.inbound 0 r).buffer coming owed) (ht : t.Placed r)
    (hl : 0 < l.streams.length) {call call' : Receiving} (hr : t.reader = .receiving call)
    (run : Session.stepReading call t.session l = .goesOn (call', session, l')) :
    Incoming s t { t with session := session, reader := .receiving call' } r l l' := by
  obtain rfl := ht.role
  have hflow := h.flow
  rw [hr] at hflow
  obtain ⟨c, q, hcall, rfl, rfl⟩ := Session.stepReading_eq_goesOn run
  rw [ht.stream] at hcall ⊢
  obtain ⟨rfl, hnext⟩ := hflow.receiving_goesOn hcall
  refine Incoming.of_readers ht (Link.length_streams_setInbound _ _ _ _)
    (Link.inbound_setInbound_ne t.session.role.peer_ne _) ⟨coming, owed, ?_⟩
  rw [Link.inbound_setInbound hl]
  refine h.of_reader rfl hnext ?_
  rw [hr]
  rfl

theorem Course.read_ends (h : Course s t (l.inbound 0 r).buffer coming owed) (ht : t.Placed r)
    (hl : 0 < l.streams.length) {call : Receiving} (hr : t.reader = .receiving call)
    {result : Except Error Message}
    (run : Session.stepReading call t.session l = .ends (result, session, l')) :
    (∃ m, result = .ok m ∧
      Incoming s t { t with session := session, reader := .received m } r l l') ∨
    (∃ e, result = .error (.transport e)) ∧
      Incoming s t { t with session := session, reader := .stopped call.got } r l l' := by
  obtain rfl := ht.role
  have hflow := h.flow
  rw [hr] at hflow
  obtain ⟨c, q, hcall, rfl, rfl⟩ := Session.stepReading_eq_ends run
  rw [ht.stream] at hcall ⊢
  obtain ⟨rfl, rfl, hends⟩ := hflow.receiving_ends hcall
  have hincoming : ∀ reader coming',
      Flow s.session.control s.live t.session.control.limit reader.got
        (l.inbound 0 t.session.role).buffer coming' →
      reader.inbox ++ coming' = coming →
      Incoming s t { t with
        session := { t.session with control := call.leave t.session.control }
        reader := reader } t.session.role l
        (l.setInbound 0 t.session.role (l.inbound 0 t.session.role)) := by
    intro reader coming' hnext hinbox
    refine Incoming.of_readers ht (Link.length_streams_setInbound _ _ _ _)
      (Link.inbound_setInbound_ne t.session.role.peer_ne _) ⟨coming', owed, ?_⟩
    rw [Link.inbound_setInbound hl]
    refine h.of_reader rfl hnext ?_
    rw [hinbox, hr]
    rfl
  rcases hends with ⟨m, later, rfl, rfl, hnext⟩ | ⟨e, rfl⟩
  · exact .inl ⟨m, rfl, hincoming (.received m) later hnext rfl⟩
  · exact .inr ⟨⟨e, rfl⟩, hincoming (.stopped call.got) coming hflow rfl⟩

theorem Course.giveUp_reading (h : Course s t (l.inbound 0 r).buffer coming owed) (ht : t.Placed r)
    {call : Receiving} (hr : t.reader = .receiving call) :
    Incoming s t { t with
      session := Session.abandonReceiving call t.session
      reader := .stopped call.got } r l l := by
  have hflow := h.flow
  rw [hr] at hflow
  refine Incoming.of_readers ht rfl rfl ⟨coming, owed, h.of_reader rfl hflow ?_⟩
  rw [hr]
  rfl

/-! ## Handling -/

/-- A limit that was received is higher than the one before, and a limit that the peer reports was
reached. -/
theorem Course.handles (h : Course s t buffer coming owed) (hr : t.reader = .received m) :
    (∃ limit, m = .maxRequestId limit ∧ t.session.state.maxOutgoing < limit ∧
      t.session.handle m =
        .ok { t.session with state := { t.session.state with maxOutgoing := limit } }) ∨
    ∃ limit, m = .requestsBlocked limit ∧ limit ≤ s.session.state.maxOutgoing ∧
      t.session.handle m = .ok t.session := by
  have hm : m ∈ t.reader.inbox ++ coming := by simp [hr, Reader.inbox]
  cases h.messages m hm with
  | raises limit =>
    have hlt : t.session.state.maxOutgoing < limit := by
      refine List.rel_of_pairwise_cons h.rising ?_
      simp [hr, Reader.inbox, Message.raised?]
    refine .inl ⟨limit, rfl, hlt, ?_⟩
    rw [Session.handle, SessionState.handle, SessionState.raiseOutgoing,
      if_neg (Nat.not_le.mpr hlt)]
    rfl
  | blocked hle => exact .inr ⟨_, rfl, hle, rfl⟩

theorem Course.handle (h : Course s t (l.inbound 0 r).buffer coming owed) (ht : t.Placed r)
    (hr : t.reader = .received m) (hm : t.session.handle m = .ok session) :
    Incoming s t { t with session := session, reader := .idle } r l l := by
  have hflow := h.flow
  have hmessages := h.messages
  have hrising := h.rising
  have hle := h.le
  rw [hr] at hflow hmessages hrising hle
  have hlater : ∀ m' ∈ coming, m'.Tells s.session.state.maxOutgoing :=
    fun m' hm' => hmessages m' (List.mem_cons_of_mem _ hm')
  rcases h.handles hr with ⟨limit, rfl, hlt, hhandle⟩ | ⟨limit, rfl, -, hhandle⟩
  · obtain rfl := Except.ok.inj (hhandle.symm.trans hm)
    -- the limit that was known drops out, and the one that was received takes its place
    exact {
      placed := ⟨ht.role, ht.stream, ht.limit⟩
      control := ⟨_, rfl⟩
      requests := rfl
      grant := rfl
      maxOutgoing := hlt.le
      maxIncoming := rfl
      length := rfl
      inbound := rfl
      course := ⟨coming, owed, hflow, h.requests, h.grant, hlater, hrising.of_cons,
        fun a ha => hle a (List.mem_cons_of_mem _ ha)⟩
      outgoing := fun hn => ⟨hn.ids, hn.next, fun id hid => (hn.below id hid).trans hlt⟩
      incoming := fun hn => ⟨hn.ids, hn.next, hn.below⟩ }
  · obtain rfl := Except.ok.inj (hhandle.symm.trans hm)
    exact Incoming.of_readers ht rfl rfl
      ⟨coming, owed, hflow, h.requests, h.grant, hlater, hrising, hle⟩

/-! ## Ids of the peer -/

/-- The id of the peer that comes next is the expected one, and below the limit that was set. -/
theorem Numbered.accepts (hn : Numbered s t)
    (hle : s.session.state.maxOutgoing ≤ t.session.state.maxIncoming) {id : Nat} {later : List Nat}
    (hids : s.ids = id :: later) :
    t.session.state.acceptIncoming id =
      .ok { t.session.state with nextIncoming := t.session.state.nextIncoming + 2 } := by
  have hrange := hn.ids
  rw [hids, List.length_cons, List.range'_succ] at hrange
  have hid : id = t.session.state.nextIncoming := (List.cons.inj hrange).1
  have hlt : id < s.session.state.maxOutgoing := hn.below id (by simp [hids])
  rw [SessionState.acceptIncoming, if_neg (not_not_intro hid), if_neg (by omega)]

/-- What is left on its way when the next id was accepted. -/
theorem Numbered.accept (hn : Numbered s t) {id : Nat} {later : List Nat}
    (hids : s.ids = id :: later) :
    Numbered { s with ids := later } { t with
      session := { t.session with
        state := { t.session.state with nextIncoming := t.session.state.nextIncoming + 2 } } } where
  ids := by
    have hrange := hn.ids
    rw [hids, List.length_cons, List.range'_succ] at hrange
    exact (List.cons.inj hrange).2
  next := by
    have hnext := hn.next
    rw [hids, List.length_cons] at hnext
    simp only
    omega
  below := fun id' hid => hn.below id' (hids ▸ List.mem_cons_of_mem _ hid)

end MediaOverQuic.Exchange
