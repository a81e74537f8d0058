import Mathlib.Tactic
import MediaOverQuic.Proofs.Session.Incoming
import MediaOverQuic.Proofs.Session.Mirror
import MediaOverQuic.Proofs.Session.Outgoing

/-!
# Request ids stay within their limits

However two sessions take and grant request ids after their handshakes, and however long messages
and requests are on their way: neither side ever takes the other one to be in the wrong.
-/
namespace MediaOverQuic

theorem Role.forall_of (r : Role) {P : Role → Prop} (h : P r) (hpeer : P r.peer) (r' : Role) :
    P r' := by
  cases r <;> cases r' <;> assumption

theorem eq_ok_of_toOption {result : Except ε α} {a : α} (h : result.toOption = some a) :
    result = .ok a := by
  cases result with
  | error e => cases h
  | ok b => exact congrArg _ (Option.some.inj h)

namespace Exchange

variable {x x' : Exchange} {r : Role} {side : Side} {l : Link}

@[simp] theorem side_put (x : Exchange) (r : Role) (side : Side) (l : Link) :
    (x.put r side l).side r = side := PerRole.get_set _ _ _

@[simp] theorem side_put_peer (x : Exchange) (r : Role) (side : Side) (l : Link) :
    (x.put r side l).side r.peer = x.side r.peer := PerRole.get_set_peer _ _ _

@[simp] theorem link_put (x : Exchange) (r : Role) (side : Side) (l : Link) :
    (x.put r side l).link = l := rfl

/-- What always holds of two sides that take and grant request ids. -/
structure Sound (x : Exchange) : Prop where
  streams : 0 < x.link.streams.length
  placed : ∀ r, (x.side r).Placed r
  course : ∀ r, ∃ coming owed,
    Course (x.side r) (x.side r.peer) (x.link.inbound 0 r.peer).buffer coming owed
  numbered : ∀ r, Numbered (x.side r) (x.side r.peer)

namespace Sound

/-! ## Steps -/

/-- What the peer sends is on its way to this side. -/
theorem course_peer (h : x.Sound) (r : Role) : ∃ coming owed,
    Course (x.side r.peer) (x.side r) (x.link.inbound 0 r).buffer coming owed := by
  simpa using h.course r.peer

theorem numbered_peer (h : x.Sound) (r : Role) : Numbered (x.side r.peer) (x.side r) := by
  simpa using h.numbered r.peer

theorem outgoing (h : x.Sound)
    (hs : Outgoing (x.side r) side (x.side r.peer) r x.link l) : (x.put r side l).Sound where
  streams := hs.length.symm ▸ h.streams
  placed := by
    refine Role.forall_of r ?_ ?_
    · simpa using hs.placed
    · simpa using h.placed r.peer
  course := by
    refine Role.forall_of r ?_ ?_
    · simpa using hs.course
    · obtain ⟨coming, owed, hc⟩ := h.course_peer r
      simp only [side_put_peer, Role.peer_peer, side_put, link_put, hs.inbound]
      exact ⟨coming, owed, hc.of_receiver hs.limit hs.reader hs.maxOutgoing⟩
  numbered := by
    refine Role.forall_of r ?_ ?_
    · simpa using hs.numbered (h.numbered r)
    · obtain ⟨hids, hnext, hbelow⟩ := h.numbered_peer r
      simp only [side_put_peer, Role.peer_peer, side_put]
      exact ⟨by rwa [hs.nextIncoming], by rwa [hs.nextIncoming], hbelow⟩

theorem incoming (h : x.Sound)
    (ht : Incoming (x.side r.peer) (x.side r) side r x.link l) : (x.put r side l).Sound where
  streams := ht.length.symm ▸ h.streams
  placed := by
    refine Role.forall_of r ?_ ?_
    · simpa using ht.placed
    · simpa using h.placed r.peer
  course := by
    refine Role.forall_of r ?_ ?_
    · obtain ⟨coming, owed, hc⟩ := h.course r
      obtain ⟨readers, hcontrol⟩ := ht.control
      simp only [side_put_peer, side_put, link_put, ht.inbound]
      exact ⟨coming, owed,
        hc.of_sender readers hcontrol ht.requests ht.grant ht.maxOutgoing ht.maxIncoming⟩
    · simpa using ht.course
  numbered := by
    refine Role.forall_of r ?_ ?_
    · simpa using ht.outgoing (h.numbered r)
    · simpa using ht.incoming (h.numbered_peer r)

/-- Each side's requests are limited by what the other side has set. -/
theorem maxOutgoing_le (h : x.Sound) (r : Role) :
    (x.side r).session.state.maxOutgoing ≤ (x.side r.peer).session.state.maxIncoming := by
  obtain ⟨coming, owed, hc⟩ := h.course_peer r
  exact hc.le _ List.mem_cons_self

theorem afterRequest (h : x.Sound) {i : Nat} {n : NewRequest}
    (hi : (x.side r).requests[i]? = some n)
    (hx : x.afterRequest r i (n.step (x.side r).session x.link) = some x') : x'.Sound := by
  obtain ⟨coming, owed, hc⟩ := h.course r
  cases hstep : n.step (x.side r).session x.link with
  | waits =>
    rw [hstep] at hx
    cases hx
  | goesOn next =>
    rw [hstep] at hx
    obtain rfl := Option.some.inj hx
    exact h.outgoing (hc.request_goesOn (h.placed r) (h.placed r.peer) h.streams hi hstep)
  | ends done =>
    rw [hstep] at hx
    obtain rfl := Option.some.inj hx
    exact h.outgoing (hc.request_ends (h.placed r) h.streams hi hstep)

theorem afterGranting (h : x.Sound) {g : Granting} (hg : (x.side r).grant = some g)
    (hx : x.afterGranting r (g.step (x.side r).session x.link) = some x') : x'.Sound := by
  obtain ⟨coming, owed, hc⟩ := h.course r
  cases hstep : g.step (x.side r).session x.link with
  | waits =>
    rw [hstep] at hx
    cases hx
  | goesOn next =>
    rw [hstep] at hx
    obtain rfl := Option.some.inj hx
    exact h.outgoing (hc.grant_goesOn (h.placed r) (h.placed r.peer) h.streams hg hstep)
  | ends done =>
    rw [hstep] at hx
    obtain rfl := Option.some.inj hx
    exact h.outgoing (hc.grant_ends (h.placed r) h.streams hg hstep)

theorem afterReading (h : x.Sound) {call : Receiving} (hr : (x.side r).reader = .receiving call)
    (hx : x.afterReading r call.got (Session.stepReading call (x.side r).session x.link) =
      some x') : x'.Sound := by
  obtain ⟨coming, owed, hc⟩ := h.course_peer r
  cases hstep : Session.stepReading call (x.side r).session x.link with
  | waits =>
    rw [hstep] at hx
    cases hx
  | goesOn next =>
    rw [hstep] at hx
    obtain rfl := Option.some.inj hx
    exact h.incoming (hc.read_goesOn (h.placed r) h.streams hr hstep)
  | ends done =>
    obtain ⟨result, s, l⟩ := done
    rw [hstep] at hx
    rcases hc.read_ends (h.placed r) h.streams hr hstep with ⟨m, rfl, hin⟩ | ⟨⟨e, rfl⟩, hin⟩
    · obtain rfl := Option.some.inj hx
      exact h.incoming hin
    · obtain rfl := Option.some.inj hx
      exact h.incoming hin

theorem accept (h : x.Sound) {id : Nat} {later : List Nat} {state : SessionState}
    (hids : (x.side r.peer).ids = id :: later)
    (hok : (x.side r).session.state.acceptIncoming id = .ok state) :
    ((x.put r { x.side r with session := { (x.side r).session with state := state } } x.link).put
      r.peer { x.side r.peer with ids := later } x.link).Sound := by
  have hle : (x.side r.peer).session.state.maxOutgoing ≤ (x.side r).session.state.maxIncoming := by
    simpa using h.maxOutgoing_le r.peer
  have hstate := ((h.numbered_peer r).accepts hle hids).symm.trans hok
  obtain rfl := Except.ok.inj hstate
  have hside : ∀ (y : Exchange) (side : Side), (y.put r.peer side x.link).side r = y.side r :=
    fun y side => by simpa using side_put_peer y r.peer side x.link
  refine ⟨h.streams, Role.forall_of r ?_ ?_, Role.forall_of r ?_ ?_, Role.forall_of r ?_ ?_⟩
  · obtain ⟨hrole, hstream, hlimit⟩ := h.placed r
    rw [hside, side_put]
    exact ⟨hrole, hstream, hlimit⟩
  · obtain ⟨hrole, hstream, hlimit⟩ := h.placed r.peer
    rw [side_put]
    exact ⟨hrole, hstream, hlimit⟩
  · obtain ⟨coming, owed, hc⟩ := h.course r
    rw [hside, side_put, side_put]
    refine ⟨coming, owed, Course.of_receiver ?_ rfl rfl rfl (t := x.side r.peer)⟩
    exact hc.of_sender (x.side r).session.control.readers rfl rfl rfl le_rfl rfl
  · obtain ⟨coming, owed, hc⟩ := h.course_peer r
    rw [Role.peer_peer, hside, side_put, side_put]
    refine ⟨coming, owed, Course.of_receiver ?_ rfl rfl rfl (t := x.side r)⟩
    exact hc.of_sender (x.side r.peer).session.control.readers rfl rfl rfl le_rfl rfl
  · obtain ⟨hids', hnext, hbelow⟩ := h.numbered r
    rw [hside, side_put, side_put]
    exact ⟨hids', hnext, hbelow⟩
  · rw [Role.peer_peer, hside, side_put, side_put]
    exact (h.numbered_peer r).accept hids

theorem act {a : Action} (h : x.Sound) (ha : x.act r a = some x') : x'.Sound := by
  obtain ⟨coming, owed, hc⟩ := h.course r
  obtain ⟨coming', owed', hc'⟩ := h.course_peer r
  have hs := h.placed r
  cases a with
  | ask =>
    obtain rfl := Option.some.inj ha
    exact h.outgoing (hc.ask hs)
  | request i =>
    obtain ⟨n, hi, hx⟩ := Option.bind_eq_some_iff.mp ha
    exact h.afterRequest hi hx
  | giveUpRequest i =>
    obtain ⟨n, hi, rfl⟩ := Option.map_eq_some_iff.mp ha
    exact h.outgoing (hc.giveUp_request hs hi rfl)
  | requestTimesOut i =>
    obtain ⟨call, hcall, rfl⟩ := Option.map_eq_some_iff.mp ha
    obtain ⟨n, hi, hn⟩ := Option.bind_eq_some_iff.mp hcall
    have hstreams : (Session.sendingTimedOut .requestsBlocked call (x.side r).session
        x.link).2.2.streams = x.link.streams := rfl
    have hout := hc.giveUp_request hs hi hstreams
    rw [hn] at hout
    exact h.outgoing hout
  | grant limit =>
    simp only [Exchange.act] at ha
    split at ha
    · next hg =>
      obtain rfl := Option.some.inj ha
      exact h.outgoing (hc.grant_starts hs hg limit)
    · cases ha
  | granting =>
    obtain ⟨g, hg, hx⟩ := Option.bind_eq_some_iff.mp ha
    exact h.afterGranting hg hx
  | giveUpGrant =>
    obtain ⟨g, hg, rfl⟩ := Option.map_eq_some_iff.mp ha
    exact h.outgoing (hc.giveUp_grant hs hg rfl)
  | grantTimesOut =>
    obtain ⟨call, hcall, rfl⟩ := Option.map_eq_some_iff.mp ha
    obtain ⟨g, hg, hsending⟩ := Option.bind_eq_some_iff.mp hcall
    have hstreams : (Session.sendingTimedOut .maxRequestId call (x.side r).session
        x.link).2.2.streams = x.link.streams := rfl
    have hout := hc.giveUp_grant hs hg hstreams
    rw [hsending] at hout
    exact h.outgoing hout
  | receive =>
    simp only [Exchange.act] at ha
    split at ha
    · next hr =>
      obtain rfl := Option.some.inj ha
      exact h.incoming (hc'.receive hs hr)
    · cases ha
  | read =>
    simp only [Exchange.act] at ha
    split at ha
    · next call hr => exact h.afterReading hr ha
    · cases ha
  | giveUpReading =>
    simp only [Exchange.act] at ha
    split at ha
    · next call hr =>
      obtain rfl := Option.some.inj ha
      exact h.incoming (hc'.giveUp_reading hs hr)
    · cases ha
  | handle =>
    simp only [Exchange.act] at ha
    split at ha
    · next m hr =>
      obtain ⟨session, hm, rfl⟩ := Option.map_eq_some_iff.mp ha
      exact h.incoming (hc'.handle hs hr (eq_ok_of_toOption hm))
    · cases ha
  | accept =>
    simp only [Exchange.act] at ha
    split at ha
    · cases ha
    · next id later hids =>
      obtain ⟨state, hok, rfl⟩ := Option.map_eq_some_iff.mp ha
      exact h.accept hids (eq_ok_of_toOption hok)

theorem step (h : x.Sound) (hx : Step x x') : x'.Sound := by
  cases hx with
  | act r a ha => exact h.act ha
  | elsewhere hl hbuffer =>
    refine ⟨hl, h.placed, fun r => ?_, h.numbered⟩
    rw [hbuffer]
    exact h.course r

theorem run (h : x.Sound) (hx : Relation.ReflTransGen Step x x') : x'.Sound := by
  induction hx with
  | refl => exact h
  | tail _ hstep ih => exact ih.step hstep

/-- Two sessions that mirror each other, with nothing on its way. -/
theorem start {x : Scenario.Setting} {params : List KeyValuePair} {config : PerRole Config}
    {given : PerRole (List KeyValuePair)} {l : Link} (hstreams : 0 < l.streams.length)
    (hbuffer : ∀ r, (l.inbound 0 r).buffer = []) (hlimit : ∀ r, 8 ≤ x.limit r)
    (hm : Scenario.Mirrored config given (x.clientSession params).state x.serverSession.state) :
    (Exchange.start l ⟨x.clientSession params, x.serverSession⟩).Sound where
  streams := hstreams
  placed := Role.forall_of .client ⟨rfl, rfl, hlimit .client⟩ ⟨rfl, rfl, hlimit .server⟩
  course := by
    refine Role.forall_of .client ⟨[], [], ?_⟩ ⟨[], [], ?_⟩
    · have hc := Course.start (a := x.clientSession params) (b := x.serverSession) rfl rfl
        hm.requests.2.le
      rwa [← hbuffer .server] at hc
    · have hc := Course.start (a := x.serverSession) (b := x.clientSession params) rfl rfl
        hm.requests.1.le
      rwa [← hbuffer .client] at hc
  numbered := Role.forall_of .client (.start hm.nextIncoming.2.symm) (.start hm.nextIncoming.1.symm)

end Sound

/-! ## Results -/

/-- What holds at a side `r` whenever it is looked at: of the limits, and of the messages and the
ids that it is about to deal with. -/
structure Safe (x : Exchange) (r : Role) : Prop where
  /-- Whatever the side may do, its peer has allowed. -/
  within : (x.side r).session.state.maxOutgoing ≤ (x.side r.peer).session.state.maxIncoming
  /-- Receiving ends with a message, or because of the stream. -/
  receives : ∀ (call : Receiving) (result : Except Error Message) (s : Session) (l : Link),
    (x.side r).reader = .receiving call →
    Session.stepReading call (x.side r).session x.link = .ends (result, s, l) →
    (∃ m, result = .ok m) ∨ ∃ e, result = .error (.transport e)
  handles : ∀ m : Message, (x.side r).reader = .received m →
    ∃ s, (x.side r).session.handle m = .ok s
  raises : ∀ limit : Nat, (x.side r).reader = .received (.maxRequestId limit) →
    (x.side r).session.state.maxOutgoing < limit ∧
      (x.side r).session.handle (.maxRequestId limit) = .ok { (x.side r).session with
        state := { (x.side r).session.state with maxOutgoing := limit } }
  blocked : ∀ limit : Nat, (x.side r).reader = .received (.requestsBlocked limit) →
    limit ≤ (x.side r).session.state.maxIncoming
  accepts : ∀ (id : Nat) (later : List Nat), (x.side r.peer).ids = id :: later →
    ∃ state, (x.side r).session.state.acceptIncoming id = .ok state

theorem Sound.safe (h : x.Sound) (r : Role) : x.Safe r := by
  obtain ⟨coming, owed, hc⟩ := h.course_peer r
  have hle : (x.side r.peer).session.state.maxOutgoing ≤ (x.side r).session.state.maxIncoming := by
    simpa using h.maxOutgoing_le r.peer
  refine ⟨h.maxOutgoing_le r, ?_, ?_, ?_, ?_, ?_⟩
  · intro call result s l hr hstep
    rcases hc.read_ends (h.placed r) h.streams hr hstep with ⟨m, hm, -⟩ | ⟨he, -⟩
    · exact .inl ⟨m, hm⟩
    · exact .inr he
  · intro m hr
    rcases hc.handles hr with ⟨limit, -, -, hm⟩ | ⟨limit, -, -, hm⟩
    · exact ⟨_, hm⟩
    · exact ⟨_, hm⟩
  · intro limit hr
    rcases hc.handles hr with ⟨limit', hm, hlt, hhandle⟩ | ⟨limit', hm, -⟩
    · obtain rfl := Message.maxRequestId.inj hm
      exact ⟨hlt, hhandle⟩
    · cases hm
  · intro limit hr
    rcases hc.handles hr with ⟨limit', hm, -⟩ | ⟨limit', hm, hreached, -⟩
    · cases hm
    · obtain rfl := Message.requestsBlocked.inj hm
      exact hreached.trans hle
  · intro id later hids
    exact ⟨_, (h.numbered_peer r).accepts hle hids⟩

/-- After two handshakes that succeeded, with room for every limit in a control message, the sides
may take and grant request ids as they like: each of them stays within what the other one allows, no
message between them is a violation, every limit that is received is higher than the one before, and
every id is accepted. -/
theorem requests_within_limits {overlay : Bool} {maxStreams : Nat} {config : PerRole Config}
    {given : PerRole (List KeyValuePair)} (hv : ∀ r, ∀ p ∈ given.get r, p.Valid)
    (hlimit : ∀ r, 8 ≤ (config.get r).maxControlMessageLength) {e : Scenario.Encounter}
    (h : Relation.ReflTransGen Scenario.Encounter.Step
      (Scenario.Encounter.start (.fresh overlay maxStreams) config given) e) {c s : Session}
    (hc : e.parties.client.result = some (.ok c)) (hs : e.parties.server.result = some (.ok s))
    (hx : Relation.ReflTransGen Step (.start e.link ⟨c, s⟩) x) (r : Role) : x.Safe r := by
  obtain ⟨setting, rfl, rfl, hstreams, hbuffer, hserver, hm⟩ :=
    Scenario.Setting.settled_of_run hv h hc
  rcases hserver with hr | ⟨hr, -⟩
  · obtain rfl := Except.ok.inj (Option.some.inj (hr.symm.trans hs))
    exact ((Sound.start (hstreams ▸ Nat.one_pos) hbuffer hlimit hm).run hx).safe r
  · cases hr.symm.trans hs

/-- The sessions of both sides, if their handshakes have succeeded. -/
def sessions? (e : Scenario.Encounter) : Option (PerRole Session) := do
  let c ← e.parties.client.result
  let s ← e.parties.server.result
  return ⟨← c.toOption, ← s.toOption⟩

theorem results_of_sessions? {e : Scenario.Encounter} {sessions : PerRole Session}
    (h : sessions? e = some sessions) :
    e.parties.client.result = some (.ok sessions.client) ∧
      e.parties.server.result = some (.ok sessions.server) := by
  obtain ⟨c, hc, h⟩ := Option.bind_eq_some_iff.mp h
  obtain ⟨s, hs, h⟩ := Option.bind_eq_some_iff.mp h
  obtain ⟨client, hclient, h⟩ := Option.bind_eq_some_iff.mp h
  obtain ⟨server, hserver, h⟩ := Option.bind_eq_some_iff.mp h
  obtain rfl := Option.some.inj h
  rw [hc, hs, eq_ok_of_toOption hclient, eq_ok_of_toOption hserver]
  exact ⟨rfl, rfl⟩

/-- The order of the steps in which two sides with nothing to wait for do their handshakes. -/
def prompt : List Role :=
  List.replicate 5 .client ++ List.replicate 9 .server ++ List.replicate 4 .client ++ [.server]

/-- What is found to hold behind the handshakes of two sides that go on in a given order holds of
sessions that handshakes lead to. -/
theorem exists_sessions_of_follow (config : PerRole Config) (given : PerRole (List KeyValuePair))
    (order : List Role) {p : Scenario.Encounter → Session → Session → Bool}
    (h : (((Scenario.Encounter.start (.fresh false 1) config given).follow order).any fun e =>
      (sessions? e).any fun sessions => p e sessions.client sessions.server) = true) :
    ∃ (e : Scenario.Encounter) (c s : Session),
      Relation.ReflTransGen Scenario.Encounter.Step
        (Scenario.Encounter.start (.fresh false 1) config given) e ∧
      e.parties.client.result = some (.ok c) ∧ e.parties.server.result = some (.ok s) ∧
      p e c s = true := by
  obtain ⟨e, he, hok⟩ := (Option.any_eq_true _ _).mp h
  obtain ⟨sessions, hsessions, hok⟩ := (Option.any_eq_true _ _).mp hok
  obtain ⟨hc, hs⟩ := results_of_sessions? hsessions
  exact ⟨e, sessions.client, sessions.server, Scenario.Encounter.reaches_follow he, hc, hs, hok⟩

/-- So it is for two sides with the standard configuration and no parameters of their own, when they
go on promptly. -/
theorem exists_sessions_of_prompt {p : Scenario.Encounter → Session → Session → Bool}
    (h : (((Scenario.Encounter.start (.fresh false 1) (.both .standard) (.both [])).follow
      prompt).any fun e => (sessions? e).any fun sessions =>
        p e sessions.client sessions.server) = true) :
    ∃ (e : Scenario.Encounter) (c s : Session),
      Relation.ReflTransGen Scenario.Encounter.Step
        (Scenario.Encounter.start (.fresh false 1) (.both .standard) (.both [])) e ∧
      e.parties.client.result = some (.ok c) ∧ e.parties.server.result = some (.ok s) ∧
      p e c s = true :=
  exists_sessions_of_follow _ _ _ h

/-- The client takes an id that the server is not presented with yet, and receives a limit that the
server has raised. -/
def raising : List (Role × Action) :=
  (.client, .ask) :: (.client, .request 0) :: (.server, .grant 2000) ::
    (List.replicate 5 (.server, .granting)).append
      ((.client, .receive) :: List.replicate 5 (.client, .read))

theorem requests_within_limits_raising :
    (∀ r, ∀ p ∈ Scenario.namedTwice.get r, p.Valid) ∧
    (∀ r, 8 ≤ ((PerRole.both Config.standard).get r).maxControlMessageLength) ∧
    ∃ (e : Scenario.Encounter) (c s : Session) (x : Exchange),
      Relation.ReflTransGen Scenario.Encounter.Step
        (Scenario.Encounter.start (.fresh false 1) (.both .standard) Scenario.namedTwice) e ∧
      e.parties.client.result = some (.ok c) ∧ e.parties.server.result = some (.ok s) ∧
      Relation.ReflTransGen Step (.start e.link ⟨c, s⟩) x ∧
      ((x.side .client).ids = [0] ∧ (x.side .client).reader = .received (.maxRequestId 2000)) ∧
      ∀ r, x.Safe r := by
  have hv : ∀ r, ∀ p ∈ Scenario.namedTwice.get r, p.Valid := by
    intro r
    cases r <;> decide
  have hlimit : ∀ r, 8 ≤ ((PerRole.both Config.standard).get r).maxControlMessageLength := by
    intro r
    cases r <;> decide
  have hrun : (((Scenario.Encounter.start (.fresh false 1) (.both .standard)
      Scenario.namedTwice).follow
      (List.replicate 5 .client ++ List.replicate 9 .server ++ List.replicate 4 .client ++
        [.server])).any fun e => (sessions? e).any fun sessions =>
          ((Exchange.start e.link sessions).follow raising).any fun x =>
            (x.side .client).ids = [0] ∧
              (x.side .client).reader = .received (.maxRequestId 2000)) = true := by
    decide +kernel
  obtain ⟨e, he, hok⟩ := (Option.any_eq_true _ _).mp hrun
  obtain ⟨⟨c, s⟩, hsessions, hok⟩ := (Option.any_eq_true _ _).mp hok
  obtain ⟨x, hx, hok⟩ := (Option.any_eq_true _ _).mp hok
  obtain ⟨hc, hs⟩ := results_of_sessions? hsessions
  have hreach := Scenario.Encounter.reaches_follow he
  have hlater := reaches_follow hx
  exact ⟨hv, hlimit, e, c, s, x, hreach, hc, hs, hlater, of_decide_eq_true hok,
    requests_within_limits hv hlimit hreach hc hs hlater⟩

end Exchange

end MediaOverQuic
