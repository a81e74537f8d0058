import Mathlib.Tactic
import MediaOverQuic.Proofs.Session.Handshake
import MediaOverQuic.Scenario.Handshakes

/-!
# Both sides of a handshake

What the two sides have got so far, and what is on its way between them, always makes up the setup
message that is being sent. A client that is done has read all of the server's message, so the
server has written it all and has read all of the client's.
-/
namespace MediaOverQuic.Scenario

/-- What happens to the two sides of a connection: one of them takes a step, or time passes. More is
allowed here than on a clock that only moves when nobody can take a step. -/
inductive Encounter.Step : Encounter → Encounter → Prop
  | party {e e' : Encounter} (r : Role) (h : Encounter.partyStep r e = some e') : Step e e'
  | clock {e : Encounter} {now : Nat} (h : e.now ≤ now) : Step e { e with now := now }

/-- What the two sides bring with them: their configurations and the parameters that they send. -/
structure Setting where
  overlay : Bool
  config : PerRole Config
  sent : PerRole (List KeyValuePair)

namespace Setting

def limit (x : Setting) (r : Role) : Nat := (x.config.get r).maxControlMessageLength

/-- The setup message of a side. -/
def setup (x : Setting) (r : Role) : Message := .setup r (x.sent.get r)

/-- The state that a side starts with. -/
def initial (x : Setting) (r : Role) : SessionState :=
  .start r (x.config.get r).maxIncomingRequestId (x.config.get r).localTokenCacheSize

def session (x : Setting) (r : Role) (c : ControlStream) (state : SessionState) : Session :=
  ⟨r, c, state, x.config.get r⟩

/-- The control stream of a side after its handshake. -/
def settled (x : Setting) (r : Role) : ControlStream := ⟨0, x.limit r, false, .served, .served⟩

def run (x : Setting) (r : Role) (phase : Handshake.Phase) : Handshake.Run :=
  ⟨r, x.config.get r, x.sent.get r, phase⟩

/-- The session of a client after its handshake, when it was sent these parameters. -/
def clientSession (x : Setting) (params : List KeyValuePair) : Session :=
  x.session .client (x.settled .client)
    (((x.initial .client).applyAllLocal (x.sent.get .client)).applyAllPeer params)

/-- The session of the server after its handshake. -/
def serverSession (x : Setting) : Session :=
  x.session .server (x.settled .server)
    (((x.initial .server).applyAllPeer (x.sent.get .client)).applyAllLocal (x.sent.get .server))

/-- Where a client is that has opened the control stream, with what it has not written yet of its
setup message and what it has read of the server's. -/
inductive ClientAt (x : Setting) (p : Party) : Bytes → Bytes → Prop
  | sending {call : Sending} (ht : call.ticket = 0)
      (hp : p.run = some (x.run .client (.sending
        (x.session .client (.speaking (x.limit .client) call.hasTurn .nobody)
          ((x.initial .client).applyAllLocal (x.sent.get .client))) call)))
      (hr : p.result = none) : ClientAt x p call.unsent []
  | reading {call : Receiving} (ht : call.ticket = 0)
      (hp : p.run = some (x.run .client (.reading
        (x.session .client (.listening (x.limit .client) .served)
          ((x.initial .client).applyAllLocal (x.sent.get .client))) call)))
      (hr : p.result = none) : ClientAt x p [] call.got
  | done {params : List KeyValuePair} {got rest : Bytes} (hp : p.run = none)
      (hr : p.result = some (.ok (x.clientSession params)))
      (hs : Frame.scan (x.limit .client) got = .ready (.ok (.serverSetup params), rest)) :
    ClientAt x p [] got

/-- Where the server is after the client has opened the control stream, when of the client's setup
message there is `toCome` that the server has not read, and `given` is what it has sent so far. -/
inductive ServerAt (x : Setting) (p : Party) (arrivals : Channel Nat) : Bytes → Bytes → Prop
  | accepting {call : Accepting}
      (hc : call = .start .bidirectional ∨ call = .waiting .bidirectional)
      (ha : arrivals.queue = [0]) (hp : p.run = some (x.run .server (.accepting call)))
      (hr : p.result = none) : ServerAt x p arrivals (Frame.wire (x.setup .client)) []
  | reading {call : Receiving} {toCome : Bytes} (ht : call.ticket = 0)
      (hp : p.run = some (x.run .server (.reading
        (x.session .server (.listening (x.limit .server) .nobody) (x.initial .server)) call)))
      (hr : p.result = none) (hw : call.got ++ toCome = Frame.wire (x.setup .client)) :
    ServerAt x p arrivals toCome []
  | sending {call : Sending} {given : Bytes} (ht : call.ticket = 0)
      (hturn : call.unsent = [] → call.hasTurn = true)
      (hp : p.run = some (x.run .server (.sending
        (x.session .server (.speaking (x.limit .server) call.hasTurn .served)
          ((x.initial .server).applyAllPeer (x.sent.get .client))) call)))
      (hr : p.result = none) (hf : Frame.Fits (x.limit .server) (x.setup .server))
      (hw : given ++ call.unsent = Frame.wire (x.setup .server)) : ServerAt x p arrivals [] given
  | done (hp : p.run = none) (hr : p.result = some (.ok x.serverSession))
      (hf : Frame.Fits (x.limit .server) (x.setup .server)) :
    ServerAt x p arrivals [] (Frame.wire (x.setup .server))
  | gone {toCome given : Bytes} (hp : p.Failed)
      (hu : Frame.Unreadable (x.limit .client) given) : ServerAt x p arrivals toCome given

/-- The server's place while the client has not written `unsent` and has read `got`. -/
def Serves (x : Setting) (p : Party) (l : Link) (unsent got : Bytes) : Prop :=
  x.ServerAt p (l.arrivals .bidirectional .server) ((l.inbound 0 .server).buffer ++ unsent)
    (got ++ (l.inbound 0 .client).buffer)

/-- Before the client has opened the control stream nothing has happened. -/
structure Opening (x : Setting) (maxStreams : Nat) (e : Encounter) : Prop where
  link : e.link = .fresh x.overlay maxStreams
  client : e.parties.client.run = some (x.run .client (.opening (.start .bidirectional))) ∧
    e.parties.client.result = none
  server : (∃ call, (call = .start .bidirectional ∨ call = .waiting .bidirectional) ∧
      e.parties.server.run = some (x.run .server (.accepting call)) ∧
      e.parties.server.result = none) ∨
    e.parties.server.Failed

/-- The two sides exchange their setup messages. -/
structure Talking (x : Setting) (e : Encounter) (unsent got : Bytes) : Prop where
  length : e.link.streams.length = 1
  fits : Frame.Fits (x.limit .client) (x.setup .client)
  client : x.ClientAt e.parties.client unsent got
  server : x.Serves e.parties.server e.link unsent got

/-- What always holds of the two sides. -/
def Sound (x : Setting) (maxStreams : Nat) (e : Encounter) : Prop :=
  e.parties.client.Failed ∨ x.Opening maxStreams e ∨ ∃ unsent got, x.Talking e unsent got

variable {x : Setting} {now : Nat} {p p' : Party} {l l' : Link}

/-! ## Steps of the client -/

/-- What a client leaves as it was: what it has not written and what the server has not read, and
what it has read and what it may read, make up the same as before. -/
structure ClientKeeps (l l' : Link) (unsent got unsent' got' : Bytes) : Prop where
  length : l'.streams.length = l.streams.length
  arrivals : l'.arrivals .bidirectional .server = l.arrivals .bidirectional .server
  up : (l'.inbound 0 .server).buffer ++ unsent' = (l.inbound 0 .server).buffer ++ unsent
  down : got' ++ (l'.inbound 0 .client).buffer = got ++ (l.inbound 0 .client).buffer

theorem clientKeeps_of_wrote {q : Pipe} {chunk unsent unsent' : Bytes} (hl : 0 < l.streams.length)
    (hq : q.buffer = (l.inbound 0 .server).buffer ++ chunk) (hu : unsent = chunk ++ unsent')
    (got : Bytes) : ClientKeeps l (l.setInbound 0 .server q) unsent got unsent' got where
  length := Link.length_streams_setInbound _ _ _ _
  arrivals := rfl
  up := by rw [Link.inbound_setInbound hl, hq, hu, List.append_assoc]
  down := by rw [Link.inbound_setInbound_ne (by decide)]

theorem clientKeeps_of_read {q : Pipe} {chunk got got' : Bytes} (hl : 0 < l.streams.length)
    (hq : (l.inbound 0 .client).buffer = chunk ++ q.buffer) (hg : got' = got ++ chunk)
    (unsent : Bytes) : ClientKeeps l (l.setInbound 0 .client q) unsent got unsent got' where
  length := Link.length_streams_setInbound _ _ _ _
  arrivals := rfl
  up := by rw [Link.inbound_setInbound_ne (by decide)]
  down := by rw [Link.inbound_setInbound hl, hq, hg, List.append_assoc]

theorem client_step_sending {call : Sending} (hl : 0 < l.streams.length) (ht : call.ticket = 0)
    (hp : p.run = some (x.run .client (.sending
      (x.session .client (.speaking (x.limit .client) call.hasTurn .nobody)
        ((x.initial .client).applyAllLocal (x.sent.get .client))) call)))
    (h : p.step now l = some (p', l')) :
    p'.Failed ∨ ∃ unsent' got',
      x.ClientAt p' unsent' got' ∧ ClientKeeps l l' call.unsent [] unsent' got' := by
  rcases Party.step_of_sending hp rfl h with ⟨call', s', hstep, hp', hr'⟩ | ⟨-, -, hf⟩ |
    ⟨-, -, -, -, -, hf⟩ | ⟨s', l'', hstep, hfollows⟩
  · obtain ⟨c, q, hcall, rfl, rfl⟩ := Session.stepSending_eq_goesOn hstep
    obtain ⟨ht', -, rfl, chunk, hu, hq⟩ := speaking_goesOn ht hcall
    exact .inr ⟨call'.unsent, [], .sending ht' hp' hr', clientKeeps_of_wrote hl hq hu []⟩
  · exact .inl hf
  · exact .inl hf
  · obtain ⟨c, q, hcall, rfl, rfl⟩ := Session.stepSending_eq_ends hstep
    obtain ⟨rfl, ⟨-, hu, rfl⟩ | ⟨e, he, -⟩⟩ := speaking_ends ht hcall
    · obtain ⟨hp', hr', rfl⟩ := hfollows
      rw [hu]
      refine .inr ⟨[], [], .reading rfl hp' hr', ?_⟩
      exact clientKeeps_of_wrote hl (List.append_nil _).symm rfl []
    · cases he

theorem client_step_reading {call : Receiving} (hl : 0 < l.streams.length) (ht : call.ticket = 0)
    (hp : p.run = some (x.run .client (.reading
      (x.session .client (.listening (x.limit .client) .served)
        ((x.initial .client).applyAllLocal (x.sent.get .client))) call)))
    (h : p.step now l = some (p', l')) :
    p'.Failed ∨
      ∃ unsent' got', x.ClientAt p' unsent' got' ∧ ClientKeeps l l' [] call.got unsent' got' := by
  rcases Party.step_of_reading hp rfl h with ⟨call', s', hstep, hp', hr'⟩ | ⟨-, hf⟩ |
    ⟨-, -, -, -, -, hf⟩ | ⟨m, s', l'', hstep, hfollows⟩
  · obtain ⟨c, q, hcall, rfl, rfl⟩ := Session.stepReading_eq_goesOn hstep
    obtain ⟨ht', rfl, chunk, hg, hq⟩ := listening_goesOn ht hcall
    exact .inr ⟨[], call'.got, .reading ht' hp' hr', clientKeeps_of_read hl hq hg []⟩
  · exact .inl hf
  · exact .inl hf
  · obtain ⟨c, q, hcall, rfl, rfl⟩ := Session.stepReading_eq_ends hstep
    obtain ⟨rfl, rfl, ⟨rest, hscan⟩ | ⟨e, he⟩⟩ := listening_ends ht hcall
    · rcases Party.follows_afterReading_client rfl hfollows with ⟨-, hf⟩ |
        ⟨params, rfl, rfl, hp', hr'⟩
      · exact .inl hf
      · refine .inr ⟨[], call.got, .done hp' hr' hscan, ?_⟩
        exact clientKeeps_of_read hl (List.nil_append _).symm (List.append_nil _).symm []
    · cases he

theorem client_step {unsent got : Bytes} (hl : 0 < l.streams.length)
    (hc : x.ClientAt p unsent got) (h : p.step now l = some (p', l')) :
    p'.Failed ∨
      ∃ unsent' got', x.ClientAt p' unsent' got' ∧ ClientKeeps l l' unsent got unsent' got' := by
  cases hc with
  | sending ht hp => exact client_step_sending hl ht hp h
  | reading ht hp => exact client_step_reading hl ht hp h
  | done hp =>
    rw [Party.step_of_none hp] at h
    cases h

/-! ## Steps of the server -/

variable {unsent got : Bytes}

/-- The server has read from the pipe that the client writes to. -/
theorem serves_setInbound_server (hl : 0 < l.streams.length) {q : Pipe} :
    x.Serves p (l.setInbound 0 .server q) unsent got ↔
      x.ServerAt p (l.arrivals .bidirectional .server) (q.buffer ++ unsent)
        (got ++ (l.inbound 0 .client).buffer) := by
  rw [Serves, Link.inbound_setInbound hl, Link.inbound_setInbound_ne (by decide)]
  rfl

/-- The server has written to the pipe that the client reads from. -/
theorem serves_setInbound_client (hl : 0 < l.streams.length) {q : Pipe} :
    x.Serves p (l.setInbound 0 .client q) unsent got ↔
      x.ServerAt p (l.arrivals .bidirectional .server) ((l.inbound 0 .server).buffer ++ unsent)
        (got ++ q.buffer) := by
  rw [Serves, Link.inbound_setInbound hl, Link.inbound_setInbound_ne (by decide)]
  rfl

theorem serves_of_failed {id : Nat} {r : Role} (hp : p.Failed)
    (hu : Frame.Unreadable (x.limit .client) (got ++ (l.inbound 0 .client).buffer)) :
    x.Serves p (l.release id r) unsent got := by
  refine .gone hp ?_
  rwa [Link.buffer_release]

theorem server_step_accepting {call : Accepting}
    (hc : call = .start .bidirectional ∨ call = .waiting .bidirectional)
    (ha : (l.arrivals .bidirectional .server).queue = [0])
    (hp : p.run = some (x.run .server (.accepting call)))
    (hw : (l.inbound 0 .server).buffer ++ unsent = Frame.wire (x.setup .client))
    (hg : got ++ (l.inbound 0 .client).buffer = []) (h : p.step now l = some (p', l')) :
    l'.streams.length = l.streams.length ∧ x.Serves p' l' unsent got := by
  have hu : Frame.Unreadable (x.limit .client) (got ++ (l.inbound 0 .client).buffer) := by
    rw [hg]
    exact Frame.unreadable_nil _
  have hstep := Party.step_of_some hp h
  simp only [Handshake.Run.step, Handshake.Run.abandon, run] at hstep
  rcases hc with rfl | rfl
  · simp only [Accepting.step] at hstep
    split_ifs at hstep with hclosed
    · obtain ⟨hp', hr', rfl⟩ := hstep.resolve_right (by simp [Handshake.Run.fail])
      exact ⟨rfl, .gone ⟨hp', _, hr'⟩ hu⟩
    · obtain ⟨hp', hr', rfl⟩ := hstep.resolve_right (by simp)
      refine ⟨rfl, ?_⟩
      unfold Serves
      rw [hw, hg]
      exact .accepting (.inr rfl) ha hp' hr'
  · simp only [Accepting.step, reduceCtorEq, and_false, if_false] at hstep
    cases htake : (l.arrivals .bidirectional .server).take? with
    | none =>
      rw [Channel.take?_eq_none_iff, ha] at htake
      cases htake
    | some taken =>
      obtain ⟨id, rest⟩ := taken
      have hqueue := Channel.queue_of_take? htake
      rw [ha, List.cons.injEq] at hqueue
      obtain ⟨rfl, -⟩ := hqueue
      rw [htake] at hstep
      obtain ⟨hp', hr', rfl⟩ := hstep.resolve_right (by
        simp [Handshake.Run.withStream, Handshake.Run.beginReading])
      refine ⟨rfl, ?_⟩
      unfold Serves
      have hdown : got ++ ((l.setArrivals .bidirectional .server rest).inbound 0 .client).buffer =
        [] := hg
      rw [hdown]
      exact .reading rfl hp' hr' hw

theorem server_step_reading (hv : ∀ r, (x.setup r).Valid)
    (hfits : Frame.Fits (x.limit .client) (x.setup .client)) (hl : 0 < l.streams.length)
    {call : Receiving} (ht : call.ticket = 0)
    (hp : p.run = some (x.run .server (.reading
      (x.session .server (.listening (x.limit .server) .nobody) (x.initial .server)) call)))
    (hw : call.got ++ ((l.inbound 0 .server).buffer ++ unsent) = Frame.wire (x.setup .client))
    (hg : got ++ (l.inbound 0 .client).buffer = []) (h : p.step now l = some (p', l')) :
    l'.streams.length = l.streams.length ∧ x.Serves p' l' unsent got := by
  have hu : ∀ q, Frame.Unreadable (x.limit .client)
      (got ++ ((l.setInbound 0 .server q).inbound 0 .client).buffer) := by
    intro q
    rw [Link.inbound_setInbound_ne (by decide), hg]
    exact Frame.unreadable_nil _
  rcases Party.step_of_reading hp rfl h with ⟨call', s', hstep, hp', hr'⟩ | ⟨rfl, hf⟩ |
    ⟨e, s', l'', hstep, rfl, hf⟩ | ⟨m, s', l'', hstep, hfollows⟩
  · obtain ⟨c, q, hcall, rfl, rfl⟩ := Session.stepReading_eq_goesOn hstep
    obtain ⟨ht', rfl, chunk, hgot, hq⟩ := listening_goesOn ht hcall
    refine ⟨Link.length_streams_setInbound _ _ _ _, ?_⟩
    have hq : (l.inbound 0 .server).buffer = chunk ++ q.buffer := hq
    refine (serves_setInbound_server hl).mpr ?_
    rw [hg]
    refine .reading ht' hp' hr' ?_
    rw [← hw, hgot, hq, List.append_assoc, List.append_assoc]
  · refine ⟨Link.length_streams_release _ _ _, serves_of_failed hf ?_⟩
    rw [hg]
    exact Frame.unreadable_nil _
  · obtain ⟨c, q, hcall, rfl, rfl⟩ := Session.stepReading_eq_ends hstep
    refine ⟨?_, serves_of_failed hf (hu q)⟩
    rw [Link.length_streams_release, Link.length_streams_setInbound]
  · obtain ⟨c, q, hcall, rfl, rfl⟩ := Session.stepReading_eq_ends hstep
    obtain ⟨rfl, rfl, ⟨rest, hscan⟩ | ⟨e, he⟩⟩ := listening_ends ht hcall
    · rcases Party.follows_afterReading_server rfl hfollows with ⟨rfl, hf⟩ |
        ⟨params, sending, s'', rfl, hsend, rfl, hp', hr'⟩
      · refine ⟨?_, serves_of_failed hf (hu _)⟩
        rw [Link.length_streams_release, Link.length_streams_setInbound]
      · obtain ⟨hm, hnil⟩ := Frame.eq_of_scan_of_append (hv .client) hfits hw hscan
        obtain rfl : params = x.sent.get .client := Message.clientSetup.inj hm
        obtain ⟨hfits', rfl, rfl⟩ := Session.send_eq_ok (hv .server) hsend
        have hp' : p'.run = some (x.run .server (.sending
          (x.session .server (.speaking (x.limit .server) false .served)
            ((x.initial .server).applyAllPeer (x.sent.get .client)))
          (.waiting 0 (Frame.wire (x.setup .server))))) := hp'
        refine ⟨Link.length_streams_setInbound _ _ _ _, (serves_setInbound_server hl).mpr ?_⟩
        have hnil : (l.inbound 0 .server).buffer ++ unsent = [] := hnil
        rw [hg]
        change x.ServerAt p' _ ((l.inbound 0 .server).buffer ++ unsent) []
        rw [hnil]
        exact @ServerAt.sending x p' _ (.waiting 0 _) [] rfl
          (fun hnil => absurd hnil (Frame.wire_ne_nil _)) hp' hr' hfits' rfl
    · cases he

theorem server_step_sending (hv : ∀ r, (x.setup r).Valid) (hl : 0 < l.streams.length)
    {call : Sending} (ht : call.ticket = 0)
    (hp : p.run = some (x.run .server (.sending
      (x.session .server (.speaking (x.limit .server) call.hasTurn .served)
        ((x.initial .server).applyAllPeer (x.sent.get .client))) call)))
    (hfits : Frame.Fits (x.limit .server) (x.setup .server))
    (hup : (l.inbound 0 .server).buffer ++ unsent = [])
    (hw : got ++ (l.inbound 0 .client).buffer ++ call.unsent = Frame.wire (x.setup .server))
    (h : p.step now l = some (p', l')) :
    l'.streams.length = l.streams.length ∧ x.Serves p' l' unsent got := by
  have hu : call.unsent ≠ [] →
      Frame.Unreadable (x.limit .client) (got ++ (l.inbound 0 .client).buffer) :=
    Frame.unreadable_of_append (hv .server) hfits hw
  rcases Party.step_of_sending hp rfl h with ⟨call', s', hstep, hp', hr'⟩ | ⟨hstep, rfl, hf⟩ |
    ⟨e, s', l'', hstep, rfl, hf⟩ | ⟨s', l'', hstep, hfollows⟩
  · obtain ⟨c, q, hcall, rfl, rfl⟩ := Session.stepSending_eq_goesOn hstep
    obtain ⟨ht', hturn, rfl, chunk, hunsent, hq⟩ := speaking_goesOn ht hcall
    refine ⟨Link.length_streams_setInbound _ _ _ _, ?_⟩
    have hq : q.buffer = (l.inbound 0 .client).buffer ++ chunk := hq
    refine (serves_setInbound_client hl).mpr ?_
    rw [hup]
    refine .sending ht' (fun _ => hturn) hp' hr' hfits ?_
    rw [← hw, hunsent, hq]
    simp only [List.append_assoc]
  · exact ⟨Link.length_streams_release _ _ _,
      serves_of_failed hf (hu (speaking_waits ht (Session.stepSending_eq_waits hstep)))⟩
  · obtain ⟨c, q, hcall, rfl, rfl⟩ := Session.stepSending_eq_ends hstep
    obtain ⟨rfl, ⟨he, -⟩ | ⟨e, -, hne⟩⟩ := speaking_ends ht hcall
    · cases he
    · refine ⟨?_, serves_of_failed hf ?_⟩
      · rw [Link.length_streams_release, Link.length_streams_setInbound]
      · change Frame.Unreadable _ (got ++ ((l.setInbound 0 .client _).inbound 0 .client).buffer)
        rw [Link.inbound_setInbound hl]
        exact hu hne
  · obtain ⟨c, q, hcall, rfl, rfl⟩ := Session.stepSending_eq_ends hstep
    obtain ⟨rfl, ⟨-, hnil, rfl⟩ | ⟨e, he, -⟩⟩ := speaking_ends ht hcall
    · obtain ⟨hp', hr', rfl⟩ := hfollows
      refine ⟨Link.length_streams_setInbound _ _ _ _, (serves_setInbound_client hl).mpr ?_⟩
      rw [hnil, List.append_nil] at hw
      change x.ServerAt p' _ _ (got ++ (l.inbound 0 .client).buffer)
      rw [hup, hw]
      exact .done hp' hr' hfits
    · cases he

theorem server_step (hv : ∀ r, (x.setup r).Valid)
    (hfits : Frame.Fits (x.limit .client) (x.setup .client)) (hl : 0 < l.streams.length)
    (hs : x.Serves p l unsent got) (h : p.step now l = some (p', l')) :
    l'.streams.length = l.streams.length ∧ x.Serves p' l' unsent got := by
  unfold Serves at hs
  generalize hup : (l.inbound 0 .server).buffer ++ unsent = toCome at hs
  generalize hdown : got ++ (l.inbound 0 .client).buffer = given at hs
  cases hs with
  | accepting hc ha hp => exact server_step_accepting hc ha hp hup hdown h
  | reading ht hp hr hw =>
    subst hup
    exact server_step_reading hv hfits hl ht hp hw hdown h
  | sending ht hturn hp hr hf hw =>
    subst hdown
    exact server_step_sending hv hl ht hp hf hup hw h
  | done hp =>
    rw [Party.step_of_none hp] at h
    cases h
  | gone hp =>
    rw [Party.step_of_none hp.1] at h
    cases h

/-! ## Before the control stream is there -/

/-- A client that may open a stream opens the control stream, and the server can accept it. -/
theorem opening_start (overlay : Bool) (maxStreams : Nat) :
    (∃ f l, (MediaOverQuic.Opening.start .bidirectional).step .client (.fresh overlay maxStreams) =
      .ends (.error f, l)) ∨
    ∃ l, (MediaOverQuic.Opening.start .bidirectional).step .client (.fresh overlay maxStreams) =
      .ends (.ok 0, l) ∧ l.streams = [.fresh .bidirectional .client] ∧
      (l.arrivals .bidirectional .server).queue = [0] := by
  cases maxStreams with
  | zero => exact .inl ⟨_, _, rfl⟩
  | succ n => exact .inr ⟨_, rfl, rfl, rfl⟩

theorem client_step_opening (hv : ∀ r, (x.setup r).Valid) {maxStreams : Nat}
    (hp : p.run = some (x.run .client (.opening (.start .bidirectional))))
    (h : p.step now (.fresh x.overlay maxStreams) = some (p', l')) :
    p'.Failed ∨ (l'.streams = [.fresh .bidirectional .client] ∧
      (l'.arrivals .bidirectional .server).queue = [0] ∧
      Frame.Fits (x.limit .client) (x.setup .client) ∧
      x.ClientAt p' (Frame.wire (x.setup .client)) []) := by
  have hstep := Party.step_of_some hp h
  simp only [Handshake.Run.step, Handshake.Run.abandon, run] at hstep
  rcases opening_start x.overlay maxStreams with ⟨f, l, ho⟩ | ⟨l, ho, hstreams, harrivals⟩
  · rw [ho] at hstep
    obtain ⟨hp', hr', -⟩ := hstep.resolve_right (by simp [Handshake.Run.fail])
    exact .inl ⟨hp', _, hr'⟩
  · rw [ho] at hstep
    have hbegin : Party.Follows ((x.run .client (.opening (.start .bidirectional))).beginSending
        (x.session .client (.fresh 0 (x.limit .client))
          ((x.initial .client).applyAllLocal (x.sent.get .client))) l) p' l' :=
      hstep.resolve_right fun hw => Handshake.Run.beginSending_ne_waits _ _ _ hw.1
    rcases Party.follows_beginSending hbegin with ⟨-, hf⟩ | ⟨call, s', hsend, rfl, hp', hr'⟩
    · exact .inl hf
    · obtain ⟨hfits, rfl, rfl⟩ := Session.send_eq_ok (hv .client) hsend
      exact .inr ⟨hstreams, harrivals, hfits, @ClientAt.sending x p' (.waiting 0 _) rfl hp' hr'⟩

theorem server_step_opening {maxStreams : Nat} {call : Accepting}
    (hc : call = .start .bidirectional ∨ call = .waiting .bidirectional)
    (hp : p.run = some (x.run .server (.accepting call)))
    (h : p.step now (.fresh x.overlay maxStreams) = some (p', l')) :
    l' = .fresh x.overlay maxStreams ∧
      ((p'.run = some (x.run .server (.accepting (.waiting .bidirectional))) ∧ p'.result = none) ∨
        p'.Failed) := by
  have hstep := Party.step_of_some hp h
  rcases hc with rfl | rfl
  · obtain ⟨hp', hr', rfl⟩ := hstep.resolve_right fun hw => by cases hw.1
    exact ⟨rfl, .inl ⟨hp', hr'⟩⟩
  · obtain ⟨-, rfl, hf⟩ := hstep.resolve_left id
    exact ⟨rfl, .inr hf⟩

/-! ## Runs -/

variable {maxStreams : Nat} {e e' : Encounter}

theorem partyStep_eq_some {r : Role} (h : Encounter.partyStep r e = some e') :
    ∃ p l, (e.parties.get r).step e.now e.link = some (p, l) ∧
      e' = { e with parties := e.parties.set r p, link := l } := by
  obtain ⟨⟨p, l⟩, hstep, rfl⟩ := Option.map_eq_some_iff.mp h
  exact ⟨p, l, hstep, rfl⟩

/-- A handshake that has failed stays so. -/
theorem failed_of_step {r : Role} (hs : Encounter.Step e e') (hf : (e.parties.get r).Failed) :
    (e'.parties.get r).Failed := by
  cases hs with
  | clock => exact hf
  | party r' h =>
    obtain ⟨p, l, hstep, rfl⟩ := partyStep_eq_some h
    by_cases hr : r' = r
    · subst hr
      rw [Party.step_of_none hf.1] at hstep
      cases hstep
    · cases r <;> cases r' <;> first | exact hf | exact absurd rfl hr

theorem Opening.step (hv : ∀ r, (x.setup r).Valid) (h : x.Opening maxStreams e)
    (hs : Encounter.Step e e') : x.Sound maxStreams e' := by
  cases hs with
  | clock => exact .inr (.inl ⟨h.link, h.client, h.server⟩)
  | party r hparty =>
    obtain ⟨p, l, hstep, rfl⟩ := partyStep_eq_some hparty
    rw [h.link] at hstep
    cases r with
    | client =>
      rcases client_step_opening hv h.client.1 hstep with hf | ⟨hstreams, harrivals, hfits, hc⟩
      · exact .inl hf
      · have hinbound : ∀ r, (l.inbound 0 r).buffer = [] := by
          intro r
          rw [Link.inbound, Link.stream, hstreams]
          cases r <;> rfl
        refine .inr (.inr ⟨_, _, by simp [hstreams], hfits, hc, ?_⟩)
        unfold Serves
        rw [hinbound, hinbound]
        rcases h.server with ⟨call, hcall, hp, hr⟩ | hf
        · exact .accepting hcall harrivals hp hr
        · exact .gone hf (Frame.unreadable_nil _)
    | server =>
      rcases h.server with ⟨call, hcall, hp, hr⟩ | hf
      · obtain ⟨rfl, hp'⟩ := server_step_opening hcall hp hstep
        exact .inr (.inl ⟨rfl, h.client, hp'.imp_left fun hp' => ⟨_, .inr rfl, hp'⟩⟩)
      · have hnone : (e.parties.get .server).run = none := hf.1
        rw [Party.step_of_none hnone] at hstep
        cases hstep

theorem Talking.step (hv : ∀ r, (x.setup r).Valid) (h : x.Talking e unsent got)
    (hs : Encounter.Step e e') : x.Sound maxStreams e' := by
  cases hs with
  | clock => exact .inr (.inr ⟨_, _, h.length, h.fits, h.client, h.server⟩)
  | party r hparty =>
    obtain ⟨p, l, hstep, rfl⟩ := partyStep_eq_some hparty
    have hl : 0 < e.link.streams.length := by
      rw [h.length]
      exact Nat.one_pos
    cases r with
    | client =>
      rcases client_step hl h.client hstep with hf | ⟨unsent', got', hc, hkeeps⟩
      · exact .inl hf
      · refine .inr (.inr ⟨unsent', got', hkeeps.length.trans h.length, h.fits, hc, ?_⟩)
        have hserver := h.server
        unfold Serves at hserver ⊢
        rwa [← hkeeps.up, ← hkeeps.down, ← hkeeps.arrivals] at hserver
    | server =>
      obtain ⟨hlength, hserver⟩ := server_step hv h.fits hl h.server hstep
      exact .inr (.inr ⟨_, _, hlength.trans h.length, h.fits, h.client, hserver⟩)

theorem Sound.step (hv : ∀ r, (x.setup r).Valid) (h : x.Sound maxStreams e)
    (hs : Encounter.Step e e') : x.Sound maxStreams e' := by
  rcases h with hf | ho | ⟨unsent, got, ht⟩
  · have hf' : (e.parties.get .client).Failed := hf
    exact .inl (failed_of_step hs hf')
  · exact ho.step hv hs
  · exact ht.step hv hs

theorem Sound.run (hv : ∀ r, (x.setup r).Valid) (h : x.Sound maxStreams e)
    (hr : Relation.ReflTransGen Encounter.Step e e') : x.Sound maxStreams e' := by
  induction hr with
  | refl => exact h
  | tail _ hs ih => exact ih.step hv hs

end Setting

end MediaOverQuic.Scenario
