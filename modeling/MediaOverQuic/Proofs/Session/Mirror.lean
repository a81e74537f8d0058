import Mathlib.Tactic
import MediaOverQuic.Proofs.Session.Agreement
import MediaOverQuic.Proofs.Session.SetupParameters

/-!
# What a handshake agrees on

When the client's handshake succeeds, so does the server's, and the two session states mirror each
other: what one side allows is what the other one may do. All of it comes from the parameters that
the sides were given, where the last one of a kind counts, and from their configurations.
-/
namespace MediaOverQuic.Scenario

/-! ## The clock -/

namespace Encounter

theorem reaches_advance {actor : Actor Encounter} (ha : ∀ {e e'}, actor e = some e' → Step e e')
    (turns : Nat) (moved : Bool) (e : Encounter) :
    Relation.ReflTransGen Step e (advance actor turns (moved, e)).2 := by
  induction turns generalizing moved e with
  | zero => exact .refl
  | succ turns ih =>
    simp only [advance]
    split
    · exact .refl
    · next e' h => exact .head (ha h) (ih true e')

theorem step_of_tick {e e' : Encounter} (h : tick e = some e') : Step e e' := by
  obtain ⟨now, hnow, rfl⟩ := Option.map_eq_some_iff.mp h
  refine .clock ?_
  unfold nextMoment at hnow
  split at hnow
  · split_ifs at hnow with hlt
    obtain rfl := Option.some.inj hnow
    exact hlt.le
  · cases hnow

/-- Both sides go on as far as they can. -/
theorem reaches_round (turns : Nat) (e : Encounter) :
    Relation.ReflTransGen Step e
      (([partyStep .client, partyStep .server] : List (Actor Encounter)).foldl
        (fun acc actor => advance actor turns acc) (false, e)).2 :=
  (reaches_advance (.party .client) turns false e).trans
    (reaches_advance (.party .server) turns _ _)

theorem reaches_settle (turns : Nat) (e : Encounter) :
    Relation.ReflTransGen Step e
      (settle (fun _ => [partyStep .client, partyStep .server]) tick turns e) := by
  induction turns generalizing e with
  | zero => exact .refl
  | succ turns ih =>
    have hround := reaches_round maxTurns e
    simp only [settle]
    split
    · next e' he =>
      rw [he] at hround
      exact hround.trans (ih e')
    · next e' he =>
      rw [he] at hround
      split
      · next e'' ht => exact (hround.tail (step_of_tick ht)).trans (ih e'')
      · exact hround

/-- Handshakes that are played on one clock are among the runs. -/
theorem reaches_play (e : Encounter) : Relation.ReflTransGen Step e e.play :=
  reaches_settle maxTurns e

/-- Lets the sides take steps in this order. -/
def follow (e : Encounter) (order : List Role) : Option Encounter :=
  order.foldlM (fun e r => partyStep r e) e

theorem reaches_follow {order : List Role} {e e' : Encounter} (h : e.follow order = some e') :
    Relation.ReflTransGen Step e e' :=
  reaches_of_foldlM (fun h => .party _ h) h

end Encounter

namespace Setting

variable {x : Setting} {e : Encounter} {unsent got : Bytes}

/-- A client that is done has the session that the server's parameters make, nothing is on its way
any more, and the server is done or has nothing left to write. -/
theorem Talking.agree (hv : ∀ r, (x.setup r).Valid) (h : x.Talking e unsent got) {c : Session}
    (hc : e.parties.client.result = some (.ok c)) :
    c = x.clientSession (x.sent.get .server) ∧
      (∀ r, (e.link.inbound 0 r).buffer = []) ∧
      (e.parties.server.result = some (.ok x.serverSession) ∨
        e.parties.server.result = none ∧ e.parties.server.run = some (x.run .server (.sending
          (x.session .server (.speaking (x.limit .server) true .served)
            ((x.initial .server).applyAllPeer (x.sent.get .client))) (.writing 0 [])))) := by
  obtain ⟨-, -, hclient, hserver⟩ := h
  cases hclient with
  | sending _ _ hr => cases hc.symm.trans hr
  | reading _ _ hr => cases hc.symm.trans hr
  | done hp hr hs =>
    obtain rfl := Except.ok.inj (Option.some.inj (hr.symm.trans hc))
    unfold Serves at hserver
    generalize hup : (e.link.inbound 0 .server).buffer ++ [] = toCome at hserver
    generalize hdown : got ++ (e.link.inbound 0 .client).buffer = given at hserver
    rw [List.append_nil] at hup
    cases hserver with
    | accepting =>
      obtain ⟨rfl, -⟩ := List.append_eq_nil_iff.mp hdown
      exact absurd hs (Frame.unreadable_nil _ _ _)
    | reading =>
      obtain ⟨rfl, -⟩ := List.append_eq_nil_iff.mp hdown
      exact absurd hs (Frame.unreadable_nil _ _ _)
    | @sending call _ ht hturn hp' hr' hf hw =>
      rw [← hdown, List.append_assoc] at hw
      obtain ⟨hm, hnil⟩ := Frame.eq_of_scan_of_append (hv .server) hf hw hs
      obtain rfl := Message.serverSetup.inj hm
      obtain ⟨hempty, hunsent⟩ := List.append_eq_nil_iff.mp hnil
      refine ⟨rfl, fun r => by cases r <;> assumption, .inr ?_⟩
      cases call with
      | waiting => cases hturn hunsent
      | writing t rest =>
        obtain rfl : t = 0 := ht
        obtain rfl : rest = [] := hunsent
        exact ⟨hr', hp'⟩
    | done hp' hr' hf =>
      obtain ⟨hm, hnil⟩ := Frame.eq_of_scan_of_append (hv .server) hf hdown hs
      obtain rfl := Message.serverSetup.inj hm
      exact ⟨rfl, fun r => by cases r <;> assumption, .inl hr'⟩
    | gone hf hu => exact absurd hs ((hdown ▸ hu).of_append _ _)

/-- A server that has nothing left to write succeeds with its next step. -/
theorem exists_partyStep (hp : e.parties.server.run = some (x.run .server (.sending
      (x.session .server (.speaking (x.limit .server) true .served)
        ((x.initial .server).applyAllPeer (x.sent.get .client))) (.writing 0 [])))) :
    ∃ e', Encounter.partyStep .server e = some e' ∧
      e'.parties.server.result = some (.ok x.serverSession) := by
  have hstep : (e.parties.get .server).step e.now e.link =
      some (e.parties.server.finish (.ok x.serverSession),
        e.link.setInbound 0 .client (e.link.inbound 0 .client)) := by
    have hrun : (e.parties.get .server).run = _ := hp
    simp only [Party.step, hrun]
    rfl
  refine ⟨_, by rw [Encounter.partyStep, hstep]; rfl, rfl⟩

/-! ## From the start -/

/-- What the sides send for the parameters that they were given, if these are allowed. -/
def ofGiven (overlay : Bool) (config : PerRole Config) (given : PerRole (List KeyValuePair)) :
    Setting where
  overlay := overlay
  config := config
  sent :=
    let sent (r : Role) :=
      match Handshake.outgoing r (config.get r) overlay (given.get r) with
      | .ok sent => sent
      | .error _ => []
    ⟨sent .client, sent .server⟩

variable {overlay : Bool} {config : PerRole Config} {given : PerRole (List KeyValuePair)}

theorem sent_ofGiven (r : Role) : (ofGiven overlay config given).sent.get r =
    match Handshake.outgoing r (config.get r) overlay (given.get r) with
    | .ok sent => sent
    | .error _ => [] := by
  cases r <;> rfl

theorem valid_ofGiven (hv : ∀ r, ∀ p ∈ given.get r, p.Valid) (r : Role) :
    ((ofGiven overlay config given).setup r).Valid := by
  have hsent : ∀ p ∈ (ofGiven overlay config given).sent.get r, p.Valid := by
    rw [sent_ofGiven]
    cases h : Handshake.outgoing r (config.get r) overlay (given.get r) with
    | ok sent => exact (Handshake.sends_of_outgoing h (hv r)).valid
    | error f => simp
  cases r <;> exact hsent

theorem parties_start (r : Role) (maxStreams : Nat) :
    (Encounter.start (.fresh overlay maxStreams) config given).parties.get r =
      .begin 0 (.start r (config.get r)) overlay (given.get r) := by
  cases r <;> rfl

theorem failed_start {r : Role} {f : Failure} (maxStreams : Nat)
    (h : Handshake.outgoing r (config.get r) overlay (given.get r) = .error f) :
    ((Encounter.start (.fresh overlay maxStreams) config given).parties.get r).Failed := by
  rw [parties_start]
  simp [Party.begin, Handshake.begin, Handshake.start, h, Party.Failed]

theorem run_start {r : Role} {sent : List KeyValuePair} (maxStreams : Nat)
    (h : Handshake.outgoing r (config.get r) overlay (given.get r) = .ok sent) :
    ((Encounter.start (.fresh overlay maxStreams) config given).parties.get r).run =
        some ((ofGiven overlay config given).run r (Handshake.firstPhase r)) ∧
      ((Encounter.start (.fresh overlay maxStreams) config given).parties.get r).result = none := by
  have hrun : (ofGiven overlay config given).run r (Handshake.firstPhase r) =
      ⟨r, config.get r, sent, Handshake.firstPhase r⟩ := by
    rw [run, sent_ofGiven, h]
    rfl
  rw [parties_start, hrun]
  simp [Party.begin, Handshake.begin, Handshake.start, h]

theorem sound_start (overlay : Bool) (maxStreams : Nat) (config : PerRole Config)
    (given : PerRole (List KeyValuePair)) : (ofGiven overlay config given).Sound maxStreams
      (Encounter.start (.fresh overlay maxStreams) config given) := by
  cases hc : Handshake.outgoing .client (config.get .client) overlay (given.get .client) with
  | error f => exact .inl (failed_start maxStreams hc)
  | ok sent =>
    refine .inr (.inl ⟨rfl, run_start maxStreams hc, ?_⟩)
    cases hs : Handshake.outgoing .server (config.get .server) overlay (given.get .server) with
    | error f => exact .inr (failed_start maxStreams hs)
    | ok sent' => exact .inl ⟨_, .inl rfl, run_start maxStreams hs⟩

theorem failed_run {e' : Encounter} {r : Role} (hr : Relation.ReflTransGen Encounter.Step e e')
    (hf : (e.parties.get r).Failed) : (e'.parties.get r).Failed := by
  induction hr with
  | refl => exact hf
  | tail _ hs ih => exact failed_of_step hs ih

/-- Whoever has a session was allowed to send its parameters. -/
theorem sends_of_run {maxStreams : Nat} {r : Role} (hv : ∀ p ∈ given.get r, p.Valid)
    (h : Relation.ReflTransGen Encounter.Step
      (Encounter.start (.fresh overlay maxStreams) config given) e)
    (hnot : ¬ (e.parties.get r).Failed) : Handshake.Sends r (config.get r) (given.get r)
      ((ofGiven overlay config given).sent.get r) := by
  rw [sent_ofGiven]
  cases hsent : Handshake.outgoing r (config.get r) overlay (given.get r) with
  | ok sent => exact Handshake.sends_of_outgoing hsent hv
  | error f => exact absurd (failed_run h (failed_start maxStreams hsent)) hnot

end Setting

/-! ## Results -/

/-- What the session states of a client and a server have to do with each other, and with the
parameters and configurations that the sides were given. -/
structure Mirrored (config : PerRole Config) (given : PerRole (List KeyValuePair))
    (c s : SessionState) : Prop where
  requests : c.maxOutgoing = s.maxIncoming ∧ s.maxOutgoing = c.maxIncoming
  tokens : c.peerTokenCacheSize = s.localTokenCacheSize ∧
    s.peerTokenCacheSize = c.localTokenCacheSize
  destination : c.path = s.path ∧ c.authority = s.authority
  named : c.path = (SetupParameter.path.lastText? given.client).getD "" ∧
    c.authority = (SetupParameter.authority.lastText? given.client).getD ""
  implementations :
    c.peerImplementation = (SetupParameter.implementation.lastText? given.server).getD "" ∧
    s.peerImplementation = (SetupParameter.implementation.lastText? given.client).getD ""
  nextOutgoing : c.nextOutgoing = 0 ∧ s.nextOutgoing = 1
  nextIncoming : c.nextIncoming = s.nextOutgoing ∧ s.nextIncoming = c.nextOutgoing
  ownRequests :
    c.maxIncoming = (SetupParameter.maxRequestId.lastInt? given.client).getD
      config.client.maxIncomingRequestId ∧
    s.maxIncoming = (SetupParameter.maxRequestId.lastInt? given.server).getD
      config.server.maxIncomingRequestId
  ownTokens :
    c.localTokenCacheSize = (SetupParameter.maxAuthTokenCacheSize.lastInt? given.client).getD
      config.client.localTokenCacheSize ∧
    s.localTokenCacheSize = (SetupParameter.maxAuthTokenCacheSize.lastInt? given.server).getD
      config.server.localTokenCacheSize

theorem Setting.mirrored {x : Setting} {given : PerRole (List KeyValuePair)}
    (hc : Handshake.Sends .client x.config.client given.client x.sent.client)
    (hs : Handshake.Sends .server x.config.server given.server x.sent.server) :
    Mirrored x.config given (x.clientSession x.sent.server).state x.serverSession.state := by
  have hcstate : (x.clientSession x.sent.server).state =
      ((x.initial .client).applyAllLocal x.sent.client).applyAllPeer x.sent.server := rfl
  have hsstate : x.serverSession.state =
      ((x.initial .server).applyAllPeer x.sent.client).applyAllLocal x.sent.server := rfl
  obtain ⟨hpath, hauthority⟩ := hs.noDestination rfl
  rw [hcstate, hsstate, SessionState.applyAllPeer_eq _ hs.valid,
    SessionState.applyAllLocal_eq _ hc.valid, SessionState.applyAllLocal_eq _ hs.valid,
    SessionState.applyAllPeer_eq _ hc.valid]
  refine ⟨⟨?_, ?_⟩, ⟨?_, ?_⟩, ⟨rfl, rfl⟩, ⟨?_, ?_⟩, ⟨?_, ?_⟩, ⟨rfl, rfl⟩, ⟨rfl, rfl⟩,
    ⟨?_, ?_⟩, ⟨?_, ?_⟩⟩
  · exact (hs.requestLimit (.inl rfl)).trans (hs.requestLimit (.inr rfl)).symm
  · exact (hc.requestLimit (.inl rfl)).trans (hc.requestLimit (.inr rfl)).symm
  · exact (hs.cacheSize (.inl rfl)).trans (hs.cacheSize (.inr rfl)).symm
  · exact (hc.cacheSize (.inl rfl)).trans (hc.cacheSize (.inr rfl)).symm
  · simp only [hpath, Option.getD_none, hc.text .path (by decide) (by decide)]
    rfl
  · simp only [hauthority, Option.getD_none, hc.text .authority (by decide) (by decide)]
    rfl
  · rw [← hs.text .implementation (by decide) (by decide)]
    rfl
  · rw [← hc.text .implementation (by decide) (by decide)]
    rfl
  · exact hc.requestLimit (.inr rfl)
  · exact hs.requestLimit (.inr rfl)
  · exact hc.cacheSize (.inr rfl)
  · exact hs.cacheSize (.inr rfl)

/-- When the handshake of the client has succeeded, both sessions are settled and there is nothing
on its way, even if the server has not noticed yet that it is done. -/
theorem Setting.settled_of_run {overlay : Bool} {maxStreams : Nat} {config : PerRole Config}
    {given : PerRole (List KeyValuePair)} (hv : ∀ r, ∀ p ∈ given.get r, p.Valid) {e : Encounter}
    (h : Relation.ReflTransGen Encounter.Step
      (Encounter.start (.fresh overlay maxStreams) config given) e)
    {c : Session} (hc : e.parties.client.result = some (.ok c)) :
    ∃ x : Setting, x.config = config ∧ c = x.clientSession (x.sent.get .server) ∧
      e.link.streams.length = 1 ∧ (∀ r, (e.link.inbound 0 r).buffer = []) ∧
      (e.parties.server.result = some (.ok x.serverSession) ∨
        e.parties.server.result = none ∧ ∃ e', Encounter.partyStep .server e = some e' ∧
          e'.parties.server.result = some (.ok x.serverSession)) ∧
      Mirrored config given c.state x.serverSession.state := by
  have hsound := (Setting.sound_start overlay maxStreams config given).run
    (Setting.valid_ofGiven hv) h
  have hclient : ¬ (e.parties.get .client).Failed := by
    rintro ⟨-, f, hf⟩
    cases hc.symm.trans hf
  rcases hsound with hf | ho | ⟨unsent, got, ht⟩
  · exact absurd hf hclient
  · cases hc.symm.trans ho.client.2
  · obtain ⟨rfl, hbuffer, hserver⟩ := ht.agree (Setting.valid_ofGiven hv) hc
    have hnot : ¬ (e.parties.get .server).Failed := by
      rintro ⟨hrun, f, hf⟩
      rcases hserver with hr | ⟨-, hp⟩
      · cases hr.symm.trans hf
      · cases hp.symm.trans hrun
    exact ⟨Setting.ofGiven overlay config given, rfl, rfl, ht.length, hbuffer,
      hserver.imp_right (And.imp_right exists_partyStep),
      Setting.mirrored (x := Setting.ofGiven overlay config given)
        (Setting.sends_of_run (hv .client) h hclient) (Setting.sends_of_run (hv .server) h hnot)⟩

/-- Whenever the handshake of the client has succeeded, that of the server has too or does with its
next step, whatever else happens, and the two session states mirror each other. -/
theorem handshakes_agree {overlay : Bool} {maxStreams : Nat} {config : PerRole Config}
    {given : PerRole (List KeyValuePair)} (hv : ∀ r, ∀ p ∈ given.get r, p.Valid) {e : Encounter}
    (h : Relation.ReflTransGen Encounter.Step
      (Encounter.start (.fresh overlay maxStreams) config given) e)
    {c : Session} (hc : e.parties.client.result = some (.ok c)) :
    ∃ s : Session, (e.parties.server.result = some (.ok s) ∨
        ∃ e', Encounter.partyStep .server e = some e' ∧
          e'.parties.server.result = some (.ok s)) ∧
      Mirrored config given c.state s.state := by
  obtain ⟨x, -, -, -, -, hserver, hmirrored⟩ := Setting.settled_of_run hv h hc
  exact ⟨x.serverSession, hserver.imp_right And.right, hmirrored⟩

/-- A client that says twice what its implementation is, the second time not in UTF-8. -/
def namedTwice : PerRole (List KeyValuePair) :=
  ⟨[⟨7, .bytes [97]⟩, ⟨2, .int 10⟩, ⟨7, .bytes [98, 0xFF]⟩], []⟩

/-- The server knows the client by what it said last, as far as that can be read. -/
theorem handshakes_agree_namedTwice :
    (∀ r, ∀ p ∈ namedTwice.get r, p.Valid) ∧
    ∃ (e : Encounter) (c s : Session), Relation.ReflTransGen Encounter.Step
        (Encounter.start (.fresh false 1) (.both .standard) namedTwice) e ∧
      e.parties.client.result = some (.ok c) ∧
      (e.parties.server.result = some (.ok s) ∨
        ∃ e', Encounter.partyStep .server e = some e' ∧
          e'.parties.server.result = some (.ok s)) ∧
      Mirrored (.both .standard) namedTwice c.state s.state ∧
      s.state.peerImplementation = "b\uFFFD" ∧ c.state.peerImplementation = "" := by
  have hv : ∀ r, ∀ p ∈ namedTwice.get r, p.Valid := by
    intro r
    cases r <;> decide
  have hrun : (((Encounter.start (.fresh false 1) (.both .standard) namedTwice).follow
      (List.replicate 5 .client ++ List.replicate 9 .server ++ List.replicate 4 .client)).any
        fun e => e.parties.client.result.any Except.isOk) = true := by
    decide +kernel
  obtain ⟨e, he, hok⟩ := (Option.any_eq_true _ _).mp hrun
  obtain ⟨result, hresult, hok⟩ := (Option.any_eq_true _ _).mp hok
  cases result with
  | error f => cases hok
  | ok c =>
    have hreach := Encounter.reaches_follow he
    obtain ⟨s, hs, hmirrored⟩ := handshakes_agree hv hreach hresult
    obtain ⟨hclient, hserver⟩ := hmirrored.implementations
    exact ⟨hv, e, c, s, hreach, hresult, hs, hmirrored, hserver.trans (by decide +kernel),
      hclient.trans rfl⟩

end MediaOverQuic.Scenario
