import Mathlib.Tactic
import MediaOverQuic.Proofs.Session.Verdict

/-!
# A server and any peer

A server first reads. Until it has accepted its peer's setup message it writes nothing at all, and
then it writes its own, and nothing else. Its handshake succeeds when all of that is written.
-/
namespace MediaOverQuic.Scenario

namespace Briefing

/-- How the handshake of a server is over: the bytes of the peer were refused, or its own setup
message could not be framed, or the far side has not taken all of that, or has. -/
inductive ServerOver (x : Briefing) (state : SessionState) (bytes : Bytes) (willing : Prop)
    (e : Interview) : Prop
  | refused {f : Failure} {err : Error} (h : e.Ended (.error f)) (hw : e.written x.role = [])
      (hj : (x.judged bytes).1 = .error err)
  | unframed {f : Failure} (h : e.Ended (.error f)) (hw : e.written x.role = [])
      (hf : ¬ Frame.Fits x.limit (.setup x.role x.sent))
  | unsent {f : Failure} {params : List KeyValuePair} {rest unsent : Bytes}
      (h : e.Ended (.error f)) (ha : x.Admits bytes params rest)
      (hf : Frame.Fits x.limit (.setup x.role x.sent)) (hwilling : ¬ willing) (hne : unsent ≠ [])
      (hw : e.written x.role ++ unsent = x.frame)
  | answered {s : Session} {params : List KeyValuePair} {rest : Bytes} (h : e.Ended (.ok s))
      (ha : x.Admits bytes params rest) (hf : Frame.Fits x.limit (.setup x.role x.sent))
      (hw : e.written x.role = x.frame) (hs : x.Settles rest e s)
      (hstate : s.state = (state.applyAllPeer params).applyAllLocal x.sent)

/-- Where a server is that has its control stream. -/
inductive ServerAt (x : Briefing) (state : SessionState) (bytes : Bytes) (willing : Prop)
    (e : Interview) : Prop
  | reading {c : ControlStream} {call : Receiving} (h : x.Listens state bytes [] willing e c call)
  | sending {params : List KeyValuePair} {rest : Bytes} {c : ControlStream} {call : Sending}
      (ha : x.Admits bytes params rest) (hf : Frame.Fits x.limit (.setup x.role x.sent))
      (h : x.Speaks (state.applyAllPeer params) rest willing e c call)
  | done (h : x.ServerOver state bytes willing e)

/-- Whether the server has reason to answer: the bytes begin with a setup message of a client that
it accepts, and its own can be framed. -/
def Answers (x : Briefing) (bytes : Bytes) : Prop :=
  Frame.Fits x.limit (.setup x.role x.sent) ∧
    ∃ params rest, Handshake.Admits 0x20 x.overlay x.limit bytes params rest

/-- What the handshake of a server comes to that was `given` some parameters, when its peer sends
`bytes`. -/
def ServerResult (x : Briefing) (given : List KeyValuePair) (bytes : Bytes) (e : Interview) :
    Except Failure Session → Prop
  | .ok s => e.party.handshake.stage = .established ∧ e.written x.role = x.frame ∧
    Frame.Fits x.limit (.setup x.role x.sent) ∧
    ∃ params rest, Handshake.Admits 0x20 x.overlay x.limit bytes params rest ∧
      x.Settles rest e s ∧ Handshake.Agreed .server x.config given params s.state
  | .error _ => e.party.handshake.stage = .failed ∧
    ¬ (x.Answers bytes ∧ e.written x.role = x.frame)

variable {x : Briefing} {given params : List KeyValuePair} {bytes rest : Bytes} {willing : Prop}
  {state : SessionState} {e e' : Interview} {c : ControlStream}

/-! ## Steps -/

theorem Listens.server_step (hr : x.role = .server) (hv : (Message.setup x.role x.sent).Valid)
    {call : Receiving} (h : x.Listens state bytes [] willing e c call) (hs : e.Step x.role e') :
    (∃ call', x.Listens state bytes [] willing e' c call' ∧ e'.work x.role < e.work x.role) ∨
    (∃ params rest c' call', x.Admits bytes params rest ∧
      Frame.Fits x.limit (.setup x.role x.sent) ∧
      x.Speaks (state.applyAllPeer params) rest willing e' c' call') ∨
    x.ServerOver state bytes willing e' := by
  have hlength := h.keeps.hears.length
  have hw (f : Failure) : (e.quit x.role f).written x.role = [] := by
    rw [Interview.written_quit]
    exact h.told
  rcases h.verdict hs with hgo | ⟨err, f, hjudged, -, rfl⟩ |
    ⟨params, rest, c', hadmits, hkeeps, hidle, hstream, hlimit, hfollows⟩
  · exact .inl hgo
  · exact .inr (.inr (.refused (Interview.ended_quit hlength) (hw f) hjudged))
  · simp only [afterAccepting, hr] at hfollows
    rcases speaks_of_beginSending hv hidle hstream hlimit hkeeps h.told h.willing hfollows with
      ⟨hfits, c'', call', hspeaks⟩ | ⟨hfits, f, rfl⟩
    · exact .inr (.inl ⟨params, rest, c'', call', hadmits, hfits, hspeaks⟩)
    · exact .inr (.inr (.unframed (Interview.ended_quit hlength) (hw f) hfits))

theorem Speaks.server_step (hr : x.role = .server) (ha : x.Admits bytes params rest)
    (hf : Frame.Fits x.limit (.setup x.role x.sent)) {call : Sending}
    (h : x.Speaks (state.applyAllPeer params) rest willing e c call) (hs : e.Step x.role e') :
    (∃ c' call', x.Speaks (state.applyAllPeer params) rest willing e' c' call' ∧
      e'.work x.role < e.work x.role) ∨
    x.ServerOver state bytes willing e' := by
  have hlength := h.keeps.hears.length
  rcases h.step hs with hgo | ⟨hunsent, hfollows⟩ | ⟨hunsent, hwilling, f, rfl⟩
  · exact .inl hgo
  · have htold := h.told
    rw [hunsent, List.append_nil] at htold
    obtain ⟨hstream, hlimit, hline⟩ := h.control
    simp only [Handshake.Run.afterSending, Briefing.run, hr] at hfollows
    obtain rfl : e' = _ := hfollows
    refine .inr (.answered (Interview.ended_finish _ _ hlength) ha hf htold ?_ rfl)
    exact ⟨rfl, rfl, hstream, hlimit, ⟨h.solo.leave, hline, rfl⟩, h.keeps.party _⟩
  · have hw : (e.quit x.role f).written x.role ++ call.unsent = x.frame := by
      rw [Interview.written_quit]
      exact h.told
    exact .inr (.unsent (Interview.ended_quit hlength) ha hf hwilling hunsent hw)

theorem ServerOver.step (h : x.ServerOver state bytes willing e) (hs : e.Step x.role e') :
    x.ServerOver state bytes willing e' := by
  cases h with
  | refused h hw hj =>
    obtain ⟨hended, hwritten, -⟩ := h.step hs
    exact .refused hended (hwritten.trans hw) hj
  | unframed h hw hf =>
    obtain ⟨hended, hwritten, -⟩ := h.step hs
    exact .unframed hended (hwritten.trans hw) hf
  | unsent h ha hf hwilling hne hw =>
    obtain ⟨hended, hwritten, -⟩ := h.step hs
    exact .unsent hended ha hf hwilling hne (by rw [hwritten]; exact hw)
  | answered h ha hf hw hsettles hstate =>
    obtain ⟨hended, hwritten, hnext⟩ := h.step hs
    exact .answered hended ha hf (hwritten.trans hw)
      { hsettles with next := hnext _ hsettles.next } hstate

theorem ServerAt.step (hr : x.role = .server) (hv : (Message.setup x.role x.sent).Valid)
    (h : x.ServerAt state bytes willing e) (hs : e.Step x.role e') :
    x.ServerAt state bytes willing e' := by
  cases h with
  | reading h =>
    rcases h.server_step hr hv hs with ⟨call', h', -⟩ |
      ⟨params, rest, c', call', ha, hf, h'⟩ | h'
    · exact .reading h'
    · exact .sending ha hf h'
    · exact .done h'
  | sending ha hf h =>
    rcases h.server_step hr ha hf hs with ⟨c', call', h', -⟩ | h'
    · exact .sending ha hf h'
    · exact .done h'
  | done h => exact .done (h.step hs)

/-! ## Runs -/

theorem ServerAt.run (hr : x.role = .server) (hv : (Message.setup x.role x.sent).Valid)
    (h : x.ServerAt state bytes willing e)
    (hreach : Relation.ReflTransGen (Interview.Step x.role) e e') :
    x.ServerAt state bytes willing e' := by
  induction hreach with
  | refl => exact h
  | tail _ hs ih => exact ih.step hr hv hs

theorem Speaks.server_eventually (hr : x.role = .server) (ha : x.Admits bytes params rest)
    (hf : Frame.Fits x.limit (.setup x.role x.sent)) {call : Sending}
    (h : x.Speaks (state.applyAllPeer params) rest willing e c call) :
    Eventually (Interview.Step x.role) (x.ServerOver state bytes willing) e := by
  refine Interview.eventually_of_work
    (I := fun e => ∃ c call, x.Speaks (state.applyAllPeer params) rest willing e c call) ?_ ?_
    ⟨c, call, h⟩
  · rintro e ⟨c, call, h⟩
    exact ⟨_, h.run⟩
  · rintro e e' ⟨c, call, h⟩ hs
    refine (h.server_step hr ha hf hs).imp_left ?_
    rintro ⟨c', call', h', hlt⟩
    exact ⟨⟨c', call', h'⟩, hlt⟩

/-- The two phases of a server end, one after the other. -/
theorem Listens.server_eventually (hr : x.role = .server)
    (hv : (Message.setup x.role x.sent).Valid) {call : Receiving}
    (h : x.Listens state bytes [] willing e c call) :
    Eventually (Interview.Step x.role) (x.ServerOver state bytes willing) e := by
  have hsend : Eventually (Interview.Step x.role)
      (fun e => (∃ params rest c call, x.Admits bytes params rest ∧
        Frame.Fits x.limit (.setup x.role x.sent) ∧
        x.Speaks (state.applyAllPeer params) rest willing e c call) ∨
        x.ServerOver state bytes willing e) e := by
    refine Interview.eventually_of_work
      (I := fun e => ∃ call, x.Listens state bytes [] willing e c call) ?_ ?_ ⟨call, h⟩
    · rintro e ⟨call, h⟩
      exact ⟨_, h.run⟩
    · rintro e e' ⟨call, h⟩ hs
      refine (h.server_step hr hv hs).imp ?_ ?_
      · rintro ⟨call', h', hlt⟩
        exact ⟨⟨call', h'⟩, hlt⟩
      · rintro (⟨params, rest, c', call', ha, hf, h'⟩ | h')
        · exact .inl ⟨params, rest, c', call', ha, hf, h'⟩
        · exact .inr h'
  refine hsend.trans fun t ht => ?_
  rcases ht with ⟨params, rest, c, call, ha, hf, h⟩ | h
  · exact h.server_eventually hr ha hf
  · exact .now h

/-- A server that has its control stream reads from it. -/
theorem Begins.server_listens (hr : x.role = .server) (h : x.Begins given bytes e) :
    ∃ c call, x.Listens x.initial bytes [] (e.Willing x.role x.frame) e c call := by
  obtain ⟨p, phase, hfollows⟩ := h.gets.follows
  have hbegin : (x.run phase).withStream x.stream e.link =
      (x.run phase).beginReading (x.session (.fresh x.stream x.limit) x.initial) e.link := by
    simp only [Handshake.Run.withStream, Briefing.run, hr]
    simp only [Handshake.Run.newSession, session, initial, hr, limit]
  rw [hbegin] at hfollows
  have hwilling (hw : e.Willing x.role x.frame) := hw.party p
  exact listens_of_beginReading (ControlStream.fresh_idle _ _) rfl rfl (h.keeps.party p) h.written
    hwilling hfollows

/-! ## Results -/

theorem admits_server (hr : x.role = .server) :
    x.Admits bytes params rest ↔ Handshake.Admits 0x20 x.overlay x.limit bytes params rest := by
  unfold Admits
  rw [hr]
  cases x.overlay <;> rfl

/-- A server writes only if it has reason to, and then only its setup message. -/
theorem ServerAt.written (hr : x.role = .server) (h : x.ServerAt state bytes willing e) :
    e.written x.role <+: x.frame ∧ (e.written x.role ≠ [] → x.Answers bytes) := by
  have silent (hw : e.written x.role = []) :
      e.written x.role <+: x.frame ∧ (e.written x.role ≠ [] → x.Answers bytes) := by
    rw [hw]
    exact ⟨List.nil_prefix, fun hne => absurd rfl hne⟩
  have answers {params : List KeyValuePair} {rest unsent : Bytes}
      (ha : x.Admits bytes params rest) (hf : Frame.Fits x.limit (.setup x.role x.sent))
      (hw : e.written x.role ++ unsent = x.frame) :
      e.written x.role <+: x.frame ∧ (e.written x.role ≠ [] → x.Answers bytes) :=
    ⟨⟨_, hw⟩, fun _ => ⟨hf, _, _, (admits_server hr).mp ha⟩⟩
  cases h with
  | reading h => exact silent h.told
  | sending ha hf h => exact answers ha hf h.told
  | done h =>
    cases h with
    | refused h hw hj => exact silent hw
    | unframed h hw hf => exact silent hw
    | unsent h ha hf hwilling hne hw => exact answers ha hf hw
    | answered h ha hf hw hs hstate =>
      exact answers ha hf ((List.append_nil _).trans hw)

/-- The bytes of the peer, and whether the answer can be written, decide what the handshake comes
to. -/
theorem ServerOver.result (hr : x.role = .server)
    (hs : Handshake.Sends .server x.config given x.sent)
    (h : x.ServerOver x.initial bytes willing e) :
    ∃ outcome, e.party.result = some outcome ∧ x.ServerResult given bytes e outcome ∧
      (willing → x.Answers bytes → ∃ s, outcome = .ok s) := by
  have refuses {err : Error} (hj : (x.judged bytes).1 = .error err) : ¬ x.Answers bytes := by
    rintro ⟨-, params, rest, ha⟩
    exact not_admits_of_judged hj ((admits_server hr).mpr ha)
  cases h with
  | refused h hw hj =>
    exact ⟨_, h.result, ⟨h.stage, fun hall => refuses hj hall.1⟩,
      fun _ hanswers => absurd hanswers (refuses hj)⟩
  | unframed h hw hf =>
    exact ⟨_, h.result, ⟨h.stage, fun hall => hf hall.1.1⟩,
      fun _ hanswers => absurd hanswers.1 hf⟩
  | unsent h ha hf hwilling hne hw =>
    refine ⟨_, h.result, ⟨h.stage, fun hall => ?_⟩, fun hwill => absurd hwill hwilling⟩
    rw [hall.2] at hw
    exact absurd (List.append_right_eq_self.mp hw) hne
  | answered h ha hf hw hsettles hstate =>
    have hagreed := Handshake.agreed_server hs ha.valid
    refine ⟨_, h.result, ⟨h.stage, hw, hf, _, _, (admits_server hr).mp ha, hsettles, ?_⟩,
      fun _ _ => ⟨_, rfl⟩⟩
    rw [hstate, initial, hr]
    exact hagreed

/-- Whatever a server's peer puts on the control stream, and however, the server's handshake comes
to an end. It writes nothing but its setup message, and that only if the bytes begin with a setup
message of a client that it accepts; it succeeds exactly if all of that could be written. -/
theorem server_answers_only_clients (hr : x.role = .server) (h : x.Begins given bytes e) :
    Eventually (Interview.Step x.role) (fun e' => e'.party.result.isSome = true) e ∧
    ∀ e', Relation.ReflTransGen (Interview.Step x.role) e e' →
      e'.written x.role <+: x.frame ∧ (e'.written x.role ≠ [] → x.Answers bytes) ∧
      ∀ outcome, e'.party.result = some outcome →
        x.ServerResult given bytes e' outcome ∧
        (e.Willing x.role x.frame → x.Answers bytes → ∃ s, outcome = .ok s) := by
  obtain ⟨c, call, hlistens⟩ := h.server_listens hr
  have hsends : Handshake.Sends .server x.config given x.sent := hr ▸ h.sends
  constructor
  · refine (hlistens.server_eventually hr h.setup_valid).mono fun t ht => ?_
    obtain ⟨outcome, hresult, -⟩ := ht.result hr hsends
    rw [hresult]
    rfl
  · intro e' hreach
    have hat := ServerAt.run hr h.setup_valid (.reading hlistens) hreach
    refine ⟨(hat.written hr).1, (hat.written hr).2, fun outcome hresult => ?_⟩
    cases hat with
    | reading h' => cases h'.result.symm.trans hresult
    | sending ha hf h' => cases h'.result.symm.trans hresult
    | done h' =>
      obtain ⟨outcome', hresult', hcomes⟩ := h'.result hr hsends
      obtain rfl := Option.some.inj (hresult'.symm.trans hresult)
      exact hcomes

/-- A server without parameters of its own. -/
def plainServer : Briefing := ⟨.server, .standard, [⟨0x02, .int 1000⟩], false, 0, false⟩

/-- A client that allows five requests, and has one byte more to send. -/
def shortGreeting : FarSide := ⟨0, [0x20, 0x03, 0x01, 0x02, 0x05, 0xAA], .stays, 100, []⟩

/-- A connection on which the client has opened the control stream. -/
def openedLink : Link :=
  { Link.fresh false 1 with streams := [.fresh .bidirectional .client] }.setArrivals
    .bidirectional .server ((Channel.empty Link.queueSize).offer 0)

/-- The server waits for the control stream. -/
def plainServerWaits : Party :=
  (Interview.after (.begin 0 (.start .server .standard) false []) openedLink shortGreeting).party

theorem plainServer_begins : plainServer.Begins [] shortGreeting.toCome
    (.after plainServerWaits openedLink shortGreeting) where
  valid := by decide
  allowed := by rfl
  gets := .accepted (p := plainServerWaits) (l := openedLink) rfl rfl rfl
  keeps := ⟨by decide, by decide, ⟨by decide, by decide, by decide, by decide⟩⟩
  written := by decide

theorem server_answers_only_clients_plainServer :
    plainServer.role = .server ∧
    plainServer.Begins [] shortGreeting.toCome
      (.after plainServerWaits openedLink shortGreeting) ∧
    Eventually (Interview.Step plainServer.role) (fun e' => e'.party.result.isSome = true)
      (.after plainServerWaits openedLink shortGreeting) ∧
    ∀ e', Relation.ReflTransGen (Interview.Step plainServer.role)
        (.after plainServerWaits openedLink shortGreeting) e' →
      e'.written plainServer.role <+: plainServer.frame ∧
      (e'.written plainServer.role ≠ [] → plainServer.Answers shortGreeting.toCome) ∧
      ∀ outcome, e'.party.result = some outcome →
        plainServer.ServerResult [] shortGreeting.toCome e' outcome ∧
        (Interview.Willing plainServer.role plainServer.frame
            (.after plainServerWaits openedLink shortGreeting) →
          plainServer.Answers shortGreeting.toCome → ∃ s, outcome = .ok s) :=
  ⟨rfl, plainServer_begins, server_answers_only_clients rfl plainServer_begins⟩

end Briefing

end MediaOverQuic.Scenario
