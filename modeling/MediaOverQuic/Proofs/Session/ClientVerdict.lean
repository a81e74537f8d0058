import Mathlib.Tactic
import MediaOverQuic.Proofs.Session.Verdict

/-!
# A client and any peer

A client first sends its setup message and then reads, so its handshake is over when the far side
does not take that message, or when the bytes of its peer are judged.
-/
namespace MediaOverQuic.Scenario

namespace Briefing

/-- How the handshake of a client is over: the far side has not taken all of its setup message, or
has, and then the bytes of the peer decide. -/
inductive ClientOver (x : Briefing) (state : SessionState) (bytes : Bytes) (willing : Prop)
    (e : Interview) : Prop
  | unsent {f : Failure} {unsent : Bytes} (h : e.Ended (.error f)) (hwilling : ¬ willing)
      (hne : unsent ≠ []) (hw : e.written x.role ++ unsent = x.frame)
  | refused {f : Failure} {err : Error} (h : e.Ended (.error f)) (hw : e.written x.role = x.frame)
      (hj : (x.judged bytes).1 = .error err) (hcode : f.code = err.code)
  | accepted {s : Session} {params : List KeyValuePair} {rest : Bytes} (h : e.Ended (.ok s))
      (hw : e.written x.role = x.frame) (ha : x.Admits bytes params rest) (hs : x.Settles rest e s)
      (hstate : s.state = state.applyAllPeer params)

/-- Where a client is that has its control stream. -/
inductive ClientAt (x : Briefing) (state : SessionState) (bytes : Bytes) (willing : Prop)
    (e : Interview) : Prop
  | sending {c : ControlStream} {call : Sending} (h : x.Speaks state bytes willing e c call)
  | reading {c : ControlStream} {call : Receiving}
      (h : x.Listens state bytes x.frame willing e c call)
  | done (h : x.ClientOver state bytes willing e)

/-- What the handshake of a client comes to that was `given` some parameters, when its peer sends
`bytes`. -/
def ClientResult (x : Briefing) (given : List KeyValuePair) (bytes : Bytes) (e : Interview) :
    Except Failure Session → Prop
  | .ok s => e.party.handshake.stage = .established ∧ e.written x.role = x.frame ∧
    ∃ params rest, Handshake.Admits 0x21 true x.limit bytes params rest ∧ x.Settles rest e s ∧
      Handshake.Agreed .client x.config given params s.state
  | .error f => e.party.handshake.stage = .failed ∧ (e.written x.role = x.frame →
    (∀ params rest, ¬ Handshake.Admits 0x21 true x.limit bytes params rest) ∧
      ∀ code, f.termination.1 = code ↔ Handshake.Refusal x.limit x.ends bytes code)

variable {x : Briefing} {given : List KeyValuePair} {bytes : Bytes} {willing : Prop}
  {state : SessionState} {e e' : Interview} {c : ControlStream}

/-! ## Steps -/

theorem Speaks.client_step (hr : x.role = .client) {call : Sending}
    (h : x.Speaks state bytes willing e c call) (hs : e.Step x.role e') :
    (∃ c' call', x.Speaks state bytes willing e' c' call' ∧ e'.work x.role < e.work x.role) ∨
    (∃ c' call', x.Listens state bytes x.frame willing e' c' call') ∨
    x.ClientOver state bytes willing e' := by
  rcases h.step hs with hgo | ⟨hunsent, hfollows⟩ | ⟨hunsent, hwilling, f, rfl⟩
  · exact .inl hgo
  · have htold := h.told
    rw [hunsent, List.append_nil] at htold
    obtain ⟨hstream, hlimit, hline⟩ := h.control
    have hreading (s : Session) :
        (x.run (.sending (x.session c state) call)).afterSending s e.link =
          (x.run (.sending (x.session c state) call)).beginReading s e.link := by
      simp only [Handshake.Run.afterSending, Briefing.run, hr]
    dsimp only at hfollows
    rw [hreading] at hfollows
    have hidle : (call.leave { c with incomplete := false }).Idle := ⟨h.solo.leave, hline, rfl⟩
    exact .inr (.inl (listens_of_beginReading hidle hstream hlimit h.keeps htold h.willing
      hfollows))
  · have hw : (e.quit x.role f).written x.role ++ call.unsent = x.frame := by
      rw [Interview.written_quit]
      exact h.told
    exact .inr (.inr (.unsent (Interview.ended_quit h.keeps.hears.length) hwilling hunsent hw))

theorem Listens.client_step (hr : x.role = .client) {call : Receiving}
    (h : x.Listens state bytes x.frame willing e c call) (hs : e.Step x.role e') :
    (∃ call', x.Listens state bytes x.frame willing e' c call' ∧
      e'.work x.role < e.work x.role) ∨
    x.ClientOver state bytes willing e' := by
  rcases h.verdict hs with hgo | ⟨err, f, hjudged, hcode, rfl⟩ |
    ⟨params, rest, c', hadmits, hkeeps, hidle, hstream, hlimit, hfollows⟩
  · exact .inl hgo
  · have hw : (e.quit x.role f).written x.role = x.frame := by
      rw [Interview.written_quit]
      exact h.told
    exact .inr (.refused (Interview.ended_quit h.keeps.hears.length) hw hjudged hcode)
  · simp only [afterAccepting, hr] at hfollows
    obtain rfl : e' = _ := hfollows
    refine .inr (.accepted (Interview.ended_finish _ _ h.keeps.hears.length) h.told hadmits ?_ rfl)
    exact ⟨rfl, rfl, hstream, hlimit, hidle, hkeeps.party _⟩

theorem ClientOver.step (h : x.ClientOver state bytes willing e) (hs : e.Step x.role e') :
    x.ClientOver state bytes willing e' := by
  cases h with
  | unsent h hwilling hne hw =>
    obtain ⟨hended, hwritten, -⟩ := h.step hs
    exact .unsent hended hwilling hne (by rw [hwritten]; exact hw)
  | refused h hw hj hcode =>
    obtain ⟨hended, hwritten, -⟩ := h.step hs
    exact .refused hended (hwritten.trans hw) hj hcode
  | accepted h hw ha hsettles hstate =>
    obtain ⟨hended, hwritten, hnext⟩ := h.step hs
    exact .accepted hended (hwritten.trans hw) ha
      { hsettles with next := hnext _ hsettles.next } hstate

theorem ClientAt.step (hr : x.role = .client) (h : x.ClientAt state bytes willing e)
    (hs : e.Step x.role e') : x.ClientAt state bytes willing e' := by
  cases h with
  | sending h =>
    rcases h.client_step hr hs with ⟨c', call', h', -⟩ | ⟨c', call', h'⟩ | h'
    · exact .sending h'
    · exact .reading h'
    · exact .done h'
  | reading h =>
    rcases h.client_step hr hs with ⟨call', h', -⟩ | h'
    · exact .reading h'
    · exact .done h'
  | done h => exact .done (h.step hs)

/-! ## Runs -/

theorem ClientAt.run (hr : x.role = .client) (h : x.ClientAt state bytes willing e)
    (hreach : Relation.ReflTransGen (Interview.Step x.role) e e') :
    x.ClientAt state bytes willing e' := by
  induction hreach with
  | refl => exact h
  | tail _ hs ih => exact ih.step hr hs

theorem Listens.client_eventually (hr : x.role = .client) {call : Receiving}
    (h : x.Listens state bytes x.frame willing e c call) :
    Eventually (Interview.Step x.role) (x.ClientOver state bytes willing) e := by
  refine Interview.eventually_of_work
    (I := fun e => ∃ call, x.Listens state bytes x.frame willing e c call) ?_ ?_ ⟨call, h⟩
  · rintro e ⟨call, h⟩
    exact ⟨_, h.run⟩
  · rintro e e' ⟨call, h⟩ hs
    refine (h.client_step hr hs).imp_left ?_
    rintro ⟨call', h', hlt⟩
    exact ⟨⟨call', h'⟩, hlt⟩

/-- The two phases of a client end, one after the other. -/
theorem Speaks.client_eventually (hr : x.role = .client) {call : Sending}
    (h : x.Speaks state bytes willing e c call) :
    Eventually (Interview.Step x.role) (x.ClientOver state bytes willing) e := by
  have hread : Eventually (Interview.Step x.role)
      (fun e => (∃ c call, x.Listens state bytes x.frame willing e c call) ∨
        x.ClientOver state bytes willing e) e := by
    refine Interview.eventually_of_work
      (I := fun e => ∃ c call, x.Speaks state bytes willing e c call) ?_ ?_ ⟨c, call, h⟩
    · rintro e ⟨c, call, h⟩
      exact ⟨_, h.run⟩
    · rintro e e' ⟨c, call, h⟩ hs
      refine (h.client_step hr hs).imp_left ?_
      rintro ⟨c', call', h', hlt⟩
      exact ⟨⟨c', call', h'⟩, hlt⟩
  refine hread.trans fun t ht => ?_
  rcases ht with ⟨c, call, h⟩ | h
  · exact h.client_eventually hr
  · exact .now h

/-- A client that has its control stream sends on it, if its setup message can be framed. -/
theorem Begins.client_speaks (hr : x.role = .client)
    (hf : Frame.Fits x.limit (.setup x.role x.sent)) (h : x.Begins given bytes e) :
    ∃ c call, x.Speaks (x.initial.applyAllLocal x.sent) bytes (e.Willing x.role x.frame) e c
      call := by
  obtain ⟨p, phase, hfollows⟩ := h.gets.follows
  have hbegin : (x.run phase).withStream x.stream e.link =
      (x.run phase).beginSending
        (x.session (.fresh x.stream x.limit) (x.initial.applyAllLocal x.sent)) e.link := by
    simp only [Handshake.Run.withStream, Briefing.run, hr]
    simp only [Handshake.Run.applyOwn, Handshake.Run.newSession, session, initial, hr, limit]
  rw [hbegin] at hfollows
  have hwilling (hw : e.Willing x.role x.frame) := hw.party p
  rcases speaks_of_beginSending h.setup_valid (ControlStream.fresh_idle _ _) rfl rfl
    (h.keeps.party p) h.written hwilling hfollows with ⟨-, hspeaks⟩ | ⟨hnot, -⟩
  · exact hspeaks
  · exact absurd hf hnot

/-! ## Results -/

theorem admits_client (hr : x.role = .client) {params : List KeyValuePair} {rest : Bytes} :
    x.Admits bytes params rest ↔ Handshake.Admits 0x21 true x.limit bytes params rest := by
  unfold Admits
  rw [hr]
  rfl

theorem judged_client (hr : x.role = .client) :
    x.judged bytes = Handshake.judge .client x.overlay x.limit x.ends x.patience bytes := by
  unfold judged
  rw [hr]

theorem ClientOver.written_isPrefix (h : x.ClientOver state bytes willing e) :
    e.written x.role <+: x.frame ∧ (willing → e.written x.role = x.frame) := by
  cases h with
  | unsent h hwilling hne hw => exact ⟨⟨_, hw⟩, fun hwill => absurd hwill hwilling⟩
  | refused h hw hj hcode => exact ⟨hw ▸ List.prefix_rfl, fun _ => hw⟩
  | accepted h hw ha hs hstate => exact ⟨hw ▸ List.prefix_rfl, fun _ => hw⟩

/-- The bytes of the peer decide what the handshake comes to. -/
theorem ClientOver.result (hr : x.role = .client)
    (hs : Handshake.Sends .client x.config given x.sent)
    (h : x.ClientOver (x.initial.applyAllLocal x.sent) bytes willing e) :
    ∃ outcome, e.party.result = some outcome ∧ x.ClientResult given bytes e outcome := by
  cases h with
  | @unsent f unsent h hwilling hne hw =>
    refine ⟨_, h.result, h.stage, fun hall => ?_⟩
    rw [hall] at hw
    exact absurd (List.append_right_eq_self.mp hw) hne
  | @refused f err h hw hj hcode =>
    refine ⟨_, h.result, h.stage, fun _ => ⟨?_, fun code => ?_⟩⟩
    · intro params rest ha
      exact not_admits_of_judged hj ((admits_client hr).mpr ha)
    · rw [judged_client hr] at hj
      constructor
      · rintro rfl
        show Handshake.Refusal x.limit x.ends bytes f.code
        rw [hcode]
        exact Handshake.refusal_of_judge hj
      · intro hrefusal
        obtain ⟨err', hj', rfl⟩ := hrefusal.judge x.overlay x.patience
        obtain rfl := Except.error.inj (hj.symm.trans hj')
        exact hcode
  | @accepted s params rest h hw ha hsettles hstate =>
    have hadmits := (admits_client hr).mp ha
    refine ⟨_, h.result, h.stage, hw, params, rest, hadmits, hsettles, ?_⟩
    obtain ⟨payload, -, -, hdest⟩ := hadmits
    have hagreed := Handshake.agreed_client hs ha.valid
      (namesDestination_eq_false_iff.mpr (hdest rfl))
    rw [hstate, initial, hr]
    exact hagreed

/-- Whatever a client's peer puts on the control stream, and however, the client's handshake comes
to an end. When its setup message was taken, it succeeds exactly if the bytes begin with a setup
message of a server that says nothing of path and authority; if not, they settle the code. -/
theorem client_judges_any_peer (hr : x.role = .client)
    (hf : Frame.Fits x.limit (.setup x.role x.sent)) (h : x.Begins given bytes e) :
    Eventually (Interview.Step x.role) (fun e' => e'.party.result.isSome = true) e ∧
    ∀ e', Relation.ReflTransGen (Interview.Step x.role) e e' →
      ∀ outcome, e'.party.result = some outcome →
        e'.written x.role <+: x.frame ∧
        (e.Willing x.role x.frame → e'.written x.role = x.frame) ∧
        x.ClientResult given bytes e' outcome := by
  obtain ⟨c, call, hspeaks⟩ := h.client_speaks hr hf
  have hsends : Handshake.Sends .client x.config given x.sent := hr ▸ h.sends
  constructor
  · refine (hspeaks.client_eventually hr).mono fun t ht => ?_
    obtain ⟨outcome, hresult, -⟩ := ht.result hr hsends
    rw [hresult]
    rfl
  · intro e' hreach outcome hresult
    cases ClientAt.run hr (.sending hspeaks) hreach with
    | sending h' => cases h'.result.symm.trans hresult
    | reading h' => cases h'.result.symm.trans hresult
    | done h' =>
      obtain ⟨outcome', hresult', hcomes⟩ := h'.result hr hsends
      obtain rfl := Option.some.inj (hresult'.symm.trans hresult)
      exact ⟨h'.written_isPrefix.1, h'.written_isPrefix.2, hcomes⟩

/-- A client without parameters of its own. -/
def plainClient : Briefing := ⟨.client, .standard, [⟨0x02, .int 1000⟩], false, 0, true⟩

/-- A server that answers with an empty setup message, and one byte behind it. -/
def emptyAnswer : FarSide := ⟨0, [0x21, 0x01, 0x00, 0xAA], .finishes, 100, []⟩

/-- The client has opened its control stream. -/
def plainClientOpens : Interview :=
  .after (.begin 0 (.start .client .standard) false []) (.fresh false 1) emptyAnswer

theorem plainClient_begins : plainClient.Begins [] emptyAnswer.toCome plainClientOpens where
  valid := by decide
  allowed := by rfl
  gets := .opened (p := .begin 0 (.start .client .standard) false []) (l := .fresh false 1)
    rfl rfl rfl
  keeps := ⟨by decide, by decide, ⟨by decide, by decide, by decide, by decide⟩⟩
  written := by decide

theorem client_judges_any_peer_plainClient :
    plainClient.role = .client ∧
    Frame.Fits plainClient.limit (.setup plainClient.role plainClient.sent) ∧
    plainClient.Begins [] emptyAnswer.toCome plainClientOpens ∧
    Eventually (Interview.Step plainClient.role) (fun e' => e'.party.result.isSome = true)
      plainClientOpens ∧
    ∀ e', Relation.ReflTransGen (Interview.Step plainClient.role) plainClientOpens e' →
      ∀ outcome, e'.party.result = some outcome →
        e'.written plainClient.role <+: plainClient.frame ∧
        (plainClientOpens.Willing plainClient.role plainClient.frame →
          e'.written plainClient.role = plainClient.frame) ∧
        plainClient.ClientResult [] emptyAnswer.toCome e' outcome := by
  have hf : Frame.Fits plainClient.limit (.setup plainClient.role plainClient.sent) := by decide
  exact ⟨rfl, hf, plainClient_begins, client_judges_any_peer rfl hf plainClient_begins⟩

end Briefing

end MediaOverQuic.Scenario
