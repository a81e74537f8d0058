import Mathlib.Tactic
import MediaOverQuic.Proofs.Session.PeerSetup
import MediaOverQuic.Proofs.Session.Phases
import MediaOverQuic.Proofs.Session.SetupParameters

/-!
# How a handshake starts and ends

A handshake goes on from where a side has got its control stream. When it has read, it goes by what
the bytes of its peer say, and when it is done, its session has what both sides have sent, and reads
on where the peer's setup message ends.
-/
namespace MediaOverQuic

namespace Handshake

/-! ## What is agreed on -/

/-- The parameters of the client, for a side that was `given` some and whose peer sent `params`. -/
def ofClient (role : Role) (given params : List KeyValuePair) : List KeyValuePair :=
  match role with
  | .client => given
  | .server => params

/-- What a side has agreed on that was `given` some parameters and whose peer sent `params`. -/
structure Agreed (r : Role) (config : Config) (given params : List KeyValuePair)
    (s : SessionState) : Prop where
  role : s.role = r
  peerImplementation :
    s.peerImplementation = (SetupParameter.implementation.lastText? params).getD ""
  maxOutgoing : s.maxOutgoing = (SetupParameter.maxRequestId.lastInt? params).getD 0
  peerTokenCacheSize :
    s.peerTokenCacheSize = (SetupParameter.maxAuthTokenCacheSize.lastInt? params).getD 0
  maxIncoming : s.maxIncoming =
    (SetupParameter.maxRequestId.lastInt? given).getD config.maxIncomingRequestId
  localTokenCacheSize : s.localTokenCacheSize =
    (SetupParameter.maxAuthTokenCacheSize.lastInt? given).getD config.localTokenCacheSize
  path : s.path = (SetupParameter.path.lastText? (ofClient r given params)).getD ""
  authority :
    s.authority = (SetupParameter.authority.lastText? (ofClient r given params)).getD ""
  unused : s.nextOutgoing = r.firstRequestId ∧ s.nextIncoming = r.peer.firstRequestId ∧
    s.usedAtPeer = 0

variable {config : Config} {given sent params : List KeyValuePair}

theorem agreed_client (hs : Sends .client config given sent) (hv : ∀ p ∈ params, p.Valid)
    (hdest : namesDestination params = false) :
    Agreed .client config given params
      (((SessionState.start .client config.maxIncomingRequestId
        config.localTokenCacheSize).applyAllLocal sent).applyAllPeer params) := by
  rw [namesDestination, Bool.or_eq_false_iff] at hdest
  have hpath := SetupParameter.lastText?_eq_none hdest.1
  have hauthority := SetupParameter.lastText?_eq_none hdest.2
  rw [SessionState.applyAllPeer_eq _ hv, SessionState.applyAllLocal_eq _ hs.valid]
  refine ⟨rfl, rfl, rfl, rfl, hs.requestLimit (.inr rfl), hs.cacheSize (.inr rfl), ?_, ?_,
    rfl, rfl, rfl⟩
  · simp only [hpath, Option.getD_none, hs.text .path (by decide) (by decide)]
    rfl
  · simp only [hauthority, Option.getD_none, hs.text .authority (by decide) (by decide)]
    rfl

theorem agreed_server (hs : Sends .server config given sent) (hv : ∀ p ∈ params, p.Valid) :
    Agreed .server config given params
      (((SessionState.start .server config.maxIncomingRequestId
        config.localTokenCacheSize).applyAllPeer params).applyAllLocal sent) := by
  obtain ⟨hpath, hauthority⟩ := hs.noDestination rfl
  rw [SessionState.applyAllLocal_eq _ hs.valid, SessionState.applyAllPeer_eq _ hv]
  refine ⟨rfl, rfl, rfl, rfl, hs.requestLimit (.inr rfl), hs.cacheSize (.inr rfl), ?_, ?_,
    rfl, rfl, rfl⟩
  · simp only [hpath, Option.getD_none]
    rfl
  · simp only [hauthority, Option.getD_none]
    rfl

namespace Run

variable {m : Message} {l : Link}

theorem afterReading_of_refused (run : Run) (s : Session) {err : Error}
    (h : accept run.role l.overlay m = .error err) :
    ∃ what, run.afterReading m s l = failOn s ((Failure.ofError err).within what) l := by
  unfold accept at h
  unfold afterReading
  cases hsetup : peerSetup run.role m with
  | error e =>
    rw [hsetup] at h
    obtain rfl := Except.error.inj h
    exact ⟨_, rfl⟩
  | ok params =>
    rw [hsetup] at h
    dsimp only at h ⊢
    cases hcheck : checkPeerSetup run.role l.overlay params with
    | error e =>
      rw [hcheck] at h
      obtain rfl := Except.error.inj h
      exact ⟨_, rfl⟩
    | ok =>
      rw [hcheck] at h
      cases h

theorem afterReading_of_accepted (run : Run) (s : Session)
    (h : accept run.role l.overlay m = .ok params) :
    run.afterReading m s l =
      let s' := { s with state := s.state.applyAllPeer params }
      match run.role with
      | .client => .ends (.ok s', l)
      | .server => run.beginSending s' l := by
  unfold accept at h
  unfold afterReading
  cases hsetup : peerSetup run.role m with
  | error e =>
    rw [hsetup] at h
    cases h
  | ok params' =>
    rw [hsetup] at h
    dsimp only at h ⊢
    cases hcheck : checkPeerSetup run.role l.overlay params' with
    | error e =>
      rw [hcheck] at h
      cases h
    | ok =>
      rw [hcheck] at h
      obtain rfl := Except.ok.inj h
      rfl

theorem withStream_ne_waits (run : Run) (stream : Nat) (l : Link) :
    run.withStream stream l ≠ .waits := by
  unfold withStream
  cases run.role with
  | client => exact run.beginSending_ne_waits _ l
  | server => simp [beginReading]

end Run

end Handshake

namespace Scenario.Briefing

variable {x : Briefing} {given params : List KeyValuePair} {bytes rest told : Bytes}
  {willing : Prop} {state : SessionState} {e e' : Interview} {c : ControlStream}

/-! ## The start -/

/-- The state of the session before any parameters are known. -/
def initial (x : Briefing) : SessionState :=
  .start x.role x.config.maxIncomingRequestId x.config.localTokenCacheSize

/-- A side has just got its control stream, from the call that opens or accepts it. -/
inductive Gets (x : Briefing) (e : Interview) : Prop
  | opened {p : Party} {l : Link} {call : Opening} (hp : p.run = some (x.run (.opening call)))
      (hcall : call.step x.role l = .ends (.ok x.stream, e.link))
      (hstep : p.step e.now l = some (e.party, e.link))
  | accepted {p : Party} {l : Link} {call : Accepting}
      (hp : p.run = some (x.run (.accepting call)))
      (hcall : call.step x.role .stream l = .ends (.ok x.stream, e.link))
      (hstep : p.step e.now l = some (e.party, e.link))

/-- A side has just got its control stream. It sends what comes of the parameters that it was
`given`, and nothing is sent yet. The far side has put some of `bytes` on the stream or none, and
the rest is to come. -/
structure Begins (x : Briefing) (given : List KeyValuePair) (bytes : Bytes) (e : Interview) :
    Prop where
  valid : ∀ p ∈ given, p.Valid
  allowed : Handshake.outgoing x.role x.config x.overlay given = .ok x.sent
  gets : x.Gets e
  keeps : x.Keeps bytes e []
  written : e.written x.role = []

theorem Begins.sends (h : x.Begins given bytes e) :
    Handshake.Sends x.role x.config given x.sent :=
  Handshake.sends_of_outgoing h.allowed h.valid

theorem Begins.setup_valid (h : x.Begins given bytes e) :
    (Message.setup x.role x.sent).Valid := by
  have hsent := h.sends.valid
  cases x.role <;> exact hsent

/-- The first step with the control stream goes on from a party that has everything but that. -/
theorem Gets.follows (h : x.Gets e) : ∃ (p : Party) (phase : Handshake.Phase),
    Interview.Follows { e with party := p } (x.run phase)
      ((x.run phase).withStream x.stream e.link) e := by
  have follows {p : Party} {l : Link} {phase : Handshake.Phase} (hp : p.run = some (x.run phase))
      (hrun : (x.run phase).step .stream l = (x.run phase).withStream x.stream e.link)
      (hstep : p.step e.now l = some (e.party, e.link)) :
      Interview.Follows { e with party := p } (x.run phase)
        ((x.run phase).withStream x.stream e.link) e := by
    have hne := Handshake.Run.withStream_ne_waits (x.run phase) x.stream e.link
    rw [← hrun] at hne ⊢
    exact Interview.follows_of_step hp hne hstep
  cases h with
  | @opened p l call hp hcall hstep =>
    exact ⟨p, _, follows hp (by simp only [Handshake.Run.step, run, hcall]) hstep⟩
  | @accepted p l call hp hcall hstep =>
    exact ⟨p, _, follows hp (by simp only [Handshake.Run.step, run, hcall]) hstep⟩

/-! ## What is read -/

/-- What the side makes of its peer's bytes, and what it leaves of them. -/
def judged (x : Briefing) (bytes : Bytes) : Except Error (List KeyValuePair) × Bytes :=
  Handshake.judge x.role x.overlay x.limit x.ends x.patience bytes

/-- Whether the bytes begin with a setup message of the peer that the side accepts. -/
def Admits (x : Briefing) (bytes : Bytes) (params : List KeyValuePair) (rest : Bytes) : Prop :=
  Handshake.Admits (MessageType.setup x.role.peer).value (Handshake.bars x.role x.overlay) x.limit
    bytes params rest

theorem judged_eq_ok_iff : x.judged bytes = (.ok params, rest) ↔ x.Admits bytes params rest :=
  Handshake.judge_eq_ok_iff

theorem not_admits_of_judged {err : Error} (h : (x.judged bytes).1 = .error err) :
    ¬ x.Admits bytes params rest := by
  intro ha
  rw [judged_eq_ok_iff.mpr ha] at h
  cases h

/-- Where a side goes on that has accepted its peer's setup message. -/
def afterAccepting (x : Briefing) (run : Handshake.Run) (s : Session) (l : Link) :
    Handshake.Run.Progress :=
  match x.role with
  | .client => .ends (.ok s, l)
  | .server => run.beginSending s l

/-- A side that reads goes on with what arrives, or ends with what is wrong with the bytes, or has
accepted its peer's parameters, and has its control stream for itself. -/
theorem Listens.verdict {call : Receiving} (h : x.Listens state bytes told willing e c call)
    (hs : e.Step x.role e') :
    (∃ call', x.Listens state bytes told willing e' c call' ∧ e'.work x.role < e.work x.role) ∨
    (∃ err f, (x.judged bytes).1 = .error err ∧ f.code = err.code ∧ e' = e.quit x.role f) ∨
    ∃ params rest c', x.Admits bytes params rest ∧ x.Keeps rest e [] ∧ c'.Idle ∧
      c'.stream = x.stream ∧ c'.limit = x.limit ∧
      let run := x.run (.reading (x.session c state) call)
      e.Follows run (x.afterAccepting run
        (x.session c' (state.applyAllPeer params)) e.link) e' := by
  obtain ⟨hstream, hlimit, hline, hcomplete⟩ := h.control
  have hid : c.stream = e.far.stream := hstream.trans h.keeps.stream.symm
  rcases h.step hs with hgo | ⟨err, hheard, hquit⟩ | ⟨m, rest, hheard, hkeeps, hfollows⟩
  · exact .inl hgo
  · have hjudged : (x.judged bytes).1 = .error err := by
      unfold judged Handshake.judge
      generalize Frame.heard x.limit x.ends x.patience bytes = heard at hheard ⊢
      obtain ⟨result, left⟩ := heard
      obtain rfl : result = .error err := hheard
      rfl
    exact .inr (.inl ⟨err, _, hjudged, rfl, hquit⟩)
  · have hjudged : x.judged bytes = (Handshake.accept x.role x.overlay m, rest) := by
      simp only [judged, Handshake.judge, hheard]
    rw [← h.keeps.overlay] at hjudged
    cases haccept : Handshake.accept x.role e.link.overlay m with
    | error err =>
      obtain ⟨what, hafter⟩ := Handshake.Run.afterReading_of_refused
        (x.run (.reading (x.session c state) call)) (x.session (call.leave c) state) haccept
      dsimp only at hfollows
      rw [hafter] at hfollows
      exact .inr (.inl ⟨err, _, by rw [hjudged, haccept], rfl,
        Eq.trans hfollows (quit_eq hid x.role _)⟩)
    | ok params =>
      have hafter := Handshake.Run.afterReading_of_accepted
        (x.run (.reading (x.session c state) call)) (x.session (call.leave c) state) haccept
      dsimp only at hfollows
      rw [hafter] at hfollows
      rw [haccept] at hjudged
      exact .inr (.inr ⟨params, rest, call.leave c, judged_eq_ok_iff.mp hjudged, hkeeps,
        ⟨hline, h.solo.leave, hcomplete⟩, hstream, hlimit, hfollows⟩)

/-! ## The end -/

/-- The session that a handshake ends with has its control stream for itself, and reads `rest`
next. -/
structure Settles (x : Briefing) (rest : Bytes) (e : Interview) (s : Session) : Prop where
  role : s.role = x.role
  config : s.config = x.config
  stream : s.control.stream = x.stream
  limit : s.control.limit = x.limit
  idle : s.control.Idle
  next : x.Keeps rest e []

end Scenario.Briefing

end MediaOverQuic
