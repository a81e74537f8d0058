import Mathlib.Tactic
import MediaOverQuic.Proofs.Session.OwnSetup
import MediaOverQuic.Proofs.Session.RunSteps

/-!
# The life of a handshake

A handshake is called any number of times, and each call may be given up at any point at which it
waits, while others do with the connection as they like. Only the first call does anything: it is
the one that gets the control stream and settles the stage, and the later ones are turned away. What
it writes is a part of the setup message that it was allowed to send.
-/
namespace MediaOverQuic.Handshake

/-- Whether a side may not send a setup message with these parameters. -/
def Barred (role : Role) (config : Config) (overlay : Bool) (params : List KeyValuePair) : Prop :=
  (silent role overlay = true ∧ namesDestination params = true) ∨ ¬ LimitsFit config params

theorem barred_iff {role : Role} {config : Config} {overlay : Bool} {params : List KeyValuePair} :
    Barred role config overlay params ↔ ∃ f, outgoing role config overlay params = .error f := by
  cases h : outgoing role config overlay params with
  | error f =>
    refine iff_of_true ?_ ⟨f, rfl⟩
    by_contra hnot
    obtain ⟨hnames, hfit⟩ := not_or.mp hnot
    have hquiet : silent role overlay = true → namesDestination params = false := by
      intro hsilent
      simpa [hsilent] using hnames
    cases h.symm.trans (outgoing_eq_ok_iff.mpr ⟨hquiet, not_not.mp hfit, rfl⟩)
  | ok sent =>
    refine iff_of_false ?_ (by simp)
    obtain ⟨hnames, hfit, -⟩ := outgoing_eq_ok_iff.mp h
    rintro (⟨hsilent, hnamed⟩ | hnot)
    · exact absurd (hnames hsilent) (by simp [hnamed])
    · exact hnot hfit

/-! ## All calls of a handshake -/

/-- A handshake on one side of a connection, and what has been seen of its calls. -/
structure Lifecycle where
  handshake : Handshake
  link : Link
  /-- The call that runs, with the parameters that it was given. -/
  running : Option (List KeyValuePair × Run)
  /-- The parameters that the calls before it were given, and what they have returned. A call that
  was given up has returned nothing. -/
  calls : List (List KeyValuePair × Option (Except Failure Session))
  /-- The streams that were opened or accepted, each with the number of the call. -/
  streams : List (Nat × Nat)
  /-- What the calls have written to their streams. -/
  written : Bytes

namespace Lifecycle

def fresh (role : Role) (config : Config) (l : Link) : Lifecycle :=
  ⟨.start role config, l, none, [], [], []⟩

/-- The parameters of the first call. -/
def first? (e : Lifecycle) : Option (List KeyValuePair) :=
  (e.calls.head?.map Prod.fst).or (e.running.map Prod.fst)

/-- The call that runs is over. -/
def finish (e : Lifecycle) (h : Handshake) (l : Link) (params : List KeyValuePair) (run : Run)
    (result : Option (Except Failure Session)) : Lifecycle where
  handshake := h
  link := l
  running := none
  calls := e.calls ++ [(params, result)]
  streams := e.streams
  written := e.written ++ run.wrote e.link l

/-- What can happen to a handshake: it is called while no call runs, its call takes a step, stops
waiting, or is given up, and others do to the connection what they like. -/
inductive Step : Lifecycle → Lifecycle → Prop
  | refused {e : Lifecycle} {params : List KeyValuePair} {f : Failure} {h : Handshake}
      (hidle : e.running = none) (hv : ∀ p ∈ params, p.Valid)
      (hb : e.handshake.begin e.link.overlay params = (.error f, h)) :
    Step e { e with handshake := h, calls := e.calls ++ [(params, some (.error f))] }
  | begins {e : Lifecycle} {params : List KeyValuePair} {run : Run} {h : Handshake}
      (hidle : e.running = none) (hv : ∀ p ∈ params, p.Valid)
      (hb : e.handshake.begin e.link.overlay params = (.ok run, h)) :
    Step e { e with handshake := h, running := some (params, run) }
  | goesOn {e : Lifecycle} {params : List KeyValuePair} {run after : Run} {l : Link}
      (pick : Pick) (hrun : e.running = some (params, run))
      (hs : run.step pick e.link = .goesOn (after, l)) :
    Step e { e with
      handshake := e.handshake.observe after
      link := l
      running := some (params, after)
      streams := e.streams ++ run.newStreams e.calls.length pick e.link
      written := e.written ++ run.wrote e.link l }
  | returns {e : Lifecycle} {params : List KeyValuePair} {run : Run} {l : Link}
      {result : Except Failure Session} (pick : Pick) (hrun : e.running = some (params, run))
      (hs : run.step pick e.link = .ends (result, l)) :
    Step e { e.finish (e.handshake.conclude result) l params run (some result) with
      streams := e.streams ++ run.newStreams e.calls.length pick e.link }
  | expires {e : Lifecycle} {params : List KeyValuePair} {run : Run} (pick : Pick)
      (hrun : e.running = some (params, run)) (hs : run.step pick e.link = .waits) :
    Step e (e.finish (e.handshake.conclude (.error (run.expire e.link).1)) (run.expire e.link).2
      params run (some (.error (run.expire e.link).1)))
  | givenUp {e : Lifecycle} {params : List KeyValuePair} {run : Run}
      (hrun : e.running = some (params, run)) :
    Step e (e.finish e.handshake (run.abandon e.link) params run none)
  | others {e : Lifecycle} {l : Link} (ho : l.overlay = e.link.overlay) : Step e { e with link := l }

/-- The stage of a handshake after its first call. -/
def Settles (stage : HandshakeStage) : Option (Except Failure Session) → Prop
  | some (.ok _) => stage = .established
  | some (.error _) => stage = .failed
  | none => stage = .streamOpening ∨ stage = .awaitingPeerSetup

/-- What the first call has done: nothing, if its parameters are not allowed. -/
inductive Did (role : Role) (config : Config) (overlay : Bool) (params : List KeyValuePair) :
    Option (Except Failure Session) → List (Nat × Nat) → Bytes → Prop
  | refused {f : Failure} (hout : outgoing role config overlay params = .error f) :
    Did role config overlay params (some (.error f)) [] []
  | ran {run : Run} {phase : Phase} {sent : List KeyValuePair}
      {result : Option (Except Failure Session)} {streams : List (Nat × Nat)} {written : Bytes}
      (hout : outgoing role config overlay params = .ok sent) (hv : ∀ p ∈ params, p.Valid)
      (hrun : run = ⟨role, config, sent, phase⟩) (hstreams : streams = [] ∨ Run.OneStream streams)
      (hspoke : run.Spoke written) : Did role config overlay params result streams written

/-- How far a handshake is: it was not called yet, or its first call runs or is over. -/
inductive Sound (role : Role) (config : Config) (overlay : Bool) (e : Lifecycle) : Prop
  | idle (hhandshake : e.handshake = .start role config) (hoverlay : e.link.overlay = overlay)
      (hrun : e.running = none) (hcalls : e.calls = []) (hstreams : e.streams = [])
      (hwritten : e.written = [])
  | runs {params sent : List KeyValuePair} {phase : Phase}
      (hrun : e.running = some (params, ⟨role, config, sent, phase⟩)) (hcalls : e.calls = [])
      (hout : outgoing role config overlay params = .ok sent) (hv : ∀ p ∈ params, p.Valid)
      (hstage : e.handshake.stage = Run.stage ⟨role, config, sent, phase⟩)
      (hstands : Run.Stands ⟨role, config, sent, phase⟩ e.streams e.written)
  | settled {params : List KeyValuePair} {result : Option (Except Failure Session)}
      {later : List (List KeyValuePair × Option (Except Failure Session))}
      (hrun : e.running = none) (hcalls : e.calls = (params, result) :: later)
      (hlater : ∀ call ∈ later, ∃ f, call.2 = some (.error f))
      (hstage : Settles e.handshake.stage result)
      (hdid : Did role config overlay params result e.streams e.written)

variable {role : Role} {config : Config} {overlay : Bool} {e e' : Lifecycle}

theorem Settles.ne_idle {stage : HandshakeStage} {result : Option (Except Failure Session)}
    (h : Settles stage result) : stage ≠ .idle := by
  rintro rfl
  rcases result with _ | _ | _ <;> simp [Settles] at h

theorem Settles.established_iff {stage : HandshakeStage}
    {result : Option (Except Failure Session)} (h : Settles stage result) :
    stage = .established ↔ ∃ s, result = some (.ok s) := by
  rcases result with _ | f | s
  · rcases h with rfl | rfl <;> simp
  · have hstage : stage = .failed := h
    simp [hstage]
  · have hstage : stage = .established := h
    simp [hstage]

theorem Settles.failed_iff {stage : HandshakeStage}
    {result : Option (Except Failure Session)} (h : Settles stage result) :
    stage = .failed ↔ ∃ f, result = some (.error f) := by
  rcases result with _ | f | s
  · rcases h with rfl | rfl <;> simp
  · have hstage : stage = .failed := h
    simp [hstage]
  · have hstage : stage = .established := h
    simp [hstage]

/-- A handshake that was started before is left as it is. -/
theorem begin_of_started {h : Handshake} (hne : h.stage ≠ .idle) (overlay : Bool)
    (params : List KeyValuePair) : ∃ f, h.begin overlay params = (.error f, h) := by
  simp [Handshake.begin, hne]

theorem begin_start (params : List KeyValuePair) :
    (Handshake.start role config).begin overlay params =
      match outgoing role config overlay params with
      | .error f => (.error f, ⟨role, config, .failed⟩)
      | .ok sent => (.ok ⟨role, config, sent, firstPhase role⟩, ⟨role, config, .streamOpening⟩) := by
  simp only [Handshake.begin, Handshake.start]
  cases outgoing role config overlay params with
  | error f => rfl
  | ok sent => cases role <;> rfl

theorem first_call {calls : List (List KeyValuePair × Option (Except Failure Session))}
    (h : calls = []) (call : List KeyValuePair × Option (Except Failure Session)) :
    calls ++ [call] = (call.1, call.2) :: [] := by
  rw [h]
  rfl

theorem setup_valid {params sent : List KeyValuePair} {phase : Phase}
    (hout : outgoing role config overlay params = .ok sent) (hv : ∀ p ∈ params, p.Valid) :
    (Run.setup ⟨role, config, sent, phase⟩).Valid :=
  valid_setup role (sends_of_outgoing hout hv).valid

/-- A handshake that was not called yet is refused, or begins to run. -/
theorem Step.of_start (hstart : e.handshake = .start role config) (hrun : e.running = none)
    (hs : Step e e') :
    (∃ params f, outgoing role config e.link.overlay params = .error f ∧ e' = { e with
      handshake := ⟨role, config, .failed⟩
      calls := e.calls ++ [(params, some (.error f))] }) ∨
    (∃ params sent, outgoing role config e.link.overlay params = .ok sent ∧
      (∀ p ∈ params, p.Valid) ∧ e' = { e with
        handshake := ⟨role, config, .streamOpening⟩
        running := some (params, ⟨role, config, sent, firstPhase role⟩) }) ∨
    ∃ l, l.overlay = e.link.overlay ∧ e' = { e with link := l } := by
  cases hs with
  | @refused params f h hidle hv hb =>
    rw [hstart, begin_start] at hb
    split at hb
    · next f' hout =>
      obtain ⟨rfl, rfl⟩ := by simpa using hb
      exact .inl ⟨params, f', hout, rfl⟩
    · cases hb
  | @begins params run h hidle hv hb =>
    rw [hstart, begin_start] at hb
    split at hb
    · cases hb
    · next sent hout =>
      obtain ⟨rfl, rfl⟩ := by simpa using hb
      exact .inr (.inl ⟨params, sent, hout, hv, rfl⟩)
  | goesOn _ hrun' => cases hrun.symm.trans hrun'
  | returns _ hrun' => cases hrun.symm.trans hrun'
  | expires _ hrun' => cases hrun.symm.trans hrun'
  | givenUp hrun' => cases hrun.symm.trans hrun'
  | others ho => exact .inr (.inr ⟨_, ho, rfl⟩)

/-- A call that runs goes on, or is over with a result, or without one. -/
theorem Step.of_running {params : List KeyValuePair} {run : Run}
    (hrun : e.running = some (params, run)) (hs : Step e e') :
    (∃ pick after l, run.step pick e.link = .goesOn (after, l) ∧ e' = { e with
      handshake := e.handshake.observe after
      link := l
      running := some (params, after)
      streams := e.streams ++ run.newStreams e.calls.length pick e.link
      written := e.written ++ run.wrote e.link l }) ∨
    (∃ pick result l, run.step pick e.link = .ends (result, l) ∧ e' =
      { e.finish (e.handshake.conclude result) l params run (some result) with
        streams := e.streams ++ run.newStreams e.calls.length pick e.link }) ∨
    (∃ f, e' = e.finish (e.handshake.conclude (.error f)) (run.abandon e.link) params run
      (some (.error f))) ∨
    e' = e.finish e.handshake (run.abandon e.link) params run none ∨
    ∃ l, e' = { e with link := l } := by
  cases hs with
  | refused hidle => cases hidle.symm.trans hrun
  | begins hidle => cases hidle.symm.trans hrun
  | goesOn pick hrun' hstep =>
    obtain ⟨rfl, rfl⟩ := by simpa using hrun.symm.trans hrun'
    exact .inl ⟨pick, _, _, hstep, rfl⟩
  | returns pick hrun' hstep =>
    obtain ⟨rfl, rfl⟩ := by simpa using hrun.symm.trans hrun'
    exact .inr (.inl ⟨pick, _, _, hstep, rfl⟩)
  | expires _ hrun' hwaits =>
    obtain ⟨rfl, rfl⟩ := by simpa using hrun.symm.trans hrun'
    exact .inr (.inr (.inl ⟨_, rfl⟩))
  | givenUp hrun' =>
    obtain ⟨rfl, rfl⟩ := by simpa using hrun.symm.trans hrun'
    exact .inr (.inr (.inr (.inl rfl)))
  | others ho => exact .inr (.inr (.inr (.inr ⟨_, rfl⟩)))

/-- A handshake that was started before turns every call away. -/
theorem Step.of_started (hrun : e.running = none) (hne : e.handshake.stage ≠ .idle)
    (hs : Step e e') :
    e'.handshake = e.handshake ∧ e'.running = none ∧ e'.streams = e.streams ∧
      e'.written = e.written ∧ ∃ more, e'.calls = e.calls ++ more ∧
        ∀ call ∈ more, ∃ f, call.2 = some (.error f) := by
  cases hs with
  | @refused params f h hidle hv hb =>
    obtain ⟨f', hrefused⟩ := begin_of_started hne e.link.overlay params
    obtain ⟨rfl, rfl⟩ := by simpa using hrefused.symm.trans hb
    exact ⟨rfl, hrun, rfl, rfl, _, rfl, by simp⟩
  | @begins params run h hidle hv hb =>
    obtain ⟨f', hrefused⟩ := begin_of_started hne e.link.overlay params
    cases hrefused.symm.trans hb
  | goesOn _ hrun' => cases hrun.symm.trans hrun'
  | returns _ hrun' => cases hrun.symm.trans hrun'
  | expires _ hrun' => cases hrun.symm.trans hrun'
  | givenUp hrun' => cases hrun.symm.trans hrun'
  | others ho => exact ⟨rfl, hrun, rfl, rfl, [], (List.append_nil _).symm, by simp⟩

/-- What a step leads to: the stage stays or moves on. -/
theorem Sound.step (h : Sound role config overlay e) (hs : Step e e') :
    Sound role config overlay e' ∧
      (e'.handshake.stage = e.handshake.stage ∨ e.handshake.stage.Next e'.handshake.stage) := by
  cases h with
  | idle hstart hoverlay hrun hcalls hstreams hwritten =>
    have hidle : e.handshake.stage = .idle := by rw [hstart]; rfl
    rcases Step.of_start hstart hrun hs with ⟨params, f, hout, rfl⟩ |
      ⟨params, sent, hout, hv, rfl⟩ | ⟨l, ho, rfl⟩
    · rw [hoverlay] at hout
      rw [hidle]
      refine ⟨.settled hrun (first_call hcalls _) (by simp) rfl ?_, .inr (.fails nofun nofun)⟩
      rw [hstreams, hwritten]
      exact .refused hout
    · rw [hoverlay] at hout
      rw [hidle]
      refine ⟨.runs rfl hcalls hout hv ?_ ?_, .inr .starts⟩
      · cases role <;> rfl
      · cases role <;> exact ⟨hstreams, hwritten⟩
    · exact ⟨.idle hstart (ho.trans hoverlay) hrun hcalls hstreams hwritten, .inl rfl⟩
  | @runs params sent phase hrun hcalls hout hv hstage hstands =>
    have hlength : e.calls.length = 0 := by rw [hcalls]; rfl
    have hwrote := Run.wrote_abandon ⟨role, config, sent, phase⟩ e.link
    have hopen := Run.stage_cases ⟨role, config, sent, phase⟩
    have hfails : e.handshake.stage.Next .failed := by
      rw [hstage]
      rcases hopen with hopen | hopen <;> rw [hopen] <;> exact .fails nofun nofun
    rcases Step.of_running hrun hs with ⟨pick, after, l, hstep, rfl⟩ |
      ⟨pick, result, l, hstep, rfl⟩ | ⟨f, rfl⟩ | rfl | ⟨l, rfl⟩
    · have hstands' := hstands.step (setup_valid hout hv) hstep
      have hnext := Run.stage_of_step hstep
      obtain ⟨phase', rfl, -⟩ := Run.advances_of_step hstep
      rw [hstage, hlength]
      exact ⟨.runs rfl hcalls hout hv rfl hstands', hnext⟩
    · obtain ⟨hstreams, hwrote⟩ := hstands.ends hstep
      refine ⟨.settled rfl (first_call hcalls _) (by simp) ?_ ?_, ?_⟩
      · cases result <;> rfl
      · simp only [finish, hlength, hwrote, List.append_nil]
        exact .ran hout hv rfl hstreams hstands.spoke
      · cases result with
        | error f => exact .inr hfails
        | ok s =>
          rw [hstage, Run.stage_of_ok hstep]
          exact .inr .succeeds
    · refine ⟨.settled rfl (first_call hcalls _) (by simp) rfl ?_, .inr hfails⟩
      simp only [finish, hwrote, List.append_nil]
      exact .ran hout hv rfl hstands.one hstands.spoke
    · have hsettles : Settles e.handshake.stage none := by
        rw [hstage]
        exact hopen
      refine ⟨.settled rfl (first_call hcalls _) (by simp) hsettles ?_, .inl rfl⟩
      simp only [finish, hwrote, List.append_nil]
      exact .ran hout hv rfl hstands.one hstands.spoke
    · exact ⟨.runs hrun hcalls hout hv hstage hstands, .inl rfl⟩
  | @settled params result later hrun hcalls hlater hstage hdid =>
    obtain ⟨hsame, hrun', hstreams, hwritten, more, hmore, herrors⟩ :=
      Step.of_started hrun hstage.ne_idle hs
    refine ⟨.settled hrun' (hmore.trans (congrArg (· ++ more) hcalls)) ?_ (by rwa [hsame]) ?_, ?_⟩
    · intro call hcall
      rcases List.mem_append.mp hcall with hcall | hcall
      · exact hlater call hcall
      · exact herrors call hcall
    · rwa [hstreams, hwritten]
    · rw [hsame]
      exact .inl rfl

theorem sound_fresh (role : Role) (config : Config) (l : Link) :
    Sound role config l.overlay (fresh role config l) := .idle rfl rfl rfl rfl rfl rfl

/-- What a run leads to: the stage only moves forward. -/
theorem Sound.run (h : Sound role config overlay e) (hr : Relation.ReflTransGen Step e e') :
    Sound role config overlay e' ∧
      Relation.ReflTransGen HandshakeStage.Next e.handshake.stage e'.handshake.stage := by
  induction hr with
  | refl => exact ⟨h, .refl⟩
  | tail _ hs ih =>
    obtain ⟨hsound, hforward⟩ := ih
    obtain ⟨hsound', hsame | hnext⟩ := hsound.step hs
    · exact ⟨hsound', by rwa [hsame]⟩
    · exact ⟨hsound', hforward.tail hnext⟩

/-- After the first call nothing changes the handshake any more. -/
theorem Sound.stays (h : Sound role config overlay e) (hcalls : e.calls ≠ [])
    (hr : Relation.ReflTransGen Step e e') : e'.handshake = e.handshake := by
  cases h with
  | idle hstart hoverlay hrun hnone => exact absurd hnone hcalls
  | runs hrun hnone => exact absurd hnone hcalls
  | settled hrun _ _ hstage =>
    have hboth : e'.handshake = e.handshake ∧ e'.running = none := by
      induction hr with
      | refl => exact ⟨rfl, hrun⟩
      | tail _ hs ih =>
        have hne := hstage.ne_idle
        rw [← ih.1] at hne
        obtain ⟨hsame, hrun', -⟩ := Step.of_started ih.2 hne hs
        exact ⟨hsame.trans ih.1, hrun'⟩
    exact hboth.1

/-- What the calls of a handshake may rely on, whatever happens. -/
structure Reliable (role : Role) (config : Config) (overlay : Bool) (e : Lifecycle) : Prop where
  /-- A call that runs is the first one. -/
  first : e.running ≠ none → e.calls = []
  /-- The first call gets the only stream. -/
  stream : e.streams = [] ∨ ∃ id, e.streams = [(0, id)]
  later : ∀ call ∈ e.calls.tail, ∃ f, call.2 = some (.error f)
  /-- After the first call the stage stays as it is. -/
  stays : e.calls ≠ [] → ∀ e', Relation.ReflTransGen Step e e' → e'.handshake = e.handshake
  established_iff : e.handshake.stage = .established ↔
    ∃ params s, e.calls.head? = some (params, some (.ok s))
  failed_iff : e.handshake.stage = .failed ↔
    ∃ params f, e.calls.head? = some (params, some (.error f))
  forward : ∀ e', Relation.ReflTransGen Step e e' →
    Relation.ReflTransGen HandshakeStage.Next e.handshake.stage e'.handshake.stage
  /-- Parameters that are not allowed are refused at once. -/
  barred : ∀ params, e.first? = some params → Barred role config overlay params →
    (∃ f, e.calls.head? = some (params, some (.error f))) ∧ e.running = none ∧ e.streams = [] ∧
      e.written = []
  /-- What is written is a part of the setup message of the first call. -/
  written : e.written = [] ∨ ∃ params frame, e.first? = some params ∧
    ¬ Barred role config overlay params ∧
    Frame.encode config.maxControlMessageLength (.setup role (augmented config params)) =
      .ok frame ∧ e.written <+: frame ∧
    (silent role overlay = true →
      ∀ p ∈ augmented config params, p.typeId ≠ 0x01 ∧ p.typeId ≠ 0x05)
  /-- Nobody reads in it where the client wants to go, if that must not be said. -/
  destination : silent role overlay = true → ∀ limit m rest,
    Frame.scan limit e.written = .ready (.ok m, rest) →
      ∀ p ∈ m.params, p.typeId ≠ 0x01 ∧ p.typeId ≠ 0x05

/-- The setup message that a first call may send, and what it has written of it. -/
structure Tells (role : Role) (config : Config) (overlay : Bool) (params : List KeyValuePair)
    (written : Bytes) : Prop where
  allowed : ¬ Barred role config overlay params
  valid : (Message.setup role (augmented config params)).Valid
  fits : Frame.Fits config.maxControlMessageLength (.setup role (augmented config params))
  front : written <+: Frame.wire (.setup role (augmented config params))

theorem tells_of_spoke {params sent : List KeyValuePair} {phase : Phase} {written : Bytes}
    (hout : outgoing role config overlay params = .ok sent) (hv : ∀ p ∈ params, p.Valid)
    (h : Run.Spoke ⟨role, config, sent, phase⟩ written) :
    written = [] ∨ Tells role config overlay params written := by
  refine h.imp_right fun ⟨hfits, hfront⟩ => ?_
  have hvalid : (Run.setup ⟨role, config, sent, phase⟩).Valid := setup_valid hout hv
  have hallowed : ¬ Barred role config overlay params := by
    rw [barred_iff, hout]
    simp
  obtain ⟨-, -, rfl⟩ := outgoing_eq_ok_iff.mp hout
  exact ⟨hallowed, hvalid, hfits, hfront⟩

theorem Tells.destination {params : List KeyValuePair} {written : Bytes}
    (h : Tells role config overlay params written) (hsilent : silent role overlay = true) :
    ∀ p ∈ augmented config params, p.typeId ≠ 0x01 ∧ p.typeId ≠ 0x05 := by
  rw [← namesDestination_eq_false_iff, namesDestination_augmented]
  by_contra hnames
  exact h.allowed (.inl ⟨hsilent, by simpa using hnames⟩)

theorem Sound.tells (h : Sound role config overlay e) : e.written = [] ∨
    ∃ params, e.first? = some params ∧ Tells role config overlay params e.written := by
  cases h with
  | idle hstart hoverlay hrun hcalls hstreams hwritten => exact .inl hwritten
  | @runs params sent phase hrun hcalls hout hv hstage hstands =>
    have hfirst : e.first? = some params := by simp [first?, hcalls, hrun]
    exact (tells_of_spoke hout hv hstands.spoke).imp_right fun htells => ⟨_, hfirst, htells⟩
  | @settled params result later hrun hcalls hlater hstage hdid =>
    have hfirst : e.first? = some params := by simp [first?, hcalls]
    generalize e.streams = streams at hdid
    generalize e.written = written at hdid
    cases hdid with
    | refused => exact .inl rfl
    | ran hout hv hof hstreams hspoke =>
      subst hof
      exact (tells_of_spoke hout hv hspoke).imp_right fun htells => ⟨_, hfirst, htells⟩

theorem Sound.barred (h : Sound role config overlay e) {params : List KeyValuePair}
    (hfirst : e.first? = some params) (hbarred : Barred role config overlay params) :
    (∃ f, e.calls.head? = some (params, some (.error f))) ∧ e.running = none ∧ e.streams = [] ∧
      e.written = [] := by
  obtain ⟨f, hrefused⟩ := barred_iff.mp hbarred
  cases h with
  | idle hstart hoverlay hrun hcalls => simp [first?, hrun, hcalls] at hfirst
  | runs hrun hcalls hout =>
    obtain rfl : _ = params := by simpa [first?, hrun, hcalls] using hfirst
    cases hrefused.symm.trans hout
  | settled hrun hcalls hlater hstage hdid =>
    obtain rfl : _ = params := by simpa [first?, hcalls] using hfirst
    generalize e.streams = streams at hdid ⊢
    generalize e.written = written at hdid ⊢
    cases hdid with
    | refused => exact ⟨⟨_, by rw [hcalls]; rfl⟩, hrun, rfl, rfl⟩
    | ran hout => cases hrefused.symm.trans hout

/-- Before the first call is over the stage is not settled, and then it is by what it came to. -/
theorem Sound.stage_cases (h : Sound role config overlay e) :
    (e.calls = [] ∧ e.handshake.stage ≠ .established ∧ e.handshake.stage ≠ .failed) ∨
      ∃ params result later, e.calls = (params, result) :: later ∧
        Settles e.handshake.stage result := by
  cases h with
  | idle hstart hoverlay hrun hcalls => exact .inl ⟨hcalls, by simp [hstart, Handshake.start]⟩
  | @runs params sent phase hrun hcalls hout hv hstage =>
    rcases Run.stage_cases ⟨role, config, sent, phase⟩ with hopen | hopen <;>
      exact .inl ⟨hcalls, by simp [hstage, hopen]⟩
  | settled hrun hcalls hlater hstage => exact .inr ⟨_, _, _, hcalls, hstage⟩

theorem Sound.reliable (h : Sound role config overlay e) : Reliable role config overlay e where
  first hne := by
    cases h with
    | idle hstart hoverlay hrun hcalls => exact hcalls
    | runs hrun hcalls => exact hcalls
    | settled hrun => exact absurd hrun hne
  stream := by
    cases h with
    | idle hstart hoverlay hrun hcalls hstreams => exact .inl hstreams
    | runs hrun hcalls hout hv hstage hstands => exact hstands.one
    | settled hrun hcalls hlater hstage hdid =>
      generalize e.streams = streams at hdid ⊢
      generalize e.written = written at hdid
      cases hdid with
      | refused => exact .inl rfl
      | ran _ _ _ hstreams => exact hstreams
  later := by
    cases h with
    | idle hstart hoverlay hrun hcalls => simp [hcalls]
    | runs hrun hcalls => simp [hcalls]
    | settled hrun hcalls hlater =>
      rw [hcalls]
      exact hlater
  stays hcalls e' hr := h.stays hcalls hr
  established_iff := by
    rcases h.stage_cases with ⟨hcalls, hne, -⟩ | ⟨params, result, later, hcalls, hstage⟩
    · simp [hcalls, hne]
    · rw [hstage.established_iff]
      simp [hcalls]
  failed_iff := by
    rcases h.stage_cases with ⟨hcalls, -, hne⟩ | ⟨params, result, later, hcalls, hstage⟩
    · simp [hcalls, hne]
    · rw [hstage.failed_iff]
      simp [hcalls]
  forward e' hr := (h.run hr).2
  barred params hfirst hbarred := h.barred hfirst hbarred
  written := by
    refine h.tells.imp_right fun ⟨params, hfirst, htells⟩ => ?_
    exact ⟨params, _, hfirst, htells.allowed, Frame.encode_of_fits htells.valid htells.fits,
      htells.front, htells.destination⟩
  destination hsilent limit m rest hscan := by
    rcases h.tells with hnil | ⟨params, -, htells⟩
    · rw [hnil] at hscan
      exact absurd hscan (Frame.unreadable_nil _ _ _)
    · obtain ⟨more, hmore⟩ := htells.front
      obtain ⟨rfl, -⟩ := Frame.eq_of_scan_of_append htells.valid htells.fits hmore hscan
      have hparams : (Message.setup role (augmented config params)).params =
          augmented config params := by cases role <;> rfl
      rw [hparams]
      exact htells.destination hsilent

/-- Whatever the calls of a handshake come to, and whatever others do with the connection, only the
first call has done anything. -/
theorem only_first_call_counts {role : Role} {config : Config} {l : Link} {e : Lifecycle}
    (h : Relation.ReflTransGen Step (fresh role config l) e) :
    Reliable role config l.overlay e :=
  ((sound_fresh role config l).run h).1.reliable

/-- A client that was given up after it had sent where it wants to go, and was called again. -/
theorem only_first_call_counts_givenUp :
    ∃ e, Relation.ReflTransGen Step (fresh .client .standard (.fresh false 1)) e ∧
      e.calls.length = 2 ∧ e.written = [0x20, 7, 2, 1, 1, 0x2F, 2, 0x43, 0xE8] ∧
      Reliable .client .standard false e := by
  have hv : ∀ p ∈ [(⟨1, .bytes [0x2F]⟩ : KeyValuePair)], p.Valid := by decide
  obtain ⟨e, hrun, hcalls, hwritten⟩ :
      ∃ e, Relation.ReflTransGen Step (fresh .client .standard (.fresh false 1)) e ∧
        e.calls.length = 2 ∧ e.written = [0x20, 7, 2, 1, 1, 0x2F, 2, 0x43, 0xE8] :=
    ⟨_, .head (.begins rfl hv rfl) <| .head (.goesOn .stream rfl rfl) <|
      .head (.goesOn .stream rfl rfl) <| .head (.goesOn .stream rfl rfl) <|
      .head (.goesOn .stream rfl rfl) <| .head (.givenUp rfl) <| .single (.refused rfl hv rfl),
      rfl, rfl⟩
  exact ⟨e, hrun, hcalls, hwritten, only_first_call_counts hrun⟩

end Lifecycle

end MediaOverQuic.Handshake
