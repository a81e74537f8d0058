import Mathlib.Tactic
import MediaOverQuic.Proofs.Control.Solo
import MediaOverQuic.Proofs.Eventually
import MediaOverQuic.Proofs.Session.Acceptable
import MediaOverQuic.Proofs.Session.Interview
import MediaOverQuic.Proofs.Session.Window
import MediaOverQuic.Scenario.Sessions

/-!
# Processing what the peer says

A session processes the messages on its control stream. They arrive in whatever pieces the far side
puts them there, and the stream ends behind them. Other calls on the session go on meanwhile, but do
not read from the control stream, take over limits of the peer, or close the connection.
-/
namespace MediaOverQuic

open Scenario (Interview)
open Scenario.Sessions (Background)

namespace Session

variable {s s' : Session} {l l' : Link}

/-- What is reported of an error that ends the processing of messages. -/
def processingFailure (e : Error) : Failure :=
  (Failure.ofError e).within "processing control messages"

section

variable {call call' : Receiving} {c : ControlStream} {q : Pipe} {m : Message} {e : Error}

theorem stepProcessing_of_goesOn
    (h : call.step s.control (l.inbound s.control.stream s.role) = .goesOn (call', c, q)) :
    stepProcessing call s l =
      .goesOn (call', { s with control := c }, l.setInbound s.control.stream s.role q) := by
  simp only [stepProcessing, stepReading, Receiving.stepOn, h, Attempt.map]

theorem stepProcessing_of_error
    (h : call.step s.control (l.inbound s.control.stream s.role) = .ends (.error e, c, q)) :
    stepProcessing call s l = .ends (.error (processingFailure e), { s with control := c },
      terminate (l.setInbound s.control.stream s.role q) (processingFailure e)) := by
  simp only [stepProcessing, stepReading, Receiving.stepOn, h, Attempt.map, processingFailure]

theorem stepProcessing_of_refused
    (h : call.step s.control (l.inbound s.control.stream s.role) = .ends (.ok m, c, q))
    (hm : s.state.handle m = .error e) :
    stepProcessing call s l = .ends (.error (processingFailure e), { s with control := c },
      terminate (l.setInbound s.control.stream s.role q) (processingFailure e)) := by
  simp only [stepProcessing, stepReading, Receiving.stepOn, h, Attempt.map, processingFailure,
    handle, hm, Except.map]

theorem stepProcessing_of_handled {state : SessionState}
    (h : call.step s.control (l.inbound s.control.stream s.role) = .ends (.ok m, c, q))
    (hm : s.state.handle m = .ok state) :
    stepProcessing call s l =
      .goesOn (c.receive.1, { s with control := c.receive.2, state := state },
        l.setInbound s.control.stream s.role q) := by
  simp only [stepProcessing, stepReading, Receiving.stepOn, h, Attempt.map, handle, hm, Except.map,
    receive]

theorem stepProcessing_of_waits
    (h : call.step s.control (l.inbound s.control.stream s.role) = .waits)
    (hopen : l.closing = none) : stepProcessing call s l = .waits := by
  simp [stepProcessing, stepReading, Receiving.stepOn, h, Attempt.map, Link.isClosed, hopen]

end

/-- Whether a session and its connection differ in nothing but who reads the control stream, what is
left to be read from it, the limit that the peer set, and that the connection was closed since. -/
def OnlyProcessed (s s' : Session) (l l' : Link) : Prop :=
  ∃ readers reached q closes,
    s' = { s with
      control := { s.control with readers := readers }
      state := { s.state with maxOutgoing := reached } } ∧
    l' = { l.setInbound s.control.stream s.role q with closes := l.closes ++ closes }

section

variable {call call' : Receiving} {result : Except Failure Unit}

theorem onlyProcessed_of_goesOn (h : stepProcessing call s l = .goesOn (call', s', l')) :
    OnlyProcessed s s' l l' := by
  unfold stepProcessing at h
  split at h
  · next next hread =>
    obtain rfl := Attempt.goesOn.inj h
    obtain ⟨c, q, hstep, rfl, rfl⟩ := stepReading_eq_goesOn hread
    obtain ⟨rfl, -⟩ := Receiving.stepWith_eq_goesOn (i := .pipe) hstep
    exact ⟨_, _, q, [], rfl, by rw [List.append_nil]; rfl⟩
  · cases h
  · next m s₁ l₁ hread =>
    obtain ⟨c, q, hstep, rfl, rfl⟩ := stepReading_eq_ends hread
    obtain ⟨rfl, -⟩ := Receiving.stepWith_eq_ends (i := .pipe) hstep
    unfold handle at h
    cases hm : s.state.handle m with
    | error e => simp [hm, Except.map] at h
    | ok state =>
      obtain ⟨-, rfl⟩ := SessionState.handle_eq_ok_iff.mp hm
      obtain ⟨-, rfl, rfl⟩ := by simpa [hm, Except.map] using h
      exact ⟨_, _, q, [], rfl, by rw [List.append_nil]; rfl⟩
  · split_ifs at h

theorem onlyProcessed_of_ends (h : stepProcessing call s l = .ends (result, s', l')) :
    OnlyProcessed s s' l l' := by
  unfold stepProcessing at h
  split at h
  · cases h
  · next e s₁ l₁ hread =>
    obtain ⟨c, q, hstep, rfl, rfl⟩ := stepReading_eq_ends hread
    obtain ⟨rfl, -⟩ := Receiving.stepWith_eq_ends (i := .pipe) hstep
    obtain ⟨-, rfl, rfl⟩ := by simpa using h
    exact ⟨_, _, q, _, rfl, rfl⟩
  · next m s₁ l₁ hread =>
    obtain ⟨c, q, hstep, rfl, rfl⟩ := stepReading_eq_ends hread
    obtain ⟨rfl, -⟩ := Receiving.stepWith_eq_ends (i := .pipe) hstep
    unfold handle at h
    cases hm : s.state.handle m with
    | ok state => simp [hm, Except.map] at h
    | error e =>
      obtain ⟨-, rfl, rfl⟩ := by simpa [hm, Except.map] using h
      exact ⟨_, _, q, _, rfl, rfl⟩
  · split_ifs at h
    obtain ⟨-, rfl, rfl⟩ := by simpa using h
    refine ⟨_, _, l.inbound s.control.stream s.role, [], rfl, ?_⟩
    rw [Link.setInbound_self, List.append_nil]

end

end Session

/-- A session that processes messages, in the scene that its handshake leaves. -/
structure Processing where
  scene : Interview
  session : Session
  call : Background
  /-- How many steps other calls still take. -/
  others : Nat

namespace Processing

variable {limit reached : Nat} {bytes rest : Bytes} {done : List Message} {call : Receiving}
  {x y : Processing}

/-- A session begins to process messages. -/
def start (e : Interview) (s : Session) (others : Nat) : Processing :=
  ⟨e, s.receive.2, .running s.receive.1, others⟩

/-- A step of the call that processes messages, if it can take one. -/
def work (x : Processing) : Option Processing :=
  match x.call with
  | .ended _ => none
  | .running call =>
    match Session.stepProcessing call x.session x.scene.link with
    | .waits => none
    | .goesOn (call, s, l) =>
      some { x with scene := { x.scene with link := l }, session := s, call := .running call }
    | .ends (result, s, l) =>
      some { x with scene := { x.scene with link := l }, session := s, call := .ended result }

/-- What can happen next: a step of processing, of the far side, or of another call. -/
inductive Step (x : Processing) : Processing → Prop
  | work {y : Processing} (h : x.work = some y) : Step x y
  | far {f : Scenario.FarSide} {l : Link}
      (h : x.scene.far.Step x.session.role x.scene.link f l) :
    Step x { x with scene := { x.scene with far := f, link := l } }
  | other {others : Nat} {s : Session} {l : Link} (hothers : x.others = others + 1)
      (h : x.session.KeepsReading s x.scene.link l) :
    Step x { x with scene := { x.scene with link := l }, session := s, others := others }

theorem onlyProcessed_of_work (h : x.work = some y) :
    x.session.OnlyProcessed y.session x.scene.link y.scene.link := by
  unfold work at h
  split at h
  · cases h
  · split at h
    · cases h
    · next hstep =>
      obtain rfl := Option.some.inj h
      exact Session.onlyProcessed_of_goesOn hstep
    · next hstep =>
      obtain rfl := Option.some.inj h
      exact Session.onlyProcessed_of_ends hstep

/-- How much is still to be done before processing ends. A byte that is read is one that the far
side does not have to bring any more. -/
def rank (x : Processing) : Nat :=
  3 * x.scene.farWork x.session.role + x.others +
    match x.call with
    | .running call => 2 * call.got.length + call.toStart
    | .ended _ => 0

/-! ## While messages are processed -/

/-- The messages `done` were applied, and `rest` stands behind them, of which the call has got
some. -/
structure Running (limit reached : Nat) (bytes : Bytes) (x : Processing) (call : Receiving)
    (done : List Message) (rest : Bytes) : Prop where
  runs : x.call = .running call
  applied : Applied limit reached bytes done rest
  maxOutgoing : x.session.state.maxOutgoing = limitAfter reached done
  hears : x.scene.Hears x.session.role rest true call.got
  stream : x.scene.far.stream = x.session.control.stream
  accepts : x.session.control.limit = limit
  solo : call.Solo x.session.control
  tight : (Frame.scan limit).Tight call.got
  isOpen : x.scene.link.closing = none

/-- Processing ended with a failure behind the messages `done`, because of what is in front of
`rest`. -/
structure Failed (limit reached : Nat) (bytes : Bytes) (x : Processing) (f : Failure)
    (done : List Message) (rest : Bytes) : Prop where
  ended : x.call = .ended (.error f)
  context : ∃ e, f = Session.processingFailure e
  applied : Applied limit reached bytes done rest
  maxOutgoing : x.session.state.maxOutgoing = limitAfter reached done
  fault : Fault limit (limitAfter reached done) rest f.code
  closing : x.scene.link.closing = some f.termination

theorem Running.start {e : Interview} {s : Session} (others : Nat)
    (hears : e.Hears s.role bytes true []) (hstream : e.far.stream = s.control.stream)
    (hidle : s.control.readers.line = []) (hopen : e.link.closing = none) :
    Running s.control.limit s.state.maxOutgoing bytes (start e s others) s.receive.1 [] bytes where
  runs := rfl
  applied := .nil
  maxOutgoing := rfl
  hears := hears
  stream := hstream
  accepts := rfl
  solo := ControlStream.solo_receive hidle
  tight := (Frame.lawful_scan _).tight_nil
  isOpen := hopen

/-- What is in the pipe that the session reads from. -/
def inbound (x : Processing) : Pipe := x.scene.link.inbound x.session.control.stream x.session.role

/-- What the call has got, with what is under way, is what stands behind the messages applied. -/
theorem Running.rest_eq (h : Running limit reached bytes x call done rest) :
    call.got ++ (x.inbound.buffer ++ x.scene.far.toCome) = rest := by
  rw [inbound, ← h.stream]
  exact h.hears.bytes

/-- Something is wrong with what is in front of `rest`. -/
theorem Running.fails (h : Running limit reached bytes x call done rest) {e : Error}
    (hjudge : judge limit (limitAfter reached done) rest = .error e.code) :
    Failed limit reached bytes
      { x with
        scene := { x.scene with
          link := Session.terminate x.scene.link (Session.processingFailure e) }
        session := { x.session with control := call.leave x.session.control }
        call := .ended (.error (Session.processingFailure e)) }
      (Session.processingFailure e) done rest where
  ended := rfl
  context := ⟨e, rfl⟩
  applied := h.applied
  maxOutgoing := h.maxOutgoing
  fault := judge_eq_error_iff.mp hjudge
  closing := by simp [Session.terminate, h.isOpen]

/-- A call that has its turn goes on with what arrives. -/
theorem Running.reads (h : Running limit reached bytes x call done rest) {call' : Receiving}
    {q : Pipe} {chunk : Bytes} (hsolo : call'.Solo x.session.control)
    (hless : q.buffer.length + call'.toStart < x.inbound.buffer.length + call.toStart)
    (hgot : call'.got = call.got ++ chunk) (hbuffer : x.inbound.buffer = chunk ++ q.buffer)
    (hclosed : q.closed = x.inbound.closed) (htight : (Frame.scan limit).Tight call'.got) :
    let y := { x with
      scene := { x.scene with
        link := x.scene.link.setInbound x.session.control.stream x.session.role q }
      call := .running call' }
    Running limit reached bytes y call' done rest ∧ y.rank < x.rank := by
  rw [inbound, ← h.stream] at hless hbuffer hclosed
  rw [← h.stream]
  have hears := h.hears.took x.scene.party hbuffer hclosed
  rw [← hgot] at hears
  have hwork := Interview.farWork_took (r := x.session.role) h.hears.length x.scene.party q
  refine ⟨⟨rfl, h.applied, h.maxOutgoing, hears, h.stream, h.accepts, hsolo, htight, h.isOpen⟩, ?_⟩
  have hlength := congrArg List.length hbuffer
  have hgrown := congrArg List.length hgot
  rw [List.length_append] at hlength hgrown
  simp only [rank, h.runs]
  omega

/-- A message that was read is applied, and the next one is waited for. -/
theorem Running.applies (h : Running limit reached bytes x call done rest) {m : Message}
    {later : Bytes} {state : SessionState} (hscan : Frame.scan limit call.got = .ready (.ok m, []))
    (hlater : call.got ++ later = rest) (hm : x.session.state.handle m = .ok state) :
    let c := (call.leave x.session.control).receive
    let y := { x with
      session := { x.session with control := c.2, state := state }
      call := .running c.1 }
    Running limit reached bytes y c.1 (done ++ [m]) later ∧ y.rank < x.rank := by
  obtain ⟨hok, rfl⟩ := SessionState.handle_eq_ok_iff.mp hm
  have hholds : Frame.Holds limit rest m later := by
    rw [← hlater]
    exact Frame.scan_eq_ok_iff.mp ((Frame.lawful_scan limit).steady hscan later)
  rw [h.maxOutgoing] at hok
  have hrest := h.rest_eq
  rw [← hlater, List.append_cancel_left_eq] at hrest
  have hpos : 0 < call.got.length := by
    refine List.length_pos_iff.mpr fun hnil => ?_
    rw [hnil] at hscan
    cases hscan
  refine ⟨⟨rfl, h.applied.append (.cons hholds hok .nil), ?_, ?_, h.stream, h.accepts,
    ControlStream.solo_receive h.solo.leave, (Frame.lawful_scan limit).tight_nil, h.isOpen⟩, ?_⟩
  · rw [limitAfter_append, limitAfter_cons, limitAfter_nil, h.maxOutgoing]
  · refine { h.hears with bytes := ?_ }
    rw [← hrest, inbound, ← h.stream]
    rfl
  · have hfresh : (call.leave x.session.control).receive.1.got = [] := rfl
    have hstart : (call.leave x.session.control).receive.1.toStart = 1 := rfl
    simp only [rank, h.runs, hfresh, hstart, List.length_nil]
    omega

/-- The call goes on towards its end, or has come to it, or waits for bytes. -/
theorem Running.work_cases (h : Running limit reached bytes x call done rest) :
    (∃ y, x.work = some y ∧
      ((∃ call' done' rest', Running limit reached bytes y call' done' rest' ∧ y.rank < x.rank) ∨
        ∃ f, Failed limit reached bytes y f done rest)) ∨
    (x.work = none ∧ x.inbound.buffer = [] ∧ x.inbound.closed = false) := by
  have hlaw := Frame.lawful_scan limit
  have hrest := h.rest_eq
  rcases h.solo.step_cases x.inbound with
    ⟨call', q, chunk, hstep, hsolo, hless, hgot, hbuffer, hclosed, htight⟩ |
    ⟨result, left, hscan, hstep⟩ | ⟨count, atEnd, hscan, hbuffer, hclosed, hstep⟩ |
    ⟨count, atEnd, -, hbuffer, hclosed, hstep⟩
  · rw [h.accepts] at htight
    refine .inl ⟨_, ?_, .inl ⟨call', done, rest,
      h.reads hsolo hless hgot hbuffer hclosed (htight h.tight)⟩⟩
    simp only [work, h.runs, Session.stepProcessing_of_goesOn hstep]
  · rw [h.accepts] at hscan
    obtain rfl := h.tight result left hscan
    have hsteady := hlaw.steady hscan (x.inbound.buffer ++ x.scene.far.toCome)
    rw [hrest] at hsteady
    cases result with
    | error e =>
      refine .inl ⟨_, ?_, .inr ⟨_, h.fails (judge_of_error hsteady)⟩⟩
      simp only [work, h.runs, Session.stepProcessing_of_error hstep, inbound,
        Link.setInbound_self]
    | ok m =>
      cases hm : x.session.state.handle m with
      | error e =>
        obtain ⟨hno, hcode⟩ := SessionState.code_of_handle hm
        rw [h.maxOutgoing] at hno
        have hjudge := judge_of_not_acceptable (Frame.scan_eq_ok_iff.mp hsteady) hno
        rw [← hcode] at hjudge
        refine .inl ⟨_, ?_, .inr ⟨_, h.fails hjudge⟩⟩
        simp only [work, h.runs, Session.stepProcessing_of_refused hstep hm, inbound,
          Link.setInbound_self]
      | ok state =>
        refine .inl ⟨_, ?_, .inl ⟨_, _, _, h.applies hscan hrest hm⟩⟩
        simp only [work, h.runs, Session.stepProcessing_of_handled hstep hm, inbound,
          Link.setInbound_self]
  · rw [h.accepts] at hscan
    -- the stream is ended only behind all of its bytes
    have htoCome : x.scene.far.toCome = [] := by
      rw [inbound, ← h.stream] at hclosed
      exact h.hears.closed hclosed
    rw [hbuffer, htoCome, List.append_nil, List.append_nil] at hrest
    have hjudge : judge limit (limitAfter reached done) rest =
        .error (Error.transport atEnd).code := by
      simp only [judge, ← hrest, hscan, Error.code]
    refine .inl ⟨_, ?_, .inr ⟨_, h.fails hjudge⟩⟩
    simp only [work, h.runs, Session.stepProcessing_of_error hstep, inbound, Link.setInbound_self]
  · refine .inr ⟨?_, hbuffer, hclosed⟩
    simp only [work, h.runs, Session.stepProcessing_of_waits hstep h.isOpen]

/-! ## Meanwhile -/

section

variable {f : Scenario.FarSide} {l : Link}

theorem Running.far (h : Running limit reached bytes x call done rest)
    (hs : x.scene.far.Step x.session.role x.scene.link f l) :
    let y := { x with scene := { x.scene with far := f, link := l } }
    Running limit reached bytes y call done rest ∧ y.rank < x.rank := by
  have hwork := Interview.farWork_far h.hears.length hs
  have hstream := (Interview.far_keeps hs).1.trans h.stream
  have hopen := (Interview.closing_far hs).trans h.isOpen
  refine ⟨⟨h.runs, h.applied, h.maxOutgoing, h.hears.far hs, hstream, h.accepts, h.solo, h.tight,
    hopen⟩, ?_⟩
  simp only [rank]
  omega

theorem Failed.far {g : Failure} (h : Failed limit reached bytes x g done rest)
    (hs : x.scene.far.Step x.session.role x.scene.link f l) :
    Failed limit reached bytes { x with scene := { x.scene with far := f, link := l } } g done
      rest where
  ended := h.ended
  context := h.context
  applied := h.applied
  maxOutgoing := h.maxOutgoing
  fault := h.fault
  closing := (Interview.closing_far hs).trans h.closing

variable {s : Session} {others : Nat}

theorem Running.other (h : Running limit reached bytes x call done rest)
    (hothers : x.others = others + 1) (hs : x.session.KeepsReading s x.scene.link l) :
    let y := { x with scene := { x.scene with link := l }, session := s, others := others }
    Running limit reached bytes y call done rest ∧ y.rank < x.rank := by
  have hin : l.inbound x.scene.far.stream s.role =
      x.scene.link.inbound x.scene.far.stream x.session.role := by
    rw [hs.role, h.stream, hs.inbound]
  refine ⟨⟨h.runs, h.applied, hs.maxOutgoing.trans h.maxOutgoing,
    ⟨h.hears.length.trans_le hs.streams, ?_, ?_, ?_⟩, h.stream.trans hs.stream.symm,
    hs.limit.trans h.accepts, ?_, h.tight, hs.closing.trans h.isOpen⟩, ?_⟩
  · rw [hin]
    exact h.hears.bytes
  · rw [hin]
    exact h.hears.closed
  · rw [hin]
    exact h.hears.ends
  · rw [Receiving.Solo, hs.readers]
    exact h.solo
  · simp only [rank, Interview.farWork, hin, hothers]
    omega

theorem Failed.other {g : Failure} (h : Failed limit reached bytes x g done rest)
    (hs : x.session.KeepsReading s x.scene.link l) :
    Failed limit reached bytes
      { x with scene := { x.scene with link := l }, session := s, others := others } g done
      rest where
  ended := h.ended
  context := h.context
  applied := h.applied
  maxOutgoing := hs.maxOutgoing.trans h.maxOutgoing
  fault := h.fault
  closing := hs.closing.trans h.closing

end

/-! ## Until the end -/

theorem Running.step (h : Running limit reached bytes x call done rest) (hs : Step x y) :
    (∃ call' done' rest', Running limit reached bytes y call' done' rest' ∧ y.rank < x.rank) ∨
      ∃ f, Failed limit reached bytes y f done rest := by
  cases hs with
  | work hwork =>
    rcases h.work_cases with ⟨y', hy', hgo⟩ | ⟨hnone, -⟩
    · obtain rfl := Option.some.inj (hy'.symm.trans hwork)
      exact hgo
    · cases hnone.symm.trans hwork
  | far hs => exact .inl ⟨_, _, _, h.far hs⟩
  | other hothers hs => exact .inl ⟨_, _, _, h.other hothers hs⟩

theorem Failed.step {f : Failure} (h : Failed limit reached bytes x f done rest) (hs : Step x y) :
    Failed limit reached bytes y f done rest := by
  cases hs with
  | work hwork =>
    rw [work, h.ended] at hwork
    cases hwork
  | far hs => exact h.far hs
  | other hothers hs => exact h.other hs

/-- A call that waits for bytes waits for a far side that can still do something. -/
theorem Running.exists_step (h : Running limit reached bytes x call done rest) : ∃ y, Step x y := by
  rcases h.work_cases with ⟨y, hwork, -⟩ | ⟨-, hbuffer, hclosed⟩
  · exact ⟨y, .work hwork⟩
  · by_contra hno
    have hrests : x.scene.FarRests x.session.role := fun f l hs => hno ⟨_, .far hs⟩
    rw [inbound, ← h.stream] at hbuffer hclosed
    have hstays := hrests.parting (hrests.toCome hclosed hbuffer)
    rcases h.hears.ends.mpr rfl with hends | hparts
    · cases hclosed.symm.trans hends
    · exact hparts hstays

/-- Every step that is taken while messages are processed lowers the rank. -/
theorem Running.eventually (h : Running limit reached bytes x call done rest) :
    Eventually Step (fun y => ∃ f done' rest', Failed limit reached bytes y f done' rest') x := by
  refine Eventually.of_rank rank
    (I := fun y => ∃ call' done' rest', Running limit reached bytes y call' done' rest') ?_ ?_
    ⟨call, done, rest, h⟩
  · rintro y ⟨call', done', rest', hy⟩
    exact hy.exists_step
  · rintro y z ⟨call', done', rest', hy⟩ hs
    rcases hy.step hs with ⟨call'', done'', rest'', hz, hlt⟩ | ⟨f, hz⟩
    · exact .inr ⟨⟨call'', done'', rest'', hz⟩, hlt⟩
    · exact .inl ⟨f, done', rest', hz⟩

theorem Running.run (h : Running limit reached bytes x call done rest)
    (hr : Relation.ReflTransGen Step x y) :
    (∃ call' done' rest', Running limit reached bytes y call' done' rest') ∨
      ∃ f done' rest', Failed limit reached bytes y f done' rest' := by
  induction hr with
  | refl => exact .inl ⟨call, done, rest, h⟩
  | tail _ hs ih =>
    rcases ih with ⟨call', done', rest', hy⟩ | ⟨f, done', rest', hy⟩
    · rcases hy.step hs with ⟨call'', done'', rest'', hz, -⟩ | ⟨f, hz⟩
      · exact .inl ⟨call'', done'', rest'', hz⟩
      · exact .inr ⟨f, done', rest', hz⟩
    · exact .inr ⟨f, done', rest', hy.step hs⟩

/-- How far a session has come that is to apply `all` and then to end with `code`: it has applied a
first part of the messages, or all of them, and has closed the connection. -/
def Follows (reached : Nat) (all : List Message) (code : TerminationCode) (x : Processing) :
    Prop :=
  match x.call with
  | .running _ =>
    (∃ done, done <+: all ∧ x.session.state.maxOutgoing = limitAfter reached done) ∧
      x.scene.link.closing = none
  | .ended result => ∃ f : Failure, result = .error f ∧ f.code = code ∧
    (∃ e, f = (Failure.ofError e).within "processing control messages") ∧
    x.session.state.maxOutgoing = limitAfter reached all ∧
    x.scene.link.closing = some f.termination

/-- Whatever arrives on the control stream of a session, and however, when the stream ends behind it
and nobody else closes the connection, processing comes to an end. It applies the acceptable
messages in front, up to the first thing that is wrong, changes nothing else of the session, and has
closed the connection with the code for what is wrong. -/
theorem applies_until_fault {e : Interview} {s : Session} {bytes : Bytes} (others : Nat)
    (hears : e.Hears s.role bytes true []) (hstream : e.far.stream = s.control.stream)
    (hidle : s.control.readers.line = []) (hopen : e.link.closing = none) :
    ∃ all rest code,
      Applied s.control.limit s.state.maxOutgoing bytes all rest ∧
      Fault s.control.limit (limitAfter s.state.maxOutgoing all) rest code ∧
      (∀ all' rest' code', Applied s.control.limit s.state.maxOutgoing bytes all' rest' →
        Fault s.control.limit (limitAfter s.state.maxOutgoing all') rest' code' →
          all' = all ∧ rest' = rest ∧ code' = code) ∧
      Eventually Step (fun x => ∃ f, x.call = .ended (.error f)) (start e s others) ∧
      ∀ x, Relation.ReflTransGen Step (start e s others) x →
        x.Follows s.state.maxOutgoing all code ∧
        ∀ y, x.work = some y → x.session.OnlyProcessed y.session x.scene.link y.scene.link := by
  obtain ⟨all, rest, code, happlied, hfault⟩ :=
    exists_applied s.control.limit s.state.maxOutgoing bytes
  have hstart := Running.start others hears hstream hidle hopen
  refine ⟨all, rest, code, happlied, hfault,
    fun all' rest' code' happlied' hfault' => happlied.unique hfault happlied' hfault', ?_, ?_⟩
  · refine hstart.eventually.mono ?_
    rintro x ⟨f, done, rest', hx⟩
    exact ⟨f, hx.ended⟩
  · intro x hreach
    refine ⟨?_, fun y hwork => onlyProcessed_of_work hwork⟩
    rcases hstart.run hreach with ⟨call, done, rest', hx⟩ | ⟨f, done, rest', hx⟩
    · rw [Follows, hx.runs]
      exact ⟨⟨done, hx.applied.isPrefix happlied hfault, hx.maxOutgoing⟩, hx.isOpen⟩
    · obtain ⟨rfl, rfl, rfl⟩ := happlied.unique hfault hx.applied hx.fault
      rw [Follows, hx.ended]
      exact ⟨f, rfl, rfl, hx.context, hx.maxOutgoing, hx.closing⟩

/-- A far side that raises the limit, says that it waits, and goes back behind the limit. -/
def retracting : Scenario.FarSide where
  stream := 0
  toCome := Frame.wire (.maxRequestId 2000) ++ (Frame.wire (.requestsBlocked 3) ++
    Frame.wire (.maxRequestId 1500))
  parting := .finishes
  appetite := 0
  taken := []

/-- What a client applies that has the standard limits, and why it stops there. -/
theorem applied_retracting :
    Applied 65535 1000 retracting.toCome [.maxRequestId 2000, .requestsBlocked 3]
      (Frame.wire (.maxRequestId 1500)) ∧
    Fault 65535 (limitAfter 1000 [.maxRequestId 2000, .requestsBlocked 3])
      (Frame.wire (.maxRequestId 1500)) .protocolViolation := by
  have hraises : judge 65535 1000 retracting.toCome = .ok (.maxRequestId 2000, _) := rfl
  have hblocked : judge 65535 2000 (Frame.wire (.requestsBlocked 3) ++
    Frame.wire (.maxRequestId 1500)) = .ok (.requestsBlocked 3, _) := rfl
  obtain ⟨hm, hok⟩ := judge_eq_ok_iff.mp hraises
  obtain ⟨hm', hok'⟩ := judge_eq_ok_iff.mp hblocked
  exact ⟨.cons hm hok (.cons hm' hok' .nil), judge_eq_error_iff.mp rfl⟩

/-- What a client makes of such a server after a handshake, while other calls go on. -/
theorem applies_until_fault_retracting :
    ∃ (m : Scenario.Encounter) (s : Session),
      Relation.ReflTransGen Scenario.Encounter.Step
        (Scenario.Encounter.start (.fresh false 1) (.both .standard) (.both [])) m ∧
      m.parties.client.result = some (.ok s) ∧
      let e : Interview := ⟨m.now, m.link, m.parties.client, retracting⟩
      Eventually Step (fun x => ∃ f, x.call = .ended (.error f)) (start e s 5) ∧
      ∀ x, Relation.ReflTransGen Step (start e s 5) x → ∀ result, x.call = .ended result →
        x.session.state.maxOutgoing = 2000 ∧
        ∃ reason, x.scene.link.closing = some (.protocolViolation, reason) := by
  obtain ⟨m, s, -, hrun, hs, -, hok⟩ := Exchange.exists_sessions_of_prompt
    (p := fun m s _ => s.role = .client ∧ s.control.stream = 0 ∧ s.control.limit = 65535 ∧
      s.control.readers.line = [] ∧ s.state.maxOutgoing = 1000 ∧ m.link.closing = none ∧
      0 < m.link.streams.length ∧ m.link.inbound 0 .client = .fresh)
    (by decide +kernel)
  obtain ⟨hrole, hstream, hlimit, hidle, hmax, hopen, hlength, hpipe⟩ := of_decide_eq_true hok
  refine ⟨m, s, hrun, hs, ?_⟩
  have hparts : retracting.parting ≠ .stays := by decide
  have hears : Interview.Hears s.role retracting.toCome true
      ⟨m.now, m.link, m.parties.client, retracting⟩ [] := by
    have hin : m.link.inbound retracting.stream s.role = .fresh := by
      rw [hrole]
      exact hpipe
    refine ⟨hlength, ?_, ?_, iff_of_true (.inr hparts) rfl⟩
    · rw [hin]
      rfl
    · rw [hin]
      exact fun hclosed => absurd hclosed (by decide)
  obtain ⟨all, rest, code, -, -, hunique, heventually, hall⟩ :=
    applies_until_fault 5 hears hstream.symm hidle hopen
  obtain ⟨happlied, hfault⟩ := applied_retracting
  rw [hlimit, hmax] at hunique
  rw [hmax] at hall
  obtain ⟨rfl, rfl, rfl⟩ := hunique _ _ _ happlied hfault
  refine ⟨heventually, fun x hreach result hresult => ?_⟩
  have hfollows := (hall x hreach).1
  rw [Follows, hresult] at hfollows
  obtain ⟨f, -, hcode, -, hreached, hclosing⟩ := hfollows
  exact ⟨hreached, f.termination.2, by rw [hclosing, Failure.termination, hcode]⟩

end Processing

end MediaOverQuic
