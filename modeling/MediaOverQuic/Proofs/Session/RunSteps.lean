import Mathlib.Tactic
import MediaOverQuic.Proofs.Control.Solo
import MediaOverQuic.Proofs.Session.Handshake

/-!
# All that a handshake can do in a step

A run goes on within a phase, or from one phase to the next, or ends. Its stage only moves forward,
it gets one stream at most, and it writes to that stream only what the call that sends has written.
So all that it writes is a part of its setup message.
-/
namespace MediaOverQuic

/-- Whether a stage comes right behind another one. -/
inductive HandshakeStage.Next : HandshakeStage → HandshakeStage → Prop
  | starts : Next .idle .streamOpening
  | awaits : Next .streamOpening .awaitingPeerSetup
  | succeeds : Next .awaitingPeerSetup .established
  | fails {stage : HandshakeStage} (hne : stage ≠ .established) (hnf : stage ≠ .failed) :
    Next stage .failed

theorem Role.eq_client_or_server (r : Role) : r = .client ∨ r = .server := by
  cases r <;> simp

/-- A call that opens a stream goes on when it has offered the stream to the other side. -/
theorem Opening.step_eq_goesOn {r : Role} {call call' : Opening} {l l' : Link}
    (h : call.step r l = .goesOn (call', l')) :
    ∃ kind id, call = .start kind ∧ call' = .handing kind id := by
  cases call with
  | handing kind id =>
    simp only [Opening.step] at h
    split_ifs at h
    split at h <;> cases h
  | start kind =>
    simp only [Opening.step, Opening.offer] at h
    split_ifs at h
    obtain ⟨rfl, -⟩ := by simpa using h
    exact ⟨kind, _, rfl, rfl⟩

namespace Handshake

namespace Run

variable {run after : Run} {pick : Pick} {l l' : Link} {result : Except Failure Session}
  {phase : Phase}

/-! ## All that a step of a run can be -/

/-- The run gets the control stream in its next step. -/
inductive Gets (run : Run) (pick : Pick) (l : Link) (stream : Nat) (l' : Link) : Prop
  | opens {call : Opening} (hp : run.phase = .opening call)
      (h : call.step run.role l = .ends (.ok stream, l'))
  | accepts {call : Accepting} (hp : run.phase = .accepting call)
      (h : call.step run.role pick l = .ends (.ok stream, l'))

/-- Where a run goes on. -/
inductive Advances (run : Run) (pick : Pick) (l : Link) : Phase → Link → Prop
  | opens {call call' : Opening} {l' : Link} (hp : run.phase = .opening call)
      (h : call.step run.role l = .goesOn (call', l')) : Advances run pick l (.opening call') l'
  | accepts {call call' : Accepting} {l' : Link} (hp : run.phase = .accepting call)
      (h : call.step run.role pick l = .goesOn (call', l')) :
    Advances run pick l (.accepting call') l'
  | speaks {stream : Nat} {s : Session} {call : Sending} {l' : Link} (hrole : run.role = .client)
      (hgets : run.Gets pick l stream l')
      (hsend : (run.applyOwn (run.newSession stream)).send (.setup run.role run.params) =
        .ok (call, s)) : Advances run pick l (.sending s call) l'
  | listens {stream : Nat} {l' : Link} (hrole : run.role = .server)
      (hgets : run.Gets pick l stream l') :
    Advances run pick l
      (.reading (run.newSession stream).receive.2 (run.newSession stream).receive.1) l'
  | sends {s s' : Session} {call call' : Sending} {l' : Link} (hp : run.phase = .sending s call)
      (h : Session.stepSending call s l = .goesOn (call', s', l')) :
    Advances run pick l (.sending s' call') l'
  | sent {s s' : Session} {call : Sending} {l' : Link} (hrole : run.role = .client)
      (hp : run.phase = .sending s call)
      (h : Session.stepSending call s l = .ends (.ok (), s', l')) :
    Advances run pick l (.reading s'.receive.2 s'.receive.1) l'
  | reads {s s' : Session} {call call' : Receiving} {l' : Link} (hp : run.phase = .reading s call)
      (h : Session.stepReading call s l = .goesOn (call', s', l')) :
    Advances run pick l (.reading s' call') l'
  | answers {s s' s'' : Session} {call : Receiving} {call' : Sending} {m : Message}
      {state : SessionState} {l' : Link} (hrole : run.role = .server)
      (hp : run.phase = .reading s call)
      (h : Session.stepReading call s l = .ends (.ok m, s', l'))
      (hsend : Session.send { s' with state := state } (.setup run.role run.params) =
        .ok (call', s'')) : Advances run pick l (.sending s'' call') l'

theorem advances_of_beginSending {s : Session}
    (h : run.beginSending s l = .goesOn (after, l')) :
    l' = l ∧ ∃ call s', s.send (.setup run.role run.params) = .ok (call, s') ∧
      after = { run with phase := .sending s' call } := by
  rcases run.beginSending_cases s l with ⟨f, he⟩ | ⟨call, s', hsend, he⟩
  · cases he.symm.trans h
  · obtain ⟨rfl, rfl⟩ := by simpa using he.symm.trans h
    exact ⟨rfl, call, s', hsend, rfl⟩

theorem advances_of_withStream {stream : Nat} {l'' : Link} (hgets : run.Gets pick l stream l'')
    (h : run.withStream stream l'' = .goesOn (after, l')) :
    ∃ phase, after = { run with phase := phase } ∧ run.Advances pick l phase l' := by
  unfold withStream at h
  rcases run.role.eq_client_or_server with hrole | hrole
  · simp only [hrole] at h
    obtain ⟨rfl, call, s', hsend, rfl⟩ := advances_of_beginSending h
    exact ⟨_, rfl, .speaks hrole hgets hsend⟩
  · simp only [hrole] at h
    obtain ⟨rfl, rfl⟩ := by simpa [beginReading] using h
    exact ⟨_, rfl, .listens hrole hgets⟩

/-- A run that goes on stays the same but for its phase. -/
theorem advances_of_step (h : run.step pick l = .goesOn (after, l')) :
    ∃ phase, after = { run with phase := phase } ∧ run.Advances pick l phase l' := by
  unfold step at h
  cases hp : run.phase with
  | opening call =>
    simp only [hp] at h
    split at h
    · cases h
    · next call' l'' hstep =>
      obtain ⟨rfl, rfl⟩ := by simpa using h
      exact ⟨_, rfl, .opens hp hstep⟩
    · cases h
    · next stream l'' hstep => exact advances_of_withStream (.opens hp hstep) h
  | accepting call =>
    simp only [hp] at h
    split at h
    · cases h
    · next call' l'' hstep =>
      obtain ⟨rfl, rfl⟩ := by simpa using h
      exact ⟨_, rfl, .accepts hp hstep⟩
    · cases h
    · next stream l'' hstep => exact advances_of_withStream (.accepts hp hstep) h
  | sending s call =>
    simp only [hp] at h
    split at h
    · cases h
    · next call' s' l'' hstep =>
      obtain ⟨rfl, rfl⟩ := by simpa using h
      exact ⟨_, rfl, .sends hp hstep⟩
    · cases h
    · next s' l'' hstep =>
      unfold afterSending at h
      rcases run.role.eq_client_or_server with hrole | hrole
      · simp only [hrole] at h
        obtain ⟨rfl, rfl⟩ := by simpa [beginReading] using h
        exact ⟨_, rfl, .sent hrole hp hstep⟩
      · simp only [hrole] at h
        cases h
  | reading s call =>
    simp only [hp] at h
    split at h
    · cases h
    · next call' s' l'' hstep =>
      obtain ⟨rfl, rfl⟩ := by simpa using h
      exact ⟨_, rfl, .reads hp hstep⟩
    · cases h
    · next m s' l'' hstep =>
      rcases run.afterReading_cases m s' l'' with ⟨f, he⟩ | ⟨params, rfl, he⟩
      · cases he.symm.trans h
      · rw [he] at h
        rcases run.role.eq_client_or_server with hrole | hrole
        · simp only [hrole] at h
          cases h
        · simp only [hrole] at h
          obtain ⟨rfl, call', s'', hsend, rfl⟩ := advances_of_beginSending h
          exact ⟨_, rfl, .answers hrole hp hstep hsend⟩

/-- Where a run ends. -/
inductive Ends (run : Run) (l : Link) : Except Failure Session → Link → Prop
  | early {f : Failure} {l' : Link}
      (hp : (∃ call, run.phase = .opening call) ∨ ∃ call, run.phase = .accepting call) :
    Ends run l (.error f) l'
  | notSent {s s' : Session} {call : Sending} {sent : Except Error Unit} {f : Failure} {l' : Link}
      (hp : run.phase = .sending s call)
      (h : Session.stepSending call s l = .ends (sent, s', l')) :
    Ends run l (.error f) (l'.release s'.control.stream s'.role)
  | sent {s s' : Session} {call : Sending} {l' : Link} (hrole : run.role = .server)
      (hp : run.phase = .sending s call)
      (h : Session.stepSending call s l = .ends (.ok (), s', l')) :
    Ends run l (.ok (run.applyOwn s')) l'
  | refused {s s' : Session} {call : Receiving} {heard : Except Error Message} {f : Failure}
      {l' : Link} (hp : run.phase = .reading s call)
      (h : Session.stepReading call s l = .ends (heard, s', l')) :
    Ends run l (.error f) (l'.release s'.control.stream s'.role)
  | heard {s s' s'' : Session} {call : Receiving} {m : Message} {l' : Link}
      (hrole : run.role = .client) (hp : run.phase = .reading s call)
      (h : Session.stepReading call s l = .ends (.ok m, s', l')) : Ends run l (.ok s'') l'

theorem eq_error_of_withStream {stream : Nat} (h : run.withStream stream l = .ends (result, l')) :
    ∃ f, result = .error f := by
  unfold withStream at h
  rcases run.role.eq_client_or_server with hrole | hrole
  · simp only [hrole] at h
    rcases run.beginSending_cases (run.applyOwn (run.newSession stream)) l with ⟨f, he⟩ |
      ⟨call, s', -, he⟩
    · obtain ⟨rfl, -⟩ := by simpa using he.symm.trans h
      exact ⟨f, rfl⟩
    · cases he.symm.trans h
  · simp only [hrole] at h
    cases h

theorem ends_of_step (h : run.step pick l = .ends (result, l')) : run.Ends l result l' := by
  unfold step at h
  cases hp : run.phase with
  | opening call =>
    simp only [hp] at h
    split at h
    · cases h
    · cases h
    · obtain ⟨rfl, -⟩ := by simpa [fail] using h
      exact .early (.inl ⟨call, hp⟩)
    · obtain ⟨f, rfl⟩ := eq_error_of_withStream h
      exact .early (.inl ⟨call, hp⟩)
  | accepting call =>
    simp only [hp] at h
    split at h
    · cases h
    · cases h
    · obtain ⟨rfl, -⟩ := by simpa [fail] using h
      exact .early (.inr ⟨call, hp⟩)
    · obtain ⟨f, rfl⟩ := eq_error_of_withStream h
      exact .early (.inr ⟨call, hp⟩)
  | sending s call =>
    simp only [hp] at h
    split at h
    · cases h
    · cases h
    · next e s' l'' hstep =>
      obtain ⟨rfl, rfl⟩ := by simpa [failOn] using h
      exact .notSent hp hstep
    · next s' l'' hstep =>
      unfold afterSending at h
      rcases run.role.eq_client_or_server with hrole | hrole
      · simp only [hrole] at h
        cases h
      · simp only [hrole] at h
        obtain ⟨rfl, rfl⟩ := by simpa using h
        exact .sent hrole hp hstep
  | reading s call =>
    simp only [hp] at h
    split at h
    · cases h
    · cases h
    · next e s' l'' hstep =>
      obtain ⟨rfl, rfl⟩ := by simpa [failOn] using h
      exact .refused hp hstep
    · next m s' l'' hstep =>
      rcases run.afterReading_cases m s' l'' with ⟨f, he⟩ | ⟨params, rfl, he⟩
      · obtain ⟨rfl, rfl⟩ := by simpa using he.symm.trans h
        exact .refused hp hstep
      · rw [he] at h
        rcases run.role.eq_client_or_server with hrole | hrole
        · simp only [hrole] at h
          obtain ⟨rfl, rfl⟩ := by simpa using h
          exact .heard hrole hp hstep
        · simp only [hrole] at h
          rcases run.beginSending_cases
            { s' with state := s'.state.applyAllPeer params } l'' with ⟨f, he⟩ | ⟨call', s'', -, he⟩
          · obtain ⟨rfl, rfl⟩ := by simpa using he.symm.trans h
            exact .refused hp hstep
          · cases he.symm.trans h

/-! ## The stage -/

theorem stage_of_step (h : run.step pick l = .goesOn (after, l')) :
    after.stage = run.stage ∨ run.stage.Next after.stage := by
  obtain ⟨phase, rfl, hadvances⟩ := advances_of_step h
  cases hadvances with
  | opens hp | accepts hp | reads hp => exact .inl (by simp [stage, hp])
  | sends hp => exact .inl (by cases hrole : run.role <;> simp [stage, hp, hrole])
  | speaks hrole hgets =>
    rcases hgets with ⟨hp, -⟩ | ⟨hp, -⟩ <;> exact .inl (by simp [stage, hp, hrole])
  | listens hrole hgets =>
    rcases hgets with ⟨hp, -⟩ | ⟨hp, -⟩ <;> exact .inr (by simpa [stage, hp] using .awaits)
  | sent hrole hp => exact .inr (by simpa [stage, hp, hrole] using .awaits)
  | answers hrole hp => exact .inl (by simp [stage, hp, hrole])

/-- A run only succeeds when the peer's setup message was awaited. -/
theorem stage_of_ok {s : Session} (h : run.step pick l = .ends (.ok s, l')) :
    run.stage = .awaitingPeerSetup := by
  cases ends_of_step h with
  | sent hrole hp => simp [stage, hp, hrole]
  | heard hrole hp => simp [stage, hp]

theorem stage_cases (run : Run) : run.stage = .streamOpening ∨ run.stage = .awaitingPeerSetup := by
  cases hrole : run.role <;> cases hp : run.phase <;> simp [stage, hrole, hp]

/-! ## What is seen of a run -/

/-- The stream that the run opens or accepts in its next step. -/
def got? (run : Run) (pick : Pick) (l : Link) : Option Nat :=
  match run.phase with
  | .opening (.start kind) =>
    match (Opening.start kind).step run.role l with
    | .ends (.ok id, _) | .goesOn (.handing _ id, _) => some id
    | _ => none
  | .accepting call =>
    match call.step run.role pick l with
    | .ends (.ok id, _) => some id
    | _ => none
  | .opening (.handing ..) | .sending .. | .reading .. => none

/-- What is new on the run's control stream. -/
def wrote (run : Run) (l l' : Link) : Bytes :=
  match run.phase with
  | .opening _ | .accepting _ => []
  | .sending s _ | .reading s _ =>
    (l'.outbound s.control.stream s.role).buffer.drop
      (l.outbound s.control.stream s.role).buffer.length

/-! ## What a run does to its stream -/

theorem wrote_setInbound {s : Session} (hp : (∃ call, run.phase = .sending s call) ∨
    ∃ call, run.phase = .reading s call) (q : Pipe) :
    run.wrote l (l.setInbound s.control.stream s.role q) = [] := by
  have hsame : (l.setInbound s.control.stream s.role q).outbound s.control.stream s.role =
      l.outbound s.control.stream s.role := Link.inbound_setInbound_ne (Role.peer_ne s.role) q
  rcases hp with ⟨call, hp⟩ | ⟨call, hp⟩ <;> simp [wrote, hp, hsame]

theorem wrote_release (run : Run) (l l' : Link) (id : Nat) (r : Role) :
    run.wrote l (l'.release id r) = run.wrote l l' := by
  have hsame (stream : Nat) (r' : Role) : ((l'.release id r).outbound stream r').buffer =
      (l'.outbound stream r').buffer := Link.buffer_release l' stream id r'.peer r
  unfold wrote
  cases run.phase <;> simp [hsame]

theorem wrote_self (run : Run) (l : Link) : run.wrote l l = [] := by
  unfold wrote
  cases run.phase <;> simp

end Run

end Handshake

/-- On a pipe that is closed nothing is written. -/
theorem Sending.unsent_of_closed {call call' : Sending} {c c' : ControlStream} {p q : Pipe}
    (hclosed : p.closed = true) (h : call.step c p = .goesOn (call', c', q)) :
    call'.unsent = call.unsent := by
  cases call with
  | waiting t frame =>
    simp only [step, stepWith] at h
    split_ifs at h
    obtain ⟨rfl, -, -⟩ := by simpa using h
    rfl
  | writing t rest =>
    by_cases hrest : rest = []
    · simp [step, stepWith, Pipe.write, hrest] at h
    · simp [step, stepWith, Pipe.write, hrest, hclosed] at h

namespace Handshake.Run

variable {run after : Run} {l l' : Link} {result : Except Failure Session}

/-- What a call that sends has less to write is on the stream. -/
theorem wrote_of_sends {s s' : Session} {call call' : Sending} (hp : run.phase = .sending s call)
    (hsolo : call.Solo s.control) (h : Session.stepSending call s l = .goesOn (call', s', l')) :
    call'.Solo s'.control ∧ s'.role = s.role ∧ call.unsent = run.wrote l l' ++ call'.unsent := by
  obtain ⟨c, q, hcall, rfl, rfl⟩ := Session.stepSending_eq_goesOn h
  rcases hsolo.step_cases (l.inbound s.control.stream s.role.peer) with
    ⟨call'', c', q', chunk, hgo, hsolo', -, -, -, -, hunsent, hbuffer, -⟩ | ⟨-, hends⟩ |
    ⟨-, -, hends⟩ | ⟨-, -, -, hwaits⟩
  · obtain ⟨rfl, rfl, rfl⟩ := by simpa using hgo.symm.trans hcall
    refine ⟨hsolo', rfl, ?_⟩
    by_cases hl : s.control.stream < l.streams.length
    · have hout : (l.setInbound s.control.stream s.role.peer q').outbound s.control.stream s.role =
          q' := Link.inbound_setInbound hl s.role.peer q'
      have hbefore : (l.outbound s.control.stream s.role).buffer =
          (l.inbound s.control.stream s.role.peer).buffer := rfl
      simp only [wrote, hp, hout, hbuffer, hbefore, List.drop_left]
      exact hunsent
    · -- there is no such stream, so its pipes are closed
      have hle := Nat.not_lt.mp hl
      have hclosed : (l.inbound s.control.stream s.role.peer).closed = true := by
        have hgone : l.stream s.control.stream = .gone := by simp [Link.stream, hle]
        rw [Link.inbound, hgone]
        cases s.role <;> rfl
      have hsame : l.setInbound s.control.stream s.role.peer q' = l :=
        Link.updateStream_of_le hle _
      rw [hsame, wrote_self, List.nil_append]
      exact (Sending.unsent_of_closed hclosed hgo).symm
  · cases hends.symm.trans hcall
  · cases hends.symm.trans hcall
  · cases hwaits.symm.trans hcall

theorem wrote_of_sent {s s' : Session} {call : Sending} {sent : Except Error Unit}
    (hsolo : call.Solo s.control) (h : Session.stepSending call s l = .ends (sent, s', l')) :
    l' = l ∧ s'.role = s.role ∧ (sent = .ok () → call.unsent = []) := by
  obtain ⟨c, q, hcall, rfl, rfl⟩ := Session.stepSending_eq_ends h
  rcases hsolo.step_cases (l.inbound s.control.stream s.role.peer) with
    ⟨_, _, _, _, hgo, -⟩ | ⟨hnil, hends⟩ | ⟨-, -, hends⟩ | ⟨-, -, -, hwaits⟩
  · cases hgo.symm.trans hcall
  · obtain ⟨rfl, rfl, rfl⟩ := by simpa using hends.symm.trans hcall
    exact ⟨Link.setInbound_self _ _ _, rfl, fun _ => hnil⟩
  · obtain ⟨rfl, rfl, rfl⟩ := by simpa using hends.symm.trans hcall
    refine ⟨Link.setInbound_self _ _ _, rfl, fun he => ?_⟩
    cases he
  · cases hwaits.symm.trans hcall

/-- What a call that reads leaves as it was. -/
theorem keeps_of_reads {s s' : Session} {call call' : Receiving}
    (hp : run.phase = .reading s call)
    (h : Session.stepReading call s l = .goesOn (call', s', l')) :
    s' = s ∧ run.wrote l l' = [] := by
  obtain ⟨c, q, hcall, rfl, rfl⟩ := Session.stepReading_eq_goesOn h
  obtain ⟨rfl, -, -⟩ := Receiving.stepWith_eq_goesOn (i := .pipe) hcall
  exact ⟨rfl, wrote_setInbound (.inr ⟨call, hp⟩) q⟩

theorem keeps_of_read {s s' : Session} {call : Receiving} {heard : Except Error Message}
    (hp : run.phase = .reading s call)
    (h : Session.stepReading call s l = .ends (heard, s', l')) :
    s' = { s with control := call.leave s.control } ∧ run.wrote l l' = [] := by
  obtain ⟨c, q, hcall, rfl, rfl⟩ := Session.stepReading_eq_ends h
  obtain ⟨rfl, -, -⟩ := Receiving.stepWith_eq_ends (i := .pipe) hcall
  exact ⟨rfl, wrote_setInbound (.inr ⟨call, hp⟩) q⟩

/-! ## The account of a run -/

/-- Whether the first call, which has the number zero, has got a stream, and no other call has. -/
def OneStream (streams : List (Nat × Nat)) : Prop := ∃ id, streams = [(0, id)]

/-- The setup message that a run sends. -/
def setup (run : Run) : Message := .setup run.role run.params

/-- Whether the setup message can be sent in a frame. -/
def Fits (run : Run) : Prop := Frame.Fits run.config.maxControlMessageLength run.setup

/-- What is left to send makes up the setup message together with what is written. -/
structure Speaks (run : Run) (s : Session) (call : Sending) (written : Bytes) : Prop where
  solo : call.Solo s.control
  fits : run.Fits
  split : written ++ call.unsent = Frame.wire run.setup

/-- Nobody has begun to send on the control stream. -/
structure Silent (run : Run) (s : Session) : Prop where
  limit : s.control.limit = run.config.maxControlMessageLength
  line : s.control.writers.line = []
  complete : s.control.incomplete = false

/-- What a run has done so far: the streams that it got, and what it has written. -/
def Stands (run : Run) (streams : List (Nat × Nat)) (written : Bytes) : Prop :=
  match run.phase with
  | .opening (.start _) | .accepting _ => streams = [] ∧ written = []
  | .opening (.handing ..) => OneStream streams ∧ written = []
  | .sending s call => OneStream streams ∧ run.Speaks s call written
  | .reading s _ => OneStream streams ∧
    match run.role with
    | .client => run.Fits ∧ written = Frame.wire run.setup
    | .server => run.Silent s ∧ written = []

variable {streams : List (Nat × Nat)} {written : Bytes}

/-- The stream that a run gets in its next step, with the number of its call. -/
def newStreams (run : Run) (number : Nat) (pick : Pick) (l : Link) : List (Nat × Nat) :=
  ((run.got? pick l).map (Prod.mk number)).toList

/-- What was written is nothing, or a part of a setup message that fits. -/
def Spoke (run : Run) (written : Bytes) : Prop :=
  written = [] ∨ (run.Fits ∧ written <+: Frame.wire run.setup)

theorem Stands.client {s : Session} {call : Receiving} (h : run.Stands streams written)
    (hrole : run.role = .client) (hp : run.phase = .reading s call) :
    OneStream streams ∧ run.Fits ∧ written = Frame.wire run.setup := by
  simpa only [Stands, hp, hrole] using h

theorem Stands.server {s : Session} {call : Receiving} (h : run.Stands streams written)
    (hrole : run.role = .server) (hp : run.phase = .reading s call) :
    OneStream streams ∧ run.Silent s ∧ written = [] := by
  simpa only [Stands, hp, hrole] using h

/-- A client that reads has sent its setup message. -/
theorem stands_of_client (hrole : run.role = .client) (s : Session) (call : Receiving)
    (hone : OneStream streams) (hfits : run.Fits) :
    ({ run with phase := .reading s call } : Run).Stands streams (Frame.wire run.setup) := by
  obtain ⟨role, config, params, phase⟩ := run
  obtain rfl : role = .client := hrole
  exact ⟨hone, hfits, rfl⟩

/-- A server that reads has sent nothing. -/
theorem stands_of_server {s : Session} (hrole : run.role = .server) (call : Receiving)
    (hone : OneStream streams) (hsilent : run.Silent s) :
    ({ run with phase := .reading s call } : Run).Stands streams [] := by
  obtain ⟨role, config, params, phase⟩ := run
  obtain rfl : role = .server := hrole
  exact ⟨hone, ⟨hsilent.limit, hsilent.line, hsilent.complete⟩, rfl⟩

theorem Stands.spoke (h : run.Stands streams written) : run.Spoke written := by
  unfold Stands at h
  split at h
  · exact .inl h.2
  · exact .inl h.2
  · exact .inl h.2
  · exact .inr ⟨h.2.fits, _, h.2.split⟩
  · split at h
    · obtain ⟨-, hfits, rfl⟩ := h
      exact .inr ⟨hfits, List.prefix_rfl⟩
    · exact .inl h.2.2

theorem Stands.one (h : run.Stands streams written) : streams = [] ∨ OneStream streams := by
  unfold Stands at h
  split at h
  · exact .inl h.1
  · exact .inl h.1
  · exact .inr h.1
  · exact .inr h.1
  · exact .inr h.1

/-- A run that has got its control stream has written nothing. -/
theorem Stands.of_gets {stream : Nat} {l'' : Link} (h : run.Stands streams written)
    (hgets : run.Gets pick l stream l') :
    OneStream (streams ++ run.newStreams 0 pick l) ∧ written ++ run.wrote l l'' = [] := by
  rcases hgets with ⟨hp, hstep⟩ | ⟨hp, hstep⟩
  · next call =>
    have hwrote : run.wrote l l'' = [] := by simp [wrote, hp]
    rw [hwrote, List.append_nil]
    cases call with
    | start kind =>
      obtain ⟨rfl, rfl⟩ : streams = [] ∧ written = [] := by simpa only [Stands, hp] using h
      have hgot : run.got? pick l = some stream := by simp only [got?, hp, hstep]
      exact ⟨⟨stream, by simp [newStreams, hgot]⟩, rfl⟩
    | handing kind id =>
      obtain ⟨⟨id', rfl⟩, rfl⟩ : OneStream streams ∧ written = [] := by
        simpa only [Stands, hp] using h
      have hgot : run.got? pick l = none := by simp [got?, hp]
      exact ⟨⟨id', by simp [newStreams, hgot]⟩, rfl⟩
  · have hwrote : run.wrote l l'' = [] := by simp [wrote, hp]
    obtain ⟨rfl, rfl⟩ : streams = [] ∧ written = [] := by simpa only [Stands, hp] using h
    have hgot : run.got? pick l = some stream := by simp only [got?, hp, hstep]
    exact ⟨⟨stream, by simp [newStreams, hgot]⟩, by rw [hwrote]; rfl⟩

/-- The setup message is sent by a call that has the control stream for itself. -/
theorem speaks_of_send {s s' : Session} {call : Sending} (hv : run.setup.Valid)
    (hsilent : run.Silent s) (h : s.send run.setup = .ok (call, s')) : run.Speaks s' call [] := by
  obtain ⟨hfits, rfl, rfl⟩ := Session.send_eq_ok hv h
  rw [hsilent.limit] at hfits
  refine ⟨⟨hsilent.complete, ?_⟩, hfits, rfl⟩
  simp [hsilent.line, Turns.join, Sending.ticket]

/-- While a run sends or reads, it gets no stream. -/
theorem newStreams_of_session {s : Session} (hp : (∃ call, run.phase = .sending s call) ∨
    ∃ call, run.phase = .reading s call) (number : Nat) : run.newStreams number pick l = [] := by
  rcases hp with ⟨call, hp⟩ | ⟨call, hp⟩ <;> simp [newStreams, got?, hp]

/-- A step of the first call keeps account of what it has got and written. -/
theorem Stands.step (h : run.Stands streams written) (hv : run.setup.Valid)
    (hstep : run.step pick l = .goesOn (after, l')) :
    after.Stands (streams ++ run.newStreams 0 pick l) (written ++ run.wrote l l') := by
  obtain ⟨phase, rfl, hadvances⟩ := advances_of_step hstep
  cases hadvances with
  | opens hp hcall =>
    obtain ⟨kind, id, rfl, rfl⟩ := Opening.step_eq_goesOn hcall
    obtain ⟨rfl, rfl⟩ : streams = [] ∧ written = [] := by simpa only [Stands, hp] using h
    have hgot : run.got? pick l = some id := by simp only [got?, hp, hcall]
    exact ⟨⟨id, by simp [newStreams, hgot]⟩, by simp [wrote, hp]⟩
  | accepts hp hcall =>
    obtain ⟨rfl, rfl⟩ : streams = [] ∧ written = [] := by simpa only [Stands, hp] using h
    exact ⟨by simp [newStreams, got?, hp, hcall], by simp [wrote, hp]⟩
  | @speaks stream s call l' hrole hgets hsend =>
    obtain ⟨hone, hwritten⟩ := h.of_gets hgets
    rw [hwritten]
    have hsilent : run.Silent (run.applyOwn (run.newSession stream)) := ⟨rfl, rfl, rfl⟩
    have hspeaks := speaks_of_send hv hsilent hsend
    exact ⟨hone, hspeaks.solo, hspeaks.fits, hspeaks.split⟩
  | listens hrole hgets =>
    obtain ⟨hone, hwritten⟩ := h.of_gets hgets
    rw [hwritten]
    exact stands_of_server hrole _ hone ⟨rfl, rfl, rfl⟩
  | @sends s s' call call' l' hp hcall =>
    obtain ⟨hone, hspeaks⟩ : OneStream streams ∧ run.Speaks s call written := by
      simpa only [Stands, hp] using h
    obtain ⟨hsolo, -, hunsent⟩ := wrote_of_sends hp hspeaks.solo hcall
    rw [newStreams_of_session (.inl ⟨call, hp⟩), List.append_nil]
    refine ⟨hone, hsolo, hspeaks.fits, ?_⟩
    rw [List.append_assoc, ← hunsent]
    exact hspeaks.split
  | @sent s s' call l' hrole hp hcall =>
    obtain ⟨hone, hspeaks⟩ : OneStream streams ∧ run.Speaks s call written := by
      simpa only [Stands, hp] using h
    obtain ⟨rfl, -, hnil⟩ := wrote_of_sent hspeaks.solo hcall
    have hw := hspeaks.split
    rw [hnil rfl, List.append_nil] at hw
    rw [newStreams_of_session (.inl ⟨call, hp⟩), wrote_self, List.append_nil, List.append_nil]
    rw [hw]
    exact stands_of_client hrole _ _ hone hspeaks.fits
  | @reads s s' call call' l' hp hcall =>
    obtain ⟨rfl, hwrote⟩ := keeps_of_reads hp hcall
    rw [newStreams_of_session (.inr ⟨call, hp⟩), hwrote, List.append_nil, List.append_nil]
    rcases run.role.eq_client_or_server with hrole | hrole
    · obtain ⟨hone, hfits, rfl⟩ := h.client hrole hp
      exact stands_of_client hrole _ _ hone hfits
    · obtain ⟨hone, hsilent, rfl⟩ := h.server hrole hp
      exact stands_of_server hrole _ hone hsilent
  | @answers s s' s'' call call' m state l' hrole hp hcall hsend =>
    obtain ⟨rfl, hwrote⟩ := keeps_of_read hp hcall
    obtain ⟨hone, hsilent, rfl⟩ := h.server hrole hp
    have hsilent' : run.Silent ⟨s.role, call.leave s.control, state, s.config⟩ :=
      ⟨hsilent.limit, hsilent.line, hsilent.complete⟩
    have hspeaks := speaks_of_send hv hsilent' hsend
    rw [newStreams_of_session (.inr ⟨call, hp⟩), hwrote, List.append_nil]
    exact ⟨hone, hspeaks.solo, hspeaks.fits, hspeaks.split⟩

/-- A run that ends has got one stream at most, and writes nothing any more. -/
theorem Stands.ends (h : run.Stands streams written)
    (hstep : run.step pick l = .ends (result, l')) :
    (streams ++ run.newStreams 0 pick l = [] ∨ OneStream (streams ++ run.newStreams 0 pick l)) ∧
      run.wrote l l' = [] := by
  have hnew : run.newStreams 0 pick l = [] ∨ OneStream (run.newStreams 0 pick l) := by
    unfold newStreams
    cases run.got? pick l with
    | none => exact .inl rfl
    | some id => exact .inr ⟨id, rfl⟩
  cases ends_of_step hstep with
  | early hp =>
    rcases hp with ⟨call, hp⟩ | ⟨call, hp⟩
    · refine ⟨?_, by simp [wrote, hp]⟩
      cases call with
      | start kind =>
        obtain ⟨rfl, -⟩ : streams = [] ∧ written = [] := by simpa only [Stands, hp] using h
        exact hnew
      | handing kind id =>
        have hnone : run.newStreams 0 pick l = [] := by simp [newStreams, got?, hp]
        rw [hnone, List.append_nil]
        exact h.one
    · obtain ⟨rfl, -⟩ : streams = [] ∧ written = [] := by simpa only [Stands, hp] using h
      exact ⟨hnew, by simp [wrote, hp]⟩
  | @notSent s s' call sent f l'' hp hcall =>
    have hspeaks : OneStream streams ∧ run.Speaks s call written := by
      simpa only [Stands, hp] using h
    obtain ⟨rfl, -, -⟩ := wrote_of_sent hspeaks.2.solo hcall
    rw [newStreams_of_session (.inl ⟨call, hp⟩), List.append_nil, wrote_release, wrote_self]
    exact ⟨h.one, rfl⟩
  | @sent s s' call l' hrole hp hcall =>
    have hspeaks : OneStream streams ∧ run.Speaks s call written := by
      simpa only [Stands, hp] using h
    obtain ⟨rfl, -, -⟩ := wrote_of_sent hspeaks.2.solo hcall
    rw [newStreams_of_session (.inl ⟨call, hp⟩), List.append_nil, wrote_self]
    exact ⟨h.one, rfl⟩
  | @refused s s' call heard f l'' hp hcall =>
    rw [newStreams_of_session (.inr ⟨call, hp⟩), List.append_nil, wrote_release]
    exact ⟨h.one, (keeps_of_read hp hcall).2⟩
  | @heard s s' s'' call m l' hrole hp hcall =>
    rw [newStreams_of_session (.inr ⟨call, hp⟩), List.append_nil]
    exact ⟨h.one, (keeps_of_read hp hcall).2⟩

theorem wrote_abandon (run : Run) (l : Link) : run.wrote l (run.abandon l) = [] := by
  cases hp : run.phase with
  | opening call => simp [wrote, hp]
  | accepting call => simp [wrote, hp]
  | sending s call =>
    simp only [abandon, hp]
    rw [wrote_release, wrote_self]
  | reading s call =>
    simp only [abandon, hp]
    rw [wrote_release, wrote_self]

end Handshake.Run

end MediaOverQuic
