import Mathlib.Tactic
import MediaOverQuic.Proofs.Session.Steps
import MediaOverQuic.Scenario.Party

/-!
# Steps of a handshake

A handshake is in one phase after the other, and each of its steps is one of the call that it waits
for. While a side sends its setup message nobody else writes to its control stream, and while it
reads the peer's nobody else reads from it.
-/
namespace MediaOverQuic

/-! ## Setup messages on their way -/

/-- A line that one call has joined and left. -/
def Turns.served : Turns := ⟨[], 1⟩

namespace ControlStream

/-- The control stream while the setup message is sent. -/
def speaking (limit : Nat) (begun : Bool) (readers : Turns) : ControlStream :=
  ⟨0, limit, begun, ⟨[0], 1⟩, readers⟩

/-- The control stream while the peer's setup message is read. -/
def listening (limit : Nat) (writers : Turns) : ControlStream :=
  ⟨0, limit, false, writers, ⟨[0], 1⟩⟩

end ControlStream

section Speaking

variable {limit : Nat} {readers : Turns} {call call' : Sending} {c : ControlStream} {p q : Pipe}

theorem speaking_goesOn (ht : call.ticket = 0)
    (h : call.step (.speaking limit call.hasTurn readers) p = .goesOn (call', c, q)) :
    call'.ticket = 0 ∧ call'.hasTurn = true ∧ c = .speaking limit call'.hasTurn readers ∧
      ∃ chunk, call.unsent = chunk ++ call'.unsent ∧ q.buffer = p.buffer ++ chunk := by
  rcases Sending.stepWith_eq_goesOn (o := .pipe []) h with ⟨t, frame, rfl, -, -, rfl, rfl, rfl⟩ |
    ⟨t, chunk, rest, rfl, rfl, rfl, htaken⟩
  · exact ⟨ht, rfl, rfl, [], rfl, (List.append_nil _).symm⟩
  · exact ⟨ht, rfl, rfl, chunk, rfl, by simpa [Outlet.pipe] using htaken⟩

/-- The call ends when nothing is left to write, or with what is left unwritten. -/
theorem speaking_ends {result : Except Error Unit} (ht : call.ticket = 0)
    (h : call.step (.speaking limit call.hasTurn readers) p = .ends (result, c, q)) :
    q = p ∧ ((result = .ok () ∧ call.unsent = [] ∧ c = ⟨0, limit, false, .served, readers⟩) ∨
      ∃ e, result = .error e ∧ call.unsent ≠ []) := by
  cases call with
  | waiting t frame =>
    obtain rfl : t = 0 := ht
    cases h
  | writing t rest =>
    obtain rfl : t = 0 := ht
    simp only [Sending.step, Sending.stepWith, Pipe.write] at h
    split_ifs at h with hrest
    · obtain ⟨rfl, rfl, rfl⟩ := by simpa using h
      exact ⟨rfl, .inl ⟨rfl, hrest, rfl⟩⟩
    · obtain ⟨rfl, rfl, rfl⟩ := by simpa using h
      exact ⟨rfl, .inr ⟨_, rfl, hrest⟩⟩

theorem speaking_waits (ht : call.ticket = 0)
    (h : call.step (.speaking limit call.hasTurn readers) p = .waits) : call.unsent ≠ [] := by
  cases call with
  | waiting t frame =>
    obtain rfl : t = 0 := ht
    cases h
  | writing t rest =>
    simp only [Sending.step, Sending.stepWith, Pipe.write] at h
    split_ifs at h with hrest
    exact hrest

end Speaking

section Listening

variable {limit : Nat} {writers : Turns} {call call' : Receiving} {c : ControlStream} {p q : Pipe}

theorem listening_goesOn (ht : call.ticket = 0)
    (h : call.step (.listening limit writers) p = .goesOn (call', c, q)) :
    call'.ticket = 0 ∧ c = .listening limit writers ∧
      ∃ chunk, call'.got = call.got ++ chunk ∧ p.buffer = chunk ++ q.buffer := by
  obtain ⟨rfl, hticket, hcases⟩ := Receiving.stepWith_eq_goesOn (i := .pipe) h
  refine ⟨hticket.trans ht, rfl, ?_⟩
  rcases hcases with ⟨t, rfl, -, rfl, rfl⟩ | ⟨t, got, chunk, count, atEnd, rfl, rfl, -, -, -, hahead⟩
  · exact ⟨[], rfl, rfl⟩
  · exact ⟨chunk, rfl, hahead⟩

theorem listening_ends {result : Except Error Message} (ht : call.ticket = 0)
    (h : call.step (.listening limit writers) p = .ends (result, c, q)) :
    q = p ∧ c = ⟨0, limit, false, writers, .served⟩ ∧
      ((∃ rest, Frame.scan limit call.got = .ready (result, rest)) ∨ ∃ e, result = .error e) := by
  obtain ⟨rfl, rfl, t, got, rfl, hcases⟩ := Receiving.stepWith_eq_ends (i := .pipe) h
  obtain rfl : t = 0 := ht
  refine ⟨rfl, rfl, hcases.imp_right ?_⟩
  rintro ⟨count, atEnd, -, -, rfl⟩
  exact ⟨_, rfl⟩

end Listening

namespace Handshake.Run

/-- The setup message can be sent, or the run is over. -/
theorem beginSending_cases (run : Run) (s : Session) (l : Link) :
    (∃ f, run.beginSending s l = .ends (.error f, l.release s.control.stream s.role)) ∨
    ∃ call s', s.send (.setup run.role run.params) = .ok (call, s') ∧
      run.beginSending s l = .goesOn ({ run with phase := .sending s' call }, l) := by
  unfold beginSending
  cases h : s.send (.setup run.role run.params) with
  | error e => exact .inl ⟨_, rfl⟩
  | ok sending => exact .inr ⟨sending.1, sending.2, rfl, rfl⟩

/-- The peer's setup message is accepted, or the run is over. -/
theorem afterReading_cases (run : Run) (m : Message) (s : Session) (l : Link) :
    (∃ f, run.afterReading m s l = .ends (.error f, l.release s.control.stream s.role)) ∨
    ∃ params, m = .setup run.role.peer params ∧
      run.afterReading m s l =
        let s' := { s with state := s.state.applyAllPeer params }
        match run.role with
        | .client => .ends (.ok s', l)
        | .server => run.beginSending s' l := by
  unfold afterReading
  cases hsetup : peerSetup run.role m with
  | error e => exact .inl ⟨_, rfl⟩
  | ok params =>
    dsimp only
    cases checkPeerSetup run.role l.overlay params with
    | error e => exact .inl ⟨_, rfl⟩
    | ok =>
      refine .inr ⟨params, ?_, rfl⟩
      cases hr : run.role <;> cases m <;> rw [hr] at hsetup <;>
        first | cases hsetup; rfl | cases hsetup

theorem beginSending_ne_waits (run : Run) (s : Session) (l : Link) :
    run.beginSending s l ≠ .waits := by
  rcases run.beginSending_cases s l with ⟨f, he⟩ | ⟨call, s', -, he⟩ <;> simp [he]

theorem afterSending_ne_waits (run : Run) (s : Session) (l : Link) :
    run.afterSending s l ≠ .waits := by
  unfold afterSending
  cases run.role <;> simp [beginReading]

theorem afterReading_ne_waits (run : Run) (m : Message) (s : Session) (l : Link) :
    run.afterReading m s l ≠ .waits := by
  rcases run.afterReading_cases m s l with ⟨f, he⟩ | ⟨params, -, he⟩
  · simp [he]
  · rw [he]
    cases run.role with
    | client => simp
    | server => exact run.beginSending_ne_waits _ l

end Handshake.Run

namespace Scenario.Party

variable {now : Nat} {p p' : Party} {l l' : Link} {run : Handshake.Run} {s : Session}

/-- Whether the party's handshake has failed. -/
def Failed (p : Party) : Prop := p.run = none ∧ ∃ f, p.result = some (.error f)

/-- Where a party and the connection are after a step of its run. -/
def Follows (progress : Handshake.Run.Progress) (p : Party) (l : Link) : Prop :=
  match progress with
  | .waits => False
  | .goesOn (run, link) => p.run = some run ∧ p.result = none ∧ l = link
  | .ends (result, link) => p.run = none ∧ p.result = some result ∧ l = link

theorem step_of_none (h : p.run = none) : p.step now l = none := by
  simp only [step, h]

/-- A step of a party is one of its run, or ends it because it took too long. -/
theorem step_of_some (hp : p.run = some run) (h : p.step now l = some (p', l')) :
    Follows (run.step .stream l) p' l' ∨
      (run.step .stream l = .waits ∧ l' = run.abandon l ∧ p'.Failed) := by
  simp only [step, hp] at h
  split at h
  · next after l'' hs =>
    obtain ⟨rfl, rfl⟩ := by simpa using h
    rw [hs]
    exact .inl ⟨rfl, rfl, rfl⟩
  · next result l'' hs =>
    obtain ⟨rfl, rfl⟩ := by simpa using h
    rw [hs]
    exact .inl ⟨rfl, rfl, rfl⟩
  · next hs =>
    split_ifs at h
    obtain ⟨rfl, rfl⟩ := by simpa using h
    exact .inr ⟨hs, rfl, rfl, _, rfl⟩

theorem step_of_sending {call : Sending} (hp : p.run = some run)
    (hphase : run.phase = .sending s call) (h : p.step now l = some (p', l')) :
    (∃ call' s', Session.stepSending call s l = .goesOn (call', s', l') ∧
      p'.run = some { run with phase := .sending s' call' } ∧ p'.result = none) ∨
    (Session.stepSending call s l = .waits ∧ l' = l.release s.control.stream run.role ∧ p'.Failed) ∨
    (∃ e s' l'', Session.stepSending call s l = .ends (.error e, s', l'') ∧
      l' = l''.release s'.control.stream s'.role ∧ p'.Failed) ∨
    (∃ s' l'', Session.stepSending call s l = .ends (.ok (), s', l'') ∧
      Follows (run.afterSending s' l'') p' l') := by
  have hstep := step_of_some hp h
  simp only [Handshake.Run.step, Handshake.Run.abandon, hphase] at hstep
  cases hcall : Session.stepSending call s l with
  | waits =>
    rw [hcall] at hstep
    obtain ⟨-, hl, hf⟩ := hstep.resolve_left id
    exact .inr (.inl ⟨rfl, hl, hf⟩)
  | goesOn next =>
    obtain ⟨call', s', l''⟩ := next
    rw [hcall] at hstep
    obtain ⟨hp', hr', rfl⟩ := hstep.resolve_right (by simp)
    exact .inl ⟨call', s', rfl, hp', hr'⟩
  | ends last =>
    obtain ⟨e | _, s', l''⟩ := last
    · rw [hcall] at hstep
      obtain ⟨hp', hr', rfl⟩ := hstep.resolve_right (by simp [Handshake.Run.failOn])
      exact .inr (.inr (.inl ⟨e, s', l'', rfl, rfl, hp', _, hr'⟩))
    · rw [hcall] at hstep
      refine .inr (.inr (.inr ⟨s', l'', rfl, hstep.resolve_right ?_⟩))
      exact fun hw => Handshake.Run.afterSending_ne_waits run s' l'' hw.1

theorem step_of_reading {call : Receiving} (hp : p.run = some run)
    (hphase : run.phase = .reading s call) (h : p.step now l = some (p', l')) :
    (∃ call' s', Session.stepReading call s l = .goesOn (call', s', l') ∧
      p'.run = some { run with phase := .reading s' call' } ∧ p'.result = none) ∨
    (l' = l.release s.control.stream run.role ∧ p'.Failed) ∨
    (∃ e s' l'', Session.stepReading call s l = .ends (.error e, s', l'') ∧
      l' = l''.release s'.control.stream s'.role ∧ p'.Failed) ∨
    (∃ m s' l'', Session.stepReading call s l = .ends (.ok m, s', l'') ∧
      Follows (run.afterReading m s' l'') p' l') := by
  have hstep := step_of_some hp h
  simp only [Handshake.Run.step, Handshake.Run.abandon, hphase] at hstep
  cases hcall : Session.stepReading call s l with
  | waits =>
    rw [hcall] at hstep
    obtain ⟨-, hl, hf⟩ := hstep.resolve_left id
    exact .inr (.inl ⟨hl, hf⟩)
  | goesOn next =>
    obtain ⟨call', s', l''⟩ := next
    rw [hcall] at hstep
    obtain ⟨hp', hr', rfl⟩ := hstep.resolve_right (by simp)
    exact .inl ⟨call', s', rfl, hp', hr'⟩
  | ends last =>
    obtain ⟨e | m, s', l''⟩ := last
    · rw [hcall] at hstep
      obtain ⟨hp', hr', rfl⟩ := hstep.resolve_right (by simp [Handshake.Run.failOn])
      exact .inr (.inr (.inl ⟨e, s', l'', rfl, rfl, hp', _, hr'⟩))
    · rw [hcall] at hstep
      refine .inr (.inr (.inr ⟨m, s', l'', rfl, hstep.resolve_right ?_⟩))
      exact fun hw => Handshake.Run.afterReading_ne_waits run m s' l'' hw.1

theorem follows_beginSending (h : Follows (run.beginSending s l) p' l') :
    (l' = l.release s.control.stream s.role ∧ p'.Failed) ∨
    ∃ call s', s.send (.setup run.role run.params) = .ok (call, s') ∧ l' = l ∧
      p'.run = some { run with phase := .sending s' call } ∧ p'.result = none := by
  rcases run.beginSending_cases s l with ⟨f, hb⟩ | ⟨call, s', hsend, hb⟩
  · rw [hb] at h
    obtain ⟨hp', hr', hl⟩ := h
    exact .inl ⟨hl, hp', f, hr'⟩
  · rw [hb] at h
    obtain ⟨hp', hr', hl⟩ := h
    exact .inr ⟨call, s', hsend, hl, hp', hr'⟩

theorem follows_afterReading_client {m : Message} (hrole : run.role = .client)
    (h : Follows (run.afterReading m s l) p' l') :
    (l' = l.release s.control.stream s.role ∧ p'.Failed) ∨
    ∃ params, m = .serverSetup params ∧ l' = l ∧ p'.run = none ∧
      p'.result = some (.ok { s with state := s.state.applyAllPeer params }) := by
  rcases run.afterReading_cases m s l with ⟨f, he⟩ | ⟨params, rfl, he⟩
  · rw [he] at h
    obtain ⟨hp', hr', hl⟩ := h
    exact .inl ⟨hl, hp', f, hr'⟩
  · rw [he, hrole] at h
    obtain ⟨hp', hr', hl⟩ := h
    exact .inr ⟨params, by rw [hrole]; rfl, hl, hp', hr'⟩

theorem follows_afterReading_server {m : Message} (hrole : run.role = .server)
    (h : Follows (run.afterReading m s l) p' l') :
    (l' = l.release s.control.stream s.role ∧ p'.Failed) ∨
    ∃ params call s', m = .clientSetup params ∧
      Session.send { s with state := s.state.applyAllPeer params } (.serverSetup run.params) =
        .ok (call, s') ∧
      l' = l ∧ p'.run = some { run with phase := .sending s' call } ∧ p'.result = none := by
  rcases run.afterReading_cases m s l with ⟨f, he⟩ | ⟨params, rfl, he⟩
  · rw [he] at h
    obtain ⟨hp', hr', hl⟩ := h
    exact .inl ⟨hl, hp', f, hr'⟩
  · rw [he, hrole] at h
    change Follows (run.beginSending { s with state := s.state.applyAllPeer params } l) p' l' at h
    refine (follows_beginSending h).imp_right ?_
    rintro ⟨call, s', hsend, hl, hp', hr'⟩
    rw [hrole] at hsend
    exact ⟨params, call, s', by rw [hrole]; rfl, hsend, hl, hp', hr'⟩

end Scenario.Party

end MediaOverQuic
