import Mathlib.Tactic
import MediaOverQuic.Proofs.Control.FirstFrame
import MediaOverQuic.Proofs.Control.Solo
import MediaOverQuic.Proofs.Eventually
import MediaOverQuic.Proofs.Session.Interview
import MediaOverQuic.Proofs.Session.Handshake

/-!
# The phases of a handshake

On its control stream a side sends its own setup message and reads its peer's, in one order or the
other. Sending ends with the whole message on the stream, or, if the far side does not take it, with
a failure. Reading ends with what stands in front of the far side's bytes, however these arrive. In
each phase a step is always possible, and every step leaves less to be done.
-/
namespace MediaOverQuic

namespace Scenario

/-- All that a step of a party can be, when this is its run. -/
inductive Party.Moves (now : Nat) (p : Party) (run : Handshake.Run) (l : Link) :
    Party → Link → Prop
  | goesOn {after : Handshake.Run} {l' : Link} (h : run.step .stream l = .goesOn (after, l')) :
    Moves now p run l (p.goOn now run after) l'
  | ends {result : Except Failure Session} {l' : Link}
      (h : run.step .stream l = .ends (result, l')) :
    Moves now p run l (p.finish result) l'
  | expires (h : run.step .stream l = .waits) (hd : p.deadline ≤ now) :
    Moves now p run l (p.finish (.error (run.expire l).1)) (run.expire l).2

theorem Party.moves_of_step {now : Nat} {p p' : Party} {run : Handshake.Run} {l l' : Link}
    (hp : p.run = some run) (h : p.step now l = some (p', l')) : p.Moves now run l p' l' := by
  simp only [step, hp] at h
  split at h
  · next after l'' hs =>
    obtain ⟨rfl, rfl⟩ := by simpa using h
    exact .goesOn hs
  · next result l'' hs =>
    obtain ⟨rfl, rfl⟩ := by simpa using h
    exact .ends hs
  · next hs =>
    split_ifs at h with hd
    obtain ⟨rfl, rfl⟩ := by simpa using h
    exact .expires hs (Nat.not_lt.mp hd)

/-- A party that can not take a step waits, and still has time. -/
theorem Party.waits_of_none {now : Nat} {p : Party} {run : Handshake.Run} {l : Link}
    (hp : p.run = some run) (h : p.step now l = none) :
    run.step .stream l = .waits ∧ now < p.deadline := by
  simp only [step, hp] at h
  split at h
  · cases h
  · cases h
  · next hwaits =>
    split_ifs at h with hd
    exact ⟨hwaits, hd⟩

namespace Interview

variable {r : Role} {e e' : Interview} {run : Handshake.Run}

/-- How much a run has to do in its phase, apart from reading what arrives. -/
def runWork (run : Handshake.Run) : Nat :=
  match run.phase with
  | .opening _ | .accepting _ => 0
  | .sending _ call => call.work
  | .reading _ call => call.toStart

/-- What is left to be done in a phase: by the far side, by the near side, and by the clock. -/
def work (r : Role) (e : Interview) : Nat :=
  e.farWork r + (e.party.run.elim 0 runWork) + (e.party.deadline - e.now)

/-- A side whose handshake runs is never stuck. -/
theorem exists_step (hp : e.party.run = some run) : ∃ e', e.Step r e' := by
  by_cases hfar : ∃ f l, e.far.Step r e.link f l
  · obtain ⟨f, l, h⟩ := hfar
    exact ⟨_, .far h⟩
  · have hrests : e.FarRests r := fun f l h => hfar ⟨f, l, h⟩
    cases hstep : e.party.step e.now e.link with
    | some moved => exact ⟨_, .party hstep fun _ => hrests⟩
    | none =>
      have hwaits := Party.waits_of_none hp hstep
      exact ⟨_, .clock hwaits.2 hwaits.2 (.inr ⟨⟨run, hp, hwaits.1⟩, hrests⟩)⟩

/-- A phase in which every step leaves less to be done comes to an end. -/
theorem eventually_of_work {P I : Interview → Prop}
    (hrun : ∀ e, I e → ∃ run, e.party.run = some run)
    (hstep : ∀ e e', I e → e.Step r e' → (I e' ∧ e'.work r < e.work r) ∨ P e') (h : I e) :
    Eventually (Step r) P e := by
  refine .of_rank (work r) ?_ (fun e e' hi hs => (hstep e e' hi hs).symm) h
  intro e hi
  obtain ⟨run, hp⟩ := hrun e hi
  exact exists_step hp

/-- Where a run that does not wait leads to. -/
def Follows (e : Interview) (run : Handshake.Run) (progress : Handshake.Run.Progress)
    (e' : Interview) : Prop :=
  match progress with
  | .waits => False
  | .goesOn (after, l) => e' = { e with party := e.party.goOn e.now run after, link := l }
  | .ends (result, l) => e' = { e with party := e.party.finish result, link := l }

/-- After a step of a run that does not wait, a side is where the run leads to. -/
theorem follows_of_step {p : Party} {l : Link} (hp : p.run = some run)
    (hne : run.step .stream l ≠ .waits)
    (h : p.step e.now l = some (e.party, e.link)) :
    Follows { e with party := p } run (run.step .stream l) e := by
  obtain ⟨now, link, party, far⟩ := e
  dsimp only at h ⊢
  cases Party.moves_of_step hp h with
  | goesOn hs =>
    rw [hs]
    rfl
  | ends hs =>
    rw [hs]
    rfl
  | expires hs => exact absurd hs hne

/-- A step of the near side is one of its run, or ends it when the far side rests. -/
theorem follows_or_expires {p : Party} {l : Link} (hp : e.party.run = some run)
    (h : e.party.step e.now e.link = some (p, l)) (hwait : e.Waits → e.FarRests r) :
    e.Follows run (run.step .stream e.link) { e with party := p, link := l } ∨
      (run.step .stream e.link = .waits ∧ e.FarRests r ∧
        p = e.party.finish (.error (run.expire e.link).1) ∧ l = (run.expire e.link).2) := by
  cases Party.moves_of_step hp h with
  | goesOn hs =>
    rw [hs]
    exact .inl rfl
  | ends hs =>
    rw [hs]
    exact .inl rfl
  | expires hs hd => exact .inr ⟨hs, hwait ⟨run, hp, hs⟩, rfl, rfl⟩

end Interview

/-- What is fixed while a side runs its handshake on a control stream. -/
structure Briefing where
  role : Role
  config : Config
  sent : List KeyValuePair
  overlay : Bool
  stream : Nat
  /-- Whether the far side ends the stream behind its bytes. -/
  ends : Bool

namespace Briefing

def limit (x : Briefing) : Nat := x.config.maxControlMessageLength

/-- The setup message that the side sends, as a frame. -/
def frame (x : Briefing) : Bytes := Frame.wire (.setup x.role x.sent)

def run (x : Briefing) (phase : Handshake.Phase) : Handshake.Run :=
  ⟨x.role, x.config, x.sent, phase⟩

def session (x : Briefing) (c : ControlStream) (state : SessionState) : Session :=
  ⟨x.role, c, state, x.config⟩

variable {x : Briefing} {state : SessionState} {c : ControlStream} {stream : Nat}

/-- Where a run that sends goes on, by what the call could do on its pipe. -/
def sendingOn (x : Briefing) (state : SessionState) (run : Handshake.Run) (stream : Nat)
    (l : Link) :
    Attempt (Sending × ControlStream × Pipe) (Except Error Unit × ControlStream × Pipe) →
      Handshake.Run.Progress
  | .waits => .waits
  | .goesOn (call, c, q) =>
    .goesOn (x.run (.sending (x.session c state) call), l.setInbound stream x.role.peer q)
  | .ends (.error e, c, q) => Handshake.Run.failOn (x.session c state)
      ((Failure.ofError e).within (Handshake.Activity.sending.text x.role))
      (l.setInbound stream x.role.peer q)
  | .ends (.ok (), c, q) =>
    run.afterSending (x.session c state) (l.setInbound stream x.role.peer q)

/-- Where a run that reads goes on, by what the call could do on its pipe. -/
def readingOn (x : Briefing) (state : SessionState) (run : Handshake.Run) (stream : Nat)
    (l : Link) :
    Attempt (Receiving × ControlStream × Pipe) (Except Error Message × ControlStream × Pipe) →
      Handshake.Run.Progress
  | .waits => .waits
  | .goesOn (call, c, q) =>
    .goesOn (x.run (.reading (x.session c state) call), l.setInbound stream x.role q)
  | .ends (.error e, c, q) => Handshake.Run.failOn (x.session c state)
      ((Failure.ofError e).within (Handshake.Activity.reading.text x.role))
      (l.setInbound stream x.role q)
  | .ends (.ok m, c, q) =>
    run.afterReading m (x.session c state) (l.setInbound stream x.role q)

theorem run_step_sending (state : SessionState) (hc : c.stream = stream) (call : Sending)
    (l : Link) :
    (x.run (.sending (x.session c state) call)).step .stream l =
      x.sendingOn state (x.run (.sending (x.session c state) call)) stream l
        (call.step c (l.inbound stream x.role.peer)) := by
  have hin : l.outbound c.stream x.role = l.inbound stream x.role.peer := by rw [hc]; rfl
  simp only [Handshake.Run.step, run, session, Session.stepSending, Sending.stepOn, hin]
  rw [hc]
  rcases call.step c (l.inbound stream x.role.peer) with _ | ⟨_⟩ | ⟨⟨_ | _⟩, _⟩ <;> rfl

theorem run_step_reading (state : SessionState) (hc : c.stream = stream) (call : Receiving)
    (l : Link) :
    (x.run (.reading (x.session c state) call)).step .stream l =
      x.readingOn state (x.run (.reading (x.session c state) call)) stream l
        (call.step c (l.inbound stream x.role)) := by
  simp only [Handshake.Run.step, run, session, Session.stepReading, Receiving.stepOn, hc]
  rcases call.step c (l.inbound stream x.role) with _ | ⟨_⟩ | ⟨⟨_ | _⟩, _⟩ <;> rfl

/-- What stays as it is on the stream while the side has got `got` of `bytes`. -/
structure Keeps (x : Briefing) (bytes : Bytes) (e : Interview) (got : Bytes) : Prop where
  overlay : e.link.overlay = x.overlay
  stream : e.far.stream = x.stream
  hears : e.Hears x.role bytes x.ends got

/-- The side sends its setup message, and has not read any of `bytes`. -/
structure Speaks (x : Briefing) (state : SessionState) (bytes : Bytes) (willing : Prop)
    (e : Interview) (c : ControlStream) (call : Sending) : Prop where
  run : e.party.run = some (x.run (.sending (x.session c state) call))
  result : e.party.result = none
  control : c.stream = x.stream ∧ c.limit = x.limit ∧ c.readers.line = []
  solo : call.Solo c
  keeps : x.Keeps bytes e []
  told : e.written x.role ++ call.unsent = x.frame
  willing : willing → e.Willing x.role x.frame

/-- The side reads its peer's setup message, when it has written `told`. -/
structure Listens (x : Briefing) (state : SessionState) (bytes told : Bytes) (willing : Prop)
    (e : Interview) (c : ControlStream) (call : Receiving) : Prop where
  run : e.party.run = some (x.run (.reading (x.session c state) call))
  result : e.party.result = none
  control : c.stream = x.stream ∧ c.limit = x.limit ∧ c.writers.line = [] ∧ c.incomplete = false
  solo : call.Solo c
  keeps : x.Keeps bytes e call.got
  tight : (Frame.scan x.limit).Tight call.got
  told : e.written x.role = told
  willing : willing → e.Willing x.role x.frame

variable {bytes told : Bytes} {willing : Prop} {e e' : Interview}

theorem Keeps.far {got : Bytes} {f : FarSide} {l : Link} (h : x.Keeps bytes e got)
    (hs : e.far.Step x.role e.link f l) : x.Keeps bytes { e with far := f, link := l } got := by
  obtain ⟨hstream, hoverlay⟩ := Interview.far_keeps hs
  exact ⟨hoverlay.trans h.overlay, hstream.trans h.stream, h.hears.far hs⟩

theorem Keeps.clock {got : Bytes} (h : x.Keeps bytes e got) (now : Nat) :
    x.Keeps bytes { e with now := now } got :=
  ⟨h.overlay, h.stream, { h.hears with }⟩

theorem Keeps.party {got : Bytes} (h : x.Keeps bytes e got) (p : Party) :
    x.Keeps bytes { e with party := p } got :=
  ⟨h.overlay, h.stream, { h.hears with }⟩

/-- A far side that would take the whole message does not rest while the stream is full. -/
theorem not_willing_of_rests {unsent frame : Bytes} {r : Role} (hrests : e.FarRests r)
    (hroom : (e.link.inbound e.far.stream r.peer).room = 0)
    (htold : e.written r ++ unsent = frame) (hne : unsent ≠ []) : ¬ e.Willing r frame := by
  intro hw
  have hfull : (e.link.inbound e.far.stream r.peer).buffer.length = Pipe.capacity := by
    have hle := (e.link.inbound e.far.stream r.peer).length_le
    rw [Pipe.room] at hroom
    omega
  have happetite : e.far.appetite = 0 := by
    refine hrests.appetite ?_
    intro hnil
    rw [hnil] at hfull
    cases hfull
  have hroom := hw.room
  have hpos := List.length_pos_iff.mpr hne
  rw [← htold, Interview.written] at hroom
  simp only [List.length_append] at hroom
  omega

theorem Speaks.far {call : Sending} {f : FarSide} {l : Link}
    (h : x.Speaks state bytes willing e c call) (hs : e.far.Step x.role e.link f l) :
    x.Speaks state bytes willing { e with far := f, link := l } c call where
  run := h.run
  result := h.result
  control := h.control
  solo := h.solo
  keeps := h.keeps.far hs
  told := by
    rw [Interview.written_far h.keeps.hears.length hs]
    exact h.told
  willing hw := (h.willing hw).far h.keeps.hears.length hs

theorem Speaks.clock {call : Sending} (h : x.Speaks state bytes willing e c call) (now : Nat) :
    x.Speaks state bytes willing { e with now := now } c call where
  run := h.run
  result := h.result
  control := h.control
  solo := h.solo
  keeps := h.keeps.clock now
  told := h.told
  willing hw := { h.willing hw with }

/-- A side that fails lets go of its control stream. -/
theorem quit_eq {id : Nat} (hid : id = e.far.stream) (r : Role) (f : Failure) :
    { e with party := e.party.finish (.error f), link := e.link.release id r } = e.quit r f := by
  rw [hid]
  rfl

/-- The call has written a part of the message, or has begun to. -/
theorem Speaks.writes_on {call call' : Sending} {c' : ControlStream} {q : Pipe} {chunk : Bytes}
    (h : x.Speaks state bytes willing e c call) (hsolo : call'.Solo c')
    (hcontrol : c'.stream = c.stream ∧ c'.limit = c.limit ∧ c'.readers = c.readers)
    (hunsent : call.unsent = chunk ++ call'.unsent)
    (hbuffer : q.buffer = (e.link.inbound e.far.stream x.role.peer).buffer ++ chunk)
    (hclosed : q.closed = (e.link.inbound e.far.stream x.role.peer).closed) (before : Handshake.Run) :
    x.Speaks state bytes willing { e with
      party := e.party.goOn e.now before (x.run (.sending (x.session c' state) call'))
      link := e.link.setInbound e.far.stream x.role.peer q } c' call' where
  run := rfl
  result := rfl
  control := by
    obtain ⟨hs, hl, hr⟩ := hcontrol
    rw [hs, hl, hr]
    exact h.control
  solo := hsolo
  keeps := ⟨h.keeps.overlay, h.keeps.stream, h.keeps.hears.wrote _ q⟩
  told := by
    rw [Interview.written_wrote h.keeps.hears.length _ hbuffer, List.append_assoc, ← hunsent]
    exact h.told
  willing hw := (h.willing hw).wrote h.keeps.hears.length _ hclosed

/-- A side that sends writes on, or has written everything, or fails on a far side that does not
take everything. -/
theorem Speaks.step {call : Sending} (h : x.Speaks state bytes willing e c call)
    (hs : e.Step x.role e') :
    (∃ c' call', x.Speaks state bytes willing e' c' call' ∧ e'.work x.role < e.work x.role) ∨
    (call.unsent = [] ∧
      let run := x.run (.sending (x.session c state) call)
      e.Follows run (run.afterSending
        (x.session (call.leave { c with incomplete := false }) state) e.link) e') ∨
    (call.unsent ≠ [] ∧ ¬ willing ∧ ∃ f, e' = e.quit x.role f) := by
  have hlength := h.keeps.hears.length
  cases hs with
  | @far f l hfar =>
    refine .inl ⟨c, call, h.far hfar, ?_⟩
    have hlt := Interview.farWork_far hlength hfar
    simp only [Interview.work]
    omega
  | @clock now hnow hdeadline hrests =>
    refine .inl ⟨c, call, h.clock now, ?_⟩
    simp only [Interview.work, Interview.farWork]
    omega
  | @party p l hstep hwait =>
    have hstream : c.stream = e.far.stream := h.control.1.trans h.keeps.stream.symm
    have hfollows := Interview.follows_or_expires h.run hstep hwait
    have hrun := run_step_sending (x := x) state hstream call e.link
    rcases h.solo.step_cases (e.link.inbound e.far.stream x.role.peer) with
      ⟨call', c', q, chunk, hgo, hsolo, hwork, hs', hl', hr', hunsent, hbuffer, hclosed⟩ |
      ⟨hunsent, hends⟩ | ⟨hunsent, hclosed, hends⟩ | ⟨hunsent, hclosed, hroom, hwaits⟩
    -- The call writes a part of the message, or finds that there is nothing left to write, or that
    -- the far side has gone, or waits for room in vain.
    · rw [hgo, sendingOn] at hrun
      rw [hrun] at hfollows
      rw [hfollows.resolve_right (by simp)]
      refine .inl ⟨c', call', h.writes_on hsolo ⟨hs', hl', hr'⟩ hunsent hbuffer hclosed _, ?_⟩
      simp only [Interview.work, Interview.farWork_wrote, h.run]
      exact Nat.add_lt_add_right (Nat.add_lt_add_left hwork _) _
    · rw [hends, sendingOn] at hrun
      rw [hrun, Link.setInbound_self] at hfollows
      refine .inr (.inl ⟨hunsent, hfollows.resolve_right ?_⟩)
      rintro ⟨hw, -⟩
      exact Handshake.Run.afterSending_ne_waits _ _ _ hw
    · rw [hends, sendingOn] at hrun
      rw [hrun, Link.setInbound_self] at hfollows
      have hquit := hfollows.resolve_right (by simp [Handshake.Run.failOn])
      refine .inr (.inr ⟨hunsent, ?_, _, Eq.trans hquit (quit_eq hstream x.role _)⟩)
      intro hw
      exact absurd ((h.willing hw).isOpen.symm.trans hclosed) (by decide)
    · rw [hwaits, sendingOn] at hrun
      rw [hrun] at hfollows
      obtain ⟨-, hrests, rfl, rfl⟩ := hfollows.resolve_left id
      refine .inr (.inr ⟨hunsent, ?_, _, quit_eq hstream x.role _⟩)
      exact fun hw => not_willing_of_rests hrests hroom h.told hunsent (h.willing hw)

theorem Listens.far {call : Receiving} {f : FarSide} {l : Link}
    (h : x.Listens state bytes told willing e c call) (hs : e.far.Step x.role e.link f l) :
    x.Listens state bytes told willing { e with far := f, link := l } c call where
  run := h.run
  result := h.result
  control := h.control
  solo := h.solo
  keeps := h.keeps.far hs
  tight := h.tight
  told := by
    rw [Interview.written_far h.keeps.hears.length hs]
    exact h.told
  willing hw := (h.willing hw).far h.keeps.hears.length hs

theorem Listens.clock {call : Receiving} (h : x.Listens state bytes told willing e c call)
    (now : Nat) : x.Listens state bytes told willing { e with now := now } c call where
  run := h.run
  result := h.result
  control := h.control
  solo := h.solo
  keeps := h.keeps.clock now
  tight := h.tight
  told := h.told
  willing hw := { h.willing hw with }

/-- How long the side waits for what it reads. -/
def patience (x : Briefing) : Duration := x.config.controlMessageTimeout

/-- A scan that is ready has settled what is heard, and has left all that stands behind it. -/
theorem Listens.heard {call : Receiving} (h : x.Listens state bytes told willing e c call)
    {result : Except Error Message} {left : Bytes}
    (hscan : Frame.scan x.limit call.got = .ready (result, left)) :
    ∃ rest, Frame.heard x.limit x.ends x.patience bytes = (result, rest) ∧ x.Keeps rest e [] := by
  obtain rfl := h.tight _ _ hscan
  have hall := (Frame.lawful_scan x.limit).steady hscan
    ((e.link.inbound e.far.stream x.role).buffer ++ e.far.toCome)
  rw [h.keeps.hears.bytes] at hall
  refine ⟨[] ++ ((e.link.inbound e.far.stream x.role).buffer ++ e.far.toCome), ?_,
    h.keeps.overlay, h.keeps.stream, { h.keeps.hears with bytes := rfl }⟩
  simp only [Frame.heard, hall]

/-- A scan that asks for more when nothing more is to come has heard all the bytes. -/
theorem Listens.heard_all {call : Receiving} (h : x.Listens state bytes told willing e c call)
    {count : Nat} {atEnd : StreamError} (hscan : Frame.scan x.limit call.got = .more count atEnd)
    (hbuffer : (e.link.inbound e.far.stream x.role).buffer = []) (hcome : e.far.toCome = []) :
    Frame.heard x.limit x.ends x.patience bytes =
      (.error (if x.ends then .transport atEnd else .timeout x.patience), []) := by
  have hgot : call.got = bytes := by
    have hbytes := h.keeps.hears.bytes
    rw [hbuffer, hcome] at hbytes
    simpa using hbytes
  rw [hgot] at hscan
  simp only [Frame.heard, hscan]

theorem Listens.heard_end {call : Receiving} (h : x.Listens state bytes told willing e c call)
    {count : Nat} {atEnd : StreamError} (hscan : Frame.scan x.limit call.got = .more count atEnd)
    (hbuffer : (e.link.inbound e.far.stream x.role).buffer = [])
    (hclosed : (e.link.inbound e.far.stream x.role).closed = true) :
    Frame.heard x.limit x.ends x.patience bytes = (.error (.transport atEnd), []) := by
  have hends : x.ends = true := h.keeps.hears.ends.mp (.inl hclosed)
  have hheard := h.heard_all hscan hbuffer (h.keeps.hears.closed hclosed)
  rwa [hends, if_pos rfl, ← hends] at hheard

theorem Listens.heard_silence {call : Receiving}
    (h : x.Listens state bytes told willing e c call) {count : Nat} {atEnd : StreamError}
    (hscan : Frame.scan x.limit call.got = .more count atEnd)
    (hbuffer : (e.link.inbound e.far.stream x.role).buffer = [])
    (hopen : (e.link.inbound e.far.stream x.role).closed = false) (hrests : e.FarRests x.role) :
    Frame.heard x.limit x.ends x.patience bytes = (.error (.timeout x.patience), []) := by
  have hcome := hrests.toCome hopen hbuffer
  have hends : x.ends = false := by
    rw [← Bool.not_eq_true, ← h.keeps.hears.ends, hopen, hrests.parting hcome]
    simp
  have hheard := h.heard_all hscan hbuffer hcome
  rwa [hends, if_neg (by decide), ← hends] at hheard

/-- The call has read what it was sure to need, or has begun to. -/
theorem Listens.reads_on {call call' : Receiving} {q : Pipe} {chunk : Bytes}
    (h : x.Listens state bytes told willing e c call) (hsolo : call'.Solo c)
    (hgot : call'.got = call.got ++ chunk)
    (hbuffer : (e.link.inbound e.far.stream x.role).buffer = chunk ++ q.buffer)
    (hclosed : q.closed = (e.link.inbound e.far.stream x.role).closed)
    (htight : (Frame.scan x.limit).Tight call'.got) (before : Handshake.Run) :
    x.Listens state bytes told willing { e with
      party := e.party.goOn e.now before (x.run (.reading (x.session c state) call'))
      link := e.link.setInbound e.far.stream x.role q } c call' where
  run := rfl
  result := rfl
  control := h.control
  solo := hsolo
  keeps := by
    rw [hgot]
    exact ⟨h.keeps.overlay, h.keeps.stream, h.keeps.hears.took _ hbuffer hclosed⟩
  tight := htight
  told := by
    rw [Interview.written_took]
    exact h.told
  willing hw := (h.willing hw).took _ q

/-- A side that reads goes on with what arrives, or ends with what is wrong with the bytes, or has
read a message and leaves what stands behind it. -/
theorem Listens.step {call : Receiving} (h : x.Listens state bytes told willing e c call)
    (hs : e.Step x.role e') :
    (∃ call', x.Listens state bytes told willing e' c call' ∧ e'.work x.role < e.work x.role) ∨
    (∃ err, (Frame.heard x.limit x.ends x.patience bytes).1 = .error err ∧
      e' = e.quit x.role
        ((Failure.ofError err).within (Handshake.Activity.reading.text x.role))) ∨
    (∃ m rest, Frame.heard x.limit x.ends x.patience bytes = (.ok m, rest) ∧ x.Keeps rest e [] ∧
      let run := x.run (.reading (x.session c state) call)
      e.Follows run (run.afterReading m (x.session (call.leave c) state) e.link) e') := by
  have hlength := h.keeps.hears.length
  cases hs with
  | @far f l hfar =>
    refine .inl ⟨call, h.far hfar, ?_⟩
    have hlt := Interview.farWork_far hlength hfar
    simp only [Interview.work]
    omega
  | @clock now hnow hdeadline hrests =>
    refine .inl ⟨call, h.clock now, ?_⟩
    simp only [Interview.work, Interview.farWork]
    omega
  | @party p l hstep hwait =>
    have hstream : c.stream = e.far.stream := h.control.1.trans h.keeps.stream.symm
    have hfollows := Interview.follows_or_expires h.run hstep hwait
    have hrun := run_step_reading (x := x) state hstream call e.link
    have hcases := h.solo.step_cases (e.link.inbound e.far.stream x.role)
    rw [h.control.2.1] at hcases
    rcases hcases with
      ⟨call', q, chunk, hgo, hsolo, hwork, hgot, hbuffer, hclosed, htight⟩ |
      ⟨err | m, left, hscan, hends⟩ | ⟨count, atEnd, hscan, hbuffer, hclosed, hends⟩ |
      ⟨count, atEnd, hscan, hbuffer, hclosed, hwaits⟩
    -- The call reads on, or has a header or a frame that it refuses, or a message, or finds the
    -- stream at its end, or waits for more in vain.
    · rw [hgo, readingOn] at hrun
      rw [hrun] at hfollows
      rw [hfollows.resolve_right (by simp)]
      refine .inl ⟨call', h.reads_on hsolo hgot hbuffer hclosed (htight h.tight) _, ?_⟩
      have hfar := Interview.farWork_took (r := x.role) hlength
        (e.party.goOn e.now (x.run (.reading (x.session c state) call))
          (x.run (.reading (x.session c state) call'))) q
      simp only [Interview.work, h.run]
      refine Nat.add_lt_add_right ?_ (e.party.deadline - e.now)
      show _ + call'.toStart < _ + call.toStart
      omega
    · obtain ⟨rest, hheard, -⟩ := h.heard hscan
      rw [hends, readingOn] at hrun
      rw [hrun, Link.setInbound_self] at hfollows
      have hquit := hfollows.resolve_right (by simp [Handshake.Run.failOn])
      exact .inr (.inl ⟨err, by rw [hheard], Eq.trans hquit (quit_eq hstream x.role _)⟩)
    · obtain ⟨rest, hheard, hkeeps⟩ := h.heard hscan
      rw [hends, readingOn] at hrun
      rw [hrun, Link.setInbound_self] at hfollows
      refine .inr (.inr ⟨m, rest, hheard, hkeeps, hfollows.resolve_right ?_⟩)
      rintro ⟨hw, -⟩
      exact Handshake.Run.afterReading_ne_waits _ _ _ _ hw
    · have hheard := h.heard_end hscan hbuffer hclosed
      rw [hends, readingOn] at hrun
      rw [hrun, Link.setInbound_self] at hfollows
      have hquit := hfollows.resolve_right (by simp [Handshake.Run.failOn])
      exact .inr (.inl ⟨_, by rw [hheard], Eq.trans hquit (quit_eq hstream x.role _)⟩)
    · rw [hwaits, readingOn] at hrun
      rw [hrun] at hfollows
      obtain ⟨-, hrests, rfl, rfl⟩ := hfollows.resolve_left id
      have hheard := h.heard_silence hscan hbuffer hclosed hrests
      exact .inr (.inl ⟨.timeout x.patience, by rw [hheard], quit_eq hstream x.role _⟩)

/-! ## From one phase to the next -/

variable {phase : Handshake.Phase}

/-- A side that starts to read has its control stream for itself. -/
theorem listens_of_beginReading (hc : c.Idle) (hstream : c.stream = x.stream)
    (hlimit : c.limit = x.limit) (hkeeps : x.Keeps bytes e []) (htold : e.written x.role = told)
    (hwilling : willing → e.Willing x.role x.frame)
    (h : e.Follows (x.run phase) ((x.run phase).beginReading (x.session c state) e.link) e') :
    ∃ c' call, x.Listens state bytes told willing e' c' call := by
  have he : e' = { e with
      party := e.party.goOn e.now (x.run phase) (x.run (.reading
        (x.session { c with readers := c.readers.join.2 } state)
        (.waiting c.readers.join.1))) } := h
  rw [he]
  refine ⟨{ c with readers := c.readers.join.2 }, .waiting c.readers.join.1, ?_⟩
  exact {
    run := rfl
    result := rfl
    control := ⟨hstream, hlimit, hc.writers, hc.complete⟩
    solo := by
      show c.readers.join.2.line = [c.readers.join.1]
      rw [Turns.line_join, hc.readers, List.nil_append]
    keeps := hkeeps.party _
    tight := (Frame.lawful_scan x.limit).tight_nil
    told := htold
    willing := fun hw => (hwilling hw).party _ }

/-- A side starts to send its setup message, or fails because that can not be framed. -/
theorem speaks_of_beginSending (hv : (Message.setup x.role x.sent).Valid) (hc : c.Idle)
    (hstream : c.stream = x.stream) (hlimit : c.limit = x.limit) (hkeeps : x.Keeps bytes e [])
    (htold : e.written x.role = []) (hwilling : willing → e.Willing x.role x.frame)
    (h : e.Follows (x.run phase) ((x.run phase).beginSending (x.session c state) e.link) e') :
    (Frame.Fits x.limit (.setup x.role x.sent) ∧
      ∃ c' call, x.Speaks state bytes willing e' c' call) ∨
    (¬ Frame.Fits x.limit (.setup x.role x.sent) ∧ ∃ f, e' = e.quit x.role f) := by
  have hid : c.stream = e.far.stream := hstream.trans hkeeps.stream.symm
  rw [← hlimit]
  by_cases hfits : Frame.Fits c.limit (.setup x.role x.sent)
  · have hsend : (x.session c state).send (.setup x.role x.sent) =
        .ok (.waiting c.writers.join.1 x.frame,
          x.session { c with writers := c.writers.join.2 } state) := Session.send_of_fits hv hfits
    have he : e' = { e with
        party := e.party.goOn e.now (x.run phase) (x.run (.sending
          (x.session { c with writers := c.writers.join.2 } state)
          (.waiting c.writers.join.1 x.frame))) } := by
      simp only [Handshake.Run.beginSending, run, hsend] at h
      exact h
    rw [he]
    refine .inl ⟨hfits, { c with writers := c.writers.join.2 },
      .waiting c.writers.join.1 x.frame, ?_⟩
    exact {
      run := rfl
      result := rfl
      control := ⟨hstream, hlimit, hc.readers⟩
      solo := by
        refine ⟨hc.complete, ?_⟩
        show c.writers.join.2.line = [c.writers.join.1]
        rw [Turns.line_join, hc.writers, List.nil_append]
      keeps := hkeeps.party _
      told := by
        show e.written x.role ++ x.frame = x.frame
        rw [htold, List.nil_append]
      willing := fun hw => (hwilling hw).party _ }
  · obtain ⟨err, herr⟩ := ControlStream.send_of_not_fits hv hfits
    have hsend : (x.session c state).send (.setup x.role x.sent) = .error err := by
      simp only [Session.send, session, herr]
      rfl
    simp only [Handshake.Run.beginSending, run, hsend] at h
    exact .inr ⟨hfits, _, Eq.trans h (quit_eq hid x.role _)⟩

end Briefing

/-! ## After the handshake -/

/-- The near side's handshake is over. -/
structure Interview.Ended (e : Interview) (outcome : Except Failure Session) : Prop where
  run : e.party.run = none
  result : e.party.result = some outcome
  stage : e.party.handshake.stage = (e.party.handshake.conclude outcome).stage
  length : e.far.stream < e.link.streams.length

namespace Interview

variable {x : Briefing} {e e' : Interview} {result : Except Failure Session}

theorem ended_finish (l : Link) (result : Except Failure Session)
    (h : e.far.stream < l.streams.length) :
    Ended { e with party := e.party.finish result, link := l } result := ⟨rfl, rfl, rfl, h⟩

theorem ended_quit {f : Failure} {r : Role} (h : e.far.stream < e.link.streams.length) :
    (e.quit r f).Ended (.error f) := by
  refine ended_finish _ _ ?_
  rwa [Link.length_streams_release]

/-- After the handshake only the far side and the clock go on. -/
theorem Ended.step (h : e.Ended result) (hs : e.Step x.role e') :
    e'.Ended result ∧ e'.written x.role = e.written x.role ∧
      ∀ rest, x.Keeps rest e [] → x.Keeps rest e' [] := by
  cases hs with
  | @far f l hfar =>
    have hlength : f.stream < l.streams.length := by
      rw [length_streams_far hfar, (far_keeps hfar).1]
      exact h.length
    exact ⟨⟨h.run, h.result, h.stage, hlength⟩, written_far h.length hfar, fun _ hk => hk.far hfar⟩
  | @clock now hnow hdeadline hrests =>
    exact ⟨⟨h.run, h.result, h.stage, h.length⟩, rfl, fun _ hk => hk.clock now⟩
  | @party p l hstep hwait =>
    rw [Party.step_of_none h.run] at hstep
    cases hstep

end Interview

end Scenario

end MediaOverQuic
