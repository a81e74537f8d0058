import Mathlib.Tactic
import MediaOverQuic.Proofs.Control.Payload
import MediaOverQuic.Proofs.Session.Mirror
import MediaOverQuic.Proofs.Session.OwnSetup
import MediaOverQuic.Proofs.Session.Verdict

/-!
# Honest sides establish a session

Two sides that may send what they send, in frames that both of them accept, always come to a session
each, in whatever order they take their steps. Each step leaves a side with less to do, and a side
only waits for what the other one still has to do: for bytes, or for room in a pipe that holds some.
So they never wait for each other, and the clock does not move.
-/
namespace MediaOverQuic

/-- A configuration that can be used caps messages, and gives time for everything. -/
theorem Config.bounds_of_check {c : Config} (h : c.check = .ok ()) :
    c.maxControlMessageLength ≤ maxMessageLength ∧ 0 < c.openStreamTimeout.nanos ∧
      0 < c.controlStreamTimeout.nanos ∧ 0 < c.controlMessageTimeout.nanos := by
  unfold check fault? at h
  split_ifs at h
  omega

namespace Scenario

namespace Encounter

/-- What happens to two sides: one of them takes a step, or, when neither of them can, the clock
jumps to when one of them stops waiting. -/
inductive Turn : Encounter → Encounter → Prop
  | party {e e' : Encounter} (r : Role) (h : partyStep r e = some e') : Turn e e'
  | tick {e e' : Encounter} (hstuck : ∀ r, partyStep r e = none) (h : tick e = some e') : Turn e e'

/-- Whether both sides have a session, and say so. -/
def Established (e : Encounter) : Prop :=
  ∀ r, ∃ s, (e.parties.get r).result = some (.ok s) ∧
    (e.parties.get r).handshake.stage = .established

end Encounter

/-- A party whose time is not up, that has not failed, and that is done if it has a session and says
so. -/
structure Party.Fine (now : Nat) (p : Party) : Prop where
  patient : ∀ run, p.run = some run → now < p.deadline
  unfailed : ∀ f, p.result ≠ some (.error f)
  ended : ∀ result, p.result = some result → p.run = none
  established : ∀ s, p.result = some (.ok s) → p.handshake.stage = .established

theorem Party.Fine.not_failed {now : Nat} {p : Party} (h : p.Fine now) : ¬ p.Failed :=
  fun ⟨_, f, hf⟩ => h.unfailed f hf

namespace Setting

/-- Whether both sides may send their setup messages and accept those of each other. -/
structure Honest (x : Setting) : Prop where
  valid : ∀ r, (x.setup r).Valid
  checked : ∀ r, (x.config.get r).check = .ok ()
  fits : ∀ r r', Frame.Fits (x.limit r') (x.setup r)
  silent : ∀ r, Handshake.silent r x.overlay = true → namesDestination (x.sent.get r) = false

/-- A connection that nobody has closed, and on which the control stream is open if it is there. -/
structure Sane (x : Setting) (l : Link) : Prop where
  overlay : l.overlay = x.overlay
  closing : l.closing = none
  isOpen : 0 < l.streams.length → ∀ r, (l.inbound 0 r).closed = false

/-- What a side lacks in a phase when it has to wait. -/
def Lacks (x : Setting) (r : Role) (l : Link) : Handshake.Phase → Prop
  | .opening _ => False
  | .accepting call =>
    call = .waiting .bidirectional ∧ (l.arrivals .bidirectional r).queue = []
  | .sending .. => (l.inbound 0 r.peer).buffer ≠ []
  | .reading _ call => (l.inbound 0 r).buffer = [] ∧ call.got ≠ Frame.wire (x.setup r.peer)

/-- How many bytes the setup message of a side has. -/
def size (x : Setting) (r : Role) : Nat := (Frame.wire (x.setup r)).length

/-- How much a side has to do from a phase on: turns to get, and bytes to write and to read. -/
def toDo (x : Setting) (r : Role) : Handshake.Phase → Nat
  | .opening _ | .accepting (.waiting _) => x.size r + x.size r.peer + 5
  | .accepting (.start _) => x.size r + x.size r.peer + 6
  -- a client reads after it has sent, a server sends after it has read
  | .sending _ call => call.work + 1 + match r with
    | .client => x.size r.peer + 2
    | .server => 0
  | .reading _ call => call.toStart + (x.size r.peer - call.got.length) + 1 + match r with
    | .client => 0
    | .server => x.size r + 2

theorem toDo_pos (x : Setting) (r : Role) (phase : Handshake.Phase) : 0 < x.toDo r phase := by
  unfold toDo
  split <;> omega

/-- What a step comes to that goes well: the side lacks something, or has less to do than before, or
has its session. -/
def GetsOn (x : Setting) (r : Role) (l : Link) (phase : Handshake.Phase) :
    Handshake.Run.Progress → Prop
  | .waits => x.Lacks r l phase
  | .goesOn (after, l') => x.Sane l' ∧
    ∃ phase', after = x.run r phase' ∧ x.toDo r phase' < x.toDo r phase
  | .ends (result, l') => x.Sane l' ∧ ∃ s, result = .ok s

/-- How much a side has to do until its handshake is over. -/
def work (x : Setting) (r : Role) (p : Party) : Nat :=
  p.run.elim 0 fun run => x.toDo r run.phase

/-- What is fixed for a side. -/
def side (x : Setting) (r : Role) : Briefing where
  role := r
  config := x.config.get r
  sent := x.sent.get r
  overlay := x.overlay
  stream := 0
  ends := false

variable {x : Setting} {r : Role} {l l' : Link} {c : ControlStream} {state : SessionState}
  {phase : Handshake.Phase} {now : Nat} {p p' : Party}

/-! ## Connections and parties that are well -/

theorem Sane.setInbound (h : x.Sane l) {q : Pipe} (hq : q.closed = (l.inbound 0 r).closed) :
    x.Sane (l.setInbound 0 r q) where
  overlay := h.overlay
  closing := h.closing
  isOpen := by
    intro hl r'
    rw [Link.length_streams_setInbound] at hl
    by_cases hr : r = r'
    · subst hr
      rw [Link.inbound_setInbound hl, hq]
      exact h.isOpen hl r
    · rw [Link.inbound_setInbound_ne (Ne.symm hr)]
      exact h.isOpen hl r'

theorem Sane.setArrivals (h : x.Sane l) (kind : StreamKind) (arrivals : Channel Nat) :
    x.Sane (l.setArrivals kind r arrivals) := by
  cases kind <;> exact ⟨h.overlay, h.closing, h.isOpen⟩

theorem sane_fresh (x : Setting) (maxStreams : Nat) : x.Sane (.fresh x.overlay maxStreams) where
  overlay := rfl
  closing := rfl
  isOpen hl := absurd hl (lt_irrefl 0)

/-- A configuration that can be used gives time for everything. -/
theorem limit_pos (h : x.Honest) (r : Role) (phase : Handshake.Phase) :
    0 < (x.run r phase).limit.nanos := by
  obtain ⟨-, hopening, haccepting, hmessage⟩ := Config.bounds_of_check (h.checked r)
  cases phase <;> assumption

theorem fine_goOn (h : x.Honest) (hp : p.Fine now) {run : Handshake.Run} (hrun : p.run = some run)
    (phase : Handshake.Phase) : (p.goOn now run (x.run r phase)).Fine now where
  patient := by
    intro after hafter
    have hlimit := limit_pos h r phase
    have hpatient := hp.patient run hrun
    show now < nextDeadline now p.deadline run (x.run r phase)
    unfold nextDeadline
    split_ifs <;> omega
  unfailed := by simp [Party.goOn]
  ended := by simp [Party.goOn]
  established := by simp [Party.goOn]

theorem fine_finish (s : Session) : (p.finish (.ok s)).Fine now where
  patient := by simp [Party.finish]
  unfailed := by simp [Party.finish]
  ended _ _ := rfl
  established := by simp [Party.finish, Handshake.conclude]

/-- A party whose run gets on is as well as before, and has less to do. -/
theorem fine_of_getsOn (h : x.Honest) (hp : p.Fine now) (hrun : p.run = some (x.run r phase))
    (hgets : x.GetsOn r l phase ((x.run r phase).step .stream l))
    (hs : p.step now l = some (p', l')) :
    x.Sane l' ∧ p'.Fine now ∧ x.work r p' < x.work r p := by
  have hwork : x.work r p = x.toDo r phase := by simp [work, hrun, run]
  rw [hwork]
  cases Party.moves_of_step hrun hs with
  | goesOn hstep =>
    rw [hstep] at hgets
    obtain ⟨hsane, phase', rfl, hless⟩ := hgets
    exact ⟨hsane, fine_goOn h hp hrun phase', hless⟩
  | ends hstep =>
    rw [hstep] at hgets
    obtain ⟨hsane, s, rfl⟩ := hgets
    exact ⟨hsane, fine_finish s, toDo_pos x r phase⟩
  | expires hstep hlate => exact absurd (hp.patient _ hrun) (Nat.not_lt.mpr hlate)

/-- A party that can not take a step has to wait. -/
theorem lacks_of_none (hrun : p.run = some (x.run r phase))
    (hgets : x.GetsOn r l phase ((x.run r phase).step .stream l)) (hs : p.step now l = none) :
    x.Lacks r l phase := by
  rw [(Party.waits_of_none hrun hs).1] at hgets
  exact hgets

/-! ## Steps that go well -/

/-- A setup message that fits is sent. -/
theorem beginSending_eq (h : x.Honest) (hlimit : c.limit = x.limit r) :
    (x.run r phase).beginSending (x.session r c state) l =
      .goesOn (x.run r (.sending (x.session r { c with writers := c.writers.join.2 } state)
        (.waiting c.writers.join.1 (Frame.wire (x.setup r)))), l) := by
  have hfits : Frame.Fits c.limit (x.setup r) := by
    rw [hlimit]
    exact h.fits r r
  have hsend : (x.session r c state).send (x.setup r) =
      .ok (.waiting c.writers.join.1 (Frame.wire (x.setup r)),
        x.session r { c with writers := c.writers.join.2 } state) :=
    Session.send_of_fits (h.valid r) hfits
  have hsetup : (Message.setup (x.run r phase).role (x.run r phase).params) = x.setup r := rfl
  simp only [Handshake.Run.beginSending, hsetup, hsend]
  rfl

/-- A client that may open a stream opens the control stream and starts to send. -/
theorem getsOn_opening (h : x.Honest) {maxStreams : Nat} (hstreams : 1 ≤ maxStreams) :
    x.GetsOn .client (.fresh x.overlay maxStreams) (.opening (.start .bidirectional))
      ((x.run .client (.opening (.start .bidirectional))).step .stream
        (.fresh x.overlay maxStreams)) := by
  obtain ⟨n, rfl⟩ : ∃ n, maxStreams = n + 1 := ⟨maxStreams - 1, by omega⟩
  have hbegin (l : Link) := @beginSending_eq x .client l (.fresh 0 (x.limit .client))
    ((x.initial .client).applyAllLocal (x.sent.get .client)) (.opening (.start .bidirectional)) h rfl
  have hstep : (x.run .client (.opening (.start .bidirectional))).step .stream
      (.fresh x.overlay (n + 1)) = (x.run .client (.opening (.start .bidirectional))).beginSending
        (x.session .client (.fresh 0 (x.limit .client))
          ((x.initial .client).applyAllLocal (x.sent.get .client))) _ := rfl
  rw [hstep, hbegin]
  refine ⟨⟨rfl, rfl, fun _ r => by cases r <;> rfl⟩, _, rfl, ?_⟩
  simp only [toDo, Sending.work_waiting, size]
  omega

/-- A server gets the control stream, or waits because it is not there yet. -/
theorem getsOn_accepting (hsane : x.Sane l) {call : Accepting}
    (hcall : call = .start .bidirectional ∨ call = .waiting .bidirectional)
    (hheld : (l.arrivals .bidirectional .server).queue = [] → l.held.get .client = true) :
    x.GetsOn .server l (.accepting call) ((x.run .server (.accepting call)).step .stream l) := by
  have hclosed : l.isClosed = false := by simp [Link.isClosed, hsane.closing]
  rcases hcall with rfl | rfl
  · have hstart : (Accepting.start .bidirectional).step .server .stream l =
        .goesOn (.waiting .bidirectional, l) := by
      simp [Accepting.step, hclosed]
    have hstep : (x.run .server (.accepting (.start .bidirectional))).step .stream l =
        .goesOn (x.run .server (.accepting (.waiting .bidirectional)), l) := by
      simp only [Handshake.Run.step, run, hstart]
    rw [hstep]
    exact ⟨hsane, _, rfl, Nat.lt_succ_self _⟩
  · cases htake : (l.arrivals .bidirectional .server).take? with
    | none =>
      have hqueue := (Channel.take?_eq_none_iff _).mp htake
      have hpeer : l.held.get Role.server.peer = true := hheld hqueue
      have hwait : (Accepting.waiting .bidirectional).step .server .stream l = .waits := by
        simp [Accepting.step, hclosed, htake, hpeer]
      have hstep : (x.run .server (.accepting (.waiting .bidirectional))).step .stream l =
          .waits := by
        simp only [Handshake.Run.step, run, hwait]
      rw [hstep]
      exact ⟨rfl, hqueue⟩
    | some taken =>
      obtain ⟨id, rest⟩ := taken
      have htaken : (Accepting.waiting .bidirectional).step .server .stream l =
          .ends (.ok id, l.setArrivals .bidirectional .server rest) := by
        simp [Accepting.step, hclosed, htake]
      have hstep : (x.run .server (.accepting (.waiting .bidirectional))).step .stream l =
          .goesOn (x.run .server (.reading (x.session .server (.fresh id (x.limit .server))
            (x.initial .server)).receive.2 (.waiting 0)),
            l.setArrivals .bidirectional .server rest) := by
        simp only [Handshake.Run.step, run, htaken]
        rfl
      rw [hstep]
      refine ⟨hsane.setArrivals _ _, _, rfl, ?_⟩
      simp only [toDo, Receiving.toStart, Receiving.got, List.length_nil]
      omega

theorem run_step_sending (hstream : c.stream = 0) (call : Sending) :
    (x.run r (.sending (x.session r c state) call)).step .stream l =
      (x.side r).sendingOn state (x.run r (.sending (x.session r c state) call)) 0 l
        (call.step c (l.inbound 0 r.peer)) :=
  (x.side r).run_step_sending state hstream call l

theorem run_step_reading (hstream : c.stream = 0) (call : Receiving) :
    (x.run r (.reading (x.session r c state) call)).step .stream l =
      (x.side r).readingOn state (x.run r (.reading (x.session r c state) call)) 0 l
        (call.step c (l.inbound 0 r)) :=
  (x.side r).run_step_reading state hstream call l

/-- A side writes on, or has written its setup message, or waits because the pipe is full. -/
theorem getsOn_sending (hsane : x.Sane l) (hl : 0 < l.streams.length) {call : Sending}
    (hstream : c.stream = 0) (hsolo : call.Solo c) :
    x.GetsOn r l (.sending (x.session r c state) call)
      ((x.run r (.sending (x.session r c state) call)).step .stream l) := by
  rw [run_step_sending hstream]
  rcases hsolo.step_cases (l.inbound 0 r.peer) with
    ⟨call', c', q, chunk, hgo, -, hwork, -, -, -, -, -, hclosed⟩ | ⟨-, hends⟩ |
    ⟨-, hclosed, -⟩ | ⟨-, -, hroom, hwaits⟩
  · rw [hgo]
    refine ⟨hsane.setInbound hclosed, _, rfl, ?_⟩
    simp only [toDo]
    omega
  · rw [hends]
    have hsane' := hsane.setInbound (r := r.peer) (q := l.inbound 0 r.peer) rfl
    cases r with
    | client =>
      refine ⟨hsane', _, rfl, ?_⟩
      simp only [toDo, Receiving.toStart, Receiving.got]
      omega
    | server => exact ⟨hsane', _, rfl⟩
  · exact absurd ((hsane.isOpen hl r.peer).symm.trans hclosed) (by decide)
  · rw [hwaits]
    intro hnil
    simp [Pipe.room, hnil, Pipe.capacity] at hroom

/-- From the first part of a frame that fits nothing is read but the message that was framed. -/
theorem eq_of_scan (h : x.Honest) {read : Bytes} (hread : read <+: Frame.wire (x.setup r.peer))
    {result : Except Error Message} {rest : Bytes}
    (hscan : Frame.scan (x.limit r) read = .ready (result, rest)) :
    result = .ok (x.setup r.peer) := by
  obtain ⟨more, hmore⟩ := hread
  have hall := (Frame.lawful_scan (x.limit r)).steady hscan more
  have hwire := Frame.scan_wire_of_fits (h.valid r.peer) (h.fits r.peer r) []
  rw [hmore, ← List.append_nil (Frame.wire _), hwire] at hall
  obtain ⟨rfl, -⟩ := by simpa using hall
  rfl

/-- The peer's setup message is accepted. -/
theorem accept_setup (h : x.Honest) (hsane : x.Sane l) :
    Handshake.accept r l.overlay (x.setup r.peer) = .ok (x.sent.get r.peer) := by
  refine Handshake.accept_eq_ok_iff.mpr ⟨rfl, ?_⟩
  have hbars : Handshake.bars r l.overlay = Handshake.silent r.peer x.overlay := by
    rw [hsane.overlay]
    cases r <;> rfl
  rw [hbars]
  exact h.silent r.peer

/-- A side that has read its peer's setup message has its session, or starts to send. -/
theorem getsOn_afterReading (h : x.Honest) (hsane : x.Sane l') (hlimit : c.limit = x.limit r)
    (s : Session) (call : Receiving) :
    x.GetsOn r l (.reading s call)
      ((x.run r (.reading s call)).afterReading (x.setup r.peer) (x.session r c state) l') := by
  have hafter := Handshake.Run.afterReading_of_accepted (x.run r (.reading s call))
    (x.session r c state) (accept_setup (r := r) h hsane)
  cases r with
  | client =>
    rw [hafter]
    exact ⟨hsane, _, rfl⟩
  | server =>
    have hbegin : (x.run .server (.reading s call)).beginSending
        (x.session .server c (state.applyAllPeer (x.sent.get .client))) l' = _ :=
      beginSending_eq h hlimit
    rw [hafter.trans hbegin]
    refine ⟨hsane, _, rfl, ?_⟩
    simp only [toDo, Sending.work_waiting, size]
    omega

/-- A side reads on, or has read its peer's setup message, or waits because nothing has arrived. -/
theorem getsOn_reading (h : x.Honest) (hsane : x.Sane l) (hl : 0 < l.streams.length)
    {call : Receiving} (hstream : c.stream = 0) (hlimit : c.limit = x.limit r)
    (hsolo : call.Solo c)
    (hread : call.got ++ (l.inbound 0 r).buffer <+: Frame.wire (x.setup r.peer)) :
    x.GetsOn r l (.reading (x.session r c state) call)
      ((x.run r (.reading (x.session r c state) call)).step .stream l) := by
  have hgot : call.got <+: Frame.wire (x.setup r.peer) := (List.prefix_append _ _).trans hread
  have hcases := hsolo.step_cases (l.inbound 0 r)
  rw [run_step_reading hstream]
  rw [hlimit] at hcases
  rcases hcases with ⟨call', q, chunk, hgo, -, hless, hchunk, hbuffer, hclosed, -⟩ |
    ⟨result, rest, hscan, hends⟩ | ⟨count, atEnd, -, -, hclosed, -⟩ |
    ⟨count, atEnd, hscan, hbuffer, -, hwaits⟩
  · rw [hgo]
    refine ⟨hsane.setInbound hclosed, _, rfl, ?_⟩
    have hsize := hread.length_le
    rw [hbuffer, List.length_append, List.length_append] at hsize
    rw [hbuffer, List.length_append] at hless
    simp only [toDo, size, hchunk, List.length_append]
    omega
  · obtain rfl := eq_of_scan h hgot hscan
    rw [hends]
    have hlimit' : (call.leave c).limit = x.limit r := hlimit
    exact getsOn_afterReading h (hsane.setInbound rfl) hlimit' _ _
  · exact absurd ((hsane.isOpen hl r).symm.trans hclosed) (by decide)
  · rw [hwaits]
    refine ⟨hbuffer, fun hall => ?_⟩
    have hwire := Frame.scan_wire_of_fits (h.valid r.peer) (h.fits r.peer r) []
    rw [List.append_nil, ← hall, hscan] at hwire
    cases hwire

/-! ## Both sides -/

/-- Whether a party that still runs its handshake gets on with it. -/
def Prospers (x : Setting) (r : Role) (p : Party) (l : Link) : Prop :=
  ∀ run, p.run = some run → ∃ phase, run = x.run r phase ∧ x.GetsOn r l phase (run.step .stream l)

theorem prospers_of_run (hrun : p.run = some (x.run r phase))
    (hgets : x.GetsOn r l phase ((x.run r phase).step .stream l)) : x.Prospers r p l := by
  intro run hp
  obtain rfl := Option.some.inj (hrun.symm.trans hp)
  exact ⟨phase, rfl, hgets⟩

theorem prospers_of_none (hrun : p.run = none) : x.Prospers r p l := by
  intro run hp
  cases hrun.symm.trans hp

theorem Prospers.lacks (h : x.Prospers r p l) (hs : p.step now l = none)
    (hrun : p.run = some (x.run r phase)) : x.Lacks r l phase := by
  obtain ⟨phase', heq, hgets⟩ := h _ hrun
  obtain rfl : phase = phase' := congrArg Handshake.Run.phase heq
  exact lacks_of_none hrun hgets hs

theorem solo_speaking {limit : Nat} {readers : Turns} {call : Sending} (ht : call.ticket = 0) :
    call.Solo (.speaking limit call.hasTurn readers) := by
  refine ⟨rfl, ?_⟩
  rw [ht]
  rfl

theorem solo_listening {limit : Nat} {writers : Turns} {call : Receiving} (ht : call.ticket = 0) :
    call.Solo (.listening limit writers) := by
  unfold Receiving.Solo
  rw [ht]
  rfl

variable {maxStreams : Nat} {e e' : Encounter} {unsent got toCome given : Bytes}
  {arrivals : Channel Nat}

/-- What a server has sent that has not failed is a part of its setup message. -/
theorem ServerAt.given_isPrefix (h : x.ServerAt p arrivals toCome given) (hf : ¬ p.Failed) :
    given <+: Frame.wire (x.setup .server) := by
  cases h with
  | accepting => exact List.nil_prefix
  | reading => exact List.nil_prefix
  | sending ht hturn hp hr hfits hw => exact ⟨_, hw⟩
  | done => exact List.prefix_rfl
  | gone hgone => exact absurd hgone hf

theorem ClientAt.prospers (h : x.Honest) (hsane : x.Sane l) (hl : 0 < l.streams.length)
    (hc : x.ClientAt p unsent got)
    (hread : got ++ (l.inbound 0 .client).buffer <+: Frame.wire (x.setup .server)) :
    x.Prospers .client p l := by
  cases hc with
  | sending ht hp => exact prospers_of_run hp (getsOn_sending hsane hl rfl (solo_speaking ht))
  | reading ht hp =>
    exact prospers_of_run hp (getsOn_reading h hsane hl rfl rfl (solo_listening ht) hread)
  | done hp => exact prospers_of_none hp

theorem Serves.prospers (h : x.Honest) (hsane : x.Sane l) (hl : 0 < l.streams.length)
    (hs : x.Serves p l unsent got) : x.Prospers .server p l := by
  unfold Serves at hs
  generalize hup : (l.inbound 0 .server).buffer ++ unsent = toCome at hs
  generalize got ++ (l.inbound 0 .client).buffer = given at hs
  cases hs with
  | accepting hcall hqueue hp =>
    refine prospers_of_run hp (getsOn_accepting hsane hcall ?_)
    rw [hqueue]
    intro hnil
    cases hnil
  | reading ht hp hr hw =>
    refine prospers_of_run hp (getsOn_reading h hsane hl rfl rfl (solo_listening ht) ?_)
    rw [← hup, ← List.append_assoc] at hw
    exact ⟨_, hw⟩
  | sending ht hturn hp => exact prospers_of_run hp (getsOn_sending hsane hl rfl (solo_speaking ht))
  | done hp => exact prospers_of_none hp
  | gone hf => exact prospers_of_none hf.1

/-- What always holds of two honest sides. -/
structure Thrives (x : Setting) (maxStreams : Nat) (e : Encounter) : Prop where
  now : e.now = 0
  sane : x.Sane e.link
  fine : ∀ r, (e.parties.get r).Fine e.now
  sound : x.Opening maxStreams e ∨ ∃ unsent got, x.Talking e unsent got

theorem Thrives.prospers (h : x.Honest) (hstreams : 1 ≤ maxStreams)
    (ht : x.Thrives maxStreams e) (r : Role) : x.Prospers r (e.parties.get r) e.link := by
  obtain ⟨-, hsane, hfine, ho | ⟨unsent, got, htalk⟩⟩ := ht
  · cases r with
    | client =>
      refine prospers_of_run ho.client.1 ?_
      rw [ho.link]
      exact getsOn_opening h hstreams
    | server =>
      rcases ho.server with ⟨call, hcall, hp, -⟩ | hf
      · refine prospers_of_run hp (getsOn_accepting hsane hcall fun _ => ?_)
        rw [ho.link]
        rfl
      · exact absurd hf (hfine .server).not_failed
  · have hl : 0 < e.link.streams.length := by
      rw [htalk.length]
      exact Nat.one_pos
    cases r with
    | client =>
      exact htalk.client.prospers h hsane hl
        (htalk.server.given_isPrefix (hfine .server).not_failed)
    | server => exact htalk.server.prospers h hsane hl

/-- How much both sides have to do. -/
def rank (x : Setting) (e : Encounter) : Nat :=
  x.work .client e.parties.client + x.work .server e.parties.server

theorem rank_set (r : Role) (p : Party) (l : Link)
    (hless : x.work r p < x.work r (e.parties.get r)) :
    x.rank { e with parties := e.parties.set r p, link := l } < x.rank e := by
  cases r with
  | client => exact Nat.add_lt_add_right hless _
  | server => exact Nat.add_lt_add_left hless _

/-- A step of one of two honest sides leaves both as well as before, with less to do. -/
theorem Thrives.step (h : x.Honest) (hstreams : 1 ≤ maxStreams) (ht : x.Thrives maxStreams e)
    {r : Role} (hs : Encounter.partyStep r e = some e') :
    x.Thrives maxStreams e' ∧ x.rank e' < x.rank e := by
  have hsound := Sound.step h.valid (.inr ht.sound) (.party r hs)
  obtain ⟨p, l, hstep, rfl⟩ := partyStep_eq_some hs
  cases hrun : (e.parties.get r).run with
  | none =>
    rw [Party.step_of_none hrun] at hstep
    cases hstep
  | some run =>
    obtain ⟨phase, rfl, hgets⟩ := ht.prospers h hstreams r run hrun
    obtain ⟨hsane, hfine, hless⟩ := fine_of_getsOn h (ht.fine r) hrun hgets hstep
    have hboth : ∀ r', ((e.parties.set r p).get r').Fine e.now := by
      intro r'
      have hsame := ht.fine r'
      cases r <;> cases r' <;> assumption
    refine ⟨⟨ht.now, hsane, hboth, hsound.resolve_left (hboth .client).not_failed⟩, ?_⟩
    exact rank_set r p l hless

/-- A server that can not take a step has read all that was sent to it. It waits for more, or for
room, or is done. -/
theorem Serves.stuck (hs : x.Serves p l unsent got) (hf : ¬ p.Failed)
    (hlacks : ∀ phase, p.run = some (x.run .server phase) → x.Lacks .server l phase) :
    (l.inbound 0 .server).buffer = [] ∧
      (unsent ≠ [] ∨ (l.inbound 0 .client).buffer ≠ [] ∨
        (got ++ (l.inbound 0 .client).buffer = Frame.wire (x.setup .server) ∧
          ∃ s, p.result = some (.ok s))) := by
  unfold Serves at hs
  generalize hup : (l.inbound 0 .server).buffer ++ unsent = toCome at hs
  generalize hdown : got ++ (l.inbound 0 .client).buffer = given at hs
  cases hs with
  | accepting hcall hqueue hp =>
    obtain ⟨-, hnil⟩ := hlacks _ hp
    cases hqueue.symm.trans hnil
  | reading ht hp hr hw =>
    obtain ⟨hnil, hne⟩ := hlacks _ hp
    refine ⟨hnil, .inl fun hall => hne ?_⟩
    rwa [← hup, hnil, hall, List.append_nil, List.append_nil] at hw
  | sending ht hturn hp =>
    obtain ⟨hnil, -⟩ := List.append_eq_nil_iff.mp hup
    exact ⟨hnil, .inr (.inl (hlacks _ hp))⟩
  | done hp hr =>
    obtain ⟨hnil, -⟩ := List.append_eq_nil_iff.mp hup
    exact ⟨hnil, .inr (.inr ⟨rfl, _, hr⟩)⟩
  | gone hgone => exact absurd hgone hf

/-- Two honest sides never wait for each other. -/
theorem Thrives.moves (h : x.Honest) (hstreams : 1 ≤ maxStreams) (ht : x.Thrives maxStreams e) :
    e.Established ∨ ∃ r e', Encounter.partyStep r e = some e' := by
  by_contra hno
  obtain ⟨hnot, hstuck⟩ := not_or.mp hno
  have hlacks : ∀ r phase, (e.parties.get r).run = some (x.run r phase) →
      x.Lacks r e.link phase := by
    intro r phase
    have hnone : (e.parties.get r).step e.now e.link = none := by
      refine Option.eq_none_iff_forall_not_mem.mpr fun moved hmoved => ?_
      exact hstuck ⟨r, _, Option.map_eq_some_iff.mpr ⟨moved, hmoved, rfl⟩⟩
    exact (ht.prospers h hstreams r).lacks hnone
  rcases ht.sound with ho | ⟨unsent, got, htalk⟩
  · exact hlacks .client _ ho.client.1
  obtain ⟨hup, hserver⟩ :=
    htalk.server.stuck (ht.fine .server).not_failed (hlacks .server)
  cases htalk.client with
  -- a client that writes waits for room, but the server has read everything
  | sending hticket hp => exact hlacks .client _ hp hup
  -- a client that reads waits for bytes, but the server has written all or waits for room
  | reading hticket hp =>
    obtain ⟨hdown, hne⟩ := hlacks .client _ hp
    rcases hserver with hunsent | hfull | ⟨hall, -⟩
    · exact hunsent rfl
    · exact hfull hdown
    · rw [hdown, List.append_nil] at hall
      exact hne hall
  | done hp hr =>
    obtain ⟨-, hempty, -⟩ := htalk.agree h.valid hr
    rcases hserver with hunsent | hfull | ⟨-, s, hs⟩
    · exact hunsent rfl
    · exact hfull (hempty .client)
    · refine hnot fun r => ?_
      cases r with
      | client => exact ⟨_, hr, (ht.fine .client).established _ hr⟩
      | server => exact ⟨s, hs, (ht.fine .server).established s hs⟩

/-! ## From the start -/

variable {overlay : Bool} {config : PerRole Config} {given : PerRole (List KeyValuePair)}

theorem sent_of_outgoing {sent : List KeyValuePair}
    (h : Handshake.outgoing r (config.get r) overlay (given.get r) = .ok sent) :
    (ofGiven overlay config given).sent.get r = sent := by
  rw [sent_ofGiven, h]

theorem fine_start (h : (ofGiven overlay config given).Honest) (maxStreams : Nat)
    {sent : List KeyValuePair}
    (hout : Handshake.outgoing r (config.get r) overlay (given.get r) = .ok sent) :
    ((Encounter.start (.fresh overlay maxStreams) config given).parties.get r).Fine 0 := by
  obtain ⟨-, hresult⟩ := run_start maxStreams hout
  have hlimit : 0 < (Handshake.Run.limit ⟨r, config.get r, sent, Handshake.firstPhase r⟩).nanos :=
    limit_pos h r (Handshake.firstPhase r)
  refine ⟨?_, by simp [hresult], by simp [hresult], by simp [hresult]⟩
  rw [parties_start]
  simpa [Party.begin, Handshake.begin, Handshake.start, hout] using hlimit

theorem thrives_start (h : (ofGiven overlay config given).Honest) (maxStreams : Nat)
    {sent : Role → List KeyValuePair}
    (hout : ∀ r, Handshake.outgoing r (config.get r) overlay (given.get r) = .ok (sent r)) :
    (ofGiven overlay config given).Thrives maxStreams
      (Encounter.start (.fresh overlay maxStreams) config given) where
  now := rfl
  sane := sane_fresh (ofGiven overlay config given) maxStreams
  fine r := fine_start h maxStreams (hout r)
  sound := (sound_start overlay maxStreams config given).resolve_left
    (fine_start h maxStreams (hout .client)).not_failed

/-- Parameters that may be sent and that fit make both sides honest. -/
theorem honest_ofGiven (hv : ∀ r, ∀ p ∈ given.get r, p.Valid)
    (hchecked : ∀ r, (config.get r).check = .ok ())
    (hout : ∀ r, Handshake.outgoing r (config.get r) overlay (given.get r) =
      .ok (Handshake.augmented (config.get r) (given.get r)))
    (hfits : ∀ r, ∃ payload,
      (Message.setup r (Handshake.augmented (config.get r) (given.get r))).encodePayload.complete =
        .ok payload ∧ ∀ r', payload.length ≤ (config.get r').maxControlMessageLength) :
    (ofGiven overlay config given).Honest where
  valid := valid_ofGiven hv
  checked := hchecked
  fits := by
    intro r r'
    have hvalid : ((ofGiven overlay config given).setup r).Valid := valid_ofGiven hv r
    obtain ⟨payload, hpayload, hlength⟩ := hfits r
    rw [setup, sent_of_outgoing (hout r)] at hvalid ⊢
    obtain ⟨hnumber, rfl⟩ := (Message.complete_encodePayload_eq_ok_iff hvalid).mp hpayload
    have hcap := (Config.bounds_of_check (hchecked r')).1
    have hmax : Config.maxMessageLength ≤ Varint.max := by decide
    exact ⟨hnumber, le_min (hlength r') ((hlength r').trans (hcap.trans hmax))⟩
  silent := by
    intro r hsilent
    rw [sent_of_outgoing (hout r), Handshake.namesDestination_augmented]
    exact (Handshake.outgoing_eq_ok_iff.mp (hout r)).1 hsilent

end Setting

/-! ## Results -/

namespace Encounter

variable {e e' : Encounter}

/-- Whether two sides are out of trouble: both have their sessions or one can take a step, and
nobody has failed, nor has the clock moved to when somebody stops waiting. -/
structure Untroubled (e : Encounter) : Prop where
  moves : e.Established ∨ ∃ r e', partyStep r e = some e'
  now : e.now = 0
  fine : ∀ r, (e.parties.get r).Fine e.now

/-- When both sides are done nobody waits for the clock. -/
theorem tick_eq_none (h : e.Established) (hfine : ∀ r, (e.parties.get r).Fine e.now) :
    tick e = none := by
  have halarm : ∀ r, (e.parties.get r).alarm = none := by
    intro r
    obtain ⟨s, hs, -⟩ := h r
    simp [Party.alarm, (hfine r).ended _ hs]
  have hclient : e.parties.client.alarm = none := halarm .client
  have hserver : e.parties.server.alarm = none := halarm .server
  simp [tick, nextMoment, hclient, hserver]

end Encounter

namespace Setting

variable {x : Setting} {maxStreams : Nat} {e e' : Encounter}

/-- The clock has no turn while two honest sides run their handshakes, nor after that. -/
theorem Thrives.turn (h : x.Honest) (hstreams : 1 ≤ maxStreams) (ht : x.Thrives maxStreams e)
    (hturn : Encounter.Turn e e') : x.Thrives maxStreams e' ∧ x.rank e' < x.rank e := by
  cases hturn with
  | party r hs => exact ht.step h hstreams hs
  | tick hstuck hs =>
    rcases ht.moves h hstreams with hdone | ⟨r, e'', hmove⟩
    · cases (Encounter.tick_eq_none hdone ht.fine).symm.trans hs
    · cases (hstuck r).symm.trans hmove

theorem Thrives.run (h : x.Honest) (hstreams : 1 ≤ maxStreams) (ht : x.Thrives maxStreams e)
    (hr : Relation.ReflTransGen Encounter.Turn e e') : x.Thrives maxStreams e' := by
  induction hr with
  | refl => exact ht
  | tail _ hturn ih => exact (ih.turn h hstreams hturn).1

/-- Two honest sides come to a session each, whatever the order of their steps. -/
theorem Thrives.eventually (h : x.Honest) (hstreams : 1 ≤ maxStreams)
    (ht : x.Thrives maxStreams e) : Eventually Encounter.Turn Encounter.Established e := by
  by_cases hdone : e.Established
  · exact .now hdone
  refine .of_rank (I := fun e => x.Thrives maxStreams e ∧ ¬ e.Established) x.rank ?_ ?_ ⟨ht, hdone⟩
  · rintro e ⟨ht, hnot⟩
    obtain ⟨r, e', hs⟩ := (ht.moves h hstreams).resolve_left hnot
    exact ⟨e', .party r hs⟩
  · rintro e e' ⟨ht, -⟩ hturn
    obtain ⟨ht', hless⟩ := ht.turn h hstreams hturn
    by_cases hdone : e'.Established
    · exact .inl hdone
    · exact .inr ⟨⟨ht', hdone⟩, hless⟩

end Setting

/-- Two sides with configurations that can be used, whose parameters name no destination where they
must not and whose limits can be written, come to a session each on a connection of their own, when
the setup message of each is no longer than either of them accepts. They do so in every order of
their steps; they never wait for each other, and no time passes. -/
theorem honest_sides_establish {overlay : Bool} {maxStreams : Nat} {config : PerRole Config}
    {given : PerRole (List KeyValuePair)} (hv : ∀ r, ∀ p ∈ given.get r, p.Valid)
    (hchecked : ∀ r, (config.get r).check = .ok ()) (hstreams : 1 ≤ maxStreams)
    (hoverlay : overlay = true → namesDestination given.client = false)
    (hserver : namesDestination given.server = false)
    (hlimits : ∀ r, Handshake.LimitsFit (config.get r) (given.get r))
    (hfits : ∀ r, ∃ payload,
      (Message.setup r (Handshake.augmented (config.get r) (given.get r))).encodePayload.complete =
        .ok payload ∧ ∀ r', payload.length ≤ (config.get r').maxControlMessageLength) :
    let start := Encounter.start (.fresh overlay maxStreams) config given
    Eventually Encounter.Turn Encounter.Established start ∧
      ∀ e, Relation.ReflTransGen Encounter.Turn start e → e.Untroubled := by
  have hout : ∀ r, Handshake.outgoing r (config.get r) overlay (given.get r) =
      .ok (Handshake.augmented (config.get r) (given.get r)) := by
    intro r
    refine Handshake.outgoing_eq_ok_iff.mpr ⟨?_, hlimits r, rfl⟩
    cases r with
    | client => exact hoverlay
    | server => exact fun _ => hserver
  have hhonest := Setting.honest_ofGiven hv hchecked hout hfits
  have hstart := Setting.thrives_start hhonest maxStreams hout
  refine ⟨hstart.eventually hhonest hstreams, fun e hrun => ?_⟩
  have ht := hstart.run hhonest hstreams hrun
  exact ⟨ht.moves hhonest hstreams, ht.now, ht.fine⟩

/-- A client whose setup message is as long as both sides accept with the standard configuration,
since it says at length what its implementation is. The frame does not fit into a pipe. -/
def wordy : PerRole (List KeyValuePair) := ⟨[⟨0x07, .bytes (List.replicate 65526 97)⟩], []⟩

theorem honest_sides_establish_wordy :
    Pipe.capacity < (Frame.wire (.setup .client
      (Handshake.augmented .standard wordy.client))).length ∧
    let start := Encounter.start (.fresh true 1) (.both .standard) wordy
    Eventually Encounter.Turn Encounter.Established start ∧
      ∀ e, Relation.ReflTransGen Encounter.Turn start e → e.Untroubled := by
  have hv : ∀ r, ∀ p ∈ wordy.get r, p.Valid := by
    intro r
    cases r with
    | client =>
      intro p hp
      obtain rfl := List.mem_singleton.mp hp
      refine (KeyValuePair.valid_bytes_iff _ _).mpr ⟨by decide, by decide, ?_⟩
      rw [List.length_replicate]
      decide
    | server =>
      intro p hp
      cases hp
  have hlimits : ∀ r, Handshake.LimitsFit .standard (wordy.get r) :=
    fun r => ⟨fun _ => by decide, fun _ => by decide⟩
  have hclient : Handshake.augmented .standard wordy.client =
      [⟨0x07, .bytes (List.replicate 65526 97)⟩, ⟨0x02, .int 1000⟩] := rfl
  have hlength (text : Bytes) (htext : text.length = 65526) :
      (Message.setup .client [⟨0x07, .bytes text⟩, ⟨0x02, .int 1000⟩]).payload.length = 65535 := by
    simp [Message.setup, Message.payload, KeyValuePair.wireAll, KeyValuePair.wire, Varint.width,
      htext]
  have hsize : (Message.setup .client
      (Handshake.augmented .standard wordy.client)).payload.length = 65535 := by
    rw [hclient]
    exact hlength _ List.length_replicate
  have hpayload : ∀ r, (Message.setup r
      (Handshake.augmented .standard (wordy.get r))).encodePayload.complete =
        .ok (Message.setup r (Handshake.augmented .standard (wordy.get r))).payload := by
    intro r
    have hvalid := Handshake.valid_setup r (Handshake.valid_augmented (hlimits r) (hv r))
    cases r with
    | client => exact (Message.complete_encodePayload_eq_ok_iff hvalid).mpr ⟨by decide, rfl⟩
    | server => exact (Message.complete_encodePayload_eq_ok_iff hvalid).mpr ⟨by decide, rfl⟩
  have hshort : ∀ r, (Message.setup r
      (Handshake.augmented .standard (wordy.get r))).payload.length ≤ 65535 := by
    intro r
    cases r with
    | client => exact hsize.le
    | server => decide
  refine ⟨?_, honest_sides_establish hv ?_ le_rfl (fun _ => rfl) rfl ?_ ?_⟩
  · rw [Frame.wire, List.length_append, List.length_append, hsize]
    decide
  · intro r
    rw [PerRole.get_both]
    rfl
  · intro r
    rw [PerRole.get_both]
    exact hlimits r
  · intro r
    rw [PerRole.get_both]
    refine ⟨_, hpayload r, fun r' => ?_⟩
    rw [PerRole.get_both]
    exact hshort r

end Scenario

end MediaOverQuic
