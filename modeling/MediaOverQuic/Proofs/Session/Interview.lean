import Mathlib.Tactic
import MediaOverQuic.Proofs.Transport.Ends
import MediaOverQuic.Proofs.Transport.Link
import MediaOverQuic.Scenario.Party

/-!
# A handshake and any far side

On the far side of the control stream somebody puts bytes on the stream, in whatever pieces there is
room for, takes some of what arrives, and in the end stays, ends its direction of the stream, or
goes. What the bytes are is up to it. The near side runs its handshake. Which side goes next is left
open, and time may pass at any moment, but a side that waits only stops waiting when the far side
has nothing left that it can do: bytes that would come later than that are not among those that it
puts on the stream. Bytes count as on the stream until the near side takes them for a message, also
if its reader has them already.
-/
namespace MediaOverQuic

namespace Scenario

/-! ## The far side -/

/-- What the far side does when it has put all its bytes on the stream. -/
inductive Parting
  | stays
  /-- Ends the direction that it writes to. -/
  | finishes
  /-- Lets go of its end of the stream. -/
  | leaves
  deriving DecidableEq, Repr

structure FarSide where
  stream : Nat
  toCome : Bytes
  parting : Parting
  /-- How many bytes it still takes of what the near side writes, and those that it took. -/
  appetite : Nat
  taken : Bytes
  deriving DecidableEq, Repr

/-- What the far side can do on the stream whose near side has role `r`. -/
inductive FarSide.Step (r : Role) (f : FarSide) (l : Link) : FarSide → Link → Prop
  | writes {chunk more : Bytes} {q : Pipe} (hne : chunk ≠ []) (hc : f.toCome = chunk ++ more)
      (hw : (l.outbound f.stream r.peer).write chunk = .goesOn ([], q)) :
    Step r f l { f with toCome := more } (l.setOutbound f.stream r.peer q)
  | reads {count : Nat} {chunk : Bytes} {q : Pipe} (hpos : 0 < count) (hle : count ≤ f.appetite)
      (hr : (l.inbound f.stream r.peer).read count = .goesOn (chunk, q)) :
    Step r f l { f with appetite := f.appetite - chunk.length, taken := f.taken ++ chunk }
      (l.setInbound f.stream r.peer q)
  | finishes (hc : f.toCome = []) (hp : f.parting = .finishes) :
    Step r f l { f with parting := .stays } (l.updateStream f.stream (·.finish r.peer))
  | leaves (hc : f.toCome = []) (hp : f.parting = .leaves) :
    Step r f l { f with parting := .stays, appetite := 0 } (l.release f.stream r.peer)

/-- One side runs its handshake, whatever the far side does. -/
structure Interview where
  now : Nat
  link : Link
  party : Party
  far : FarSide

namespace Interview

/-- The near side has just taken a step, if it could. -/
def after (p : Party) (l : Link) (far : FarSide) : Interview :=
  let moved := (p.step 0 l).getD (p, l)
  ⟨0, moved.2, moved.1, far⟩

/-- Whether the near side waits for the far side. -/
def Waits (e : Interview) : Prop :=
  ∃ run, e.party.run = some run ∧ run.step .stream e.link = .waits

/-- Whether there is nothing that the far side can do. -/
def FarRests (r : Role) (e : Interview) : Prop := ∀ f l, ¬ e.far.Step r e.link f l

/-- What can happen next. A side that waits keeps waiting as long as the far side can do anything,
and until then the moment at which it stops does not come. -/
inductive Step (r : Role) (e : Interview) : Interview → Prop
  | party {p : Party} {l : Link} (h : e.party.step e.now e.link = some (p, l))
      (hwait : e.Waits → e.FarRests r) : Step r e { e with party := p, link := l }
  | far {f : FarSide} {l : Link} (h : e.far.Step r e.link f l) :
    Step r e { e with far := f, link := l }
  | clock {now : Nat} (hnow : e.now < now) (hdeadline : e.now < e.party.deadline)
      (hrests : now < e.party.deadline ∨ e.Waits ∧ e.FarRests r) : Step r e { e with now := now }

/-- What the near side has put on the stream. -/
def written (r : Role) (e : Interview) : Bytes :=
  e.far.taken ++ (e.link.inbound e.far.stream r.peer).buffer

/-- How much the far side may still do. A byte is written by it and read by the near side. -/
def farWork (r : Role) (e : Interview) : Nat :=
  2 * e.far.toCome.length + (e.link.inbound e.far.stream r).buffer.length + e.far.appetite
    + if e.far.parting = .stays then 0 else 1

/-- What is on the stream when the near side has got `got`: together with what is under way and what
is to come it makes up `bytes`, and the stream is ended only behind them. -/
structure Hears (r : Role) (bytes : Bytes) (ends : Bool) (e : Interview) (got : Bytes) : Prop where
  length : e.far.stream < e.link.streams.length
  bytes : got ++ ((e.link.inbound e.far.stream r).buffer ++ e.far.toCome) = bytes
  closed : (e.link.inbound e.far.stream r).closed = true → e.far.toCome = []
  ends : (e.link.inbound e.far.stream r).closed = true ∨ e.far.parting ≠ .stays ↔ ends = true

/-- Whether the far side takes so much that `frame` finds room on the stream, and does not go. -/
structure Willing (r : Role) (frame : Bytes) (e : Interview) : Prop where
  parting : e.far.parting ≠ .leaves
  isOpen : (e.link.inbound e.far.stream r.peer).closed = false
  room : frame.length ≤ e.far.taken.length + e.far.appetite + Pipe.capacity

variable {r : Role} {e : Interview} {f : FarSide} {l : Link} {bytes got frame : Bytes}
  {ends : Bool}

/-! ## What the far side does to the stream -/

/-- Nothing that the near side has got or may get is changed by what the far side does. -/
theorem Hears.far (h : e.Hears r bytes ends got) (hs : e.far.Step r e.link f l) :
    Hears r bytes ends { e with far := f, link := l } got := by
  obtain ⟨hlength, hbytes, hclosed, hends⟩ := h
  cases hs with
  | @writes chunk more q hne hc hw =>
    rw [Link.outbound_peer] at hw
    obtain ⟨hopen, hbuffer, hq⟩ := Pipe.write_all hw
    have hin : (e.link.setOutbound e.far.stream r.peer q).inbound e.far.stream r = q := by
      rw [Link.setOutbound_peer, Link.inbound_setInbound hlength]
    refine ⟨?_, ?_, ?_, ?_⟩
    · rw [Link.setOutbound_peer, Link.length_streams_setInbound]
      exact hlength
    · rw [hin, hbuffer, ← hbytes, hc, List.append_assoc]
    · rw [hin, hq]
      exact fun hq => absurd hq (by decide)
    · rw [hopen] at hends
      rwa [hin, hq]
  | @reads count chunk q hpos hle hr =>
    have hin : (e.link.setInbound e.far.stream r.peer q).inbound e.far.stream r =
        e.link.inbound e.far.stream r :=
      Link.inbound_setInbound_ne (Role.peer_ne r).symm q
    refine ⟨by rwa [Link.length_streams_setInbound], ?_, ?_, ?_⟩
    · rwa [hin]
    · rwa [hin]
    · rwa [hin]
  | finishes hc hp =>
    have hin := Link.inbound_finish_peer hlength r
    refine ⟨by rwa [Link.length_streams_updateStream], ?_, fun _ => hc, ?_⟩
    · rwa [hin]
    · rw [hin]
      exact iff_of_true (.inl rfl) (hends.mp (.inr (by rw [hp]; decide)))
  | leaves hc hp =>
    have hin := Link.inbound_release hlength r r.peer
    refine ⟨by rwa [Link.length_streams_release], ?_, fun _ => hc, ?_⟩
    · rwa [hin]
    · rw [hin]
      exact iff_of_true (.inl rfl) (hends.mp (.inr (by rw [hp]; decide)))

theorem written_far (hl : e.far.stream < e.link.streams.length) (hs : e.far.Step r e.link f l) :
    written r { e with far := f, link := l } = e.written r := by
  unfold written
  cases hs with
  | @writes chunk more q hne hc hw =>
    rw [Link.setOutbound_peer, Link.inbound_setInbound_ne (Role.peer_ne r)]
  | @reads count chunk q hpos hle hr =>
    obtain ⟨-, -, hbuffer, -⟩ := Pipe.read_some hpos hr
    rw [Link.inbound_setInbound hl, hbuffer, List.append_assoc]
  | finishes hc hp => rw [Link.inbound_peer_finish_peer]
  | leaves hc hp => rw [Link.buffer_release]

theorem farWork_far (hl : e.far.stream < e.link.streams.length)
    (hs : e.far.Step r e.link f l) :
    farWork r { e with far := f, link := l } < e.farWork r := by
  unfold farWork
  cases hs with
  | @writes chunk more q hne hc hw =>
    rw [Link.outbound_peer] at hw
    obtain ⟨-, hbuffer, -⟩ := Pipe.write_all hw
    have hpos := List.length_pos_iff.mpr hne
    rw [Link.setOutbound_peer, Link.inbound_setInbound hl, hbuffer, hc]
    simp only [List.length_append]
    omega
  | @reads count chunk q hpos hle hr =>
    obtain ⟨hne, hcount, -, -⟩ := Pipe.read_some hpos hr
    have hchunk := List.length_pos_iff.mpr hne
    rw [Link.inbound_setInbound_ne (Role.peer_ne r).symm]
    dsimp only
    omega
  | finishes hc hp =>
    rw [Link.inbound_finish_peer hl, hp, Pipe.buffer_close]
    simp
  | leaves hc hp =>
    rw [Link.buffer_release, hp]
    simp

theorem Willing.far (h : e.Willing r frame) (hl : e.far.stream < e.link.streams.length)
    (hs : e.far.Step r e.link f l) : Willing r frame { e with far := f, link := l } := by
  obtain ⟨hparting, hopen, hroom⟩ := h
  cases hs with
  | @writes chunk more q hne hc hw =>
    refine ⟨hparting, ?_, hroom⟩
    rw [Link.setOutbound_peer, Link.inbound_setInbound_ne (Role.peer_ne r)]
    exact hopen
  | @reads count chunk q hpos hle hr =>
    obtain ⟨-, hcount, -, hclosed⟩ := Pipe.read_some hpos hr
    refine ⟨hparting, ?_, ?_⟩
    · rw [Link.inbound_setInbound hl, hclosed]
      exact hopen
    · simp only [List.length_append]
      omega
  | finishes hc hp =>
    refine ⟨by simp, ?_, hroom⟩
    rw [Link.inbound_peer_finish_peer]
    exact hopen
  | leaves hc hp => exact absurd hp hparting

theorem far_keeps (hs : e.far.Step r e.link f l) :
    f.stream = e.far.stream ∧ l.overlay = e.link.overlay := by
  cases hs <;> exact ⟨rfl, rfl⟩

theorem closing_far (hs : e.far.Step r e.link f l) : l.closing = e.link.closing := by
  cases hs <;> rfl

theorem length_streams_far (hs : e.far.Step r e.link f l) :
    l.streams.length = e.link.streams.length := by
  cases hs with
  | writes hne hc hw => rw [Link.setOutbound_peer, Link.length_streams_setInbound]
  | reads hpos hle hr => exact Link.length_streams_setInbound _ _ _ _
  | finishes hc hp => exact Link.length_streams_updateStream _ _ _
  | leaves hc hp => exact Link.length_streams_release _ _ _

/-! ## What the near side does to the stream -/

section Near

variable {p : Party} {q : Pipe} {chunk : Bytes}

theorem Hears.wrote (h : e.Hears r bytes ends got) (p : Party) (q : Pipe) :
    Hears r bytes ends
      { e with party := p, link := e.link.setInbound e.far.stream r.peer q } got := by
  obtain ⟨hlength, hbytes, hclosed, hends⟩ := h
  have hin : (e.link.setInbound e.far.stream r.peer q).inbound e.far.stream r =
      e.link.inbound e.far.stream r := Link.inbound_setInbound_ne (Role.peer_ne r).symm q
  refine ⟨by rwa [Link.length_streams_setInbound], ?_, ?_, ?_⟩
  · rwa [hin]
  · rwa [hin]
  · rwa [hin]

theorem Hears.took (h : e.Hears r bytes ends got) (p : Party)
    (hq : (e.link.inbound e.far.stream r).buffer = chunk ++ q.buffer)
    (hc : q.closed = (e.link.inbound e.far.stream r).closed) :
    Hears r bytes ends
      { e with party := p, link := e.link.setInbound e.far.stream r q } (got ++ chunk) := by
  obtain ⟨hlength, hbytes, hclosed, hends⟩ := h
  have hin : (e.link.setInbound e.far.stream r q).inbound e.far.stream r = q :=
    Link.inbound_setInbound hlength r q
  refine ⟨by rwa [Link.length_streams_setInbound], ?_, ?_, ?_⟩
  · rw [hin, ← hbytes, hq]
    simp only [List.append_assoc]
  · rwa [hin, hc]
  · rwa [hin, hc]

theorem written_wrote (hl : e.far.stream < e.link.streams.length) (p : Party)
    (hq : q.buffer = (e.link.inbound e.far.stream r.peer).buffer ++ chunk) :
    written r { e with party := p, link := e.link.setInbound e.far.stream r.peer q } =
      e.written r ++ chunk := by
  unfold written
  rw [Link.inbound_setInbound hl, hq, List.append_assoc]

theorem written_took (p : Party) (q : Pipe) :
    written r { e with party := p, link := e.link.setInbound e.far.stream r q } =
      e.written r := by
  unfold written
  rw [Link.inbound_setInbound_ne (Role.peer_ne r)]

theorem farWork_wrote (p : Party) (q : Pipe) :
    farWork r { e with party := p, link := e.link.setInbound e.far.stream r.peer q } =
      e.farWork r := by
  unfold farWork
  rw [Link.inbound_setInbound_ne (Role.peer_ne r).symm]

theorem farWork_took (hl : e.far.stream < e.link.streams.length) (p : Party) (q : Pipe) :
    farWork r { e with party := p, link := e.link.setInbound e.far.stream r q } +
      (e.link.inbound e.far.stream r).buffer.length = e.farWork r + q.buffer.length := by
  unfold farWork
  rw [Link.inbound_setInbound hl]
  dsimp only
  omega

theorem Willing.wrote (h : e.Willing r frame) (hl : e.far.stream < e.link.streams.length)
    (p : Party) (hq : q.closed = (e.link.inbound e.far.stream r.peer).closed) :
    Willing r frame { e with party := p, link := e.link.setInbound e.far.stream r.peer q } := by
  refine ⟨h.parting, ?_, h.room⟩
  rw [Link.inbound_setInbound hl, hq]
  exact h.isOpen

theorem Willing.party (h : e.Willing r frame) (p : Party) :
    Willing r frame { e with party := p } := { h with }

theorem Willing.took (h : e.Willing r frame) (p : Party) (q : Pipe) :
    Willing r frame { e with party := p, link := e.link.setInbound e.far.stream r q } := by
  refine ⟨h.parting, ?_, h.room⟩
  rw [Link.inbound_setInbound_ne (Role.peer_ne r)]
  exact h.isOpen

/-- The near side is done, and lets go of the stream. -/
def quit (r : Role) (f : Failure) (e : Interview) : Interview :=
  { e with party := e.party.finish (.error f), link := e.link.release e.far.stream r }

@[simp] theorem written_quit (r r' : Role) (f : Failure) (e : Interview) :
    (e.quit r f).written r' = e.written r' := by
  unfold written quit
  rw [Link.buffer_release]

end Near

/-! ## A far side that rests -/

/-- A far side that has nothing left that it can do has put all its bytes on the stream, unless
there is no room. -/
theorem FarRests.toCome (h : e.FarRests r)
    (hopen : (e.link.inbound e.far.stream r).closed = false)
    (hbuffer : (e.link.inbound e.far.stream r).buffer = []) : e.far.toCome = [] := by
  by_contra hne
  obtain ⟨b, more, hc⟩ := List.exists_cons_of_ne_nil hne
  have hroom : (e.link.inbound e.far.stream r).room = Pipe.capacity := by
    rw [Pipe.room, hbuffer, List.length_nil, Nat.sub_zero]
  have hw : (e.link.outbound e.far.stream r.peer).write [b] =
      .goesOn ([], (e.link.inbound e.far.stream r).fill [b]) := by
    rw [Link.outbound_peer, Pipe.write, if_neg (List.cons_ne_nil _ _), if_neg (by simp [hopen]),
      if_neg (by rw [hroom]; decide), hroom]
    rfl
  exact h _ _ (.writes (List.cons_ne_nil _ _) hc hw)

theorem FarRests.parting (h : e.FarRests r) (hc : e.far.toCome = []) : e.far.parting = .stays := by
  cases hp : e.far.parting with
  | stays => rfl
  | finishes => exact absurd (FarSide.Step.finishes hc hp) (h _ _)
  | leaves => exact absurd (FarSide.Step.leaves hc hp) (h _ _)

theorem FarRests.appetite (h : e.FarRests r)
    (hne : (e.link.inbound e.far.stream r.peer).buffer ≠ []) : e.far.appetite = 0 := by
  by_contra hpos
  obtain ⟨b, more, hb⟩ := List.exists_cons_of_ne_nil hne
  have hr : (e.link.inbound e.far.stream r.peer).read 1 =
      .goesOn ([b], (e.link.inbound e.far.stream r.peer).skip 1) := by
    simp [Pipe.read, hb]
  exact h _ _ (.reads Nat.one_pos (Nat.pos_of_ne_zero hpos) hr)

end Interview

end Scenario

end MediaOverQuic
