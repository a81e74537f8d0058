import Mathlib.Tactic
import MediaOverQuic.Proofs.Control.Traffic

/-!
# Frames in turn

What a stream has taken from calls that send at the same time are whole frames, in the order in
which the calls had their turn, and behind them at most a part of one more. A frame that was broken
off is never followed by anything.
-/
namespace MediaOverQuic.Traffic

/-- Whether the bytes that the stream has taken since it had taken `before` are whole frames of
calls that had their turn, each once and in that order, and behind them at most a part of one more.
Every call that succeeded is one of those whose frames are whole. -/
def Framed (o : Outlet σ) (limit : Nat) (before : Bytes) (t : State σ) : Prop :=
  ∃ full frames part, List.Forall₂ (IsFrame limit t.calls) full frames ∧
    o.taken t.out = before ++ frames.flatten ++ part ∧
    (t.order = full ∧ part = [] ∨
      ∃ i frame, t.order = full ++ [i] ∧ IsFrame limit t.calls i frame ∧ part <+: frame) ∧
    t.order.Nodup ∧ ∀ i, Returned t.calls i (.ok ()) → i ∈ full

/-- Whether writing goes well: all that returned have succeeded, and whoever is in front and waits
gets to write. -/
def Open (t : State σ) : Prop :=
  (∀ i result, Returned t.calls i result → result = .ok ()) ∧
  ∀ tk frame, .waiting tk frame ∈ live t.calls → t.control.writers.isFirst tk = true →
    ∀ write, (Sending.waiting tk frame).stepWith t.control t.out write =
      .goesOn (.writing tk frame, { t.control with incomplete := true }, t.out)

/-- Whether nothing is written from now on, whatever happens: calls that return are turned away, and
as long as calls are under way the one in front is about to. -/
def Halted (o : Outlet σ) (t : State σ) : Prop :=
  ∀ t', Relation.ReflTransGen (Step o) t t' →
    o.taken t'.out = o.taken t.out ∧ t'.order = t.order ∧
    (∀ i result, Returned t'.calls i result →
      Returned t.calls i result ∨ result = .error (.transport .incompleteFrame)) ∧
    ∀ s ∈ live t'.calls, ∃ s' ∈ live t'.calls, t'.control.writers.isFirst s'.ticket = true ∧
      ∀ write, s'.stepWith t'.control t'.out write =
        .ends (.error (.transport .incompleteFrame), s'.leave t'.control, t'.out)

namespace Sound

variable {o : Outlet σ} {limit : Nat} {before : Bytes} {t : State σ} {full : List Nat}
  {last : Option Nat}

theorem framed (h : Sound o limit before t full last) : Framed o limit before t := by
  obtain ⟨done, begun, written, ht, ho, hfull, hlast⟩ := h.bytes
  obtain ⟨part, rfl, hp⟩ := ho.split
  refine ⟨full, done, part, hfull, by rw [ht, List.append_assoc], ?_, h.nodup, ?_⟩
  · cases hlast with
    | none => exact .inl ⟨by simpa using h.order_eq, List.prefix_nil.mp hp⟩
    | some hf => exact .inr ⟨_, _, h.order_eq, hf, hp⟩
  · rintro i ⟨m, last', hi⟩
    cases h.calls i _ hi with
    | complete hf => exact hf

theorem mem_order_iff (h : Sound o limit before t full last) {i : Nat} {call : Call}
    (hi : t.calls[i]? = some call) : i ∈ t.order ↔ call.hadTurn = true := by
  rw [h.order_eq, List.mem_append, Option.mem_toList]
  cases h.calls i call hi with
  | refused hf hl | waiting hf hl | turnedAway hf hl | gaveUp hf hl =>
    simp [hf, hl, Call.hadTurn, Sending.hasTurn]
  | writing hl | failed hl | brokenOff hl => simp [hl, Call.hadTurn, Sending.hasTurn]
  | complete hf => simp [hf, Call.hadTurn, Sending.hasTurn]

/-- Unless a call was broken off, nobody is turned away. -/
theorem isOpen (h : Sound o limit before t full last) (hb : ¬ Broken t.calls) : Open t := by
  constructor
  · rintro i result ⟨m, last', hi⟩
    cases h.calls i _ hi with
    | complete => rfl
    | failed => exact absurd ⟨_, List.mem_of_getElem? hi, rfl⟩ hb
    | turnedAway _ _ hb' => exact absurd hb' hb
  · intro tk frame hmem hfirst write
    obtain ⟨i, m, hi⟩ := mem_live.mp hmem
    have hinc : t.control.incomplete = false := by
      rw [← Bool.not_eq_true]
      exact fun hinc => hb (h.broken_of_incomplete hinc (h.not_writing hi hfirst))
    simp only [Sending.stepWith, hfirst, hinc]
    rfl

/-- The call in front of a stream that is marked is turned away. -/
theorem exists_turnedAway (h : Sound o limit before t full last) (hb : Broken t.calls)
    {s : Sending} (hs : s ∈ live t.calls) :
    ∃ s' ∈ live t.calls, t.control.writers.isFirst s'.ticket = true ∧
      ∀ write, s'.stepWith t.control t.out write =
        .ends (.error (.transport .incompleteFrame), s'.leave t.control, t.out) := by
  obtain ⟨hinc, hw⟩ := h.halted hb
  obtain ⟨done, begun, written, -, ho, -, -⟩ := h.bytes
  obtain ⟨s', hs', hfirst⟩ := ho.exists_first hs
  refine ⟨s', hs', hfirst, fun write => ?_⟩
  cases s' with
  | waiting tk frame =>
    have hfirst' : t.control.writers.isFirst tk = true := hfirst
    simp only [Sending.stepWith, hfirst', hinc]
    rfl
  | writing tk rest => exact absurd hs' (hw tk rest)

theorem isHalted (h : Sound o limit before t full last) (hb : Broken t.calls) : Halted o t := by
  intro t' hr
  -- The calls that were broken off stay so, and hold up every later step.
  suffices hmain : Broken t'.calls ∧ o.taken t'.out = o.taken t.out ∧ t'.order = t.order ∧
      ∀ i result, Returned t'.calls i result →
        Returned t.calls i result ∨ result = .error (.transport .incompleteFrame) by
    obtain ⟨hb', hsame⟩ := hmain
    obtain ⟨_, _, h'⟩ := h.run hr
    exact ⟨hsame.1, hsame.2.1, hsame.2.2, fun s hs => h'.exists_turnedAway hb' hs⟩
  induction hr with
  | refl => exact ⟨hb, rfl, rfl, fun _ _ hr => .inl hr⟩
  | tail hr hs ih =>
    obtain ⟨hb', ht, horder, hreturned⟩ := ih
    obtain ⟨_, _, h'⟩ := h.run hr
    obtain ⟨ht', horder', hreturned'⟩ := hs.of_halted (h'.halted hb').1 (h'.halted hb').2
    refine ⟨hs.broken hb', ht'.trans ht, horder'.trans horder, fun i result hr' => ?_⟩
    exact (hreturned' i result hr').elim (hreturned i result) .inr

end Sound

/-- Whatever calls send at the same time on one control stream, however they interleave and wherever
they are given up or fail: the stream takes whole frames in turn and a part of one more; the calls
that had their turn are the ones in that order, so those that were refused or given up before have
put nothing on it; a call is refused for its own message only; as long as no call was broken off
while writing, nobody is turned away; and once one was, nothing is written any more. -/
theorem frames_in_turn {o : Outlet σ} {stream limit : Nat} {out : σ} {t : State σ}
    (h : Relation.ReflTransGen (Step o) (start stream limit out) t) :
    Framed o limit (o.taken out) t ∧
    (∀ i call, t.calls[i]? = some call → (i ∈ t.order ↔ call.hadTurn = true)) ∧
    (∀ m e, ⟨m, .refused e⟩ ∈ t.calls → Frame.encode limit m = .error e) ∧
    (¬ Broken t.calls → Open t) ∧
    (Broken t.calls → Halted o t) := by
  obtain ⟨full, last, hs⟩ := (Sound.start o stream limit out).run h
  refine ⟨hs.framed, fun i call hi => hs.mem_order_iff hi, ?_, hs.isOpen, hs.isHalted⟩
  intro m e hmem
  obtain ⟨i, hi⟩ := List.mem_iff_getElem?.mp hmem
  cases hs.calls i _ hi with
  | refused _ _ he => exact he

/-- One call was given up when it had its turn and had written nothing yet. -/
def givenUp : State Bytes where
  control := ⟨0, 1, true, ⟨[], 1⟩, .nobody⟩
  out := []
  calls := [⟨.requestsBlocked 0, .abandoned (.writing 0 (Frame.wire (.requestsBlocked 0)))⟩]
  order := [0]

theorem reaches_givenUp : Relation.ReflTransGen (Step .sink) (start 0 1 []) givenUp := by
  let asked : State Bytes := ⟨⟨0, 1, false, ⟨[0], 1⟩, .nobody⟩, [],
    [⟨.requestsBlocked 0, .underWay (.waiting 0 (Frame.wire (.requestsBlocked 0)))⟩], []⟩
  let begun : State Bytes := ⟨⟨0, 1, true, ⟨[0], 1⟩, .nobody⟩, [],
    [⟨.requestsBlocked 0, .underWay (.writing 0 (Frame.wire (.requestsBlocked 0)))⟩], [0]⟩
  have hcall : Step .sink (start 0 1 []) asked := .call rfl
  have hbegin : Step .sink asked begun :=
    .goesOn (i := 0) (s := .waiting 0 (Frame.wire (.requestsBlocked 0))) rfl rfl
  have habandon : Step .sink begun givenUp :=
    .abandon (i := 0) (s := .writing 0 (Frame.wire (.requestsBlocked 0))) rfl
  exact ((Relation.ReflTransGen.single hcall).tail hbegin).tail habandon

theorem broken_givenUp : Broken givenUp.calls := ⟨_, List.mem_singleton_self _, rfl⟩

theorem frames_in_turn_givenUp :
    Relation.ReflTransGen (Step .sink) (start 0 1 []) givenUp ∧
    Framed .sink 1 [] givenUp ∧
    (∀ i call, givenUp.calls[i]? = some call → (i ∈ givenUp.order ↔ call.hadTurn = true)) ∧
    (∀ m e, ⟨m, .refused e⟩ ∈ givenUp.calls → Frame.encode 1 m = .error e) ∧
    (¬ Broken givenUp.calls → Open givenUp) ∧
    (Broken givenUp.calls → Halted .sink givenUp) :=
  ⟨reaches_givenUp, frames_in_turn reaches_givenUp⟩

/-- A call that comes after one that was broken off need not fail for that reason: the length of its
message is checked before it joins the line. -/
theorem refused_after_givenUp : ∃ t : State Bytes,
    Relation.ReflTransGen (Step .sink) (start 0 1 []) givenUp ∧ Broken givenUp.calls ∧
    Step .sink givenUp t ∧
    t.calls = givenUp.calls ++ [⟨.requestsBlocked 64,
      .refused (.violation (.messageTooLong .requestsBlocked 2 1))⟩] ∧
    Error.violation (.messageTooLong .requestsBlocked 2 1) ≠ .transport .incompleteFrame :=
  ⟨_, reaches_givenUp, broken_givenUp, .refuse rfl, rfl, by decide⟩

end MediaOverQuic.Traffic
