import Mathlib.Tactic
import MediaOverQuic.Proofs.Control.Interleaving
import MediaOverQuic.Proofs.Session.Window

/-!
# Grants that are made at the same time

A call that raises the limit for the peer's requests decides on the limit in one step and joins the
line of the writers in a later one. In between other calls do the same, so the order in which limits
were raised and the order in which the peer is told of them may differ. The peer accepts what it is
told exactly if they do not.
-/
namespace MediaOverQuic

/-- The calls that tell a peer of limits, and what the session keeps of them. -/
structure Grants (σ : Type) where
  state : SessionState
  /-- All that is sent on the control stream. -/
  traffic : Traffic.State σ
  /-- The limits that were raised, in order. -/
  raised : List Nat
  /-- Those that no call has begun to tell the peer of. -/
  owed : List Nat

namespace Grants

/-- The limits that messages are about that raise them. -/
def limits (calls : List Traffic.Call) : List Nat := calls.filterMap (·.message.raised?)

/-- The limits in the messages of some calls. -/
def told (calls : List Traffic.Call) (turns : List Nat) : List Nat :=
  turns.filterMap fun i => calls[i]?.bind (·.message.raised?)

/-- A session on whose control stream nobody sends. -/
def start (state : SessionState) (c : ControlStream) (out : σ) : Grants σ :=
  ⟨state, ⟨c, out, [], []⟩, [], []⟩

/-- What can happen. Apart from the calls that raise the limit, nobody sends a message of theirs. A
call that finds nothing to raise is no step. -/
inductive Step (o : Outlet σ) (x : Grants σ) : Grants σ → Prop
  | raises {limit : Nat} {m : Message} {state : SessionState}
      (h : x.state.grant limit = (some m, state)) :
    Step o x { x with
      state := state
      raised := x.raised ++ [limit]
      owed := x.owed ++ [limit] }
  | refused {limit : Nat} {e : Error} (howed : limit ∈ x.owed)
      (h : x.traffic.control.send (.maxRequestId limit) = .error e) :
    Step o x { x with
      traffic := { x.traffic with
        calls := x.traffic.calls ++ [⟨.maxRequestId limit, .refused e⟩] }
      owed := x.owed.erase limit }
  | tells {limit : Nat} {call : Sending} {c : ControlStream} (howed : limit ∈ x.owed)
      (h : x.traffic.control.send (.maxRequestId limit) = .ok (call, c)) :
    Step o x { x with
      traffic := { x.traffic with
        control := c
        calls := x.traffic.calls ++ [⟨.maxRequestId limit, .underWay call⟩] }
      owed := x.owed.erase limit }
  /-- A call is given up before it tells the peer. -/
  | givesUp {limit : Nat} (howed : limit ∈ x.owed) :
    Step o x { x with owed := x.owed.erase limit }
  /-- A call goes on, or another message is sent. -/
  | sends {t : Traffic.State σ} (h : Traffic.Step o x.traffic t)
      (hlimits : limits t.calls = limits x.traffic.calls) : Step o x { x with traffic := t }
  | elsewhere {state : SessionState} (h : state.maxIncoming = x.state.maxIncoming) :
    Step o x { x with state := state }

/-! ## What was told -/

theorem limits_append_raising (calls : List Traffic.Call) (v : Nat) (p : Traffic.Progress) :
    limits (calls ++ [⟨.maxRequestId v, p⟩]) = limits calls ++ [v] := by
  rw [limits, List.filterMap_append]
  rfl

theorem told_range (calls : List Traffic.Call) :
    told calls (List.range calls.length) = limits calls := by
  induction calls with
  | nil => rfl
  | cons call calls ih =>
    rw [told, List.length_cons, List.range_succ_eq_map, List.filterMap_cons, List.filterMap_map]
    simp only [told] at ih
    simp [limits, List.filterMap_cons, ih]

theorem told_subperm {calls : List Traffic.Call} {turns : List Nat} (hnodup : turns.Nodup)
    (hlt : ∀ i ∈ turns, i < calls.length) : (told calls turns).Subperm (limits calls) := by
  have hturns : turns.Subperm (List.range calls.length) :=
    List.subperm_of_subset hnodup fun i hi => List.mem_range.mpr (hlt i hi)
  obtain ⟨some', hperm, hsub⟩ := hturns
  rw [← told_range]
  exact ⟨told calls some', hperm.filterMap _, hsub.filterMap _⟩

/-! ## What the peer makes of it -/

/-- Limits are taken over one after the other exactly if each is higher than the one before. -/
theorem exists_foldlM_raiseOutgoing_iff {p : SessionState} {values : List Nat} :
    (∃ p', values.foldlM SessionState.raiseOutgoing p = .ok p') ↔
      (p.maxOutgoing :: values).Pairwise (· < ·) := by
  rw [← List.isChain_iff_pairwise]
  induction values generalizing p with
  | nil => simp [pure, Except.pure]
  | cons v values ih =>
    rw [List.foldlM_cons, List.isChain_cons_cons]
    by_cases hle : v ≤ p.maxOutgoing
    · simp [SessionState.raiseOutgoing, hle, bind, Except.bind]
    · have hlt : p.maxOutgoing < v := Nat.lt_of_not_le hle
      simp only [SessionState.raiseOutgoing, if_neg hle, bind, Except.bind, hlt, true_and]
      exact ih (p := { p with maxOutgoing := v })

/-- Some of the limits that rise are in that order exactly if they rise too. -/
theorem pairwise_lt_iff_sublist {values raised : List Nat} (hraised : raised.Pairwise (· < ·))
    (hsub : values.Subperm raised) : values.Pairwise (· < ·) ↔ values.Sublist raised := by
  constructor
  · intro hvalues
    exact List.sublist_of_subperm_of_pairwise hsub hvalues hraised
  · intro h
    exact hraised.sublist h

/-! ## Invariant -/

/-- Whoever begins on a stream that nobody sends on accounts for all that is put on it. -/
theorem sound_idle (o : Outlet σ) {c : ControlStream} (hline : c.writers.line = [])
    (hinc : c.incomplete = false) (out : σ) :
    Traffic.Sound o c.limit (o.taken out) ⟨c, out, [], []⟩ [] none where
  limit_eq := rfl
  order_eq := rfl
  nodup := .nil
  lt_length := by simp
  bytes := ⟨[], none, [], (List.append_nil _).symm, .start hline hinc, .nil, .none⟩
  calls := by simp

/-- What always holds: the limits rise, and those that are told or owed are among them, each
once. -/
structure Sound (o : Outlet σ) (limit : Nat) (before : Bytes) (floor : Nat) (x : Grants σ) :
    Prop where
  rising : (floor :: x.raised).Pairwise (· < ·)
  le : ∀ v ∈ floor :: x.raised, v ≤ x.state.maxIncoming
  reached : x.raised.getLast?.getD floor = x.state.maxIncoming
  accounted : (limits x.traffic.calls ++ x.owed).Subperm x.raised
  traffic : ∃ full last, Traffic.Sound o limit before x.traffic full last

variable {o : Outlet σ} {limit floor : Nat} {before : Bytes} {x x' : Grants σ}

/-- A limit that is owed is told or dropped. -/
theorem Sound.settle (h : Sound o limit before floor x) {v : Nat} (howed : v ∈ x.owed)
    {t : Traffic.State σ} (ht : Traffic.Step o x.traffic t)
    (hlimits : (limits t.calls).Subperm (limits x.traffic.calls ++ [v])) :
    Sound o limit before floor { x with traffic := t, owed := x.owed.erase v } where
  rising := h.rising
  le := h.le
  reached := h.reached
  accounted := by
    have htold : (limits t.calls ++ x.owed.erase v).Subperm
        (limits x.traffic.calls ++ (v :: x.owed.erase v)) := by
      rw [← List.singleton_append, ← List.append_assoc]
      exact (List.subperm_append_right _).mpr hlimits
    have howed' : (limits x.traffic.calls ++ (v :: x.owed.erase v)).Perm
        (limits x.traffic.calls ++ x.owed) := (List.perm_cons_erase howed).symm.append_left _
    exact htold.trans (howed'.subperm.trans h.accounted)
  traffic := by
    obtain ⟨full, last, hs⟩ := h.traffic
    exact hs.step ht

/-- Another limit is raised, which is higher than those before. -/
theorem Sound.raises (h : Sound o limit before floor x) {v : Nat} {m : Message}
    {state : SessionState} (hgrant : x.state.grant v = (some m, state)) :
    Sound o limit before floor { x with
      state := state
      raised := x.raised ++ [v]
      owed := x.owed ++ [v] } := by
  unfold SessionState.grant at hgrant
  split_ifs at hgrant with hle
  · cases hgrant
  · obtain ⟨-, rfl⟩ := Prod.mk.inj hgrant
    have hbelow : ∀ w ∈ floor :: x.raised, w < v := fun w hw =>
      (h.le w hw).trans_lt (Nat.lt_of_not_le hle)
    refine ⟨?_, ?_, by simp, ?_, h.traffic⟩
    · rw [← List.cons_append, List.pairwise_append]
      refine ⟨h.rising, List.pairwise_singleton _ _, ?_⟩
      intro w hw u hu
      obtain rfl := List.mem_singleton.mp hu
      exact hbelow w hw
    · intro w hw
      rw [← List.cons_append, List.mem_append, List.mem_singleton] at hw
      rcases hw with hw | rfl
      · exact (hbelow w hw).le
      · exact le_rfl
    · rw [← List.append_assoc]
      exact (List.subperm_append_right _).mpr h.accounted

theorem Sound.step (h : Sound o limit before floor x) (hs : Step o x x') :
    Sound o limit before floor x' := by
  cases hs with
  | raises hgrant => exact h.raises hgrant
  | refused howed hsend =>
    refine h.settle howed (.refuse hsend) ?_
    rw [limits_append_raising]
  | tells howed hsend =>
    refine h.settle howed (.call hsend) ?_
    rw [limits_append_raising]
  | @givesUp v howed =>
    refine ⟨h.rising, h.le, h.reached, ?_, h.traffic⟩
    have hdropped : (x.owed.erase v).Subperm x.owed := List.erase_subperm _ _
    exact ((List.subperm_append_left _).mpr hdropped).trans h.accounted
  | sends ht hlimits =>
    obtain ⟨full, last, hsound⟩ := h.traffic
    exact ⟨h.rising, h.le, h.reached, hlimits ▸ h.accounted, hsound.step ht⟩
  | elsewhere hstate =>
    refine ⟨h.rising, ?_, ?_, h.accounted, h.traffic⟩
    · rw [hstate]
      exact h.le
    · rw [hstate]
      exact h.reached

theorem Sound.run (h : Sound o limit before floor x)
    (hr : Relation.ReflTransGen (Step o) x x') : Sound o limit before floor x' := by
  induction hr with
  | refl => exact h
  | tail _ hs ih => exact ih.step hs

/-! ## The steps of a call -/

/-- Whether the session and the connection are as they should be. -/
structure Shows (x : Grants Pipe) (s : Session) (l : Link) : Prop where
  state : x.state = s.state
  control : x.traffic.control = s.control
  out : x.traffic.out = l.inbound s.control.stream s.role.peer
  placed : s.control.stream < l.streams.length

/-- Whether a call is one of those that raise the limit. -/
inductive Holds (x : Grants σ) : Granting → Prop
  | raising (limit : Nat) : Holds x (.raising limit)
  | raised {limit : Nat} (h : limit ∈ x.owed) : Holds x (.raised (.maxRequestId limit))
  | telling {i limit : Nat} {call : Sending}
      (h : x.traffic.calls[i]? = some ⟨.maxRequestId limit, .underWay call⟩) :
    Holds x (.telling call)

theorem limits_set {calls : List Traffic.Call} {i : Nat} {m : Message} {p : Traffic.Progress}
    (h : calls[i]? = some ⟨m, p⟩) (p' : Traffic.Progress) :
    limits (calls.set i ⟨m, p'⟩) = limits calls := by
  have hmap : ∀ calls : List Traffic.Call,
      limits calls = (calls.map Traffic.Call.message).filterMap Message.raised? := by
    intro calls
    rw [limits, List.filterMap_map]
    rfl
  rw [hmap, hmap, Traffic.messages_set h]

section Call

variable {y : Grants Pipe} {g g' : Granting} {s s' : Session} {l l' : Link}

/-- Sending goes on, and the session and the connection with it. -/
theorem Shows.sent {t : Traffic.State Pipe} {c : ControlStream} {q : Pipe} (h : y.Shows s l)
    (hstream : c.stream = s.control.stream) (hc : t.control = c) (hq : t.out = q) :
    Shows { y with traffic := t } { s with control := c }
      (l.setInbound s.control.stream s.role.peer q) where
  state := h.state
  control := hc
  out := by
    rw [hq, hstream]
    exact (Link.inbound_setInbound h.placed _ _).symm
  placed := by
    rw [Link.length_streams_setInbound, hstream]
    exact h.placed

/-- Whatever a call that raises the limit does is one of the steps. -/
theorem exists_step_of_goesOn (past : Bytes) (hy : y.Shows s l) (hg : y.Holds g)
    (h : g.step s l = .goesOn (g', s', l')) :
    ∃ y', Step (.pipe past) y y' ∧ y'.Shows s' l' ∧ y'.Holds g' := by
  obtain ⟨hstate, hcontrol, hout, hplaced⟩ := hy
  rcases Granting.step_eq_goesOn h with ⟨limit, rfl, hlt, rfl, rfl, rfl⟩ |
    ⟨m, call, rfl, hsend, rfl, rfl⟩ | ⟨call, call', rfl, rfl, hsending⟩
  · have hgrant : y.state.grant limit =
        (some (.maxRequestId limit), { s.state with maxIncoming := limit }) := by
      rw [hstate, SessionState.grant, if_neg (Nat.not_le.mpr hlt)]
    exact ⟨_, .raises hgrant, ⟨rfl, hcontrol, hout, hplaced⟩, .raised (by simp)⟩
  · cases hg with
    | @raised limit howed =>
      obtain ⟨c, hc, rfl⟩ := Session.send_eq_ok_iff.mp hsend
      obtain ⟨hstream, -, -⟩ := ControlStream.keeps_of_send hc
      rw [← hcontrol] at hc
      refine ⟨_, .tells howed hc, ⟨hstate, rfl, ?_, ?_⟩,
        .telling (List.getElem?_concat_length ..)⟩
      · rw [hstream]
        exact hout
      · rw [hstream]
        exact hplaced
  · cases hg with
    | telling hi =>
      obtain ⟨c, q, hcall, rfl, rfl⟩ := Session.stepSending_eq_goesOn hsending
      obtain ⟨hstream, -, -⟩ := Sending.keeps_of_goesOn (o := .pipe past) hcall
      rw [← hout, ← hcontrol] at hcall
      exact ⟨_, .sends (.goesOn hi hcall) (limits_set hi _),
        Shows.sent ⟨hstate, hcontrol, hout, hplaced⟩ hstream rfl rfl,
        .telling (List.getElem?_set_self (List.getElem?_eq_some_iff.mp hi).1)⟩

/-- A call that raises the limit and ends has done so in one of the steps, or in none. -/
theorem exists_step_of_ends (past : Bytes) (hy : y.Shows s l) (hg : y.Holds g)
    {result : Except Error Unit} (h : g.step s l = .ends (result, s', l')) :
    ∃ y', Relation.ReflTransGen (Step (.pipe past)) y y' ∧ y'.Shows s' l' := by
  obtain ⟨hstate, hcontrol, hout, hplaced⟩ := hy
  rcases Granting.step_eq_ends h with ⟨rfl, rfl, hnone⟩ | ⟨call, rfl, hsending⟩
  · exact ⟨y, .refl, ⟨hstate, hcontrol, hout, hplaced⟩⟩
  · cases hg with
    | telling hi =>
      obtain ⟨c, q, hcall, rfl, rfl⟩ := Session.stepSending_eq_ends hsending
      obtain ⟨hstream, -, -⟩ := Sending.keeps_of_ends (o := .pipe past) hcall
      rw [← hout, ← hcontrol] at hcall
      exact ⟨_, .single (.sends (.ends hi hcall) (limits_set hi _)),
        Shows.sent ⟨hstate, hcontrol, hout, hplaced⟩ hstream rfl rfl⟩

end Call

/-! ## In order or not -/

/-- However calls that raise the limit interleave with each other and with all else that is sent,
every limit is higher than the ones before, and the peer is told of some of them, of each once, in
the order in which their calls had their turn on the control stream. A peer that knows of no higher
limit than the first one takes over what it is told exactly if this is the order in which the limits
were raised. -/
theorem accepted_iff_in_order {o : Outlet σ} {state : SessionState} {c : ControlStream} {out : σ}
    (hline : c.writers.line = []) (hinc : c.incomplete = false) {x : Grants σ}
    (h : Relation.ReflTransGen (Step o) (start state c out) x) :
    (state.maxIncoming :: x.raised).Pairwise (· < ·) ∧
    x.raised.getLast?.getD state.maxIncoming = x.state.maxIncoming ∧
    ∃ full frames part, List.Forall₂ (Traffic.IsFrame c.limit x.traffic.calls) full frames ∧
      o.taken x.traffic.out = o.taken out ++ frames.flatten ++ part ∧
      (x.traffic.order = full ∧ part = [] ∨
        ∃ i frame, x.traffic.order = full ++ [i] ∧
          Traffic.IsFrame c.limit x.traffic.calls i frame ∧ part <+: frame) ∧
      (∀ i, Traffic.Returned x.traffic.calls i (.ok ()) → i ∈ full) ∧
      (told x.traffic.calls full).Subperm x.raised ∧
      ((told x.traffic.calls full).Pairwise (· < ·) ↔
        (told x.traffic.calls full).Sublist x.raised) ∧
      ∀ p : SessionState, p.maxOutgoing ≤ state.maxIncoming →
        ((∃ p', (told x.traffic.calls full).foldlM SessionState.raiseOutgoing p = .ok p') ↔
          (told x.traffic.calls full).Sublist x.raised) := by
  have hstart : Sound o c.limit (o.taken out) state.maxIncoming (start state c out) :=
    ⟨by simp [start], by simp [start], rfl, by simp [start, limits],
      [], none, sound_idle o hline hinc out⟩
  obtain ⟨hrising, hle, hreached, haccounted, full', last, hsound⟩ := hstart.run h
  obtain ⟨full, frames, part, hframes, htaken, horder, hnodup, hreturned⟩ := hsound.framed
  have hfirst : full <+: x.traffic.order := by
    rcases horder with ⟨rfl, -⟩ | ⟨i, frame, he, -⟩
    · exact List.prefix_rfl
    · exact ⟨[i], he.symm⟩
  have htold : (told x.traffic.calls full).Subperm x.raised := by
    have hcalls : (told x.traffic.calls full).Subperm (limits x.traffic.calls) :=
      told_subperm (hnodup.sublist hfirst.sublist)
        fun i hi => hsound.lt_length i (hfirst.subset hi)
    have hlimits : (limits x.traffic.calls).Subperm (limits x.traffic.calls ++ x.owed) :=
      (List.sublist_append_left _ _).subperm
    exact hcalls.trans (hlimits.trans haccounted)
  have hiff := pairwise_lt_iff_sublist hrising.of_cons htold
  refine ⟨hrising, hreached, full, frames, part, hframes, htaken, horder, hreturned, htold, hiff,
    ?_⟩
  intro p hp
  rw [exists_foldlM_raiseOutgoing_iff, List.pairwise_cons, hiff]
  -- what is told is higher than the first limit in any case
  refine and_iff_right ?_
  intro v hv
  exact hp.trans_lt (List.rel_of_pairwise_cons hrising (htold.subset hv))

/-- Two calls raise the limit before either of them tells the peer. The second one joins the line
while the first one has its turn, so the peer is told of the limits in the order of the raises. -/
theorem accepted_iff_in_order_interleaved :
    ∃ x : Grants Bytes, Relation.ReflTransGen (Step .sink)
        (start (.start .server 1000 0) (.fresh 0 65535) []) x ∧
      x.raised = [1500, 2000] ∧
      x.traffic.out = Frame.wire (.maxRequestId 1500) ++ Frame.wire (.maxRequestId 2000) ∧
      ∃ p, [1500, 2000].foldlM SessionState.raiseOutgoing (.start .client 1000 0) = .ok p := by
  have hgrant : (SessionState.start .server 1000 0).grant 1500 = (some (.maxRequestId 1500), _) :=
    rfl
  have hsend : (ControlStream.fresh 0 65535).send (.maxRequestId 1500) = .ok (_, _) := rfl
  have hraised : Relation.ReflTransGen (Step .sink)
      (start (.start .server 1000 0) (.fresh 0 65535) []) _ := .single (.raises hgrant)
  have hraised' := hraised.tail
    (.raises (show SessionState.grant _ 2000 = (some (.maxRequestId 2000), _) from rfl))
  have hasked := hraised'.tail (.tells (List.mem_cons_self ..) hsend)
  have hturn := hasked.tail (.sends (.goesOn (i := 0) rfl rfl) rfl)
  have hjoined := hturn.tail (.tells (List.mem_singleton_self 2000) rfl)
  have hfirst := hjoined.tail (.sends (.goesOn (i := 0) rfl rfl) rfl)
  have hfree := hfirst.tail (.sends (.ends (i := 0) rfl rfl) rfl)
  have hturn' := hfree.tail (.sends (.goesOn (i := 1) rfl rfl) rfl)
  have hsecond := hturn'.tail (.sends (.goesOn (i := 1) rfl rfl) rfl)
  have hrun := hsecond.tail (.sends (.ends (i := 1) rfl rfl) rfl)
  obtain ⟨-, -, full, frames, part, -, -, horder, hreturned, -, -, hpeer⟩ :=
    accepted_iff_in_order rfl rfl hrun
  have hmem : 1 ∈ full := hreturned 1 ⟨_, _, rfl⟩
  obtain rfl : [0, 1] = full := by
    rcases horder with ⟨he, -⟩ | ⟨i, frame, he, -⟩
    · exact he
    · have hfull : [0] = full := by
        simpa using congrArg List.dropLast (show [0, 1] = full ++ [i] from he)
      rw [← hfull] at hmem
      simp at hmem
  exact ⟨_, hrun, rfl, rfl,
    (hpeer (.start .client 1000 0) (by decide)).mpr (List.Sublist.refl _)⟩

/-- Takes a step of one of the calls that are made on a session at the same time. -/
def turn (x : Session × Link × List Granting) (i : Nat) :
    Option (Session × Link × List Granting) :=
  match x with
  | (s, l, calls) => do
    match (← calls[i]?).step s l with
    | .goesOn (g, s, l) => some (s, l, calls.set i g)
    | .ends (_, s, l) => some (s, l, calls.eraseIdx i)
    | .waits => none

/-- The first of two calls raises the limit before the second one does, and tells the peer behind
it. The peer is told of the higher limit first, and refuses the lower one. -/
theorem limits_cross :
    ∃ (e : Scenario.Encounter) (c s s' : Session) (l : Link),
      Relation.ReflTransGen Scenario.Encounter.Step
        (Scenario.Encounter.start (.fresh false 1) (.both .standard) (.both [])) e ∧
      e.parties.client.result = some (.ok c) ∧ e.parties.server.result = some (.ok s) ∧
      [0, 1, 1, 0, 1, 1, 1, 0, 0, 0].foldlM turn (s, e.link, [.raising 1500, .raising 2000]) =
        some (s', l, []) ∧
      (l.inbound 0 .client).buffer =
        Frame.wire (.maxRequestId 2000) ++ Frame.wire (.maxRequestId 1500) ∧
      [Message.maxRequestId 2000, .maxRequestId 1500].foldlM SessionState.handle c.state =
        .error (.violation (.limitNotRaised 1500 2000)) := by
  obtain ⟨e, c, s, hrun, hc, hs, hok⟩ := Exchange.exists_sessions_of_prompt
    (p := fun e c s =>
      ([0, 1, 1, 0, 1, 1, 1, 0, 0, 0].foldlM turn (s, e.link, [.raising 1500, .raising 2000])).any
        fun (s', l, calls) => calls = [] ∧
          (l.inbound 0 .client).buffer =
            Frame.wire (.maxRequestId 2000) ++ Frame.wire (.maxRequestId 1500) ∧
          [Message.maxRequestId 2000, .maxRequestId 1500].foldlM SessionState.handle c.state =
            .error (.violation (.limitNotRaised 1500 2000)))
    (by decide +kernel)
  obtain ⟨⟨s', l, calls⟩, hturns, hok⟩ := (Option.any_eq_true _ _).mp hok
  obtain ⟨rfl, hbuffer, hpeer⟩ := of_decide_eq_true hok
  exact ⟨e, c, s, s', l, hrun, hc, hs, hturns, hbuffer, hpeer⟩

end Grants

end MediaOverQuic
