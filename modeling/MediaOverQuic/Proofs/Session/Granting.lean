import Mathlib.Tactic
import MediaOverQuic.Proofs.Session.Window

/-!
# Grants that fail

A call that raises the limit for the peer's requests does so before it tells the peer. Between its
steps other calls use the session; none of them lowers the limit. So a call that could not tell the
peer has raised the limit all the same, and a later call for no more than that finds nothing to
raise and tells the peer nothing.
-/
namespace MediaOverQuic

namespace Granting

/-- What can happen while a call is made: a step of it, or others use the session and the
connection in a way that does not lower the limit. -/
inductive Step : Granting × Session × Link → Granting × Session × Link → Prop
  | call {g : Granting} {s : Session} {l : Link} {next : Granting × Session × Link}
      (h : g.step s l = .goesOn next) : Step (g, s, l) next
  | others {g : Granting} {s s' : Session} {l l' : Link}
      (h : s.state.maxIncoming ≤ s'.state.maxIncoming) : Step (g, s, l) (g, s', l')

/-- How far a call for the limit `v` is, if the limit was `floor` when it began. -/
inductive Progress (v floor : Nat) : Granting → Nat → Prop
  | raising {limit : Nat} (h : floor ≤ limit) : Progress v floor (.raising v) limit
  | raised {limit : Nat} (h : floor < v) (hv : v ≤ limit) :
    Progress v floor (.raised (.maxRequestId v)) limit
  | telling {call : Sending} {limit : Nat} (h : floor < v) (hv : v ≤ limit) :
    Progress v floor (.telling call) limit

variable {v floor : Nat} {g : Granting} {s s₁ s₂ : Session} {l l₁ l₂ : Link}

theorem Progress.mono {limit limit' : Nat} (h : Progress v floor g limit) (hle : limit ≤ limit') :
    Progress v floor g limit' := by
  cases h with
  | raising h => exact .raising (h.trans hle)
  | raised h hv => exact .raised h (hv.trans hle)
  | telling h hv => exact .telling h (hv.trans hle)

theorem Progress.step {x y : Granting × Session × Link}
    (h : Progress v floor x.1 x.2.1.state.maxIncoming) (hs : Step x y) :
    Progress v floor y.1 y.2.1.state.maxIncoming := by
  obtain ⟨g', s', l'⟩ := y
  cases hs with
  | others hle => exact h.mono hle
  | call hnext =>
    rcases step_eq_goesOn hnext with ⟨w, rfl, hlt, rfl, rfl, rfl⟩ |
      ⟨m, call, rfl, hsend, rfl, rfl⟩ | ⟨call, call', rfl, rfl, hsending⟩
    · cases h with
      | raising h => exact .raised (h.trans_lt hlt) le_rfl
    · cases h with
      | raised h hv =>
        obtain ⟨-, -, rfl⟩ := Session.send_eq_ok (by simp [Message.Valid, Message.params]) hsend
        exact .telling h hv
    · cases h with
      | telling h hv =>
        obtain ⟨c, q, -, rfl, rfl⟩ := Session.stepSending_eq_goesOn hsending
        exact .telling h hv

theorem Progress.run {x y : Granting × Session × Link}
    (h : Progress v floor x.1 x.2.1.state.maxIncoming) (hrun : Relation.ReflTransGen Step x y) :
    Progress v floor y.1 y.2.1.state.maxIncoming := by
  induction hrun with
  | refl => exact h
  | tail _ hs ih => exact ih.step hs

/-- A call for no more than the limit is done at once. -/
theorem step_raising_of_le (h : v ≤ s.state.maxIncoming) :
    (raising v).step s l = .ends (.ok (), s, l) := by
  simp only [step, SessionState.grant, if_pos h]

theorem step_raising_of_lt (h : s.state.maxIncoming < v) :
    (raising v).step s l =
      .goesOn (raised (.maxRequestId v), { s with state := { s.state with maxIncoming := v } },
        l) := by
  simp only [step, SessionState.grant, if_neg (Nat.not_le.mpr h)]

/-- A call that fails could not frame its message, and did nothing but raise the limit, or had to do
with a stream that failed. -/
theorem Progress.fails (h : Progress v floor g s₁.state.maxIncoming) {e : Error}
    (hend : g.step s₁ l₁ = .ends (.error e, s₂, l₂)) :
    floor < v ∧ v ≤ s₂.state.maxIncoming ∧
      ((Frame.encode s₁.control.limit (.maxRequestId v) = .error e ∧ s₂ = s₁ ∧ l₂ = l₁) ∨
        ∃ t, e = .transport t) := by
  cases h with
  | raising h =>
    simp only [Granting.step, SessionState.grant] at hend
    split_ifs at hend
    cases hend
  | raised h hv =>
    simp only [Granting.step] at hend
    split at hend
    · next e' hsend =>
      obtain ⟨rfl, rfl, rfl⟩ := by simpa using hend
      exact ⟨h, hv, .inl ⟨Session.send_eq_error_iff.mp hsend, rfl, rfl⟩⟩
    · cases hend
  | telling h hv =>
    rcases step_eq_ends hend with ⟨-, -, hnone⟩ | ⟨call, ⟨⟩, hsending⟩
    · cases hnone
    · obtain ⟨c, q, hcall, rfl, rfl⟩ := Session.stepSending_eq_ends hsending
      exact ⟨h, hv, .inr (Sending.error_of_ends (o := .pipe []) hcall)⟩

/-- Whatever others do in the meantime, a call for the limit `v` that fails leaves a limit of at
least `v`, which is higher than the one at its start. A call for no more than `v` is done at once
then, and nothing is sent. -/
theorem limit_raised_of_error
    (hrun : Relation.ReflTransGen Step (raising v, s, l) (g, s₁, l₁)) {e : Error}
    (hend : g.step s₁ l₁ = .ends (.error e, s₂, l₂)) :
    s.state.maxIncoming < v ∧ v ≤ s₂.state.maxIncoming ∧
      ((Frame.encode s₁.control.limit (.maxRequestId v) = .error e ∧ s₂ = s₁ ∧ l₂ = l₁) ∨
        ∃ t, e = .transport t) ∧
      ∀ w ≤ v, ∀ s₃ l₃, s₂.state.maxIncoming ≤ s₃.state.maxIncoming →
        (raising w).step s₃ l₃ = .ends (.ok (), s₃, l₃) := by
  have hprogress : Progress v s.state.maxIncoming g s₁.state.maxIncoming :=
    Progress.run (x := (raising v, s, l)) (y := (g, s₁, l₁)) (.raising le_rfl) hrun
  obtain ⟨hlt, hv, hwhy⟩ := hprogress.fails hend
  refine ⟨hlt, hv, hwhy, ?_⟩
  intro w hw s₃ l₃ hle
  exact step_raising_of_le (by omega)

/-- A session whose control stream holds a part of a frame, from a call that was given up. -/
def interrupted : Session where
  role := .server
  control := { ControlStream.fresh 0 65535 with incomplete := true }
  state := .start .server 1000 0
  config := .standard

theorem limit_raised_of_error_interrupted :
    ∃ (g : Granting) (s₁ s₂ : Session) (l : Link),
      Relation.ReflTransGen Step (raising 2000, interrupted, .fresh false 1) (g, s₁, l) ∧
      g.step s₁ l = .ends (.error (.transport .incompleteFrame), s₂, l) ∧
      1000 < s₂.state.maxIncoming ∧ (raising 1500).step s₂ l = .ends (.ok (), s₂, l) := by
  have hrun : Relation.ReflTransGen Step (raising 2000, interrupted, .fresh false 1) _ :=
    .tail (.tail .refl (.call rfl)) (.call rfl)
  obtain ⟨hlt, hle, -, hlater⟩ := limit_raised_of_error hrun rfl
  exact ⟨_, _, _, _, hrun, rfl, hlt.trans_le hle, hlater 1500 (by decide) _ _ le_rfl⟩

/-- A call for a limit that can not be framed raises it and fails. -/
theorem fails_of_not_fits (hlt : s.state.maxIncoming < v)
    (hfit : ¬ Frame.Fits s.control.limit (.maxRequestId v)) :
    ∃ e s', Frame.encode s.control.limit (.maxRequestId v) = .error e ∧
      s' = { s with state := { s.state with maxIncoming := v } } ∧
      (raising v).step s l = .goesOn (raised (.maxRequestId v), s', l) ∧
      (raised (.maxRequestId v)).step s' l = .ends (.error e, s', l) := by
  have he := Frame.encode_of_not_fits (m := .maxRequestId v)
    (by simp [Message.Valid, Message.params]) hfit
  refine ⟨_, _, he, rfl, step_raising_of_lt hlt, ?_⟩
  have hsend : Session.send { s with state := { s.state with maxIncoming := v } }
      (.maxRequestId v) = .error _ := Session.send_eq_error_iff.mpr he
  rw [step, hsend]

/-- After a handshake, a call for a limit that can not be written fails and leaves that limit, with
the connection open and nothing sent. The highest limit that can be written, which the peer was not
told, is then granted without a message. -/
theorem unwritable_limit_stays :
    ∃ (e : Scenario.Encounter) (s s' : Session),
      Relation.ReflTransGen Scenario.Encounter.Step
        (Scenario.Encounter.start (.fresh false 1) (.both .standard) (.both [])) e ∧
      e.parties.server.result = some (.ok s) ∧ e.link.closing = none ∧
      s.state.maxIncoming = 1000 ∧ s'.state.maxIncoming = Varint.max + 1 ∧
      (raising (Varint.max + 1)).step s e.link =
        .goesOn (raised (.maxRequestId (Varint.max + 1)), s', e.link) ∧
      (raised (.maxRequestId (Varint.max + 1))).step s' e.link =
        .ends (.error (.varintTooLarge (Varint.max + 1)), s', e.link) ∧
      (raising Varint.max).step s' e.link = .ends (.ok (), s', e.link) := by
  obtain ⟨e, -, s, hrun, -, hs, hok⟩ := Exchange.exists_sessions_of_prompt
    (p := fun e _ s => e.link.closing = none ∧ s.state.maxIncoming = 1000) (by decide +kernel)
  obtain ⟨hopen, hlimit⟩ := of_decide_eq_true hok
  have hlt : s.state.maxIncoming < Varint.max + 1 := by
    rw [hlimit]
    decide
  have hlarge : Varint.max < (Message.maxRequestId (Varint.max + 1)).number := Nat.lt_succ_self _
  have hfit : ¬ Frame.Fits s.control.limit (.maxRequestId (Varint.max + 1)) :=
    fun hf => absurd hf.1 (Nat.not_le.mpr hlarge)
  obtain ⟨error, s', hframe, rfl, hgo, hend⟩ := fails_of_not_fits (l := e.link) hlt hfit
  rw [Frame.encode_of_not_fits (by simp [Message.Valid, Message.params]) hfit,
    if_pos hlarge] at hframe
  obtain rfl := Except.error.inj hframe
  exact ⟨e, s, _, hrun, hs, hopen, hlimit, rfl, hgo, hend, step_raising_of_le (Nat.le_succ _)⟩

end Granting

end MediaOverQuic
