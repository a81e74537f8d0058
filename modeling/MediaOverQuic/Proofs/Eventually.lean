import Mathlib.Tactic

/-!
# What is bound to happen

A step relation that leaves a choice may have many runs. Something is bound to happen when no run
gets stuck before it does and none goes on without it for ever. This follows from a rank that every
step lowers.
-/
namespace MediaOverQuic

/-- Steps that are taken one after the other make up a run. -/
theorem reaches_of_foldlM {R : σ → σ → Prop} {f : σ → α → Option σ}
    (hf : ∀ {s a s'}, f s a = some s' → R s s') {order : List α} {s s' : σ}
    (h : order.foldlM f s = some s') : Relation.ReflTransGen R s s' := by
  induction order generalizing s with
  | nil =>
    obtain rfl := Option.some.inj h
    exact .refl
  | cons a order ih =>
    rw [List.foldlM_cons] at h
    obtain ⟨next, hstep, hlater⟩ := Option.bind_eq_some_iff.mp h
    exact .head (hf hstep) (ih hlater)

/-- Whether every run from `s` comes to a state with `P`: it is there, or can take a step and gets
there by each one that it can take. -/
inductive Eventually (R : σ → σ → Prop) (P : σ → Prop) : σ → Prop
  | now {s : σ} (h : P s) : Eventually R P s
  | later {s : σ} (hgo : ∃ t, R s t) (h : ∀ t, R s t → Eventually R P t) : Eventually R P s

namespace Eventually

variable {R : σ → σ → Prop} {P Q I : σ → Prop} {s : σ}

theorem trans (h : Eventually R P s) (hq : ∀ t, P t → Eventually R Q t) : Eventually R Q s := by
  induction h with
  | now hp => exact hq _ hp
  | later hgo _ ih => exact .later hgo ih

theorem mono (h : Eventually R P s) (hq : ∀ t, P t → Q t) : Eventually R Q s :=
  h.trans fun t hp => .now (hq t hp)

/-- What is bound to happen happens in some run. -/
theorem exists_run (h : Eventually R P s) : ∃ t, Relation.ReflTransGen R s t ∧ P t := by
  induction h with
  | now hp => exact ⟨_, .refl, hp⟩
  | later hgo _ ih =>
    obtain ⟨t, hstep⟩ := hgo
    obtain ⟨u, hrun, hp⟩ := ih t hstep
    exact ⟨u, .head hstep hrun, hp⟩

/-- While `I` lasts there is always a step, and each one ends it or lowers the rank. -/
theorem of_rank (rank : σ → Nat) (hgo : ∀ s, I s → ∃ t, R s t)
    (hstep : ∀ s t, I s → R s t → P t ∨ (I t ∧ rank t < rank s)) (h : I s) :
    Eventually R P s := by
  induction hn : rank s using Nat.strong_induction_on generalizing s with
  | h n ih =>
    refine .later (hgo s h) fun t ht => ?_
    rcases hstep s t h ht with hp | ⟨hi, hlt⟩
    · exact .now hp
    · exact ih (rank t) (hn ▸ hlt) hi rfl

end Eventually

end MediaOverQuic
