import Mathlib.Tactic
import MediaOverQuic.Proofs.Control.Writers

/-!
# Calls that send at the same time

Any number of calls send messages on one control stream. They take their steps in any order, each of
them may be given up before any of its steps, and the stream below takes bytes as it likes and may
fail. Every call is accounted for by the frames that were completed so far, in order, and the one
that was begun behind them.
-/
namespace MediaOverQuic.Traffic

/-- How far a call is. Of one that came to an end its last state is kept. -/
inductive Progress
  | refused (e : Error)
  | underWay (s : Sending)
  | returned (last : Sending) (result : Except Error Unit)
  | abandoned (last : Sending)

structure Call where
  message : Message
  progress : Progress

namespace Call

def live? (call : Call) : Option Sending :=
  match call.progress with
  | .underWay s => some s
  | _ => none

/-- Whether the call had its turn to write. -/
def hadTurn (call : Call) : Bool :=
  match call.progress with
  | .refused _ => false
  | .underWay s | .returned s _ | .abandoned s => s.hasTurn

/-- Whether the call was given up or failed while it was writing its frame. -/
def brokeOff (call : Call) : Bool :=
  match call.progress with
  | .returned (.writing ..) (.error _) | .abandoned (.writing ..) => true
  | _ => false

end Call

/-- A control stream, the stream below it, and all calls that were made so far. -/
structure State (σ : Type) where
  control : ControlStream
  out : σ
  calls : List Call
  /-- The calls that had their turn, in order. -/
  order : List Nat

def start (stream limit : Nat) (out : σ) : State σ := ⟨.fresh stream limit, out, [], []⟩

/-- All that can happen. -/
inductive Step (o : Outlet σ) : State σ → State σ → Prop
  | refuse {t : State σ} {m : Message} {e : Error} (h : t.control.send m = .error e) :
    Step o t { t with calls := t.calls ++ [⟨m, .refused e⟩] }
  | call {t : State σ} {m : Message} {s : Sending} {c : ControlStream}
      (h : t.control.send m = .ok (s, c)) :
    Step o t { t with control := c, calls := t.calls ++ [⟨m, .underWay s⟩] }
  | goesOn {t : State σ} {i : Nat} {m : Message} {s s' : Sending} {c : ControlStream} {out : σ}
      (h : t.calls[i]? = some ⟨m, .underWay s⟩)
      (run : s.stepWith t.control t.out (o.write t.out) = .goesOn (s', c, out)) :
    Step o t ⟨c, out, t.calls.set i ⟨m, .underWay s'⟩,
      if s.hasTurn then t.order else t.order ++ [i]⟩
  | ends {t : State σ} {i : Nat} {m : Message} {s : Sending} {result : Except Error Unit}
      {c : ControlStream} {out : σ} (h : t.calls[i]? = some ⟨m, .underWay s⟩)
      (run : s.stepWith t.control t.out (o.write t.out) = .ends (result, c, out)) :
    Step o t ⟨c, out, t.calls.set i ⟨m, .returned s result⟩, t.order⟩
  | abandon {t : State σ} {i : Nat} {m : Message} {s : Sending}
      (h : t.calls[i]? = some ⟨m, .underWay s⟩) :
    Step o t { t with
      control := s.abandon t.control
      calls := t.calls.set i ⟨m, .abandoned s⟩ }
  /-- Something is received, or happens to the stream without bytes being put on it. -/
  | elsewhere {t : State σ} {readers : Turns} {out : σ} (h : o.taken out = o.taken t.out) :
    Step o t { t with control := { t.control with readers := readers }, out := out }

/-- The calls that are under way. -/
def live (calls : List Call) : Multiset Sending := calls.filterMap Call.live?

/-- Whether a call was broken off. -/
def Broken (calls : List Call) : Prop := ∃ call ∈ calls, call.brokeOff = true

/-- Whether a call came to an end with this result. -/
def Returned (calls : List Call) (i : Nat) (result : Except Error Unit) : Prop :=
  ∃ m last, calls[i]? = some ⟨m, .returned last result⟩

/-- Whether the message of a call is framed like this. -/
def IsFrame (limit : Nat) (calls : List Call) (i : Nat) (frame : Bytes) : Prop :=
  ∃ m, (calls.map Call.message)[i]? = some m ∧ Frame.encode limit m = .ok frame

/-! ## Calls -/

theorem live_append (calls : List Call) (call : Call) :
    live (calls ++ [call]) = (call.live?.toList : Multiset Sending) + live calls := by
  rw [live, List.filterMap_append, ← Multiset.coe_add, add_comm]
  cases h : call.live? <;> simp [h, live]

/-- What a call is under way does not depend on the others. -/
theorem exists_live_set {calls : List Call} {i : Nat} {call : Call} (h : calls[i]? = some call) :
    ∃ others : Multiset Sending, live calls = (call.live?.toList : Multiset Sending) + others ∧
      ∀ call', live (calls.set i call') = (call'.live?.toList : Multiset Sending) + others := by
  obtain ⟨hi, rfl⟩ := List.getElem?_eq_some_iff.mp h
  have hcons : ∀ call l, live (call :: l) = (call.live?.toList : Multiset Sending) + live l := by
    intro call l
    cases hc : call.live? <;> simp [hc, live]
  refine ⟨live (calls.eraseIdx i), ?_, fun call' => ?_⟩
  · rw [← hcons]
    exact Multiset.coe_eq_coe.mpr ((List.getElem_cons_eraseIdx_perm hi).symm.filterMap _)
  · rw [← hcons]
    exact Multiset.coe_eq_coe.mpr ((List.set_perm_cons_eraseIdx hi call').filterMap _)

theorem messages_set {calls : List Call} {i : Nat} {m : Message} {p : Progress}
    (h : calls[i]? = some ⟨m, p⟩) (p' : Progress) :
    (calls.set i ⟨m, p'⟩).map Call.message = calls.map Call.message := by
  have hm : (calls.map Call.message)[i]? = some m := by simp [h]
  obtain ⟨hi, rfl⟩ := List.getElem?_eq_some_iff.mp hm
  rw [List.map_set]
  exact List.set_getElem_self hi

theorem isFrame_set {calls : List Call} {i : Nat} {m : Message} {p : Progress}
    (h : calls[i]? = some ⟨m, p⟩) (limit : Nat) (p' : Progress) :
    IsFrame limit (calls.set i ⟨m, p'⟩) = IsFrame limit calls := by
  funext j frame
  simp only [IsFrame, messages_set h]

theorem Broken.set {calls : List Call} {i : Nat} {m : Message} {s : Sending} (hb : Broken calls)
    (h : calls[i]? = some ⟨m, .underWay s⟩) (call : Call) : Broken (calls.set i call) := by
  obtain ⟨b, hmem, hbroke⟩ := hb
  obtain ⟨j, hj⟩ := List.mem_iff_getElem?.mp hmem
  have hne : i ≠ j := by
    rintro rfl
    rw [h] at hj
    obtain rfl := Option.some.inj hj
    cases hbroke
  exact ⟨b, List.mem_iff_getElem?.mpr ⟨j, by rw [List.getElem?_set_ne hne, hj]⟩, hbroke⟩

/-! ## Invariant -/

/-- What there is to a call, when `full` are those whose frames are complete, in order, and `last`
is the one that was begun behind them. -/
inductive Call.Accounted (limit : Nat) (full : List Nat) (last : Option Nat) (broken : Prop)
    (i : Nat) : Call → Prop
  | refused {m : Message} {e : Error} (hf : i ∉ full) (hl : last ≠ some i)
      (he : Frame.encode limit m = .error e) : Accounted limit full last broken i ⟨m, .refused e⟩
  | waiting {m : Message} {t : Nat} {frame : Bytes} (hf : i ∉ full) (hl : last ≠ some i)
      (he : Frame.encode limit m = .ok frame) :
    Accounted limit full last broken i ⟨m, .underWay (.waiting t frame)⟩
  | writing {m : Message} {t : Nat} {rest : Bytes} (hl : last = some i) :
    Accounted limit full last broken i ⟨m, .underWay (.writing t rest)⟩
  | complete {m : Message} {t : Nat} (hf : i ∈ full) :
    Accounted limit full last broken i ⟨m, .returned (.writing t []) (.ok ())⟩
  | failed {m : Message} {t : Nat} {rest : Bytes} {e : Error} (hl : last = some i) :
    Accounted limit full last broken i ⟨m, .returned (.writing t rest) (.error e)⟩
  | turnedAway {m : Message} {t : Nat} {frame : Bytes} (hf : i ∉ full) (hl : last ≠ some i)
      (hb : broken) : Accounted limit full last broken i
        ⟨m, .returned (.waiting t frame) (.error (.transport .incompleteFrame))⟩
  | gaveUp {m : Message} {t : Nat} {frame : Bytes} (hf : i ∉ full) (hl : last ≠ some i) :
    Accounted limit full last broken i ⟨m, .abandoned (.waiting t frame)⟩
  | brokenOff {m : Message} {t : Nat} {rest : Bytes} (hl : last = some i) :
    Accounted limit full last broken i ⟨m, .abandoned (.writing t rest)⟩

/-- What always holds: the bytes that the stream has taken since it had taken `before` are accounted
for by the calls. -/
structure Sound (o : Outlet σ) (limit : Nat) (before : Bytes) (t : State σ) (full : List Nat)
    (last : Option Nat) : Prop where
  limit_eq : t.control.limit = limit
  order_eq : t.order = full ++ last.toList
  nodup : t.order.Nodup
  lt_length : ∀ i ∈ t.order, i < t.calls.length
  bytes : ∃ done begun written, o.taken t.out = before ++ written ∧
    Orderly t.control (live t.calls) done begun written ∧
    List.Forall₂ (IsFrame limit t.calls) full done ∧
    Option.Rel (IsFrame limit t.calls) last begun
  calls : ∀ i (call : Call), t.calls[i]? = some call →
    call.Accounted limit full last (Broken t.calls) i

theorem Call.Accounted.congr {limit i : Nat} {full full' : List Nat} {last last' : Option Nat}
    {broken broken' : Prop} {call : Call} (h : call.Accounted limit full last broken i)
    (hf : i ∈ full' ↔ i ∈ full) (hl : last' = some i ↔ last = some i) (hb : broken → broken') :
    call.Accounted limit full' last' broken' i := by
  cases h with
  | refused h₁ h₂ he => exact .refused (mt hf.mp h₁) (mt hl.mp h₂) he
  | waiting h₁ h₂ he => exact .waiting (mt hf.mp h₁) (mt hl.mp h₂) he
  | writing h => exact .writing (hl.mpr h)
  | complete h => exact .complete (hf.mpr h)
  | failed h => exact .failed (hl.mpr h)
  | turnedAway h₁ h₂ h => exact .turnedAway (mt hf.mp h₁) (mt hl.mp h₂) (hb h)
  | gaveUp h₁ h₂ => exact .gaveUp (mt hf.mp h₁) (mt hl.mp h₂)
  | brokenOff h => exact .brokenOff (hl.mpr h)

theorem mem_live {calls : List Call} {s : Sending} :
    s ∈ live calls ↔ ∃ (i : Nat) (m : Message), calls[i]? = some ⟨m, .underWay s⟩ := by
  rw [live, Multiset.mem_coe, List.mem_filterMap]
  constructor
  · rintro ⟨⟨m, p⟩, hmem, hlive⟩
    obtain ⟨i, hi⟩ := List.mem_iff_getElem?.mp hmem
    cases p with
    | underWay s' =>
      obtain rfl : s' = s := by simpa [Call.live?] using hlive
      exact ⟨i, m, hi⟩
    | refused | returned | abandoned => cases hlive
  · rintro ⟨i, m, hi⟩
    exact ⟨⟨m, .underWay s⟩, List.mem_of_getElem? hi, rfl⟩

namespace Sound

variable {o : Outlet σ} {limit : Nat} {before : Bytes} {t : State σ} {full : List Nat}
  {last : Option Nat}

theorem start (o : Outlet σ) (stream limit : Nat) (out : σ) :
    Sound o limit (o.taken out) (start stream limit out) [] none where
  limit_eq := rfl
  order_eq := rfl
  nodup := .nil
  lt_length := by simp [Traffic.start]
  bytes := ⟨[], none, [], (List.append_nil _).symm, .start rfl rfl, .nil, .none⟩
  calls := by simp [Traffic.start]

/-- The call whose frame was begun last is still writing it, or was broken off. -/
theorem last_eq_some (h : Sound o limit before t full last) {i : Nat} (hl : last = some i) :
    (∃ m tk rest, t.calls[i]? = some ⟨m, .underWay (.writing tk rest)⟩) ∨ Broken t.calls := by
  subst hl
  have hi : i ∈ t.order := by simp [h.order_eq]
  have hnot : i ∉ full := by
    have hn := h.nodup
    rw [h.order_eq, List.nodup_append] at hn
    intro hf
    exact hn.2.2 i hf i (by simp) rfl
  obtain ⟨call, hcall⟩ : ∃ call, t.calls[i]? = some call :=
    ⟨_, List.getElem?_eq_getElem (h.lt_length i hi)⟩
  have hmem := List.mem_of_getElem? hcall
  cases h.calls i call hcall with
  | writing => exact .inl ⟨_, _, _, hcall⟩
  | complete hf => exact absurd hf hnot
  | failed | brokenOff => exact .inr ⟨_, hmem, rfl⟩
  | refused _ hne | waiting _ hne | turnedAway _ hne | gaveUp _ hne => exact absurd rfl hne

/-- A frame that is incomplete is being written, or was broken off. -/
theorem broken_of_incomplete (h : Sound o limit before t full last)
    (hinc : t.control.incomplete = true) (hw : ∀ tk rest, .writing tk rest ∉ live t.calls) :
    Broken t.calls := by
  obtain ⟨done, begun, written, -, hord, -, hrel⟩ := h.bytes
  rw [hord.marked] at hinc
  cases hrel with
  | none => cases hinc
  | some =>
    refine (h.last_eq_some rfl).resolve_left ?_
    rintro ⟨m, tk, rest, hcall⟩
    exact hw tk rest (mem_live.mpr ⟨_, m, hcall⟩)

/-- Once a call was broken off, the stream stays marked and nobody writes. -/
theorem halted (h : Sound o limit before t full last) (hb : Broken t.calls) :
    t.control.incomplete = true ∧ ∀ tk rest, .writing tk rest ∉ live t.calls := by
  obtain ⟨call, hmem, hbroke⟩ := hb
  obtain ⟨j, hj⟩ := List.mem_iff_getElem?.mp hmem
  have hl : last = some j := by
    cases h.calls j call hj with
    | failed hl | brokenOff hl => exact hl
    | refused | waiting | writing | complete | turnedAway | gaveUp => cases hbroke
  constructor
  · obtain ⟨done, begun, written, -, hord, -, hrel⟩ := h.bytes
    rw [hord.marked]
    subst hl
    cases hrel
    rfl
  · intro tk rest hw
    obtain ⟨i, m, hi⟩ := mem_live.mp hw
    cases h.calls i _ hi with
    | writing hl' =>
      obtain rfl := Option.some.inj (hl'.symm.trans hl)
      rw [hi] at hj
      obtain rfl := Option.some.inj hj
      cases hbroke

/-! ## Steps -/

theorem length_fresh (h : Sound o limit before t full last) :
    t.calls.length ∉ full ∧ last ≠ some t.calls.length := by
  constructor
  · intro hf
    exact (h.lt_length _ (by simp [h.order_eq, hf])).false
  · rintro rfl
    exact (h.lt_length _ (by simp [h.order_eq])).false

/-- A call is made, and has nothing on the stream yet. -/
theorem append (h : Sound o limit before t full last) {call : Call} {c : ControlStream}
    (hc : c.limit = limit)
    (hord : ∀ {done begun written}, Orderly t.control (live t.calls) done begun written →
      Orderly c (call.live?.toList + live t.calls) done begun written)
    (hacc : call.Accounted limit full last (Broken (t.calls ++ [call])) t.calls.length) :
    Sound o limit before { t with control := c, calls := t.calls ++ [call] } full last where
  limit_eq := hc
  order_eq := h.order_eq
  nodup := h.nodup
  lt_length := fun i hi => (h.lt_length i hi).trans (by simp)
  bytes := by
    obtain ⟨done, begun, written, ht, ho, hfull, hlast⟩ := h.bytes
    have hmono : ∀ i frame, IsFrame limit t.calls i frame →
        IsFrame limit (t.calls ++ [call]) i frame := by
      rintro i frame ⟨m, hm, he⟩
      refine ⟨m, ?_, he⟩
      rw [List.map_append, List.getElem?_append_left (List.getElem?_eq_some_iff.mp hm).1, hm]
    refine ⟨done, begun, written, ht, by rw [live_append]; exact hord ho,
      hfull.imp hmono, ?_⟩
    cases hlast with
    | none => exact .none
    | some hf => exact .some (hmono _ _ hf)
  calls := by
    intro i other hi
    by_cases hlt : i < t.calls.length
    · rw [List.getElem?_append_left hlt] at hi
      refine (h.calls i other hi).congr Iff.rfl Iff.rfl ?_
      rintro ⟨b, hmem, hb⟩
      exact ⟨b, List.mem_append_left _ hmem, hb⟩
    · obtain ⟨hle, rfl⟩ : i = t.calls.length ∧ other = call := by
        rw [List.getElem?_append_right (Nat.not_lt.mp hlt), List.getElem?_singleton] at hi
        split_ifs at hi with h0
        exact ⟨by omega, (Option.some.inj hi).symm⟩
      exact hle ▸ hacc

/-- A call that is under way is replaced by what becomes of it. -/
theorem set (h : Sound o limit before t full last) {i : Nat} {m : Message} {s : Sending}
    (hi : t.calls[i]? = some ⟨m, .underWay s⟩) {p : Progress} {c : ControlStream} {out : σ}
    {order full' : List Nat} {last' : Option Nat} (hc : c.limit = limit)
    (horder : order = full' ++ last'.toList) (hnodup : order.Nodup)
    (hlt : ∀ j ∈ order, j < t.calls.length)
    (hbytes : ∃ done begun written, o.taken out = before ++ written ∧
      Orderly c (live (t.calls.set i ⟨m, p⟩)) done begun written ∧
      List.Forall₂ (IsFrame limit t.calls) full' done ∧
      Option.Rel (IsFrame limit t.calls) last' begun)
    (hfull : ∀ j, j ≠ i → (j ∈ full' ↔ j ∈ full))
    (hlast : ∀ j, j ≠ i → (last' = some j ↔ last = some j))
    (hacc : Call.Accounted limit full' last' (Broken (t.calls.set i ⟨m, p⟩)) i ⟨m, p⟩) :
    Sound o limit before ⟨c, out, t.calls.set i ⟨m, p⟩, order⟩ full' last' where
  limit_eq := hc
  order_eq := horder
  nodup := hnodup
  lt_length := fun j hj => by simpa using hlt j hj
  bytes := by rwa [isFrame_set hi]
  calls := by
    intro j call hj
    by_cases hij : i = j
    · subst hij
      rw [List.getElem?_set_self (List.getElem?_eq_some_iff.mp hi).1] at hj
      obtain rfl := Option.some.inj hj
      exact hacc
    · rw [List.getElem?_set_ne hij] at hj
      exact (h.calls j call hj).congr (hfull j (Ne.symm hij)) (hlast j (Ne.symm hij))
        fun hb => hb.set hi _

/-- A step that neither begins nor completes a frame. -/
theorem set_same (h : Sound o limit before t full last) {i : Nat} {m : Message} {s : Sending}
    (hi : t.calls[i]? = some ⟨m, .underWay s⟩) {p : Progress} {c : ControlStream} {out : σ}
    {chunk : Bytes} (hc : c.limit = t.control.limit) (ht : o.taken out = o.taken t.out ++ chunk)
    (hord : ∀ {others done begun written}, Orderly t.control (s ::ₘ others) done begun written →
      Orderly c ((Call.mk m p).live?.toList + others) done begun (written ++ chunk))
    (hacc : Call.Accounted limit full last (Broken (t.calls.set i ⟨m, p⟩)) i ⟨m, p⟩) :
    Sound o limit before ⟨c, out, t.calls.set i ⟨m, p⟩, t.order⟩ full last := by
  obtain ⟨others, hlive, hset⟩ := exists_live_set hi
  obtain ⟨done, begun, written, hw, ho, hfull, hlast⟩ := h.bytes
  refine h.set hi (hc.trans h.limit_eq) h.order_eq h.nodup h.lt_length
    ⟨done, begun, written ++ chunk, by rw [ht, hw, List.append_assoc], ?_, hfull, hlast⟩
    (fun _ _ => Iff.rfl) (fun _ _ => Iff.rfl) hacc
  rw [hset]
  rw [hlive] at ho
  exact hord ho

theorem refuse (h : Sound o limit before t full last) {m : Message} {e : Error}
    (hs : t.control.send m = .error e) :
    Sound o limit before { t with calls := t.calls ++ [⟨m, .refused e⟩] } full last := by
  refine h.append h.limit_eq (fun ho => by simpa [Call.live?] using ho)
    (.refused h.length_fresh.1 h.length_fresh.2 ?_)
  rw [← h.limit_eq]
  unfold ControlStream.send at hs
  split at hs
  · next he =>
    obtain rfl := Except.error.inj hs
    exact he
  · cases hs

theorem call (h : Sound o limit before t full last) {m : Message} {s : Sending} {c : ControlStream}
    (hs : t.control.send m = .ok (s, c)) :
    Sound o limit before { t with control := c, calls := t.calls ++ [⟨m, .underWay s⟩] }
      full last := by
  unfold ControlStream.send at hs
  split at hs
  · cases hs
  · next frame he =>
    obtain ⟨rfl, rfl⟩ := Prod.mk.inj (Except.ok.inj hs)
    refine h.append h.limit_eq (fun ho => by simpa [Call.live?, Turns.join] using ho.join frame)
      (.waiting h.length_fresh.1 h.length_fresh.2 ?_)
    rw [← h.limit_eq]
    exact he

/-- The call in front begins to write its frame. -/
theorem begin (h : Sound o limit before t full last) {i tk : Nat} {m : Message} {frame : Bytes}
    (hi : t.calls[i]? = some ⟨m, .underWay (.waiting tk frame)⟩)
    (hfirst : t.control.writers.isFirst tk = true) (hinc : t.control.incomplete = false) :
    Sound o limit before ⟨{ t.control with incomplete := true }, t.out,
      t.calls.set i ⟨m, .underWay (.writing tk frame)⟩, t.order ++ [i]⟩ full (some i) := by
  obtain ⟨others, hlive, hset⟩ := exists_live_set hi
  obtain ⟨done, begun, written, hw, ho, hfull, hlast⟩ := h.bytes
  rw [hlive] at ho
  obtain ⟨rfl, ho'⟩ := Orderly.begin ho hfirst hinc
  obtain rfl : last = none := by
    cases hlast
    rfl
  have horder : t.order = full := by simpa using h.order_eq
  obtain ⟨hnot, he⟩ : i ∉ full ∧ Frame.encode limit m = .ok frame := by
    cases h.calls i _ hi with
    | waiting hf _ he => exact ⟨hf, he⟩
  refine h.set hi h.limit_eq (by rw [horder]; rfl) ?_ ?_
    ⟨done, some frame, written, hw, ?_, hfull, .some ⟨m, by simp [hi], he⟩⟩
    (fun _ _ => Iff.rfl) (fun j hj => ?_) (.writing rfl)
  · rw [horder, List.nodup_append]
    refine ⟨horder ▸ h.nodup, List.nodup_singleton _, ?_⟩
    rintro j hj k hk rfl
    rw [List.mem_singleton] at hk
    exact hnot (hk ▸ hj)
  · intro j hj
    rw [List.mem_append, List.mem_singleton] at hj
    rcases hj with hj | rfl
    · exact h.lt_length j hj
    · exact (List.getElem?_eq_some_iff.mp hi).1
  · rw [hset]
    simpa [Call.live?] using ho'
  · simp [Ne.symm hj]

/-- The call in front has written all of its frame. -/
theorem finish (h : Sound o limit before t full last) {i tk : Nat} {m : Message}
    (hi : t.calls[i]? = some ⟨m, .underWay (.writing tk [])⟩) {out : σ}
    (ht : o.taken out = o.taken t.out) :
    Sound o limit before ⟨Sending.leave (.writing tk []) { t.control with incomplete := false },
      out, t.calls.set i ⟨m, .returned (.writing tk []) (.ok ())⟩, t.order⟩ (full ++ [i]) none := by
  obtain ⟨others, hlive, hset⟩ := exists_live_set hi
  obtain ⟨done, begun, written, hw, ho, hfull, hlast⟩ := h.bytes
  rw [hlive] at ho
  obtain ⟨frame, rfl, ho'⟩ := Orderly.finish ho
  obtain rfl : last = some i := by
    cases h.calls i _ hi with
    | writing hl => exact hl
  have hframe : IsFrame limit t.calls i frame := by
    cases hlast with
    | some hf => exact hf
  refine h.set hi h.limit_eq (by simp [h.order_eq]) h.nodup h.lt_length
    ⟨done ++ [frame], none, written, by rw [ht, hw], ?_,
      List.rel_append hfull (.cons hframe .nil), .none⟩
    (fun j hj => ?_) (fun j hj => ?_) (.complete (by simp))
  · rw [hset]
    simpa [Call.live?] using ho'
  · simp [hj]
  · simp [Ne.symm hj]

/-- A call that waits in front finds nobody writing. -/
theorem not_writing (h : Sound o limit before t full last) {i tk : Nat} {m : Message}
    {frame : Bytes} (hi : t.calls[i]? = some ⟨m, .underWay (.waiting tk frame)⟩)
    (hfirst : t.control.writers.isFirst tk = true) (tk' : Nat) (rest : Bytes) :
    .writing tk' rest ∉ live t.calls := by
  obtain ⟨others, hlive, -⟩ := exists_live_set hi
  obtain ⟨done, begun, written, -, ho, -, -⟩ := h.bytes
  rw [hlive] at ho ⊢
  intro hw
  rw [Multiset.mem_add] at hw
  rcases hw with hw | hw
  · simp [Call.live?] at hw
  · exact ho.not_writing hfirst tk' rest hw

theorem goesOn (h : Sound o limit before t full last) {i : Nat} {m : Message} {s s' : Sending}
    {c : ControlStream} {out : σ} (hi : t.calls[i]? = some ⟨m, .underWay s⟩)
    (run : s.stepWith t.control t.out (o.write t.out) = .goesOn (s', c, out)) :
    ∃ full' last', Sound o limit before ⟨c, out, t.calls.set i ⟨m, .underWay s'⟩,
      if s.hasTurn then t.order else t.order ++ [i]⟩ full' last' := by
  rcases Sending.stepWith_eq_goesOn run with ⟨tk, frame, rfl, hfirst, hinc, rfl, rfl, rfl⟩ |
    ⟨tk, chunk, rest, rfl, rfl, rfl, ht⟩
  · exact ⟨_, _, h.begin hi hfirst hinc⟩
  · refine ⟨full, last, h.set_same hi rfl ht (fun ho => ?_) ?_⟩
    · simpa [Call.live?] using ho.chunk
    · cases h.calls i _ hi with
      | writing hl => exact .writing hl

theorem ends (h : Sound o limit before t full last) {i : Nat} {m : Message} {s : Sending}
    {result : Except Error Unit} {c : ControlStream} {out : σ}
    (hi : t.calls[i]? = some ⟨m, .underWay s⟩)
    (run : s.stepWith t.control t.out (o.write t.out) = .ends (result, c, out)) :
    ∃ full' last', Sound o limit before ⟨c, out, t.calls.set i ⟨m, .returned s result⟩, t.order⟩
      full' last' := by
  rcases Sending.stepWith_eq_ends run with ⟨tk, frame, rfl, hfirst, hinc, rfl, rfl, rfl⟩ |
    ⟨tk, rfl, rfl, rfl, ht⟩ | ⟨tk, rest, chunk, e, rfl, hp, rfl, rfl, ht⟩
  · have hb : Broken t.calls := h.broken_of_incomplete hinc (h.not_writing hi hfirst)
    refine ⟨full, last, h.set_same hi rfl (List.append_nil _).symm (fun ho => ?_) ?_⟩
    · simpa [Call.live?] using ho.leave
    · cases h.calls i _ hi with
      | waiting hf hl => exact .turnedAway hf hl (hb.set hi _)
  · exact ⟨_, _, h.finish hi ht⟩
  · refine ⟨full, last, h.set_same hi rfl ht (fun ho => ?_) ?_⟩
    · simpa [Call.live?] using ho.fail hp
    · cases h.calls i _ hi with
      | writing hl => exact .failed hl

theorem abandon (h : Sound o limit before t full last) {i : Nat} {m : Message} {s : Sending}
    (hi : t.calls[i]? = some ⟨m, .underWay s⟩) :
    Sound o limit before ⟨s.abandon t.control, t.out, t.calls.set i ⟨m, .abandoned s⟩, t.order⟩
      full last := by
  refine h.set_same hi rfl (List.append_nil _).symm (fun ho => ?_) ?_
  · simpa [Call.live?, Sending.abandon] using ho.leave
  · cases h.calls i _ hi with
    | waiting hf hl => exact .gaveUp hf hl
    | writing hl => exact .brokenOff hl

theorem step (h : Sound o limit before t full last) {t' : State σ} (hs : Step o t t') :
    ∃ full' last', Sound o limit before t' full' last' := by
  cases hs with
  | refuse hs => exact ⟨_, _, h.refuse hs⟩
  | call hs => exact ⟨_, _, h.call hs⟩
  | goesOn hi run => exact h.goesOn hi run
  | ends hi run => exact h.ends hi run
  | abandon hi => exact ⟨_, _, h.abandon hi⟩
  | elsewhere ht =>
    obtain ⟨done, begun, written, hw, ho, hfull, hlast⟩ := h.bytes
    exact ⟨_, _, h.limit_eq, h.order_eq, h.nodup, h.lt_length,
      ⟨done, begun, written, ht.trans hw, ho.readers _, hfull, hlast⟩, h.calls⟩

theorem run (h : Sound o limit before t full last) {t' : State σ}
    (hr : Relation.ReflTransGen (Step o) t t') :
    ∃ full' last', Sound o limit before t' full' last' := by
  induction hr with
  | refl => exact ⟨_, _, h⟩
  | tail _ hs ih =>
    obtain ⟨_, _, h'⟩ := ih
    exact h'.step hs

end Sound

/-! ## After a call was broken off -/

theorem Step.broken {o : Outlet σ} {t t' : State σ} (hs : Step o t t') (hb : Broken t.calls) :
    Broken t'.calls := by
  cases hs with
  | refuse | call =>
    obtain ⟨b, hmem, hbroke⟩ := hb
    exact ⟨b, List.mem_append_left _ hmem, hbroke⟩
  | goesOn hi | ends hi | abandon hi => exact hb.set hi _
  | elsewhere => exact hb

theorem Returned.of_append {calls : List Call} {call : Call} {i : Nat} {result : Except Error Unit}
    (h : Returned (calls ++ [call]) i result)
    (hc : ∀ last result, call.progress ≠ .returned last result) : Returned calls i result := by
  obtain ⟨m, last, hi⟩ := h
  rw [List.getElem?_append] at hi
  split_ifs at hi
  · exact ⟨m, last, hi⟩
  · have hmem := List.mem_of_getElem? hi
    rw [List.mem_singleton] at hmem
    exact absurd (congrArg Call.progress hmem).symm (hc last result)

theorem Returned.of_set {calls : List Call} {i j : Nat} {m : Message} {p : Progress}
    {result : Except Error Unit} (h : Returned (calls.set i ⟨m, p⟩) j result) :
    Returned calls j result ∨ ∃ last, p = .returned last result := by
  obtain ⟨m', last, hj⟩ := h
  rw [List.getElem?_set] at hj
  split_ifs at hj
  · obtain ⟨-, rfl⟩ := by simpa using hj
    exact .inr ⟨last, rfl⟩
  · exact .inl ⟨m', last, hj⟩

/-- Calls that return on a stream that is marked and that nobody writes on are turned away. -/
theorem Step.of_halted {o : Outlet σ} {t t' : State σ} (hs : Step o t t')
    (hinc : t.control.incomplete = true) (hw : ∀ tk rest, .writing tk rest ∉ live t.calls) :
    o.taken t'.out = o.taken t.out ∧ t'.order = t.order ∧
      ∀ i result, Returned t'.calls i result →
        Returned t.calls i result ∨ result = .error (.transport .incompleteFrame) := by
  cases hs with
  | refuse | call => exact ⟨rfl, rfl, fun i result hr => .inl (hr.of_append (by simp))⟩
  | goesOn hi run =>
    rcases Sending.stepWith_eq_goesOn run with ⟨tk, frame, rfl, -, hinc', -⟩ |
      ⟨tk, chunk, rest, rfl, -⟩
    · cases hinc.symm.trans hinc'
    · exact absurd (mem_live.mpr ⟨_, _, hi⟩) (hw _ _)
  | ends hi run =>
    rcases Sending.stepWith_eq_ends run with ⟨tk, frame, rfl, -, -, rfl, rfl, rfl⟩ |
      ⟨tk, rfl, -⟩ | ⟨tk, rest, chunk, e, rfl, -⟩
    · refine ⟨rfl, rfl, fun j result hr => hr.of_set.imp_right ?_⟩
      rintro ⟨last, hp⟩
      exact (Progress.returned.inj hp).2.symm
    · exact absurd (mem_live.mpr ⟨_, _, hi⟩) (hw _ _)
    · exact absurd (mem_live.mpr ⟨_, _, hi⟩) (hw _ _)
  | abandon hi =>
    refine ⟨rfl, rfl, fun j result hr => .inl (hr.of_set.resolve_right ?_)⟩
    rintro ⟨last, hp⟩
    cases hp
  | elsewhere ht => exact ⟨ht, rfl, fun _ _ hr => .inl hr⟩

end MediaOverQuic.Traffic
