import Mathlib.Tactic
import MediaOverQuic.Proofs.Server.Alone
import MediaOverQuic.Proofs.Server.Passing

/-!
# How a connection ends

Every connection that a server receives ends in one way. Either its handshake succeeds: then the
session is delivered to the application, once, and the server does not close the connection. Or the
handshake fails: then there is no session, and the server closes the connection, once, with what the
failure calls for. Which of the two it is, and with which session or failure, is the same as in a
server that receives nobody else.
-/
namespace MediaOverQuic

open Scenario Scenario.Servers

/-! ## Who has closed a connection -/

namespace Stay

theorem closes_letGo (r : Reception) (l : Link) : (letGo r l).closes = l.closes := by
  cases r <;> simp [letGo]

theorem closes_begin (config : Config) (params : List KeyValuePair) (now : Nat) (l : Link) :
    (begin config params now l).link.closes =
      l.closes ++ (begin config params now l).reception.closes :=
  (closes_letGo _ _).trans (Reception.closes_begin config params l)

theorem advance_of_over {v : Stay} (h : v.reception.run? = none) (now : Nat) (pick : Pick) :
    v.advance now pick = v := by
  obtain ⟨run | session | f, l, deadline⟩ := v
  · cases h
  · rfl
  · rfl

/-- A task does not close the connection, unless the handshake ends with a failure. -/
theorem closes_advance {v : Stay} {run : Handshake.Run} (h : v.reception = .shaking run)
    (now : Nat) (pick : Pick) : (v.advance now pick).link.closes =
      v.link.closes ++ (v.advance now pick).reception.closes := by
  have hsame : v.link.closes = v.link.closes ++ v.reception.closes := by
    rw [h]
    exact (List.append_nil _).symm
  unfold advance
  split
  · next next hstep =>
    exact (closes_letGo _ _).trans (Reception.closes_step? hstep)
  · split_ifs
    · rw [h]
      exact (closes_letGo _ _).trans (Reception.closes_expire run v.link)
    · exact hsame

end Stay

namespace Scenario.Servers.State

variable {s t : State} {i : Nat} {v : Stay}

theorem link_of_stay (h : s.Lodged) (hv : s.stay? i = some v) : s.link i = v.link := by
  obtain ⟨g, hg, rfl⟩ := Option.map_eq_some_iff.mp hv
  rw [h.link_eq hg]

/-- Guests that fare alike have connections that are alike. -/
theorem link_congr (hs : s.Lodged) (ht : t.Lodged) (h : t.stay? i = s.stay? i) :
    t.link i = s.link i := by
  have habsent : ∀ {u : State}, u.Lodged → u.stay? i = none → u.link i = .fresh false 0 := by
    intro u hu hnone
    have hle : u.handler.links.length ≤ i := by
      rw [hu.links, ← List.getElem?_eq_none_iff]
      exact Option.map_eq_none_iff.mp hnone
    simp [link, Handler.link, List.getElem?_eq_none hle]
  cases hv : s.stay? i with
  | none => rw [habsent hs hv, habsent ht (h.trans hv)]
  | some v => rw [link_of_stay hs hv, link_of_stay ht (h.trans hv)]

/-- The connection that is there to be received comes behind those that were received. -/
theorem link_withLink (h : s.Lodged) (l : Link) (i : Nat) :
    (s.withLink l).link i = if i = s.handler.guests.length then l else s.link i := by
  have hlinks := h.links
  simp only [withLink, link, Handler.link, List.getD_eq_getElem?_getD, List.getElem?_append,
    ← hlinks]
  split_ifs with hlt heq heq
  · omega
  · rfl
  · simp [heq]
  · have hle : s.handler.links.length + 1 ≤ i := by omega
    rw [List.getElem?_eq_none (by simpa using by omega), List.getElem?_eq_none (by omega)]

end Scenario.Servers.State

namespace Hosting

variable {s t : Hosting} {i : Nat} {v : Stay} {capacity : Nat}

theorem failure?_of_stay (hv : s.server.stay? i = some v) :
    s.server.failure? i = v.reception.failure? := by
  rw [State.failure?, hv, Option.bind_some]

/-- How a connection has been closed, and by whom. -/
structure Closed (s : Hosting) : Prop where
  closings : ∀ i, s.closings i = ((s.server.failure? i).map Failure.termination).toList
  closing : ∀ {i : Nat} {v : Stay}, s.server.stay? i = some v →
    v.link.closing = (s.found i).or v.reception.closes.head?

theorem closed_start (s : State) (config : Config) (params : List KeyValuePair) (capacity : Nat) :
    Closed (start s config params capacity) where
  closings _ := rfl
  closing h := by cases h

theorem Closed.closings_of_stay (h : Closed s) (hv : s.server.stay? i = some v) :
    s.closings i = v.reception.closes := by
  rw [h.closings, failure?_of_stay hv, Reception.closes]

theorem Closed.closings_of_absent (h : Closed s) (hnone : s.server.stay? i = none) :
    s.closings i = [] := by
  rw [h.closings, State.failure?, hnone]
  rfl

/-- A guest that stays the same is not closed. -/
theorem Closed.closings_of_same (hl : s.server.Lodged) (h : Closed s) {server : State}
    (hl' : server.Lodged) (hsame : server.stay? i = s.server.stay? i) :
    (s.act s.server server).closings i =
      ((server.failure? i).map Failure.termination).toList := by
  rw [act_of_link_eq (State.link_congr hl hl' hsame), h.closings, State.failure?, State.failure?,
    hsame]

/-- What a task closes its connection with is what the handshake has failed with. -/
theorem Closed.closings_continues (hl : s.server.Lodged) (h : Closed s) (pick : Pick)
    (j i : Nat) : (s.perform (.continues j pick)).closings i =
      (((s.perform (.continues j pick)).server.failure? i).map Failure.termination).toList := by
  have hmoves := State.moves_guest hl pick j
  by_cases hij : j = i
  · subst hij
    cases hv : s.server.stay? j with
    | none => exact h.closings_of_same hl hmoves.lodged (by rw [hmoves.own, hv]; rfl)
    | some v =>
      have hv' := hmoves.own
      rw [hv, Option.map_some] at hv'
      cases hr : v.reception with
      | shaking run =>
        -- Nothing was closed before, so what the step has added to the closes is all there is.
        have hnothing : s.closings j = [] := by rw [h.closings_of_stay hv, hr]; rfl
        show s.closings j ++ (State.link _ j).closes.drop (State.link _ j).closes.length = _
        rw [hnothing, State.link_of_stay hmoves.lodged hv', State.link_of_stay hl hv,
          Stay.closes_advance hr, List.drop_left, failure?_of_stay hv']
        rfl
      | established | refused =>
        rw [Stay.advance_of_over (by rw [hr]; rfl)] at hv'
        exact h.closings_of_same hl hmoves.lodged (hv'.trans hv.symm)
  · exact h.closings_of_same hl hmoves.lodged (hmoves.others i hij)

/-- A connection that is received is closed if the handshake can not begin. -/
theorem Closed.closings_arrives (hl : s.server.Lodged) (h : Closed s) (l : Link) (i : Nat) :
    (s.perform (.arrives l)).closings i =
      (((s.perform (.arrives l)).server.failure? i).map Failure.termination).toList := by
  have hl' := State.lodged_invite hl l
  have hstay := State.stay?_invite hl l (i := i)
  have hlink := State.link_withLink hl l i
  show s.closings i ++ (State.link _ i).closes.drop (State.link _ i).closes.length = _
  rw [hlink]
  split_ifs at hstay ⊢ with hi
  · have hnone : s.server.stay? i = none := by simp [State.stay?, hi]
    rw [h.closings_of_absent hnone, State.link_of_stay hl' hstay, Stay.closes_begin,
      List.drop_left, failure?_of_stay hstay]
    rfl
  · exact h.closings_of_same hl hl' hstay

theorem failure?_of_moves {s s' : State} {j : Nat} {f : Stay → Stay} (h : State.Moves j f s s')
    (hf : ∀ v, (f v).reception = v.reception) : s'.failure? i = s.failure? i := by
  by_cases hij : j = i
  · subst hij
    rw [State.failure?, State.failure?, h.own, Option.bind_map]
    exact Option.bind_congr fun v _ => congrArg Reception.failure? (hf v)
  · rw [State.failure?, State.failure?, h.others i hij]

theorem Closed.closings_perform (hl : s.server.Lodged) (h : Closed s) (happening : Happening)
    (i : Nat) : (s.perform happening).closings i =
      (((s.perform happening).server.failure? i).map Failure.termination).toList := by
  cases happening with
  | arrives l => exact h.closings_arrives hl l i
  | continues j pick => exact h.closings_continues hl pick j i
  | changes j l =>
    have hmoves := State.moves_setLink hl j (·.changedTo l)
    have hfailure := failure?_of_moves (i := i) hmoves fun _ => rfl
    show s.closings i = _
    rw [h.closings, ← hfailure]
    rfl
  | passes time => exact h.closings i
  | takes =>
    rw [(notes_takes s).1, h.closings, failure?_of_moves (moves_takes hl i) fun _ => rfl]

/-- A connection that is changed by the far side stays closed as it was. -/
theorem closing_changedTo {l after : Link} {found closing : Option (TerminationCode × ReasonPhrase)}
    (h : l.closing = found.or closing) :
    (l.changedTo after).closing = (if l.isClosed then found else after.closing).or closing := by
  have hboth : (l.changedTo after).closing = l.closing.or after.closing := List.head?_append
  rw [hboth]
  cases hclosing : l.closing with
  | some reason =>
    rw [Link.isClosed, hclosing, Option.isSome_some, if_pos rfl, ← h, hclosing, Option.some_or]
  | none =>
    obtain ⟨-, hnone⟩ := Option.or_eq_none_iff.mp (h.symm.trans hclosing)
    simp [Link.isClosed, hclosing, hnone]

theorem Closed.closing_perform (hl : s.server.Lodged) (h : Closed s) (happening : Happening)
    (hv : (s.perform happening).server.stay? i = some v) :
    v.link.closing = ((s.perform happening).found i).or v.reception.closes.head? := by
  cases happening with
  | arrives l =>
    have hstay := (State.stay?_invite hl l).symm.trans hv
    show _ = (Function.update s.found s.server.handler.guests.length l.closing i).or _
    split_ifs at hstay with hi
    · obtain rfl := Option.some.inj hstay
      rw [hi, Function.update_self, Link.closing, Stay.closes_begin, List.head?_append]
      rfl
    · rw [Function.update_of_ne hi]
      exact h.closing hstay
  | changes j l =>
    have hmoves := State.moves_setLink hl j (·.changedTo l)
    show _ = (Function.update s.found j _ i).or _
    by_cases hij : j = i
    · subst hij
      obtain ⟨v₀, hv₀, rfl⟩ := Option.map_eq_some_iff.mp (hmoves.own.symm.trans hv)
      rw [Function.update_self, State.link_of_stay hl hv₀]
      exact closing_changedTo (h.closing hv₀)
    · rw [Function.update_of_ne (Ne.symm hij)]
      exact h.closing ((hmoves.others i hij).symm.trans hv)
  | continues j pick =>
    have hmoves := State.moves_guest hl pick j
    show _ = (s.found i).or _
    by_cases hij : j = i
    · subst hij
      obtain ⟨v₀, hv₀, rfl⟩ := Option.map_eq_some_iff.mp (hmoves.own.symm.trans hv)
      have hclosing := h.closing hv₀
      cases hr : v₀.reception with
      | shaking run =>
        have hfound : v₀.link.closing = s.found j := by
          rw [hclosing, hr]
          exact Option.or_none
        rw [← hfound, Link.closing, Stay.closes_advance hr, List.head?_append]
        rfl
      | established session => rwa [Stay.advance_of_over (by rw [hr]; rfl)]
      | refused f => rwa [Stay.advance_of_over (by rw [hr]; rfl)]
    · exact h.closing ((hmoves.others i hij).symm.trans hv)
  | passes time => exact h.closing hv
  | takes =>
    have hown := (moves_takes hl i).own
    rw [Option.map_id] at hown
    rw [(notes_takes s).2]
    exact h.closing (hown.symm.trans hv)

theorem Closed.run (hl : s.server.Lodged) (h : Closed s) (happenings : List Happening) :
    Closed (s.run happenings) := by
  induction happenings generalizing s with
  | nil => exact h
  | cons happening rest ih =>
    exact ih (lodged_perform hl happening)
      ⟨h.closings_perform hl happening, h.closing_perform hl happening⟩

/-! ## How a connection ends -/

/-- What is to be seen of connection `i` when its handshake has come to `r`. -/
def Shows (s : Hosting) (i : Nat) : Reception → Prop
  | .shaking _ => s.deliveries i = [] ∧ s.closings i = []
  | .established session => s.closings i = [] ∧
      (s.deliveries i = [] ∨ s.deliveries i = [session]) ∧
      Eventually Proceeds (fun t => t.deliveries i = [session]) s
  | .refused f => s.deliveries i = [] ∧ s.closings i = [f.termination]

/-- Whether connection `i` ends in one way and once. -/
structure EndsOnce (s : Hosting) (i : Nat) (v : Stay) : Prop where
  shows : s.Shows i v.reception
  /-- The connection is closed with what the server closes it with, unless the far side has closed
  it before. -/
  closing : v.link.closing = (s.found i).or (s.closings i).head?
  /-- Nothing that happens later changes how a handshake has ended. -/
  lasts : v.reception.run? = none → ∀ later, ∃ v', (s.run later).server.stay? i = some v' ∧
    v'.reception = v.reception

theorem shows_of_stay (hc : 0 < capacity) (hl : s.server.Lodged) (hpassed : Passed capacity s)
    (hclosed : Closed s) (hv : s.server.stay? i = some v) : s.Shows i v.reception := by
  have hclosings := hclosed.closings_of_stay hv
  obtain ⟨g, hg, rfl⟩ := Option.map_eq_some_iff.mp hv
  cases hr : g.reception with
  | shaking run =>
    simp only [hr] at hclosings ⊢
    exact ⟨hpassed.deliveries_eq_nil hg (by simp [hr]), hclosings⟩
  | established session =>
    simp only [hr] at hclosings ⊢
    refine ⟨hclosings, ?_, Awaited.delivers hc ⟨hl, hpassed, g, hg, hr⟩⟩
    rw [hpassed.deliveries hg hr]
    exact (em _).elim (fun hmem => .inr (if_pos hmem)) fun hmem => .inl (if_neg hmem)
  | refused f =>
    simp only [hr] at hclosings ⊢
    exact ⟨hpassed.deliveries_eq_nil hg (by simp [hr]), hclosings⟩

theorem endsOnce_of_stay (hc : 0 < capacity) (hl : s.server.Lodged) (hpassed : Passed capacity s)
    (hclosed : Closed s) (hv : s.server.stay? i = some v) : EndsOnce s i v := by
  refine ⟨shows_of_stay hc hl hpassed hclosed hv, ?_, fun hover later => ?_⟩
  · rw [hclosed.closing hv, hclosed.closings_of_stay hv]
  · exact over_run hl hv hover later

/-- Every connection that a server receives ends once, in one way, and as it would alone. -/
theorem ends_once_as_alone (s : State) (config : Config) (params : List KeyValuePair)
    (capacity : Nat) (hc : 0 < capacity) (happenings : List Happening) (i : Nat)
    (hi : i < (happenings.map Happening.arrivals).sum) :
    ∃ v, ((start s config params capacity).run happenings).server.stay? i = some v ∧
      EndsOnce ((start s config params capacity).run happenings) i v ∧
      let alone := (start s config params capacity).run (Happening.alone i 0 happenings)
      alone.server.handler.guests.length = 1 ∧ alone.server.stay? 0 = some v := by
  have hl := lodged_start s config params capacity
  have hmirrors := (mirrors_start s config params capacity i).run happenings
  have hguests := guests_run hl happenings
  have hlt := hi.trans_le (Nat.le_add_left _
    (start s config params capacity).server.handler.guests.length)
  rw [← hguests] at hlt
  have hv := State.stay?_of_guest (lodged_run hl happenings) (List.getElem?_eq_getElem hlt)
  exact ⟨_, hv, endsOnce_of_stay hc (lodged_run hl happenings)
    ((passed_start s config params capacity).run hl happenings)
    ((closed_start s config params capacity).run hl happenings) hv,
    hmirrors.count.trans (if_pos hlt), hmirrors.stay.trans hv⟩

/-- A connection on which the client has opened a stream and sent its setup message. -/
def greeted : Link :=
  let l : Link := { Link.fresh false 1 with
    streams := [.fresh .bidirectional .client]
    bidirectional := ⟨.empty Link.queueSize, (Channel.empty Link.queueSize).offer 0⟩ }
  l.setInbound 0 .server ((l.inbound 0 .server).fill [0x20, 1, 0])

/-- Four clients at the same time. The session with the first one is delivered, and the second one
stays silent until it is closed. The last two close the connection right after their setup message:
one task notes the close first and fails, the other one the stream. -/
theorem ends_once_as_alone_four :
    let s : State :=
      { now := 0, listener := .fresh false 1, admission := .start 100, reported := false
        handling := true, handler := .start .standard [] 10, deadlines := [], clients := []
        call := none, outcome := .done }
    let happenings : List Happening :=
      [.arrives greeted, .arrives (.fresh false 1), .arrives greeted, .arrives greeted,
        .continues 2 .stream, .continues 3 .stream, .continues 1 .stream,
        .changes 3 (greeted.close .noError .empty), .changes 2 (greeted.close .noError .empty)] ++
      List.replicate 12 (.continues 0 .stream) ++ [.continues 2 .closing] ++
      List.replicate 12 (.continues 3 .stream) ++ [.takes, .takes, .passes 10000000000] ++
      List.replicate 4 (.continues 1 .closing)
    let t := (start s .standard [] 10).run happenings
    0 < 10 ∧ (happenings.map Happening.arrivals).sum = 4 ∧
      t.delivered.map Prod.fst = [0, 3] ∧ t.closings 0 = [] ∧ t.closings 3 = [] ∧
      (t.closings 1).map Prod.fst = [.controlMessageTimeout] ∧
      (t.closings 2).map Prod.fst = [.internalError] ∧
      ∀ i < 4, ∃ v, t.server.stay? i = some v ∧ EndsOnce t i v ∧
        let alone := (start s .standard [] 10).run (Happening.alone i 0 happenings)
        alone.server.handler.guests.length = 1 ∧ alone.server.stay? 0 = some v := by
  intro s happenings t
  have hcount : (happenings.map Happening.arrivals).sum = 4 := by decide
  exact ⟨by decide, hcount, by decide +kernel, by decide +kernel, by decide +kernel,
    by decide +kernel, by decide +kernel, fun i hi =>
      ends_once_as_alone s .standard [] 10 (by decide) happenings i (hi.trans_eq hcount.symm)⟩

end Hosting

end MediaOverQuic
