import Mathlib.Tactic
import MediaOverQuic.Proofs.Session.Closing
import MediaOverQuic.Scenario.Servers

/-!
# Guests of a server

A server receives connections one after another and then runs all their handshakes at the same time,
in any order of steps, while the far sides do what they like and time passes. What becomes of a
connection is told by its own steps, its own far side and the clock: nobody else's step touches it.
Of a stream that has arrived and a close, a task that waits may note either first.
-/
namespace MediaOverQuic

open Scenario Scenario.Servers

/-! ## One guest -/

/-- A connection that a server has received: how far its handshake is, the connection itself, and
when the handshake stops waiting. -/
structure Stay where
  reception : Reception
  link : Link
  deadline : Nat

namespace Stay

/-- The server lets go of a connection that it has refused. -/
def letGo : Reception → Link → Link
  | .refused _, l => l.detach .server
  | .shaking _, l | .established _, l => l

/-- A connection that has just been received. -/
def begin (config : Config) (params : List KeyValuePair) (now : Nat) (l : Link) : Stay :=
  let (r, l) := Reception.begin config params l
  ⟨r, letGo r l, now + match r.run? with
    | some run => run.limit.nanos
    | none => 0⟩

/-- What a step of the handshake leads to. -/
def become (v : Stay) (now : Nat) (next : Reception × Link) : Stay :=
  ⟨next.1, letGo next.1 next.2, match v.reception.run?, next.1.run? with
    | some before, some after => nextDeadline now v.deadline before after
    | _, _ => v.deadline⟩

/-- The connection after its handshake had a chance to go on. -/
def advance (v : Stay) (now : Nat) (pick : Pick) : Stay :=
  match v.reception.step? pick v.link with
  | some next => v.become now next
  | none =>
    if v.reception.run?.isSome ∧ v.deadline ≤ now then
      v.become now (v.reception.expire v.link)
    else v

@[simp] theorem advance_established (session : Session) (l : Link) (deadline now : Nat)
    (pick : Pick) : (Stay.mk (.established session) l deadline).advance now pick =
      ⟨.established session, l, deadline⟩ := rfl

@[simp] theorem advance_refused (f : Failure) (l : Link) (deadline now : Nat) (pick : Pick) :
    (Stay.mk (.refused f) l deadline).advance now pick = ⟨.refused f, l, deadline⟩ := rfl

end Stay

/-! ## All guests -/

namespace Handler

variable {h h' : Handler} {i j id : Nat} {g : Guest} {l : Link}

@[simp] theorem length_links_setLink (h : Handler) (id : Nat) (l : Link) :
    (h.setLink id l).links.length = h.links.length := List.length_set

theorem link_setLink (hid : id < h.links.length) (l : Link) : (h.setLink id l).link id = l := by
  simp [link, setLink, hid]

theorem link_setLink_ne (hne : id ≠ j) (l : Link) : (h.setLink id l).link j = h.link j := by
  simp [link, setLink, hne]

theorem setGuest_eq (h : Handler) (i : Nat) (g : Guest) (l : Link) :
    h.setGuest i g l =
      { h with guests := h.guests.set i g }.setLink g.link (Stay.letGo g.reception l) := by
  unfold setGuest
  cases g.reception <;> rfl

/-- Passing a session on moves it along the channel and does nothing else. -/
theorem pass?_eq_some (hr : h.received = true) (hpass : h.pass? i g = some h') :
    ∃ sessions passing, h' = { h with sessions := sessions }.setPassing i g passing ∧
      ((g.passing = .unoffered ∧ sessions = h.sessions.offer i ∧
          passing = if h.sessions.hasRoom then .finished else .waiting) ∨
        (g.passing = .waiting ∧ h.sessions.enter? i = some sessions ∧ passing = .finished)) := by
  obtain ⟨config, params, links, guests, sessions, received⟩ := h
  obtain rfl : received = true := hr
  unfold pass? at hpass
  cases hp : g.passing with
  | finished => simp [hp] at hpass
  | unoffered =>
    simp only [hp] at hpass
    obtain rfl := Option.some.inj hpass
    exact ⟨_, _, rfl, .inl ⟨rfl, rfl, rfl⟩⟩
  | waiting =>
    simp only [hp] at hpass
    obtain ⟨sessions, henter, rfl⟩ := Option.map_eq_some_iff.mp hpass
    exact ⟨sessions, _, rfl, .inr ⟨rfl, henter, rfl⟩⟩

end Handler

namespace Scenario.Servers.State

variable {s : State} {pick : Pick} {i j : Nat} {g : Guest}

/-- What has become of the connection that was received as number `i`. -/
def stay? (s : State) (i : Nat) : Option Stay :=
  s.handler.guests[i]?.map fun g => ⟨g.reception, s.link g.link, s.deadline i⟩

/-- The failure that connection `i` was refused for. -/
def failure? (s : State) (i : Nat) : Option Failure := (s.stay? i).bind (·.reception.failure?)

/-- The state with one more connection, for the server to receive. -/
def withLink (s : State) (l : Link) : State :=
  { s with handler := { s.handler with links := s.handler.links ++ [l] } }

/-- How the lists that tell of the guests fit together, while sessions are received. -/
structure Lodged (s : State) : Prop where
  received : s.handler.received = true
  links : s.handler.links.length = s.handler.guests.length
  deadlines : s.deadlines.length = s.handler.guests.length
  link_eq : ∀ {i : Nat} {g : Guest}, s.handler.guests[i]? = some g → g.link = i

theorem lt_of_guest (hg : s.handler.guests[i]? = some g) : i < s.handler.guests.length :=
  (List.getElem?_eq_some_iff.mp hg).1

theorem stay?_of_guest (h : s.Lodged) (hg : s.handler.guests[i]? = some g) :
    s.stay? i = some ⟨g.reception, s.link i, s.deadline i⟩ := by
  simp [stay?, hg, h.link_eq hg]

/-- A guest is put into its place, with what its handshake has led to. -/
def settleGuest (s : State) (i : Nat) (g : Guest) (next : Reception × Link) : State :=
  s.setHandler i (s.handler.setGuest i { g with reception := next.1 } next.2)

theorem guest_of_absent (hg : s.handler.guests[i]? = none) : guest pick i s = none := by
  simp [guest, Handler.serve?, Handler.run?, hg]

/-- All that a task can do while its handshake runs. -/
theorem guest_of_shaking {run : Handshake.Run} (h : s.Lodged)
    (hg : s.handler.guests[i]? = some g) (hr : g.reception = .shaking run) :
    (guest pick i s = none ∧ (Stay.mk g.reception (s.link i) (s.deadline i)).advance s.now pick =
      ⟨g.reception, s.link i, s.deadline i⟩) ∨
    ∃ next, (g.reception.step? pick (s.link i) = some next ∨
        next = g.reception.expire (s.link i)) ∧
      guest pick i s = some (s.settleGuest i g next) ∧
      (Stay.mk g.reception (s.link i) (s.deadline i)).advance s.now pick =
        (Stay.mk g.reception (s.link i) (s.deadline i)).become s.now next := by
  have hl := h.link_eq hg
  have hrun : s.handler.run? i = some run := by simp [Handler.run?, hg, hr, Reception.run?]
  have hlink : s.handler.link g.link = s.link i := by rw [hl]; rfl
  cases hstep : (Reception.shaking run).step? pick (s.link i) with
  | some next =>
    refine .inr ⟨next, .inl (by rw [hr, hstep]), ?_, ?_⟩
    · simp only [guest, Handler.serve?, hg, hr, hlink, hstep, Option.map_some, settleGuest]
    · simp only [Stay.advance, hr, hstep]
  | none =>
    by_cases hlate : s.deadline i ≤ s.now
    · refine .inr ⟨_, .inr rfl, ?_, ?_⟩
      · simp only [guest, Handler.serve?, hg, hr, hlink, hstep, Option.map_none, hrun,
          Option.isSome_some, hlate, and_self, if_true, settleGuest, Handler.expire]
      · simp only [Stay.advance, hr, hstep, Reception.run?, Option.isSome_some, hlate, and_self,
          if_true]
    · refine .inl ⟨?_, ?_⟩
      · simp only [guest, Handler.serve?, hg, hr, hlink, hstep, Option.map_none, hrun, hlate,
          and_false, if_false]
      · simp only [Stay.advance, hr, hstep, hlate, and_false, if_false]

theorem guest_of_established {session : Session} (hg : s.handler.guests[i]? = some g)
    (hr : g.reception = .established session) :
    guest pick i s = (s.handler.pass? i g).map fun handler => { s with handler := handler } := by
  have hrun : s.handler.run? i = none := by simp [Handler.run?, hg, hr, Reception.run?]
  cases hpass : s.handler.pass? i g with
  | none => simp [guest, Handler.serve?, hg, hr, hpass, hrun]
  | some handler => simp [guest, Handler.serve?, hg, hr, hpass, setHandler, hrun]

theorem guest_of_refused {f : Failure} (hg : s.handler.guests[i]? = some g)
    (hr : g.reception = .refused f) : guest pick i s = none := by
  simp [guest, Handler.serve?, hg, hr, Reception.step?, Handler.run?, Reception.run?]

/-! ## What becomes of each guest -/

theorem link_settleGuest (h : s.Lodged) (hg : s.handler.guests[i]? = some g)
    (next : Reception × Link) : (s.settleGuest i g next).link i = Stay.letGo next.1 next.2 := by
  have hi : i < s.handler.links.length := h.links.symm ▸ lt_of_guest hg
  rw [settleGuest, setHandler, link, Handler.setGuest_eq, h.link_eq hg]
  exact Handler.link_setLink hi _

theorem link_settleGuest_ne (h : s.Lodged) (hg : s.handler.guests[i]? = some g) (hne : i ≠ j)
    (next : Reception × Link) : (s.settleGuest i g next).link j = s.link j := by
  rw [settleGuest, setHandler, link, Handler.setGuest_eq, h.link_eq hg]
  exact Handler.link_setLink_ne hne _

theorem guests_settleGuest (s : State) (i : Nat) (g : Guest) (next : Reception × Link) :
    (s.settleGuest i g next).handler.guests =
      s.handler.guests.set i { g with reception := next.1 } := by
  rw [settleGuest, setHandler, Handler.setGuest_eq]
  rfl

theorem deadlines_settleGuest (hg : s.handler.guests[i]? = some g) (next : Reception × Link) :
    (s.settleGuest i g next).deadlines = match g.reception.run?, next.1.run? with
      | some before, some after =>
        s.deadlines.set i (nextDeadline s.now (s.deadline i) before after)
      | _, _ => s.deadlines := by
  have hbefore : s.handler.run? i = g.reception.run? := by simp [Handler.run?, hg]
  have hafter : (s.handler.setGuest i { g with reception := next.1 } next.2).run? i =
      next.1.run? := by
    simp [Handler.run?, Handler.setGuest_eq, Handler.setLink, lt_of_guest hg]
  cases hb : g.reception.run? <;> cases ha : next.1.run? <;>
    simp only [settleGuest, setHandler, hbefore, hafter, hb, ha]

theorem lodged_settleGuest (h : s.Lodged) (hg : s.handler.guests[i]? = some g)
    (next : Reception × Link) : (s.settleGuest i g next).Lodged := by
  have hguests := guests_settleGuest s i g next
  have hdeadlines : (s.settleGuest i g next).deadlines.length = s.deadlines.length := by
    rw [deadlines_settleGuest hg]
    split
    · exact List.length_set
    · rfl
  have hlinks : (s.settleGuest i g next).handler.links.length = s.handler.links.length := by
    rw [settleGuest, setHandler, Handler.setGuest_eq, Handler.length_links_setLink]
  have hreceived : (s.settleGuest i g next).handler.received = s.handler.received := by
    rw [settleGuest, setHandler, Handler.setGuest_eq]
    rfl
  refine ⟨hreceived.trans h.received, ?_, ?_, ?_⟩
  · rw [hlinks, hguests, List.length_set, h.links]
  · rw [hdeadlines, hguests, List.length_set, h.deadlines]
  · intro j g' hg'
    rw [hguests, List.getElem?_set] at hg'
    split_ifs at hg' with hij hlt
    · obtain rfl := Option.some.inj hg'
      exact (h.link_eq hg).trans hij
    · exact h.link_eq hg'

theorem stay?_settleGuest (h : s.Lodged) (hg : s.handler.guests[i]? = some g)
    (next : Reception × Link) : (s.settleGuest i g next).stay? i =
      some ((Stay.mk g.reception (s.link i) (s.deadline i)).become s.now next) := by
  have hguest : (s.settleGuest i g next).handler.guests[i]? =
      some { g with reception := next.1 } := by
    rw [guests_settleGuest, List.getElem?_set_self (lt_of_guest hg)]
  have hi : i < s.deadlines.length := h.deadlines.symm ▸ lt_of_guest hg
  rw [stay?_of_guest (lodged_settleGuest h hg next) hguest, link_settleGuest h hg, deadline,
    deadlines_settleGuest hg]
  simp only [Stay.become]
  split
  · simp [hi]
  · rfl

theorem stay?_settleGuest_ne (h : s.Lodged) (hg : s.handler.guests[i]? = some g) (hne : i ≠ j)
    (next : Reception × Link) : (s.settleGuest i g next).stay? j = s.stay? j := by
  have hguest : (s.settleGuest i g next).handler.guests[j]? = s.handler.guests[j]? := by
    rw [guests_settleGuest, List.getElem?_set_ne hne]
  have hdeadline : (s.settleGuest i g next).deadline j = s.deadline j := by
    rw [deadline, deadlines_settleGuest hg]
    split
    · simp [deadline, hne]
    · rfl
  cases hg' : s.handler.guests[j]? with
  | none => simp [stay?, hguest, hg']
  | some g' =>
    rw [hg'] at hguest
    rw [stay?_of_guest (lodged_settleGuest h hg next) hguest, stay?_of_guest h hg',
      link_settleGuest_ne h hg hne, hdeadline]

/-- Whether a step has done `f` to guest `i` and nothing to the others. -/
structure Moves (i : Nat) (f : Stay → Stay) (s s' : State) : Prop where
  lodged : s'.Lodged
  count : s'.handler.guests.length = s.handler.guests.length
  now : s'.now = s.now
  config : s'.handler.config = s.handler.config
  params : s'.handler.params = s.handler.params
  own : s'.stay? i = (s.stay? i).map f
  others : ∀ j, i ≠ j → s'.stay? j = s.stay? j

theorem Moves.stay {s' : State} {f : Stay → Stay} {v : Stay} (h : Moves j f s s')
    (hv : s.stay? i = some v) : s'.stay? i = some (if j = i then f v else v) := by
  split_ifs with hij
  · subst hij
    rw [h.own, hv, Option.map_some]
  · rw [h.others i hij, hv]

/-- The sessions on their way and who has passed his on are nothing that a stay tells. -/
theorem moves_pass {session : Session} (h : s.Lodged) (hg : s.handler.guests[i]? = some g)
    (hr : g.reception = .established session) (sessions : Channel Nat) (passing : Passing) :
    Moves i (·.advance s.now pick) s
      { s with handler := { s.handler with sessions := sessions }.setPassing i g passing } := by
  have hi := lt_of_guest hg
  refine ⟨⟨h.received, ?_, ?_, ?_⟩, List.length_set, rfl, rfl, rfl, ?_, ?_⟩
  · simp [Handler.setPassing, h.links]
  · simp [Handler.setPassing, h.deadlines]
  · intro j g' hg'
    simp only [Handler.setPassing, List.getElem?_set] at hg'
    split_ifs at hg' with hij
    · obtain rfl := Option.some.inj hg'
      exact (h.link_eq hg).trans hij
    · exact h.link_eq hg'
  · rw [stay?_of_guest h hg, hr, Option.map_some, Stay.advance_established]
    simp only [stay?, Handler.setPassing, List.getElem?_set_self hi, Option.map_some, hr,
      h.link_eq hg]
    rfl
  · intro j hne
    simp only [stay?, Handler.setPassing, List.getElem?_set_ne hne]
    rfl

theorem moves_self {f : Stay → Stay} (h : s.Lodged) (hf : (s.stay? i).map f = s.stay? i) :
    Moves i f s s :=
  ⟨h, rfl, rfl, rfl, rfl, hf.symm, fun _ _ => rfl⟩

/-- A task does to its own guest what the handshake and the clock ask for. -/
theorem moves_guest (h : s.Lodged) (pick : Pick) (i : Nat) :
    Moves i (·.advance s.now pick) s ((guest pick i s).getD s) := by
  cases hg : s.handler.guests[i]? with
  | none =>
    rw [guest_of_absent hg]
    exact moves_self h (by simp [stay?, hg])
  | some g =>
    have hstay := stay?_of_guest h hg
    cases hr : g.reception with
    | shaking run =>
      rcases guest_of_shaking h hg hr with ⟨hnone, hsame⟩ | ⟨next, -, hsome, hnext⟩
      · rw [hnone]
        exact moves_self h (by rw [hstay, Option.map_some, hsame])
      · rw [hsome, Option.getD_some]
        refine ⟨lodged_settleGuest h hg next, ?_, rfl, ?_, ?_, ?_, ?_⟩
        · rw [guests_settleGuest, List.length_set]
        · rw [settleGuest, setHandler, Handler.setGuest_eq]
          rfl
        · rw [settleGuest, setHandler, Handler.setGuest_eq]
          rfl
        · rw [stay?_settleGuest h hg, hstay, Option.map_some, hnext]
        · exact fun j hne => stay?_settleGuest_ne h hg hne next
    | established session =>
      rw [guest_of_established hg hr]
      cases hpass : s.handler.pass? i g with
      | none => exact moves_self h (by rw [hstay, hr, Option.map_some, Stay.advance_established])
      | some handler =>
        obtain ⟨sessions, passing, rfl, -⟩ := Handler.pass?_eq_some h.received hpass
        exact moves_pass h hg hr sessions passing
    | refused f =>
      rw [guest_of_refused hg hr]
      exact moves_self h (by rw [hstay, hr, Option.map_some, Stay.advance_refused])

/-- The far side of a connection changes only that connection. -/
theorem moves_setLink (h : s.Lodged) (i : Nat) (f : Link → Link) :
    Moves i (fun v => { v with link := f v.link }) s (s.setLink i (f (s.link i))) := by
  refine ⟨⟨h.received, ?_, h.deadlines, h.link_eq⟩, rfl, rfl, rfl, rfl, ?_, ?_⟩
  · rw [setLink, Handler.length_links_setLink]
    exact h.links
  · cases hg : s.handler.guests[i]? with
    | none => simp [stay?, setLink, Handler.setLink, hg]
    | some g =>
      have hi : i < s.handler.links.length := h.links.symm ▸ lt_of_guest hg
      have hlink : (s.setLink i (f (s.link i))).link i = f (s.link i) :=
        Handler.link_setLink hi _
      have hg' : (s.setLink i (f (s.link i))).handler.guests[i]? = some g := hg
      simp only [stay?, hg, hg', Option.map_some, h.link_eq hg, hlink]
      rfl
  · intro j hne
    cases hg : s.handler.guests[j]? with
    | none => simp [stay?, setLink, Handler.setLink, hg]
    | some g =>
      have hlink : (s.setLink i (f (s.link i))).link j = s.link j :=
        Handler.link_setLink_ne hne _
      have hg' : (s.setLink i (f (s.link i))).handler.guests[j]? = some g := hg
      simp only [stay?, hg, hg', Option.map_some, h.link_eq hg, hlink]
      rfl

/-- A connection that is received gets the next number. -/
theorem invite_eq (h : s.Lodged) (l : Link) :
    (s.withLink l).invite s.handler.links.length =
      let v := Stay.begin s.handler.config s.handler.params s.now l
      { s with
        handler := { s.handler with
          links := s.handler.links ++ [v.link]
          guests := s.handler.guests ++ [⟨s.handler.guests.length, v.reception, .unoffered⟩] }
        deadlines := s.deadlines ++ [v.deadline] } := by
  have hlink : (s.withLink l).handler.link s.handler.links.length = l := by
    simp [withLink, Handler.link]
  rcases hbegin : Reception.begin s.handler.config s.handler.params l with ⟨r, l'⟩
  have hinvite : (s.withLink l).handler.invite s.handler.links.length =
      { s.handler with
        links := s.handler.links ++ [Stay.letGo r l']
        guests := s.handler.guests ++ [⟨s.handler.guests.length, r, .unoffered⟩] } := by
    have hfirst : Reception.begin (s.withLink l).handler.config (s.withLink l).handler.params
        ((s.withLink l).handler.link s.handler.links.length) = (r, l') := by
      rw [hlink]
      exact hbegin
    simp only [Handler.invite, hfirst, Handler.setGuest_eq]
    simp [Handler.setLink, withLink, h.links]
  have hrun : ((s.withLink l).handler.invite s.handler.links.length).run?
      (s.withLink l).handler.guests.length = r.run? := by
    rw [hinvite]
    simp [Handler.run?, withLink]
  simp only [invite, hinvite] at hrun ⊢
  simp only [hrun, Stay.begin, hbegin]
  rfl

/-- Receiving a connection leaves the clock and the settings of the server alone. -/
theorem settings_invite (h : s.Lodged) (l : Link) :
    let s' := (s.withLink l).invite s.handler.links.length
    s'.now = s.now ∧ s'.handler.config = s.handler.config ∧ s'.handler.params = s.handler.params := by
  rw [invite_eq h]
  exact ⟨rfl, rfl, rfl⟩

theorem lodged_invite (h : s.Lodged) (l : Link) :
    ((s.withLink l).invite s.handler.links.length).Lodged := by
  rw [invite_eq h]
  refine ⟨h.received, by simp [h.links], by simp [h.deadlines], fun {i g} hg => ?_⟩
  simp only [List.getElem?_append] at hg
  split_ifs at hg with hlt
  · exact h.link_eq hg
  · obtain ⟨hi, rfl⟩ := by simpa [List.getElem?_singleton] using hg
    show s.handler.guests.length = i
    omega

theorem stay?_invite (h : s.Lodged) (l : Link) :
    ((s.withLink l).invite s.handler.links.length).stay? i =
      if i = s.handler.guests.length then
        some (Stay.begin s.handler.config s.handler.params s.now l)
      else s.stay? i := by
  rw [invite_eq h]
  split_ifs with hi
  · subst hi
    have hlink := h.links
    have hdeadline := h.deadlines
    simp [stay?, link, Handler.link, deadline, ← hlink, hdeadline]
  · cases hg : s.handler.guests[i]? with
    | none =>
      have hlt : s.handler.guests.length < i := by
        have hle := List.getElem?_eq_none_iff.mp hg
        omega
      have hnone : (s.handler.guests ++ [⟨s.handler.guests.length,
          (Stay.begin s.handler.config s.handler.params s.now l).reception,
          .unoffered⟩])[i]? = none := by
        rw [List.getElem?_eq_none_iff, List.length_append, List.length_singleton]
        omega
      simp [stay?, hg, hnone]
    | some g =>
      have hlt := lt_of_guest hg
      have hlink : i < s.handler.links.length := h.links.symm ▸ hlt
      have hdeadline : i < s.deadlines.length := h.deadlines.symm ▸ hlt
      simp only [stay?, link, Handler.link, deadline, List.getElem?_append_left hlt, hg,
        Option.map_some, h.link_eq hg, List.getD_eq_getElem?_getD,
        List.getElem?_append_left hlink, List.getElem?_append_left hdeadline]

end Scenario.Servers.State

/-! ## What happens to a server -/

/-- What can happen while a server receives connections. -/
inductive Happening
  /-- A connection is received in whatever state it is. -/
  | arrives (l : Link)
  /-- The far side of a connection does something to it. -/
  | changes (i : Nat) (l : Link)
  /-- The task of a connection has a chance to go on, and notes first what `pick` says. -/
  | continues (i : Nat) (pick : Pick)
  | passes (time : Nat)
  /-- The application takes the next session, if there is one. -/
  | takes

/-- How many connections arrive. -/
def Happening.arrivals : Happening → Nat
  | arrives _ => 1
  | changes .. | continues .. | passes _ | takes => 0

/-- A connection that the far side has changed. It can not take back that it is closed. -/
def Link.changedTo (l after : Link) : Link := { after with closes := l.closes ++ after.closes }

/-- A server with what has come of the connections that it received. -/
structure Hosting where
  server : State
  /-- The sessions that the application has taken, with the numbers of their connections. -/
  delivered : List (Nat × Session)
  /-- All that the server has closed each connection with, whether or not it was still open. -/
  closings : Nat → List (TerminationCode × ReasonPhrase)
  /-- What the far side has closed each connection with. -/
  found : Nat → Option (TerminationCode × ReasonPhrase)

namespace Hosting

/-- A server that receives connections, with room for `capacity` sessions on their way. -/
def start (s : State) (config : Config) (params : List KeyValuePair) (capacity : Nat) : Hosting :=
  ⟨{ s with handler := .start config params capacity, deadlines := [] }, [], fun _ => [],
    fun _ => none⟩

/-- The server gets from one state to another. What each connection was closed with on the way is
noted. -/
def act (s : Hosting) (before after : State) : Hosting :=
  { s with
    server := after
    closings := fun i =>
      s.closings i ++ (after.link i).closes.drop (before.link i).closes.length }

/-- Notes what the far side has closed a connection with. -/
def note (s : Hosting) (i : Nat) (reason : Option (TerminationCode × ReasonPhrase)) : Hosting :=
  { s with found := Function.update s.found i reason }

def perform (s : Hosting) : Happening → Hosting
  | .arrives l =>
    let before := s.server.withLink l
    (s.note s.server.handler.guests.length l.closing).act before
      (before.invite s.server.handler.links.length)
  | .changes i l =>
    let before := s.server.link i
    { s.note i (if before.isClosed then s.found i else l.closing) with
      server := s.server.setLink i (before.changedTo l) }
  | .continues i pick => s.act s.server ((State.guest pick i s.server).getD s.server)
  | .passes time => { s with server := { s.server with now := s.server.now + time } }
  | .takes =>
    match s.server.handler.sessions.take?, s.server.handler.takeSession? with
    | some (i, _), some (session, handler) =>
      { s.act s.server { s.server with handler := handler } with
        delivered := s.delivered ++ [(i, session)] }
    | _, _ => s

def run (s : Hosting) (happenings : List Happening) : Hosting := happenings.foldl perform s

/-- The server has not closed a connection that is as before. -/
theorem act_of_link_eq {s : Hosting} {before after : State} {i : Nat}
    (h : after.link i = before.link i) : (s.act before after).closings i = s.closings i := by
  simp [act, h]

theorem act_of_links_eq {s : Hosting} {before after : State}
    (h : ∀ i, after.link i = before.link i) : s.act before after = { s with server := after } := by
  have hclosings : (s.act before after).closings = s.closings :=
    funext fun i => act_of_link_eq (h i)
  show { s with server := after, closings := (s.act before after).closings } = _
  rw [hclosings]

theorem lodged_start (s : State) (config : Config) (params : List KeyValuePair) (capacity : Nat) :
    (start s config params capacity).server.Lodged :=
  ⟨rfl, rfl, rfl, by simp [start, Handler.start]⟩

/-- What the application gets is the session of the guest that is first in the channel. -/
theorem perform_takes (s : Hosting) :
    (s.server.handler.takeSession? = none ∧ s.perform .takes = s) ∨ ∃ i g session sessions,
      s.server.handler.sessions.take? = some (i, sessions) ∧
      s.server.handler.guests[i]? = some g ∧ g.reception = .established session ∧
      s.perform .takes =
        { s with
          server := { s.server with handler := { s.server.handler with sessions := sessions } }
          delivered := s.delivered ++ [(i, session)] } := by
  cases htake : s.server.handler.sessions.take? with
  | none => exact .inl ⟨by simp [Handler.takeSession?, htake], by simp [perform, htake]⟩
  | some front =>
    obtain ⟨i, sessions⟩ := front
    have hnone : s.server.handler.takeSession? = none → s.perform .takes = s := fun hnone => by
      simp [perform, htake, hnone]
    cases hg : s.server.handler.guests[i]? with
    | none =>
      have hsession : s.server.handler.takeSession? = none := by
        simp [Handler.takeSession?, htake, hg]
      exact .inl ⟨hsession, hnone hsession⟩
    | some g =>
      obtain ⟨id, run | session | f, passing⟩ := g
      · have hsession : s.server.handler.takeSession? = none := by
          simp [Handler.takeSession?, htake, hg]
        exact .inl ⟨hsession, hnone hsession⟩
      · refine .inr ⟨i, _, session, sessions, rfl, hg, rfl, ?_⟩
        have hact : s.act s.server { s.server with
            handler := { s.server.handler with sessions := sessions } } = _ :=
          act_of_links_eq fun _ => rfl
        simp [perform, Handler.takeSession?, htake, hg, hact]
      · have hsession : s.server.handler.takeSession? = none := by
          simp [Handler.takeSession?, htake, hg]
        exact .inl ⟨hsession, hnone hsession⟩

/-- Taking a session closes nothing. -/
theorem notes_takes (s : Hosting) :
    (s.perform .takes).closings = s.closings ∧ (s.perform .takes).found = s.found := by
  rcases perform_takes s with ⟨-, hsame⟩ | ⟨i, g, session, sessions, -, -, -, heq⟩
  · rw [hsame]
    exact ⟨rfl, rfl⟩
  · rw [heq]
    exact ⟨rfl, rfl⟩

/-- Taking a session moves no guest. -/
theorem moves_takes {s : Hosting} (h : s.server.Lodged) (i : Nat) :
    State.Moves i id s.server (s.perform .takes).server := by
  rcases perform_takes s with ⟨-, hsame⟩ | ⟨j, g, session, sessions, -, -, -, heq⟩
  · rw [hsame]
    exact State.moves_self h Option.map_id'
  · rw [heq]
    exact ⟨⟨h.received, h.links, h.deadlines, h.link_eq⟩, rfl, rfl, rfl, rfl, Option.map_id'.symm,
      fun _ _ => rfl⟩

theorem lodged_perform {s : Hosting} (h : s.server.Lodged) (happening : Happening) :
    (s.perform happening).server.Lodged := by
  cases happening with
  | arrives l => exact State.lodged_invite h l
  | changes i l => exact (State.moves_setLink h i (·.changedTo l)).lodged
  | continues i pick => exact (State.moves_guest h pick i).lodged
  | passes time => exact ⟨h.received, h.links, h.deadlines, h.link_eq⟩
  | takes => exact (moves_takes h 0).lodged

theorem lodged_run {s : Hosting} (h : s.server.Lodged) (happenings : List Happening) :
    (s.run happenings).server.Lodged := by
  induction happenings generalizing s with
  | nil => exact h
  | cons happening happenings ih => exact ih (lodged_perform h happening)

theorem guests_perform {s : Hosting} (h : s.server.Lodged) (happening : Happening) :
    (s.perform happening).server.handler.guests.length =
      s.server.handler.guests.length + happening.arrivals := by
  cases happening with
  | arrives l =>
    show ((s.server.withLink l).invite s.server.handler.links.length).handler.guests.length = _
    rw [State.invite_eq h]
    simp [Happening.arrivals]
  | changes j l => exact (State.moves_setLink h j (·.changedTo l)).count
  | continues j pick => exact (State.moves_guest h pick j).count
  | passes time => rfl
  | takes => exact (moves_takes h 0).count

theorem guests_run {s : Hosting} (h : s.server.Lodged) (happenings : List Happening) :
    (s.run happenings).server.handler.guests.length =
      s.server.handler.guests.length + (happenings.map Happening.arrivals).sum := by
  induction happenings generalizing s with
  | nil => rfl
  | cons happening rest ih =>
    rw [List.map_cons, List.sum_cons, ← Nat.add_assoc, ← guests_perform h]
    exact ih (lodged_perform h happening)

/-! ## What is over -/

/-- A handshake that is over stays as it ended, whatever happens. -/
theorem over_perform {s : Hosting} {i : Nat} {v : Stay} (h : s.server.Lodged)
    (hv : s.server.stay? i = some v) (hover : v.reception.run? = none) (happening : Happening) :
    ∃ v', (s.perform happening).server.stay? i = some v' ∧ v'.reception = v.reception := by
  cases happening with
  | arrives l =>
    have hi : i ≠ s.server.handler.guests.length := by
      rintro rfl
      simp [State.stay?] at hv
    exact ⟨v, (State.stay?_invite h l).trans (by rw [if_neg hi, hv]), rfl⟩
  | changes j l =>
    refine ⟨_, (State.moves_setLink h j (·.changedTo l)).stay hv, ?_⟩
    split <;> rfl
  | continues j pick =>
    refine ⟨_, (State.moves_guest h pick j).stay hv, ?_⟩
    obtain ⟨run | session | f, l, deadline⟩ := v
    · cases hover
    · simp
    · simp
  | passes time => exact ⟨v, hv, rfl⟩
  | takes => exact ⟨_, (moves_takes h i).stay hv, by simp⟩

theorem over_run {s : Hosting} {i : Nat} {v : Stay} (h : s.server.Lodged)
    (hv : s.server.stay? i = some v) (hover : v.reception.run? = none)
    (happenings : List Happening) :
    ∃ v', (s.run happenings).server.stay? i = some v' ∧ v'.reception = v.reception := by
  induction happenings generalizing s v with
  | nil => exact ⟨v, hv, rfl⟩
  | cons happening rest ih =>
    obtain ⟨v', hv', hr'⟩ := over_perform h hv hover happening
    obtain ⟨v'', hv'', hr''⟩ := ih (lodged_perform h happening) hv' (hr' ▸ hover)
    exact ⟨v'', hv'', hr''.trans hr'⟩

end Hosting

end MediaOverQuic
