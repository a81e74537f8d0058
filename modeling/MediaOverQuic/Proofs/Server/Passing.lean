import Mathlib.Tactic
import MediaOverQuic.Proofs.Eventually
import MediaOverQuic.Proofs.Server.Hosting

/-!
# Passing sessions on

Each session is offered to the application once, waits for a place if there is none, and is taken
once. No session is lost on the way and none is held up for good: as long as one is not delivered,
there is one that can be passed on or taken, and that can not go on for ever.
-/
namespace MediaOverQuic

open Scenario Scenario.Servers

namespace Channel

variable {α : Type} {c d : Channel α} {a : α}

/-- All that is in the channel or waits to get into it. -/
def entries (c : Channel α) : List α := c.queue ++ c.waiting

theorem entries_offer (c : Channel α) (a : α) : (c.offer a).entries.Perm (a :: c.entries) := by
  cases hroom : c.hasRoom with
  | true =>
    obtain ⟨hqueue, hwaiting⟩ := offer_of_hasRoom a hroom
    rw [entries, hqueue, hwaiting, List.append_assoc]
    exact List.perm_middle
  | false =>
    obtain ⟨hqueue, hwaiting⟩ := offer_of_full a hroom
    rw [entries, hqueue, hwaiting, ← List.append_assoc]
    exact List.perm_append_singleton a _

theorem enter?_eq_some [DecidableEq α] (h : c.enter? a = some d) :
    a ∈ c.waiting ∧ d.capacity = c.capacity ∧ d.queue = c.queue ++ [a] ∧
      d.waiting = c.waiting.filter (· ≠ a) := by
  unfold enter? at h
  split_ifs at h with hmem
  obtain rfl := Option.some.inj h
  exact ⟨List.mem_of_mem_take hmem, rfl, rfl, rfl⟩

/-- An entry that waits gets in if nothing else is there. -/
theorem enter?_isSome_of_empty [DecidableEq α] {rest : List α} (hqueue : c.queue = [])
    (hwaiting : c.waiting = a :: rest) (hc : 0 < c.capacity) : (c.enter? a).isSome := by
  obtain ⟨n, hn⟩ : ∃ n, c.free = n + 1 := ⟨c.capacity - 1, by simp [free, hqueue]; omega⟩
  rw [enter?_isSome_iff, hwaiting, hn, List.take_succ_cons]
  exact List.mem_cons_self

theorem entries_enter? [DecidableEq α] (hnodup : c.waiting.Nodup) (h : c.enter? a = some d) :
    d.entries.Perm c.entries := by
  obtain ⟨hmem, -, hqueue, hwaiting⟩ := enter?_eq_some h
  have hperm : (a :: c.waiting.filter (· ≠ a)).Perm c.waiting := by
    have herase : c.waiting.erase a = c.waiting.filter (· ≠ a) := by
      rw [hnodup.erase_eq_filter]
      exact List.filter_congr fun b _ => by simp [bne, beq_eq_decide]
    rw [← herase]
    exact (List.perm_cons_erase hmem).symm
  rw [entries, hqueue, hwaiting, List.append_assoc]
  exact hperm.append_left c.queue

end Channel

namespace Hosting

variable {s t : Hosting} {pick : Pick} {i j : Nat} {g : Guest} {session : Session}
  {capacity : Nat}

/-- The sessions of connection `i` that the application has got. -/
def deliveries (s : Hosting) (i : Nat) : List Session :=
  (s.delivered.filter fun entry => entry.1 = i).map Prod.snd

/-- The guests whose sessions are on their way or delivered. -/
def offered (s : Hosting) : List Nat :=
  s.delivered.map Prod.fst ++ s.server.handler.sessions.entries

/-- How the sessions on their way hang together with the guests. -/
structure Passed (capacity : Nat) (s : Hosting) : Prop where
  capacity_eq : s.server.handler.sessions.capacity = capacity
  nodup : s.offered.Nodup
  established : ∀ {i : Nat}, i ∈ s.offered → ∃ g session,
    s.server.handler.guests[i]? = some g ∧ g.reception = .established session
  unoffered : ∀ {i : Nat} {g : Guest}, s.server.handler.guests[i]? = some g →
    (g.passing = .unoffered ↔ i ∉ s.offered)
  waiting : ∀ {i : Nat} {g : Guest}, s.server.handler.guests[i]? = some g →
    (g.passing = .waiting ↔ i ∈ s.server.handler.sessions.waiting)
  delivered : ∀ {i : Nat} {session : Session}, (i, session) ∈ s.delivered →
    ∃ g, s.server.handler.guests[i]? = some g ∧ g.reception = .established session

theorem passed_start (s : State) (config : Config) (params : List KeyValuePair) (capacity : Nat) :
    Passed capacity (start s config params capacity) where
  capacity_eq := rfl
  nodup := List.nodup_nil
  established h := by cases h
  unoffered h := by cases h
  waiting h := by cases h
  delivered h := by cases h

theorem offered_of_waiting (h : i ∈ s.server.handler.sessions.waiting) : i ∈ s.offered :=
  List.mem_append_right _ (List.mem_append_right _ h)

/-- What a step does that passes nothing on: a session that was established stays. -/
structure Keeps (s t : Hosting) : Prop where
  sessions : t.server.handler.sessions = s.server.handler.sessions
  delivered : t.delivered = s.delivered
  kept : ∀ {i : Nat} {g : Guest}, s.server.handler.guests[i]? = some g →
    ∃ g', t.server.handler.guests[i]? = some g' ∧ g'.passing = g.passing ∧
      ∀ session, g.reception = .established session → g'.reception = .established session
  fresh : ∀ {i : Nat} {g' : Guest}, s.server.handler.guests[i]? = none →
    t.server.handler.guests[i]? = some g' → g'.passing = .unoffered

theorem Keeps.of_eq (hguests : t.server.handler.guests = s.server.handler.guests)
    (hsessions : t.server.handler.sessions = s.server.handler.sessions)
    (hdelivered : t.delivered = s.delivered) : Keeps s t where
  sessions := hsessions
  delivered := hdelivered
  kept hg := ⟨_, hguests ▸ hg, rfl, fun _ => id⟩
  fresh hnone hsome := by rw [hguests, hnone] at hsome; cases hsome

theorem Keeps.passed (hkeeps : Keeps s t) (h : Passed capacity s) : Passed capacity t := by
  have hoffered : t.offered = s.offered := by
    rw [offered, offered, hkeeps.sessions, hkeeps.delivered]
  have hnone : ∀ {i}, s.server.handler.guests[i]? = none → i ∉ s.offered := by
    intro i hnone hmem
    obtain ⟨g, session, hg, -⟩ := h.established hmem
    rw [hnone] at hg
    cases hg
  refine ⟨hkeeps.sessions ▸ h.capacity_eq, hoffered ▸ h.nodup, ?_, ?_, ?_, ?_⟩
  · intro i hi
    obtain ⟨g, session, hg, hr⟩ := h.established (hoffered ▸ hi)
    obtain ⟨g', hg', -, hr'⟩ := hkeeps.kept hg
    exact ⟨g', session, hg', hr' session hr⟩
  · intro i g' hg'
    rw [hoffered]
    cases hg : s.server.handler.guests[i]? with
    | none => exact iff_of_true (hkeeps.fresh hg hg') (hnone hg)
    | some g =>
      obtain ⟨g'', hg'', hpassing, -⟩ := hkeeps.kept hg
      obtain rfl := Option.some.inj (hg'.symm.trans hg'')
      rw [hpassing]
      exact h.unoffered hg
  · intro i g' hg'
    rw [hkeeps.sessions]
    cases hg : s.server.handler.guests[i]? with
    | none =>
      refine iff_of_false ?_ fun hmem => hnone hg (offered_of_waiting hmem)
      rw [hkeeps.fresh hg hg']
      decide
    | some g =>
      obtain ⟨g'', hg'', hpassing, -⟩ := hkeeps.kept hg
      obtain rfl := Option.some.inj (hg'.symm.trans hg'')
      rw [hpassing]
      exact h.waiting hg
  · intro i session hmem
    rw [hkeeps.delivered] at hmem
    obtain ⟨g, hg, hr⟩ := h.delivered hmem
    obtain ⟨g', hg', -, hr'⟩ := hkeeps.kept hg
    exact ⟨g', hg', hr' session hr⟩

/-- What a step does that passes the session of guest `i` on. -/
structure PassesOn (i : Nat) (g : Guest) (passing : Passing) (s t : Hosting) : Prop where
  guests : t.server.handler.guests =
    s.server.handler.guests.set i { g with passing := passing }
  delivered : t.delivered = s.delivered
  capacity_eq : t.server.handler.sessions.capacity = s.server.handler.sessions.capacity
  nodup : t.offered.Nodup
  offered : passing ≠ .unoffered ∧ ∀ j, j ∈ t.offered ↔ j = i ∨ j ∈ s.offered
  waiting : ∀ j, j ∈ t.server.handler.sessions.waiting ↔
    if j = i then passing = .waiting else j ∈ s.server.handler.sessions.waiting

theorem PassesOn.passed {passing : Passing} (hon : PassesOn i g passing s t)
    (h : Passed capacity s) (hg : s.server.handler.guests[i]? = some g)
    (hr : g.reception = .established session) : Passed capacity t := by
  have hi := State.lt_of_guest hg
  -- Guest `i` has changed but for its reception; the others are as they were.
  have hguest : ∀ {j : Nat} {g' : Guest}, t.server.handler.guests[j]? = some g' →
      (j = i ∧ g' = { g with passing := passing }) ∨
        (j ≠ i ∧ s.server.handler.guests[j]? = some g') := by
    intro j g' hg'
    rw [hon.guests, List.getElem?_set] at hg'
    split_ifs at hg' with hij
    · exact .inl ⟨hij.symm, (Option.some.inj hg').symm⟩
    · exact .inr ⟨fun heq => hij heq.symm, hg'⟩
  have hkept : ∀ {j : Nat} {g' : Guest} {session : Session},
      s.server.handler.guests[j]? = some g' → g'.reception = .established session →
      ∃ g'', t.server.handler.guests[j]? = some g'' ∧ g''.reception = .established session := by
    intro j g' session' hg' hr'
    rw [hon.guests]
    by_cases hij : i = j
    · subst hij
      obtain rfl := Option.some.inj (hg.symm.trans hg')
      exact ⟨_, List.getElem?_set_self hi, hr'⟩
    · exact ⟨g', by rw [List.getElem?_set_ne hij, hg'], hr'⟩
  refine ⟨hon.capacity_eq.trans h.capacity_eq, hon.nodup, ?_, ?_, ?_, ?_⟩
  · intro j hj
    rcases (hon.offered.2 j).mp hj with rfl | hmem
    · obtain ⟨g', hg', hr'⟩ := hkept hg hr
      exact ⟨g', session, hg', hr'⟩
    · obtain ⟨g', session', hg', hr'⟩ := h.established hmem
      obtain ⟨g'', hg'', hr''⟩ := hkept hg' hr'
      exact ⟨g'', session', hg'', hr''⟩
  · intro j g' hg'
    rw [hon.offered.2]
    rcases hguest hg' with ⟨rfl, rfl⟩ | ⟨hne, hg'⟩
    · simp [hon.offered.1]
    · simp [hne, h.unoffered hg']
  · intro j g' hg'
    rw [hon.waiting]
    rcases hguest hg' with ⟨rfl, rfl⟩ | ⟨hne, hg'⟩
    · simp
    · simp [hne, h.waiting hg']
  · intro j session' hmem
    rw [hon.delivered] at hmem
    obtain ⟨g', hg', hr'⟩ := h.delivered hmem
    exact hkept hg' hr'

/-- How much is left to do until all sessions are delivered: each has to be offered, to get into
the channel and to be taken. -/
def pending (s : Hosting) : Nat :=
  3 * (s.server.handler.guests.length - s.offered.length) +
    2 * s.server.handler.sessions.waiting.length + s.server.handler.sessions.queue.length

theorem Passed.length_offered_lt (h : Passed capacity s)
    (hg : s.server.handler.guests[i]? = some g) (hnew : i ∉ s.offered) :
    s.offered.length < s.server.handler.guests.length := by
  have hsubset : i :: s.offered ⊆ List.range s.server.handler.guests.length := by
    intro j hj
    rcases List.mem_cons.mp hj with rfl | hj
    · exact List.mem_range.mpr (State.lt_of_guest hg)
    · obtain ⟨g', session, hg', -⟩ := h.established hj
      exact List.mem_range.mpr (State.lt_of_guest hg')
  have hnodup : (i :: s.offered).Nodup := List.nodup_cons.mpr ⟨hnew, h.nodup⟩
  simpa using (List.subperm_of_subset hnodup hsubset).length_le

/-- A session is offered, and gets into the channel if there is room. -/
theorem Passed.passesOn_offer (h : Passed capacity s)
    (hg : s.server.handler.guests[i]? = some g) (hp : g.passing = .unoffered)
    (hguests : t.server.handler.guests = s.server.handler.guests.set i { g with
      passing := if s.server.handler.sessions.hasRoom then .finished else .waiting })
    (hsessions : t.server.handler.sessions = s.server.handler.sessions.offer i)
    (hdelivered : t.delivered = s.delivered) :
    PassesOn i g (if s.server.handler.sessions.hasRoom then .finished else .waiting) s t ∧
      t.pending < s.pending := by
  have hnew : i ∉ s.offered := (h.unoffered hg).mp hp
  have hnotwaiting : i ∉ s.server.handler.sessions.waiting := fun hmem =>
    hnew (offered_of_waiting hmem)
  have hoffered : t.offered.Perm (i :: s.offered) := by
    rw [offered, offered, hdelivered, hsessions]
    exact ((Channel.entries_offer _ i).append_left _).trans List.perm_middle
  have hcount := hoffered.length_eq
  rw [List.length_cons] at hcount
  have hlength : t.server.handler.guests.length = s.server.handler.guests.length := by
    rw [hguests, List.length_set]
  refine ⟨⟨hguests, hdelivered, by rw [hsessions, Channel.capacity_offer],
    hoffered.nodup_iff.mpr (List.nodup_cons.mpr ⟨hnew, h.nodup⟩), ⟨?_, fun j => ?_⟩, ?_⟩, ?_⟩
  · split <;> decide
  · rw [hoffered.mem_iff, List.mem_cons]
  · intro j
    cases hroom : s.server.handler.sessions.hasRoom with
    | true =>
      rw [hsessions, (Channel.offer_of_hasRoom i hroom).2]
      by_cases hj : j = i
      · subst hj
        simp [hnotwaiting]
      · simp [hj]
    | false =>
      rw [hsessions, (Channel.offer_of_full i hroom).2, List.mem_append, List.mem_singleton]
      by_cases hj : j = i <;> simp [hj]
  · have hlt := h.length_offered_lt hg hnew
    cases hroom : s.server.handler.sessions.hasRoom with
    | true =>
      obtain ⟨hqueue, hwaiting⟩ := Channel.offer_of_hasRoom i hroom
      simp only [pending, hsessions, hqueue, hwaiting, List.length_append, List.length_singleton]
      omega
    | false =>
      obtain ⟨hqueue, hwaiting⟩ := Channel.offer_of_full i hroom
      simp only [pending, hsessions, hqueue, hwaiting, List.length_append, List.length_singleton]
      omega

/-- A session that has waited gets into the channel. -/
theorem Passed.passesOn_enter {sessions : Channel Nat} (h : Passed capacity s)
    (henter : s.server.handler.sessions.enter? i = some sessions)
    (hguests : t.server.handler.guests =
      s.server.handler.guests.set i { g with passing := .finished })
    (hsessions : t.server.handler.sessions = sessions) (hdelivered : t.delivered = s.delivered) :
    PassesOn i g .finished s t ∧ t.pending < s.pending := by
  obtain ⟨hmem, hcapacity, hqueue, hwaiting⟩ := Channel.enter?_eq_some henter
  have hnodup : s.server.handler.sessions.waiting.Nodup :=
    (List.nodup_append.mp (List.nodup_append.mp h.nodup).2.1).2.1
  have hoffered : t.offered.Perm s.offered := by
    rw [offered, offered, hdelivered, hsessions]
    exact (Channel.entries_enter? hnodup henter).append_left _
  have hlength : t.server.handler.guests.length = s.server.handler.guests.length := by
    rw [hguests, List.length_set]
  have hshorter : sessions.waiting.length < s.server.handler.sessions.waiting.length := by
    rw [hwaiting]
    exact List.length_filter_lt_length_iff_exists.mpr ⟨i, hmem, by simp⟩
  refine ⟨⟨hguests, hdelivered, by rw [hsessions, hcapacity], hoffered.nodup_iff.mpr h.nodup,
    ⟨by decide, fun j => ?_⟩, fun j => ?_⟩, ?_⟩
  · rw [hoffered.mem_iff]
    exact ⟨.inr, fun hj => hj.elim (fun heq => heq ▸ offered_of_waiting hmem) id⟩
  · rw [hsessions, hwaiting, List.mem_filter]
    split_ifs with hj <;> simp [hj]
  · simp only [pending, hsessions, hlength, hoffered.length_eq, hqueue, List.length_append,
      List.length_singleton]
    omega

/-- A task that can pass its session on does. -/
theorem Passed.continues (hl : s.server.Lodged) (h : Passed capacity s)
    (hg : s.server.handler.guests[i]? = some g) (hr : g.reception = .established session)
    (hgo : (State.guest pick i s.server).isSome) :
    Passed capacity (s.perform (.continues i pick)) ∧
      (s.perform (.continues i pick)).pending < s.pending := by
  rw [State.guest_of_established hg hr, Option.isSome_map] at hgo
  obtain ⟨handler, hpass⟩ := Option.isSome_iff_exists.mp hgo
  have hperform : (s.perform (.continues i pick)).server =
      { s.server with handler := handler } := by
    simp only [perform, act, State.guest_of_established hg hr, hpass, Option.map_some,
      Option.getD_some]
  obtain ⟨sessions, passing, rfl, hcase⟩ := Handler.pass?_eq_some hl.received hpass
  rcases hcase with ⟨hp, rfl, rfl⟩ | ⟨-, henter, rfl⟩
  · obtain ⟨hon, hless⟩ := h.passesOn_offer (t := s.perform (.continues i pick)) hg hp
      (by rw [hperform]; rfl) (by rw [hperform]; rfl) rfl
    exact ⟨hon.passed h hg hr, hless⟩
  · obtain ⟨hon, hless⟩ := h.passesOn_enter (t := s.perform (.continues i pick)) (g := g) henter
      (by rw [hperform]; rfl) (by rw [hperform]; rfl) rfl
    exact ⟨hon.passed h hg hr, hless⟩

/-- The application takes the session that is first in the channel. -/
theorem Passed.takes (h : Passed capacity s)
    (hgo : s.server.handler.takeSession?.isSome) :
    Passed capacity (s.perform .takes) ∧ (s.perform .takes).pending < s.pending := by
  rcases perform_takes s with ⟨hnone, -⟩ | ⟨i, g, session, sessions, htake, hg, hr, heq⟩
  · rw [hnone] at hgo
    cases hgo
  obtain ⟨hqueue, hwaiting, hcapacity⟩ := Channel.take?_eq_some htake
  have hoffered : (s.perform .takes).offered = s.offered := by
    simp [heq, offered, Channel.entries, hqueue, hwaiting]
  have hsessions : (s.perform .takes).server.handler.sessions = sessions := by rw [heq]
  have hguests : (s.perform .takes).server.handler.guests = s.server.handler.guests := by rw [heq]
  refine ⟨⟨?_, hoffered ▸ h.nodup, ?_, ?_, ?_, ?_⟩, ?_⟩
  · rw [hsessions, hcapacity, h.capacity_eq]
  · intro j hj
    rw [hguests]
    exact h.established (hoffered ▸ hj)
  · intro j g' hg'
    rw [hoffered]
    exact h.unoffered (hguests ▸ hg')
  · intro j g' hg'
    rw [hsessions, hwaiting]
    exact h.waiting (hguests ▸ hg')
  · intro j session' hmem
    rw [hguests]
    rw [heq] at hmem
    rcases List.mem_append.mp hmem with hold | hnew
    · exact h.delivered hold
    · obtain ⟨rfl, rfl⟩ := by simpa using hnew
      exact ⟨g, hg, hr⟩
  · simp only [pending, hoffered, hguests, hsessions, hwaiting, hqueue, List.length_cons]
    omega

/-! ## Whatever happens -/

/-- What is done for the sessions that are established: a task that can pass its session on does,
or the application takes one. -/
inductive Passes : Hosting → Hosting → Prop
  | continues {s : Hosting} {pick : Pick} {i : Nat} {g : Guest} {session : Session}
    (hg : s.server.handler.guests[i]? = some g) (hr : g.reception = .established session)
    (hgo : (State.guest pick i s.server).isSome) : Passes s (s.perform (.continues i pick))
  | takes {s : Hosting} (hgo : s.server.handler.takeSession?.isSome) :
    Passes s (s.perform .takes)

theorem Passes.passed (hl : s.server.Lodged) (h : Passed capacity s) (hpass : Passes s t) :
    Passed capacity t ∧ t.pending < s.pending := by
  cases hpass with
  | continues hg hr hgo => exact h.continues hl hg hr hgo
  | takes hgo => exact h.takes hgo

theorem Passes.exists_eq (hpass : Passes s t) : ∃ happening, t = s.perform happening := by
  cases hpass with
  | continues => exact ⟨_, rfl⟩
  | takes => exact ⟨_, rfl⟩

theorem keeps_arrives (hl : s.server.Lodged) (l : Link) : Keeps s (s.perform (.arrives l)) := by
  have hserver : (s.perform (.arrives l)).server =
      (s.server.withLink l).invite s.server.handler.links.length := rfl
  rw [State.invite_eq hl] at hserver
  refine ⟨by rw [hserver], rfl, fun {i g} hg => ?_, fun {i g'} hnone hsome => ?_⟩
  · refine ⟨g, ?_, rfl, fun _ => id⟩
    rw [hserver]
    exact (List.getElem?_append_left (State.lt_of_guest hg)).trans hg
  · rw [hserver] at hsome
    simp only [List.getElem?_append_right (List.getElem?_eq_none_iff.mp hnone)] at hsome
    obtain ⟨-, rfl⟩ := by simpa [List.getElem?_singleton] using hsome
    rfl

theorem keeps_waiting (hnone : State.guest pick i s.server = none) :
    Keeps s (s.perform (.continues i pick)) := by
  refine .of_eq ?_ ?_ rfl <;> simp [perform, act, hnone]

/-- A task whose handshake runs or has failed passes nothing on. -/
theorem keeps_continues (hl : s.server.Lodged)
    (hr : ∀ g session, s.server.handler.guests[i]? = some g → g.reception ≠ .established session) :
    Keeps s (s.perform (.continues i pick)) := by
  cases hg : s.server.handler.guests[i]? with
  | none => exact keeps_waiting (State.guest_of_absent hg)
  | some g =>
    cases hreception : g.reception with
    | shaking run =>
      rcases State.guest_of_shaking hl hg hreception with ⟨hnone, -⟩ | ⟨next, -, hsome, -⟩
      · exact keeps_waiting hnone
      · have hserver : (s.perform (.continues i pick)).server = s.server.settleGuest i g next := by
          simp only [perform, act, hsome, Option.getD_some]
        have hguests := State.guests_settleGuest s.server i g next
        refine ⟨?_, rfl, fun {j g'} hg' => ?_, fun {j g'} hnone hsome => ?_⟩
        · rw [hserver, State.settleGuest, State.setHandler, Handler.setGuest_eq]
          rfl
        · rw [hserver, hguests]
          by_cases hij : i = j
          · subst hij
            obtain rfl := Option.some.inj (hg.symm.trans hg')
            refine ⟨_, List.getElem?_set_self (State.lt_of_guest hg), rfl, fun session hr' => ?_⟩
            exact absurd hr' (hr _ session hg)
          · exact ⟨g', by rw [List.getElem?_set_ne hij, hg'], rfl, fun _ => id⟩
        · rw [hserver, hguests] at hsome
          have hle := List.getElem?_eq_none_iff.mp hnone
          have hlt := (List.getElem?_eq_some_iff.mp hsome).1
          rw [List.length_set] at hlt
          omega
    | established session => exact absurd hreception (hr g session hg)
    | refused f => exact keeps_waiting (State.guest_of_refused hg hreception)

theorem Keeps.pending_eq (hkeeps : Keeps s t)
    (hlength : t.server.handler.guests.length = s.server.handler.guests.length) :
    t.pending = s.pending := by
  rw [pending, pending, offered, offered, hkeeps.sessions, hkeeps.delivered, hlength]

/-- Whatever happens, nothing is passed on, or what is done is one of the things to do. -/
theorem keeps_or_passes (hl : s.server.Lodged) (happening : Happening) :
    Keeps s (s.perform happening) ∨ Passes s (s.perform happening) := by
  cases happening with
  | arrives l => exact .inl (keeps_arrives hl l)
  | changes i l => exact .inl (.of_eq rfl rfl rfl)
  | continues i pick =>
    by_cases hr : ∃ g session, s.server.handler.guests[i]? = some g ∧
        g.reception = .established session
    · obtain ⟨g, session, hg, hr⟩ := hr
      cases hgo : State.guest pick i s.server with
      | none => exact .inl (keeps_waiting hgo)
      | some next => exact .inr (.continues hg hr (by rw [hgo]; rfl))
    · exact .inl (keeps_continues hl fun g session hg hr' => hr ⟨g, session, hg, hr'⟩)
  | passes time => exact .inl (.of_eq rfl rfl rfl)
  | takes =>
    cases hgo : s.server.handler.takeSession? with
    | some next => exact .inr (.takes (by rw [hgo]; rfl))
    | none =>
      rcases perform_takes s with ⟨-, hsame⟩ | ⟨i, g, session, sessions, htake, hg, hr, -⟩
      · rw [hsame]
        exact .inl (.of_eq rfl rfl rfl)
      · obtain ⟨id, reception, passing⟩ := g
        obtain rfl : reception = .established session := hr
        simp [Handler.takeSession?, htake, hg] at hgo

theorem Passed.perform (hl : s.server.Lodged) (h : Passed capacity s) (happening : Happening) :
    Passed capacity (s.perform happening) := by
  rcases keeps_or_passes hl happening with hkeeps | hpass
  · exact hkeeps.passed h
  · exact (hpass.passed hl h).1

theorem Passed.run (hl : s.server.Lodged) (h : Passed capacity s)
    (happenings : List Happening) : Passed capacity (s.run happenings) := by
  induction happenings generalizing s with
  | nil => exact h
  | cons happening rest ih => exact ih (lodged_perform hl happening) (h.perform hl happening)

/-- Only connections that arrive can add to what is left to do. -/
theorem Passed.pending_perform_le (hl : s.server.Lodged) (h : Passed capacity s)
    {happening : Happening} (harrivals : happening.arrivals = 0) :
    (s.perform happening).pending ≤ s.pending := by
  rcases keeps_or_passes hl happening with hkeeps | hpass
  · have hlength := guests_perform hl happening
    rw [harrivals, Nat.add_zero] at hlength
    exact (hkeeps.pending_eq hlength).le
  · exact (hpass.passed hl h).2.le

theorem Passed.pending_run_le (hl : s.server.Lodged) (h : Passed capacity s)
    {happenings : List Happening} (harrivals : ∀ happening ∈ happenings, happening.arrivals = 0) :
    (s.run happenings).pending ≤ s.pending := by
  induction happenings generalizing s with
  | nil => exact le_rfl
  | cons happening rest ih =>
    obtain ⟨hfirst, hrest⟩ := List.forall_mem_cons.mp harrivals
    exact (ih (lodged_perform hl happening) (h.perform hl happening) hrest).trans
      (h.pending_perform_le hl hfirst)

/-! ## What the application gets -/

theorem deliveries_of_not_mem (h : i ∉ s.delivered.map Prod.fst) : s.deliveries i = [] := by
  rw [deliveries, List.map_eq_nil_iff, List.filter_eq_nil_iff]
  intro entry hmem heq
  exact h (List.mem_map.mpr ⟨entry, hmem, of_decide_eq_true heq⟩)

/-- A session that is delivered is delivered once. -/
theorem deliveries_of_mem (hnodup : (s.delivered.map Prod.fst).Nodup)
    (h : (i, session) ∈ s.delivered) : s.deliveries i = [session] := by
  obtain ⟨before, after, heq⟩ := List.append_of_mem h
  rw [heq, List.map_append, List.map_cons] at hnodup
  obtain ⟨-, hafter, hdisjoint⟩ := List.nodup_append.mp hnodup
  have hbefore : before.filter (fun entry => entry.1 = i) = [] := by
    rw [List.filter_eq_nil_iff]
    intro entry hmem hi
    exact hdisjoint entry.1 (List.mem_map_of_mem hmem) i List.mem_cons_self (of_decide_eq_true hi)
  have hafter : after.filter (fun entry => entry.1 = i) = [] := by
    rw [List.filter_eq_nil_iff]
    intro entry hmem hi
    exact (List.nodup_cons.mp hafter).1
      (List.mem_map.mpr ⟨entry, hmem, of_decide_eq_true hi⟩)
  rw [deliveries, heq, List.filter_append, hbefore, List.filter_cons_of_pos (by simp), hafter]
  rfl

theorem Passed.nodup_delivered (h : Passed capacity s) : (s.delivered.map Prod.fst).Nodup :=
  (List.nodup_append.mp h.nodup).1

theorem Passed.deliveries (h : Passed capacity s) (hg : s.server.handler.guests[i]? = some g)
    (hr : g.reception = .established session) :
    s.deliveries i = if i ∈ s.delivered.map Prod.fst then [session] else [] := by
  split_ifs with hmem
  · obtain ⟨⟨_, session'⟩, hentry, rfl⟩ := List.mem_map.mp hmem
    obtain ⟨g', hg', hr'⟩ := h.delivered hentry
    obtain rfl := Option.some.inj (hg.symm.trans hg')
    obtain rfl := Reception.established.inj (hr.symm.trans hr')
    exact deliveries_of_mem h.nodup_delivered hentry
  · exact deliveries_of_not_mem hmem

/-- Nothing is delivered but sessions. -/
theorem Passed.deliveries_eq_nil (h : Passed capacity s)
    (hg : s.server.handler.guests[i]? = some g)
    (hr : ∀ session, g.reception ≠ .established session) : s.deliveries i = [] := by
  refine deliveries_of_not_mem fun hmem => ?_
  obtain ⟨⟨_, session⟩, hentry, rfl⟩ := List.mem_map.mp hmem
  obtain ⟨g', hg', hr'⟩ := h.delivered hentry
  obtain rfl := Option.some.inj (hg.symm.trans hg')
  exact hr session hr'

theorem passes_of_pass? (hg : s.server.handler.guests[i]? = some g)
    (hr : g.reception = .established session) (hpass : (s.server.handler.pass? i g).isSome) :
    Passes s (s.perform (.continues i .stream)) :=
  .continues hg hr (by rw [State.guest_of_established hg hr, Option.isSome_map, hpass])

/-- As long as a session is not delivered, one can be passed on or taken. -/
theorem Passed.exists_passes (hc : 0 < capacity) (hl : s.server.Lodged) (h : Passed capacity s)
    (hg : s.server.handler.guests[i]? = some g) (hr : g.reception = .established session)
    (hmissing : i ∉ s.delivered.map Prod.fst) : ∃ t, Passes s t := by
  have hreceived := hl.received
  cases htake : s.server.handler.sessions.take? with
  | some front =>
    obtain ⟨a, sessions⟩ := front
    have hqueue := Channel.queue_of_take? htake
    obtain ⟨⟨id, reception, passing⟩, session', hg', hr'⟩ := h.established (i := a) (by
      simp [offered, Channel.entries, hqueue])
    obtain rfl : reception = .established session' := hr'
    exact ⟨_, .takes (by simp [Handler.takeSession?, htake, hg'])⟩
  | none =>
    have hqueue := (Channel.take?_eq_none_iff _).mp htake
    cases hwaiting : s.server.handler.sessions.waiting with
    | cons a rest =>
      have ha : a ∈ s.server.handler.sessions.waiting := by simp [hwaiting]
      obtain ⟨g', session', hg', hr'⟩ := h.established (offered_of_waiting ha)
      have henter := Channel.enter?_isSome_of_empty hqueue hwaiting (h.capacity_eq ▸ hc)
      refine ⟨_, passes_of_pass? hg' hr' ?_⟩
      simp [Handler.pass?, (h.waiting hg').mpr ha, hreceived, henter]
    | nil =>
      have hunoffered : i ∉ s.offered := by
        simpa [offered, Channel.entries, hqueue, hwaiting] using hmissing
      refine ⟨_, passes_of_pass? hg hr ?_⟩
      simp [Handler.pass?, (h.unoffered hg).mpr hunoffered, hreceived]

/-- A session is passed on or taken, after anything else may have happened, only that no connection
has arrived. -/
def Proceeds (s t : Hosting) : Prop :=
  ∃ others : List Happening, (∀ happening ∈ others, happening.arrivals = 0) ∧
    Passes (s.run others) t

/-- Whether the session of guest `i` is established. -/
structure Awaited (capacity i : Nat) (session : Session) (s : Hosting) : Prop where
  lodged : s.server.Lodged
  passed : Passed capacity s
  guest : ∃ g, s.server.handler.guests[i]? = some g ∧ g.reception = .established session

theorem Awaited.run (h : Awaited capacity i session s) (happenings : List Happening) :
    Awaited capacity i session (s.run happenings) := by
  obtain ⟨hl, hpassed, g, hg, hr⟩ := h
  obtain ⟨v, hv, hsame⟩ := over_run hl (State.stay?_of_guest hl hg) (by simp [hr, Reception.run?])
    happenings
  obtain ⟨g', hg', rfl⟩ := Option.map_eq_some_iff.mp hv
  exact ⟨lodged_run hl happenings, hpassed.run hl happenings, g', hg', hsame.trans hr⟩

theorem Awaited.proceeds (h : Awaited capacity i session s) (hgo : Proceeds s t) :
    Awaited capacity i session t ∧ t.pending < s.pending := by
  obtain ⟨others, harrivals, hpass⟩ := hgo
  have hothers := h.run others
  have hless := (hpass.passed hothers.lodged hothers.passed).2
  obtain ⟨happening, rfl⟩ := hpass.exists_eq
  exact ⟨hothers.run [happening],
    hless.trans_le (h.passed.pending_run_le h.lodged harrivals)⟩

/-- Every session that is established is delivered once. -/
theorem Awaited.delivers (hc : 0 < capacity) (h : Awaited capacity i session s) :
    Eventually Proceeds (fun t => t.deliveries i = [session]) s := by
  have hdelivered : ∀ {s}, Awaited capacity i session s → i ∈ s.delivered.map Prod.fst →
      s.deliveries i = [session] := by
    rintro s ⟨-, hpassed, g, hg, hr⟩ hmem
    rw [hpassed.deliveries hg hr, if_pos hmem]
  by_cases hmem : i ∈ s.delivered.map Prod.fst
  · exact .now (hdelivered h hmem)
  refine Eventually.of_rank
    (I := fun s => Awaited capacity i session s ∧ i ∉ s.delivered.map Prod.fst) pending ?_ ?_
    ⟨h, hmem⟩
  · rintro s ⟨⟨hl, hpassed, g, hg, hr⟩, hmissing⟩
    obtain ⟨t, hpass⟩ := hpassed.exists_passes hc hl hg hr hmissing
    exact ⟨t, [], by simp, hpass⟩
  · rintro s t ⟨h, -⟩ hgo
    obtain ⟨ht, hless⟩ := h.proceeds hgo
    by_cases hmem : i ∈ t.delivered.map Prod.fst
    · exact .inl (hdelivered ht hmem)
    · exact .inr ⟨⟨ht, hmem⟩, hless⟩

end Hosting

end MediaOverQuic
