import Mathlib.Tactic
import MediaOverQuic.Proofs.Server.Hosting

/-!
# A guest alone

What becomes of a connection in a server full of guests is what becomes of it when the server
receives nobody else and everything that concerns this connection happens in the same way and at the
same time. That includes what its task notes first of a stream that has arrived and a close.
-/
namespace MediaOverQuic

open Scenario Scenario.Servers

namespace Happening

/-- What a server that receives only connection `i` has of a happening, when `count` connections
have arrived before. -/
def only (i count : Nat) : Happening → List Happening
  | arrives l => if count = i then [arrives l] else []
  | changes j l => if j = i then [changes 0 l] else []
  | continues j pick => if j = i then [continues 0 pick] else []
  | passes time => [passes time]
  | takes => [takes]

/-- All that a server has that receives only connection `i`. -/
def alone (i : Nat) : Nat → List Happening → List Happening
  | _, [] => []
  | count, happening :: rest =>
    happening.only i count ++ alone i (count + happening.arrivals) rest

end Happening

namespace Hosting

variable {s t : Hosting} {i : Nat}

theorem run_append (s : Hosting) (before after : List Happening) :
    s.run (before ++ after) = (s.run before).run after := List.foldl_append

/-- Whether the only guest of `t` fares like guest `i` of `s`. -/
structure Mirrors (i : Nat) (s t : State) : Prop where
  lodged : s.Lodged
  lodged_alone : t.Lodged
  now : t.now = s.now
  config : t.handler.config = s.handler.config
  params : t.handler.params = s.handler.params
  stay : t.stay? 0 = s.stay? i
  count : t.handler.guests.length = if i < s.handler.guests.length then 1 else 0

/-- What happens to guest `i` happens to the guest that is alone. -/
theorem Mirrors.moves {s s' t t' : State} {f : Stay → Stay} (h : Mirrors i s t)
    (hs : State.Moves i f s s') (ht : State.Moves 0 f t t') : Mirrors i s' t' where
  lodged := hs.lodged
  lodged_alone := ht.lodged
  now := by rw [ht.now, hs.now, h.now]
  config := by rw [ht.config, hs.config, h.config]
  params := by rw [ht.params, hs.params, h.params]
  stay := by rw [ht.own, hs.own, h.stay]
  count := by rw [ht.count, hs.count, h.count]

/-- What happens to another guest does not concern guest `i`. -/
theorem Mirrors.others {s s' t : State} {j : Nat} {f : Stay → Stay} (h : Mirrors i s t)
    (hs : State.Moves j f s s') (hne : j ≠ i) : Mirrors i s' t where
  lodged := hs.lodged
  lodged_alone := h.lodged_alone
  now := by rw [hs.now, h.now]
  config := by rw [hs.config, h.config]
  params := by rw [hs.params, h.params]
  stay := by rw [hs.others i hne, h.stay]
  count := by rw [hs.count, h.count]

theorem Mirrors.arrives {s t : State} (h : Mirrors i s t) (l : Link)
    (hi : s.handler.guests.length = i) :
    Mirrors i ((s.withLink l).invite s.handler.links.length)
      ((t.withLink l).invite t.handler.links.length) := by
  obtain ⟨hnow, hconfig, hparams⟩ := State.settings_invite h.lodged l
  obtain ⟨hnow', hconfig', hparams'⟩ := State.settings_invite h.lodged_alone l
  have hcount : t.handler.guests.length = 0 := by rw [h.count, if_neg (by omega)]
  refine ⟨State.lodged_invite h.lodged l, State.lodged_invite h.lodged_alone l, ?_, ?_, ?_, ?_, ?_⟩
  · rw [hnow, hnow', h.now]
  · rw [hconfig, hconfig', h.config]
  · rw [hparams, hparams', h.params]
  · rw [State.stay?_invite h.lodged, State.stay?_invite h.lodged_alone, if_pos hi.symm,
      if_pos hcount.symm, h.config, h.params, h.now]
  · rw [State.invite_eq h.lodged, State.invite_eq h.lodged_alone]
    simp [hcount, hi]

theorem Mirrors.arrives_other {s t : State} (h : Mirrors i s t) (l : Link)
    (hi : s.handler.guests.length ≠ i) :
    Mirrors i ((s.withLink l).invite s.handler.links.length) t := by
  obtain ⟨hnow, hconfig, hparams⟩ := State.settings_invite h.lodged l
  refine ⟨State.lodged_invite h.lodged l, h.lodged_alone, ?_, ?_, ?_, ?_, ?_⟩
  · rw [hnow, h.now]
  · rw [hconfig, h.config]
  · rw [hparams, h.params]
  · rw [State.stay?_invite h.lodged, if_neg hi.symm, h.stay]
  · have hiff : i < s.handler.guests.length + 1 ↔ i < s.handler.guests.length := by omega
    rw [State.invite_eq h.lodged]
    simp [h.count, hiff]

/-- A happening, as far as the guest that is alone has it, keeps both alike. -/
theorem Mirrors.perform (h : Mirrors i s.server t.server) (happening : Happening) :
    Mirrors i (s.perform happening).server
      (t.run (happening.only i s.server.handler.guests.length)).server := by
  cases happening with
  | arrives l =>
    by_cases hi : s.server.handler.guests.length = i
    · rw [Happening.only, if_pos hi]
      exact h.arrives l hi
    · rw [Happening.only, if_neg hi]
      exact h.arrives_other l hi
  | changes j l =>
    by_cases hi : j = i
    · subst hi
      rw [Happening.only, if_pos rfl]
      exact h.moves (State.moves_setLink h.lodged j (·.changedTo l))
        (State.moves_setLink h.lodged_alone 0 (·.changedTo l))
    · rw [Happening.only, if_neg hi]
      exact h.others (State.moves_setLink h.lodged j (·.changedTo l)) hi
  | continues j pick =>
    by_cases hi : j = i
    · subst hi
      have hguest := State.moves_guest h.lodged_alone pick 0
      rw [h.now] at hguest
      rw [Happening.only, if_pos rfl]
      exact h.moves (State.moves_guest h.lodged pick j) hguest
    · rw [Happening.only, if_neg hi]
      exact h.others (State.moves_guest h.lodged pick j) hi
  | passes time =>
    obtain ⟨hs, ht, hnow, hconfig, hparams, hstay, hcount⟩ := h
    refine ⟨⟨hs.received, hs.links, hs.deadlines, hs.link_eq⟩,
      ⟨ht.received, ht.links, ht.deadlines, ht.link_eq⟩, ?_, hconfig, hparams, hstay, hcount⟩
    exact congrArg (· + time) hnow
  | takes => exact h.moves (moves_takes h.lodged i) (moves_takes h.lodged_alone 0)

/-- A guest fares as it would alone. -/
theorem Mirrors.run (h : Mirrors i s.server t.server) (happenings : List Happening) :
    Mirrors i (s.run happenings).server
      (t.run (Happening.alone i s.server.handler.guests.length happenings)).server := by
  induction happenings generalizing s t with
  | nil => exact h
  | cons happening rest ih =>
    rw [Happening.alone, run_append, ← guests_perform h.lodged]
    exact ih (h.perform happening)

theorem mirrors_start (s : State) (config : Config) (params : List KeyValuePair) (capacity i : Nat) :
    Mirrors i (start s config params capacity).server (start s config params capacity).server where
  lodged := lodged_start s config params capacity
  lodged_alone := lodged_start s config params capacity
  now := rfl
  config := rfl
  params := rfl
  stay := rfl
  count := by simp [start, Handler.start]

end Hosting

end MediaOverQuic
