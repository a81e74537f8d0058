import Mathlib.Tactic
import MediaOverQuic.Proofs.Control.Calls

/-!
# Writers of a control stream

The calls that are under way stand in line with their tickets. Only the one in front writes, and
what it has written is the first part of its frame, behind the frames of those that were before it.
-/
namespace MediaOverQuic

/-- How a control stream, the calls `live` that send on it and the bytes that it has put on its
stream hang together: these are the frames `done` and a part of the frame that was begun last, if
that was not completed. -/
structure Orderly (c : ControlStream) (live : Multiset Sending) (done : List Bytes)
    (begun : Option Bytes) (taken : Bytes) : Prop where
  line : (c.writers.line : Multiset Nat) = live.map Sending.ticket
  nodup : c.writers.line.Nodup
  fresh : ∀ t ∈ c.writers.line, t < c.writers.next
  marked : c.incomplete = begun.isSome
  split : ∃ part, taken = done.flatten ++ part ∧ part <+: begun.getD []
  writing : ∀ t rest, .writing t rest ∈ live → c.writers.isFirst t = true ∧
    ∃ frame, begun = some frame ∧ taken ++ rest = done.flatten ++ frame

namespace Orderly

variable {c : ControlStream} {live : Multiset Sending} {s : Sending} {done : List Bytes}
  {begun : Option Bytes} {taken : Bytes}

/-- Nobody sends, and nothing that was sent before counts. -/
theorem start (hl : c.writers.line = []) (hc : c.incomplete = false) : Orderly c 0 [] none [] where
  line := by rw [hl, Multiset.map_zero, Multiset.coe_nil]
  nodup := hl ▸ .nil
  fresh := by simp [hl]
  marked := hc
  split := ⟨[], rfl, List.nil_prefix⟩
  writing := by simp

/-- The readers do not matter to the writers. -/
theorem readers (h : Orderly c live done begun taken) (readers : Turns) :
    Orderly { c with readers := readers } live done begun taken :=
  ⟨h.line, h.nodup, h.fresh, h.marked, h.split, h.writing⟩

/-! ## Tickets -/

theorem nodup_tickets (h : Orderly c live done begun taken) :
    (live.map Sending.ticket).Nodup := by
  rw [← h.line]
  exact Multiset.coe_nodup.mpr h.nodup

theorem ticket_ne (h : Orderly c (s ::ₘ live) done begun taken) {s' : Sending} (hs : s' ∈ live) :
    s'.ticket ≠ s.ticket := by
  have hn := h.nodup_tickets
  rw [Multiset.map_cons, Multiset.nodup_cons] at hn
  intro he
  exact hn.1 (he ▸ Multiset.mem_map_of_mem _ hs)

/-- As long as calls are under way, one of them is in front. -/
theorem exists_first (h : Orderly c live done begun taken) (hs : s ∈ live) :
    ∃ s' ∈ live, c.writers.isFirst s'.ticket = true := by
  cases hl : c.writers.line with
  | nil =>
    have hline := h.line
    rw [hl, eq_comm, Multiset.coe_nil, Multiset.map_eq_zero] at hline
    simp [hline] at hs
  | cons t others =>
    have ht : t ∈ live.map Sending.ticket := by
      rw [← h.line, hl]
      simp
    obtain ⟨s', hs', rfl⟩ := Multiset.mem_map.mp ht
    exact ⟨s', hs', by rw [Turns.isFirst_iff]; exact ⟨others, hl⟩⟩

/-- Nobody writes but the call in front. -/
theorem not_writing (h : Orderly c (s ::ₘ live) done begun taken)
    (hfirst : c.writers.isFirst s.ticket = true) (t : Nat) (rest : Bytes) :
    .writing t rest ∉ live := by
  intro ht
  obtain ⟨hft, -⟩ := h.writing t rest (Multiset.mem_cons_of_mem ht)
  obtain ⟨others, hl⟩ := (Turns.isFirst_iff _ _).mp hfirst
  obtain ⟨others', hl'⟩ := (Turns.isFirst_iff _ _).mp hft
  rw [hl] at hl'
  exact h.ticket_ne ht (List.cons.inj hl').1.symm

/-! ## Steps -/

/-- A call joins the line. -/
theorem join (h : Orderly c live done begun taken) (frame : Bytes) :
    Orderly { c with writers := c.writers.join.2 } (.waiting c.writers.join.1 frame ::ₘ live) done
      begun taken where
  line := by
    rw [Turns.line_join, Multiset.map_cons, ← h.line, ← Multiset.coe_add, add_comm]
    rfl
  nodup := by
    rw [Turns.line_join, List.nodup_append]
    refine ⟨h.nodup, List.nodup_singleton _, ?_⟩
    rintro t ht t' ht' rfl
    have hlt := h.fresh t ht
    rw [List.mem_singleton] at ht'
    exact absurd hlt (ht' ▸ Nat.lt_irrefl _)
  fresh := by
    intro t ht
    rw [Turns.line_join, List.mem_append, List.mem_singleton] at ht
    rcases ht with ht | rfl
    · exact (h.fresh t ht).trans (Nat.lt_succ_self _)
    · exact Nat.lt_succ_self _
  marked := h.marked
  split := h.split
  writing := by
    intro t rest ht
    rw [Multiset.mem_cons] at ht
    obtain ⟨hfirst, hbegun⟩ := h.writing t rest (ht.resolve_left (by simp))
    refine ⟨?_, hbegun⟩
    rw [Turns.isFirst_iff] at hfirst ⊢
    obtain ⟨others, hl⟩ := hfirst
    exact ⟨others ++ [c.writers.join.1], by rw [Turns.line_join, hl, List.cons_append]⟩

/-- A call leaves the line, from wherever it stands. -/
theorem leave (h : Orderly c (s ::ₘ live) done begun taken) :
    Orderly (s.leave c) live done begun taken where
  line := by
    have he : (s.leave c).writers.line = c.writers.line.erase s.ticket := by
      rw [h.nodup.erase_eq_filter]
      exact List.filter_congr fun t _ => by rw [Bool.eq_iff_iff]; simp
    rw [he, ← Multiset.coe_erase, h.line, Multiset.map_cons, Multiset.erase_cons_head]
  nodup := h.nodup.filter _
  fresh := fun t ht => h.fresh t ((Turns.mem_line_leave _ _ _).mp ht).1
  marked := h.marked
  split := h.split
  writing := by
    intro t rest ht
    obtain ⟨hfirst, hbegun⟩ := h.writing t rest (Multiset.mem_cons_of_mem ht)
    refine ⟨?_, hbegun⟩
    rw [Turns.isFirst_iff] at hfirst ⊢
    obtain ⟨others, hl⟩ := hfirst
    have hne : t ≠ s.ticket := h.ticket_ne ht
    exact ⟨_, by rw [Sending.leave, Turns.leave, hl, List.filter_cons_of_pos (by simpa using hne)]⟩

/-- The call in front begins to write its frame. -/
theorem begin {t : Nat} {frame : Bytes}
    (h : Orderly c (.waiting t frame ::ₘ live) done begun taken)
    (hfirst : c.writers.isFirst t = true) (hinc : c.incomplete = false) :
    begun = none ∧ Orderly { c with incomplete := true } (.writing t frame ::ₘ live) done
      (some frame) taken := by
  have hnone : begun = none := by
    rw [← Option.not_isSome_iff_eq_none, ← h.marked, hinc]
    exact Bool.false_ne_true
  subst hnone
  obtain ⟨part, ht, hp⟩ := h.split
  obtain rfl := List.prefix_nil.mp hp
  refine ⟨rfl, by simpa [Sending.ticket] using h.line, h.nodup, h.fresh, rfl,
    ⟨[], ht, List.nil_prefix⟩, ?_⟩
  intro t' rest hs
  rw [Multiset.mem_cons] at hs
  rcases hs with hs | hs
  · obtain ⟨rfl, rfl⟩ := by simpa using hs
    exact ⟨hfirst, rest, rfl, by rw [ht, List.append_nil]⟩
  · exact absurd hs (h.not_writing hfirst t' rest)

/-- What is begun and what the writing call has left make up its frame. -/
theorem frame {t : Nat} {rest : Bytes} (h : Orderly c (.writing t rest ::ₘ live) done begun taken) :
    c.writers.isFirst t = true ∧
      ∃ frame, begun = some frame ∧ taken ++ rest = done.flatten ++ frame :=
  h.writing t rest (Multiset.mem_cons_self _ _)

/-- A part of what is left is still a part of the frame once it is written. -/
theorem split_append {t : Nat} {rest chunk : Bytes}
    (h : Orderly c (.writing t rest ::ₘ live) done begun taken) (hc : chunk <+: rest) :
    ∃ part, taken ++ chunk = done.flatten ++ part ∧ part <+: begun.getD [] := by
  obtain ⟨-, frame, rfl, hframe⟩ := h.frame
  obtain ⟨part, ht, -⟩ := h.split
  obtain ⟨later, rfl⟩ := hc
  refine ⟨part ++ chunk, by rw [ht, List.append_assoc], later, ?_⟩
  rw [ht, List.append_assoc, List.append_cancel_left_eq] at hframe
  rw [List.append_assoc, hframe, Option.getD_some]

/-- The call in front writes a part of what is left of its frame. -/
theorem chunk {t : Nat} {chunk rest : Bytes}
    (h : Orderly c (.writing t (chunk ++ rest) ::ₘ live) done begun taken) :
    Orderly c (.writing t rest ::ₘ live) done begun (taken ++ chunk) where
  line := by simpa [Sending.ticket] using h.line
  nodup := h.nodup
  fresh := h.fresh
  marked := h.marked
  split := h.split_append (List.prefix_append _ _)
  writing := by
    obtain ⟨hfirst, hframe⟩ := h.frame
    intro t' rest' hs
    rw [Multiset.mem_cons] at hs
    rcases hs with hs | hs
    · obtain ⟨rfl, rfl⟩ := by simpa using hs
      exact ⟨hfirst, by simpa using hframe⟩
    · exact absurd hs (h.not_writing hfirst t' rest')

/-- The call in front has written all of its frame and leaves. -/
theorem finish {t : Nat} (h : Orderly c (.writing t [] ::ₘ live) done begun taken) :
    ∃ frame, begun = some frame ∧
      Orderly (Sending.leave (.writing t []) { c with incomplete := false }) live (done ++ [frame])
        none taken := by
  obtain ⟨hfirst, frame, rfl, hframe⟩ := h.frame
  refine ⟨frame, rfl, h.leave.line, h.leave.nodup, h.leave.fresh, rfl,
    ⟨[], by simpa using hframe, List.nil_prefix⟩, ?_⟩
  intro t' rest hs
  exact absurd hs (h.not_writing hfirst t' rest)

/-- The call in front fails, after the stream has taken another part of its frame. -/
theorem fail {t : Nat} {rest chunk : Bytes}
    (h : Orderly c (.writing t rest ::ₘ live) done begun taken) (hc : chunk <+: rest) :
    Orderly (Sending.leave (.writing t rest) c) live done begun (taken ++ chunk) where
  line := h.leave.line
  nodup := h.leave.nodup
  fresh := h.leave.fresh
  marked := h.marked
  split := h.split_append hc
  writing := fun t' rest' hs => absurd hs (h.not_writing h.frame.1 t' rest')

end Orderly

end MediaOverQuic
