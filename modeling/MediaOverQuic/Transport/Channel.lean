/-!
# Channels

A queue with a limited number of places. Senders that find no place wait, and a place that becomes
free belongs to the one that has waited longest. The entries of a channel are told apart by their
value.
-/
namespace MediaOverQuic

structure Channel (α : Type) where
  capacity : Nat
  queue : List α
  /-- The entries whose senders wait, those that came first in front. -/
  waiting : List α
  queue_le : queue.length ≤ capacity
  deriving DecidableEq, Repr

namespace Channel

def empty (capacity : Nat) : Channel α := ⟨capacity, [], [], Nat.zero_le _⟩

/-- The number of places that nothing is in. -/
def free (c : Channel α) : Nat := c.capacity - c.queue.length

/-- Whether there is a place for one more, besides those for the senders that wait. -/
def hasRoom (c : Channel α) : Bool := c.waiting.length < c.free

/-- Puts an entry into the last place of the queue. -/
def append (c : Channel α) (a : α) (h : 0 < c.free) : Channel α where
  capacity := c.capacity
  queue := c.queue ++ [a]
  waiting := c.waiting
  queue_le := by
    simp only [free] at h
    simp only [List.length_append, List.length_singleton]
    omega

/-- Puts an entry into the queue, or among those that wait for a place. -/
def offer (c : Channel α) (a : α) : Channel α :=
  if h : c.hasRoom then c.append a (Nat.zero_lt_of_lt (of_decide_eq_true h))
  else { c with waiting := c.waiting ++ [a] }

@[simp] theorem capacity_offer (c : Channel α) (a : α) : (c.offer a).capacity = c.capacity := by
  unfold offer
  split <;> rfl

theorem offer_of_hasRoom {c : Channel α} (a : α) (h : c.hasRoom = true) :
    (c.offer a).queue = c.queue ++ [a] ∧ (c.offer a).waiting = c.waiting := by
  simp [offer, append, h]

theorem offer_of_full {c : Channel α} (a : α) (h : c.hasRoom = false) :
    (c.offer a).queue = c.queue ∧ (c.offer a).waiting = c.waiting ++ [a] := by
  simp [offer, h]

/-- Takes back an entry that still waits. -/
def withdraw [DecidableEq α] (c : Channel α) (a : α) : Channel α :=
  { c with waiting := c.waiting.filter (· ≠ a) }

@[simp] theorem mem_waiting_withdraw [DecidableEq α] (c : Channel α) (a b : α) :
    b ∈ (c.withdraw a).waiting ↔ b ∈ c.waiting ∧ b ≠ a := by
  simp [withdraw]

theorem free_pos_of_mem {c : Channel α} {a : α} (h : a ∈ c.waiting.take c.free) : 0 < c.free := by
  have hl := List.length_pos_of_mem h
  rw [List.length_take] at hl
  omega

/-- Puts an entry that waits into the queue, if there is a place for it. -/
def enter? [DecidableEq α] (c : Channel α) (a : α) : Option (Channel α) :=
  if h : a ∈ c.waiting.take c.free then some ((c.append a (free_pos_of_mem h)).withdraw a)
  else none

theorem enter?_isSome_iff [DecidableEq α] (c : Channel α) (a : α) :
    (c.enter? a).isSome = true ↔ a ∈ c.waiting.take c.free := by
  unfold enter?
  split <;> simp_all

/-- Takes the first entry. -/
def take? (c : Channel α) : Option (α × Channel α) :=
  match h : c.queue with
  | [] => none
  | a :: rest =>
    some (a, { c with
      queue := rest
      queue_le := Nat.le_of_succ_le (by simpa [h] using c.queue_le) })

theorem take?_eq_none_iff (c : Channel α) : c.take? = none ↔ c.queue = [] := by
  unfold take?
  split <;> simp_all

theorem queue_of_take? {c rest : Channel α} {a : α} (h : c.take? = some (a, rest)) :
    c.queue = a :: rest.queue := by
  unfold take? at h
  split at h
  · simp at h
  · next front back hq =>
    obtain ⟨rfl, rfl⟩ := by simpa using h
    exact hq

theorem take?_eq_some {c rest : Channel α} {a : α} (h : c.take? = some (a, rest)) :
    c.queue = a :: rest.queue ∧ rest.waiting = c.waiting ∧ rest.capacity = c.capacity := by
  refine ⟨queue_of_take? h, ?_⟩
  unfold take? at h
  split at h
  · cases h
  · obtain ⟨-, rfl⟩ := by simpa using h
    exact ⟨rfl, rfl⟩

/-- The channel without what is in its queue. -/
def clear (c : Channel α) : Channel α := { c with queue := [], queue_le := Nat.zero_le _ }

/-- Whether there is nothing to take and nothing on its way. -/
def isEmpty (c : Channel α) : Bool := c.queue.isEmpty && c.waiting.isEmpty

end Channel

end MediaOverQuic
