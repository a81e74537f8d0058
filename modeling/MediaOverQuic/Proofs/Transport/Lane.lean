import Mathlib.Tactic
import MediaOverQuic.Proofs.Transport.Slots

/-!
# Lanes

The streams of one kind that one side opens make up a lane: they are made, handed over, and accepted
by the other side. What was handed over is what was accepted, followed by what the other side has
not accepted yet, in this order, and no stream is on a lane that it was not made for.
-/
namespace MediaOverQuic

/-- The lane that a stream is made for. -/
def Stream.sort (s : Stream) : StreamKind × Role := (s.kind, s.opener)

namespace Link

/-- The lanes of all streams that there ever were. -/
def sorts (l : Link) : List (StreamKind × Role) := l.streams.map Stream.sort

variable {l : Link}

@[simp] theorem length_sorts (l : Link) : l.sorts.length = l.streams.length := List.length_map _

/-- What side `r` opens arrives on the other one. -/
theorem arrivals_setArrivals (kind kind' : StreamKind) (r r' : Role) (c : Channel Nat) :
    (l.setArrivals kind r.peer c).arrivals kind' r'.peer =
      if kind = kind' ∧ r = r' then c else l.arrivals kind' r'.peer := by
  cases kind <;> cases kind' <;> cases r <;> cases r' <;> rfl

@[simp] theorem sorts_setArrivals (kind : StreamKind) (r : Role) (c : Channel Nat) :
    (l.setArrivals kind r c).sorts = l.sorts := by
  cases kind <;> rfl

@[simp] theorem held_setArrivals (kind : StreamKind) (r : Role) (c : Channel Nat) :
    (l.setArrivals kind r c).held = l.held := by
  cases kind <;> rfl

@[simp] theorem arrivals_takeSlot (kind kind' : StreamKind) (r r' : Role) :
    (l.takeSlot kind r).arrivals kind' r' = l.arrivals kind' r' := by
  cases kind <;> rfl

@[simp] theorem sorts_takeSlot (kind : StreamKind) (r : Role) :
    (l.takeSlot kind r).sorts = l.sorts := by
  cases kind <;> rfl

@[simp] theorem held_takeSlot (kind : StreamKind) (r : Role) :
    (l.takeSlot kind r).held = l.held := by
  cases kind <;> rfl

theorem sorts_release (id : Nat) (r : Role) : (l.release id r).sorts = l.sorts := by
  refine List.ext_getElem (by simp [release, updateStream, sorts]) fun i _ _ => ?_
  simp only [sorts, release, updateStream, List.getElem_map, List.getElem_modify]
  split_ifs <;> rfl

theorem sorts_discard (id : Nat) : (l.discard id).sorts = l.sorts := by
  rw [discard, sorts_release, sorts_release]

theorem foldl_release (ids : List Nat) (r : Role) :
    ∃ streams, streams.map Stream.sort = l.sorts ∧
      ids.foldl (fun l id => l.release id r) l = { l with streams := streams } := by
  induction ids generalizing l with
  | nil => exact ⟨_, rfl, rfl⟩
  | cons id ids ih =>
    obtain ⟨streams, hsorts, hfold⟩ := ih (l := l.release id r)
    exact ⟨streams, hsorts.trans (sorts_release id r), hfold⟩

/-- A side that lets go of its end takes what it has not accepted yet with it. -/
theorem detach_eq (r : Role) :
    ∃ streams, streams.map Stream.sort = l.sorts ∧
      l.detach r = { l with
        streams := streams
        bidirectional := l.bidirectional.update r Channel.clear
        unidirectional := l.unidirectional.update r Channel.clear
        held := l.held.set r false } := by
  obtain ⟨streams, hsorts, hfold⟩ := foldl_release (l.arrivals .bidirectional r).queue r
    (l := l.setArrivals .bidirectional r (l.arrivals .bidirectional r).clear)
  have hdrop : l.dropArrivals .bidirectional r = _ := hfold
  obtain ⟨streams', hsorts', hfold'⟩ :=
    foldl_release ((l.dropArrivals .bidirectional r).arrivals .unidirectional r).queue r
      (l := (l.dropArrivals .bidirectional r).setArrivals .unidirectional r
        ((l.dropArrivals .bidirectional r).arrivals .unidirectional r).clear)
  have hdrop' : (l.dropArrivals .bidirectional r).dropArrivals .unidirectional r = _ := hfold'
  refine ⟨streams', ?_, ?_⟩
  · rw [hsorts', sorts_setArrivals, hdrop]
    exact hsorts.trans (sorts_setArrivals _ _ _)
  · rw [detach, hdrop', hdrop]
    rfl

end Link

/-- How a lane stands: its streams are of the sort `sort`, `opened` are those that were handed over
and `accepted` those that were accepted, and `c` has the ones on their way. -/
structure Lane (c : Channel Nat) (held : Bool) (sorts : List (StreamKind × Role))
    (sort : StreamKind × Role) (opened accepted : List Nat) : Prop where
  order : accepted ++ c.queue <+: opened
  /-- While the other side is there, nothing that was handed over gets lost. -/
  all : held = true → accepted ++ c.queue = opened
  nodup : (opened ++ c.waiting).Nodup
  sort_eq : ∀ id ∈ opened ++ c.waiting, sorts[id]? = some sort

namespace Lane

variable {c c' : Channel Nat} {held : Bool} {sorts : List (StreamKind × Role)}
  {sort : StreamKind × Role} {opened accepted : List Nat} {id : Nat}

theorem fresh (held : Bool) (sort : StreamKind × Role) (n : Nat) :
    Lane (.empty n) held [] sort [] [] :=
  ⟨ List.nil_prefix, fun _ => rfl, List.nodup_nil, nofun⟩

/-- No more streams were handed over than were made. -/
theorem length_le (h : Lane c held sorts sort opened accepted) :
    opened.length ≤ sorts.count sort := by
  have hnodup : opened.Nodup := (List.nodup_append.mp h.nodup).1
  have hmade : opened ⊆ sorts.findIdxs (· == sort) := by
    intro id hid
    rw [List.mem_findIdxs_iff_exists_getElem_pos]
    obtain ⟨hlt, hsort⟩ := List.getElem?_eq_some_iff.mp (h.sort_eq id (List.mem_append_left _ hid))
    exact ⟨hlt, by simp [hsort]⟩
  calc opened.length ≤ (sorts.findIdxs (· == sort)).length := (hnodup.subperm hmade).length_le
    _ = sorts.count sort := List.length_findIdxs

/-- The number of the next stream is new on every lane. -/
theorem length_notMem (h : Lane c held sorts sort opened accepted) :
    sorts.length ∉ opened ++ c.waiting := fun hmem => by
  have hsort := h.sort_eq _ hmem
  simp at hsort

theorem perm_handed (opened waiting : List Nat) (id : Nat) :
    ((opened ++ [id]) ++ waiting).Perm (id :: (opened ++ waiting)) := by
  rw [List.append_assoc, List.singleton_append]
  exact List.perm_middle

/-- Streams are made for other lanes. -/
theorem more (h : Lane c held sorts sort opened accepted) (others : List (StreamKind × Role)) :
    Lane c held (sorts ++ others) sort opened accepted where
  order := h.order
  all := h.all
  nodup := h.nodup
  sort_eq id hid := by
    have hsort := h.sort_eq id hid
    rwa [List.getElem?_append_left (List.getElem?_eq_some_iff.mp hsort).1]

/-- A new stream is handed over at once. -/
theorem handed (h : Lane c held sorts sort opened accepted) (hheld : held = true)
    (hroom : c.hasRoom = true) :
    Lane (c.offer sorts.length) held (sorts ++ [sort]) sort (opened ++ [sorts.length])
      accepted := by
  obtain ⟨hqueue, hwaiting⟩ := c.offer_of_hasRoom sorts.length hroom
  have hall : accepted ++ (c.offer sorts.length).queue = opened ++ [sorts.length] := by
    rw [hqueue, ← List.append_assoc, h.all hheld]
  refine ⟨hall ▸ List.prefix_rfl, fun _ => hall, ?_, fun id hid => ?_⟩
  · rw [hwaiting, (perm_handed _ _ _).nodup_iff]
    exact List.nodup_cons.mpr ⟨h.length_notMem, h.nodup⟩
  · rw [hwaiting, (perm_handed _ _ _).mem_iff, List.mem_cons] at hid
    rcases hid with rfl | hid
    · exact List.getElem?_concat_length
    · exact (h.more _).sort_eq id hid

/-- A new stream has to wait for a place. -/
theorem queued (h : Lane c held sorts sort opened accepted) (hroom : c.hasRoom = false) :
    Lane (c.offer sorts.length) held (sorts ++ [sort]) sort opened accepted := by
  obtain ⟨hqueue, hwaiting⟩ := c.offer_of_full sorts.length hroom
  refine ⟨hqueue ▸ h.order, hqueue ▸ h.all, ?_, fun id hid => ?_⟩
  · rw [hwaiting, ← List.append_assoc, ← List.concat_eq_append]
    exact h.nodup.concat h.length_notMem
  · rw [hwaiting, ← List.append_assoc, List.mem_append, List.mem_singleton] at hid
    rcases hid with hid | rfl
    · exact (h.more _).sort_eq id hid
    · exact List.getElem?_concat_length

/-- A stream that waits is taken back. -/
theorem withdrawn (h : Lane c held sorts sort opened accepted) (id : Nat) :
    Lane (c.withdraw id) held sorts sort opened accepted where
  order := h.order
  all := h.all
  nodup := h.nodup.sublist (List.filter_sublist.append_left _)
  sort_eq i hi := h.sort_eq i ((List.filter_sublist.append_left _).subset hi)

/-- A stream that waits gets its place. -/
theorem entered (h : Lane c held sorts sort opened accepted) (hheld : held = true)
    (henter : c.enter? id = some c') : Lane c' held sorts sort (opened ++ [id]) accepted := by
  unfold Channel.enter? at henter
  split_ifs at henter with hmem
  obtain rfl := Option.some.inj henter
  have hwaits : id ∈ c.waiting := List.mem_of_mem_take hmem
  have hall : accepted ++ (c.queue ++ [id]) = opened ++ [id] := by
    rw [← List.append_assoc, h.all hheld]
  have hleft := h.withdrawn id
  have hnew : id ∉ opened ++ (c.withdraw id).waiting := fun hid => by
    rcases List.mem_append.mp hid with hid | hid
    · exact (List.nodup_append.mp h.nodup).2.2 id hid id hwaits rfl
    · exact ((c.mem_waiting_withdraw id id).mp hid).2 rfl
  refine ⟨hall ▸ List.prefix_rfl, fun _ => hall, ?_, fun i hi => ?_⟩
  · exact (perm_handed _ _ _).nodup_iff.mpr (List.nodup_cons.mpr ⟨hnew, hleft.nodup⟩)
  · rcases List.mem_cons.mp ((perm_handed _ _ _).mem_iff.mp hi) with rfl | hi
    · exact h.sort_eq _ (List.mem_append_right _ hwaits)
    · exact hleft.sort_eq i hi

/-- The first stream on its way is accepted. -/
theorem taken (h : Lane c held sorts sort opened accepted) (htake : c.take? = some (id, c')) :
    Lane c' held sorts sort opened (accepted ++ [id]) := by
  obtain ⟨hqueue, hwaiting, -⟩ := Channel.take?_eq_some htake
  have hsame : (accepted ++ [id]) ++ c'.queue = accepted ++ c.queue := by
    rw [hqueue, List.append_assoc, List.singleton_append]
  exact ⟨hsame ▸ h.order, fun hheld => hsame.trans (h.all hheld), hwaiting ▸ h.nodup,
    hwaiting ▸ h.sort_eq⟩

/-- The other side leaves. -/
theorem cleared (h : Lane c held sorts sort opened accepted) :
    Lane c.clear false sorts sort opened accepted where
  order := (List.prefix_append_right_inj _).mpr List.nil_prefix |>.trans h.order
  all := nofun
  nodup := h.nodup
  sort_eq := h.sort_eq

/-- What was accepted is where it was among what was handed over. -/
theorem opened_of_accepted (h : Lane c held sorts sort opened accepted) {k : Nat}
    (hk : accepted[k]? = some id) : opened[k]? = some id := by
  obtain ⟨hlt, rfl⟩ := List.getElem?_eq_some_iff.mp hk
  exact List.prefix_iff_getElem?.mp ((List.prefix_append _ _).trans h.order) k hlt

/-- The stream that is accepted next is the one that was handed over next. -/
theorem next (h : Lane c held sorts sort opened accepted) (hheld : held = true)
    (hnext : opened[accepted.length]? = some id) : ∃ rest, c.take? = some (id, rest) := by
  rw [← h.all hheld, List.getElem?_append_right le_rfl, Nat.sub_self] at hnext
  cases htake : c.take? with
  | none =>
    rw [(Channel.take?_eq_none_iff c).mp htake] at hnext
    cases hnext
  | some taken =>
    obtain ⟨first, rest⟩ := taken
    rw [Channel.queue_of_take? htake] at hnext
    obtain rfl := Option.some.inj hnext
    exact ⟨rest, rfl⟩

end Lane

end MediaOverQuic
