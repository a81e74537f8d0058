import Mathlib.Tactic
import MediaOverQuic.Proofs.Transport.Link
import MediaOverQuic.Proofs.Transport.Moves

/-!
# Pairs of ends

A side accepts the streams that the other one has opened, in the order in which they were opened,
and no others. The first close decides what both sides see from then on, and no call that begins
after it gets a stream.
-/
namespace MediaOverQuic

theorem Role.peer_inj {r r' : Role} : r.peer = r'.peer ↔ r = r' := by
  cases r <;> cases r' <;> simp [peer]

namespace Pairing

/-! ## What always holds -/

/-- How the streams of a kind stand that side `r` has opened. -/
def Stands (l : Link) (events : List Event) (r : Role) (kind : StreamKind) : Prop :=
  Lane (l.arrivals kind r.peer) (l.held.get r.peer) l.sorts (kind, r) (openedIn events r kind)
    (acceptedIn events r.peer kind)

/-- No side has made more bidirectional streams than it has slots. -/
structure Rationed (n : Nat) (l : Link) : Prop where
  maxStreams : l.maxStreams = n
  counted : ∀ r, l.sorts.count (.bidirectional, r) ≤ l.opened.get r
  within : ∀ r, l.opened.get r ≤ n

/-- What always holds of a connection with `n` slots on each side. -/
structure Sound (n : Nat) (l : Link) (events : List Event) : Prop where
  lane : ∀ r kind, Stands l events r kind
  rationed : Rationed n l
  closes : l.closes = events.filterMap Event.closed?

section Lanes

variable {l l' : Link} {events new : List Event}

theorem openedIn_append (events new : List Event) (r : Role) (kind : StreamKind) :
    openedIn (events ++ new) r kind = openedIn events r kind ++ openedIn new r kind :=
  List.filterMap_append

theorem acceptedIn_append (events new : List Event) (r : Role) (kind : StreamKind) :
    acceptedIn (events ++ new) r kind = acceptedIn events r kind ++ acceptedIn new r kind :=
  List.filterMap_append

@[simp] theorem openedIn_nil (r : Role) (kind : StreamKind) : openedIn [] r kind = [] := rfl

@[simp] theorem acceptedIn_nil (r : Role) (kind : StreamKind) : acceptedIn [] r kind = [] := rfl

@[simp] theorem openedIn_opened (r r' : Role) (kind kind' : StreamKind) (id : Nat) :
    openedIn [.opened r kind id] r' kind' = if kind = kind' ∧ r = r' then [id] else [] := by
  by_cases h : r = r' ∧ kind = kind' <;> simp [openedIn, Event.opened?, and_comm, h]

@[simp] theorem acceptedIn_opened (r r' : Role) (kind kind' : StreamKind) (id : Nat) :
    acceptedIn [.opened r kind id] r' kind' = [] := rfl

@[simp] theorem openedIn_accepted (r r' : Role) (kind kind' : StreamKind) (id : Nat) :
    openedIn [.accepted r kind id] r' kind' = [] := rfl

@[simp] theorem acceptedIn_accepted (r r' : Role) (kind kind' : StreamKind) (id : Nat) :
    acceptedIn [.accepted r kind id] r' kind' = if kind = kind' ∧ r = r' then [id] else [] := by
  by_cases h : r = r' ∧ kind = kind' <;> simp [acceptedIn, Event.accepted?, and_comm, h]

/-- What happens to the streams of one kind that one side opens leaves all others alone. -/
theorem stands_all (kind : StreamKind) (r : Role) (c : Channel Nat)
    {others : List (StreamKind × Role)} (h : ∀ r kind, Stands l events r kind)
    (harrivals : ∀ r' kind', l'.arrivals kind' r'.peer =
      if kind = kind' ∧ r = r' then c else l.arrivals kind' r'.peer)
    (hheld : l'.held = l.held) (hsorts : l'.sorts = l.sorts ++ others)
    (hnew : ∀ r' kind', ¬(kind = kind' ∧ r = r') →
      openedIn new r' kind' = [] ∧ acceptedIn new r'.peer kind' = [])
    (hown : Lane c (l.held.get r.peer) (l.sorts ++ others) (kind, r)
      (openedIn events r kind ++ openedIn new r kind)
      (acceptedIn events r.peer kind ++ acceptedIn new r.peer kind)) :
    ∀ r kind, Stands l' (events ++ new) r kind := by
  intro r' kind'
  rw [Stands, harrivals, hheld, hsorts, openedIn_append, acceptedIn_append]
  split_ifs with hlane
  · obtain ⟨rfl, rfl⟩ := hlane
    exact hown
  · obtain ⟨hopened, haccepted⟩ := hnew r' kind' hlane
    rw [hopened, haccepted, List.append_nil, List.append_nil]
    exact (h r' kind').more others

theorem stands_setArrivals (kind : StreamKind) (r : Role) (c : Channel Nat)
    (h : ∀ r kind, Stands l events r kind)
    (hnew : ∀ r' kind', ¬(kind = kind' ∧ r = r') →
      openedIn new r' kind' = [] ∧ acceptedIn new r'.peer kind' = [])
    (hown : Lane c (l.held.get r.peer) l.sorts (kind, r)
      (openedIn events r kind ++ openedIn new r kind)
      (acceptedIn events r.peer kind ++ acceptedIn new r.peer kind)) :
    ∀ r' kind', Stands (l.setArrivals kind r.peer c) (events ++ new) r' kind' :=
  stands_all kind r c h (fun _ _ => Link.arrivals_setArrivals _ _ _ _ _)
    (Link.held_setArrivals _ _ _)
    ((Link.sorts_setArrivals kind r.peer c).trans (List.append_nil _).symm) hnew
    ((List.append_nil l.sorts).symm ▸ hown)

theorem stands_offered (kind : StreamKind) (r : Role) (h : ∀ r kind, Stands l events r kind)
    (hnew : ∀ r' kind', ¬(kind = kind' ∧ r = r') →
      openedIn new r' kind' = [] ∧ acceptedIn new r'.peer kind' = [])
    (hown : Lane ((l.arrivals kind r.peer).offer l.sorts.length) (l.held.get r.peer)
      (l.sorts ++ [(kind, r)]) (kind, r) (openedIn events r kind ++ openedIn new r kind)
      (acceptedIn events r.peer kind ++ acceptedIn new r.peer kind)) :
    ∀ r' kind', Stands (l.offered kind r) (events ++ new) r' kind' :=
  stands_all kind r _ h (fun _ _ => Link.arrivals_offered _ _ _ _) (Link.held_offered kind r)
    (Link.sorts_offered kind r) hnew hown

/-- What is sent on the streams does not matter. -/
theorem stands_streams {streams : List Stream} (hsorts : streams.map Stream.sort = l.sorts)
    {r : Role} {kind : StreamKind} (h : Stands l events r kind) :
    Stands { l with streams := streams } events r kind := by
  rw [Stands, Link.sorts, hsorts]
  cases kind <;> exact h

/-- What is noted down besides the streams that a side got does not matter. -/
theorem stands_silent {r : Role} {kind : StreamKind} (h : Stands l events r kind)
    (hopened : openedIn new r kind = []) (haccepted : acceptedIn new r.peer kind = []) :
    Stands l (events ++ new) r kind := by
  rw [Stands, openedIn_append, acceptedIn_append, hopened, haccepted, List.append_nil,
    List.append_nil]
  exact h

end Lanes

namespace Rationed

variable {n : Nat} {l l' : Link} {kind : StreamKind} {r : Role}

theorem change (h : Rationed n l) (hslots : Link.SameSlots l l') (hsorts : l'.sorts = l.sorts) :
    Rationed n l' where
  maxStreams := hslots.maxStreams.trans h.maxStreams
  counted := by
    rw [hsorts, hslots.opened]
    exact h.counted
  within := by
    rw [hslots.opened]
    exact h.within

theorem opened_takeSlot_le (h : Rationed n l) (hfull : l.isFull kind r = false) (r' : Role) :
    (l.takeSlot kind r).opened.get r' ≤ n := by
  rw [Link.opened_takeSlot]
  split_ifs with hr
  · obtain ⟨rfl, rfl⟩ := hr
    have hlt : ¬ l.maxStreams ≤ l.opened.get r := fun hle => by
      rw [Link.isFull_eq_true_iff.mpr ⟨rfl, hle⟩] at hfull
      cases hfull
    rw [h.maxStreams] at hlt
    omega
  · exact h.within r'

theorem takeSlot (h : Rationed n l) (hfull : l.isFull kind r = false) :
    Rationed n (l.takeSlot kind r) where
  maxStreams := (Link.maxStreams_takeSlot kind r).trans h.maxStreams
  counted r' := by
    rw [Link.sorts_takeSlot, Link.opened_takeSlot]
    exact (h.counted r').trans (Nat.le_add_right _ _)
  within := h.opened_takeSlot_le hfull

/-- The slot that was taken is for the new stream. -/
theorem offered (h : Rationed n l) (hfull : l.isFull kind r = false) :
    Rationed n (l.offered kind r) := by
  have hslots := Link.sameSlots_offered (l := l) kind r
  refine ⟨hslots.maxStreams.trans (h.takeSlot hfull).maxStreams, fun r' => ?_, fun r' => ?_⟩
  · have hcounted := h.counted r'
    rw [Link.sorts_offered, List.count_append, hslots.opened, Link.opened_takeSlot,
      List.count_singleton]
    have hsame : ((kind, r) == (StreamKind.bidirectional, r')) = true ↔
        r = r' ∧ kind = .bidirectional := by
      rw [beq_iff_eq, Prod.mk.injEq, and_comm]
    simp only [hsame]
    omega
  · rw [hslots.opened]
    exact h.opened_takeSlot_le hfull r'

end Rationed

namespace Move

variable {n : Nat} {l l' : Link} {events new : List Event}

theorem closes (h : Move l new l') : l'.closes = l.closes ++ new.filterMap Event.closed? := by
  cases h with
  | used | closed => simp [Event.closed?, Link.close]
  | @lost kind | @queued kind | @handed kind | @entered kind | @withdrawn kind | @taken kind =>
    cases kind <;> exact (List.append_nil _).symm
  | @left r =>
    obtain ⟨streams, -, hdetach⟩ := Link.detach_eq (l := l) r
    simp [hdetach]

theorem rationed (h : Move l new l') (hl : Rationed n l) : Rationed n l' := by
  cases h with
  | used hsorts => exact hl.change ⟨rfl, rfl⟩ hsorts
  | lost hfull => exact hl.takeSlot hfull
  | handed hfull | queued hfull => exact hl.offered hfull
  | entered | taken =>
    exact hl.change (Link.sameSlots_setArrivals _ _ _) (Link.sorts_setArrivals _ _ _)
  | withdrawn =>
    refine hl.change ((Link.sameSlots_setArrivals _ _ _).trans (Link.sameSlots_discard _)) ?_
    rw [Link.sorts_discard, Link.sorts_setArrivals]
  | closed => exact hl.change ⟨rfl, rfl⟩ rfl
  | @left r =>
    obtain ⟨streams, hsorts, hdetach⟩ := Link.detach_eq (l := l) r
    exact hl.change (Link.sameSlots_detach r) (by rw [hdetach]; exact hsorts)

theorem stands (h : Move l new l') (hl : ∀ r kind, Stands l events r kind) :
    ∀ r kind, Stands l' (events ++ new) r kind := by
  cases h with
  | used hsorts => exact fun r kind => stands_silent (stands_streams hsorts (hl r kind)) rfl rfl
  | lost =>
    refine fun r kind => stands_silent ?_ rfl rfl
    rw [Stands, Link.arrivals_takeSlot, Link.held_takeSlot, Link.sorts_takeSlot]
    exact hl r kind
  | @handed kind r hfull hheld hroom =>
    refine stands_offered kind r hl (fun r' kind' hne => ⟨?_, rfl⟩) ?_
    · rw [openedIn_opened, if_neg hne]
    · simpa only [openedIn_opened, acceptedIn_opened, and_self, if_true, List.append_nil] using
        (hl r kind).handed hheld hroom
  | @queued kind r hfull hroom =>
    refine stands_offered kind r hl (fun _ _ _ => ⟨rfl, rfl⟩) ?_
    simpa only [openedIn_nil, acceptedIn_nil, List.append_nil] using (hl r kind).queued hroom
  | @entered kind r id c hheld henter =>
    refine stands_setArrivals kind r c hl (fun r' kind' hne => ⟨?_, rfl⟩) ?_
    · rw [openedIn_opened, if_neg hne]
    · simpa using (hl r kind).entered hheld henter
  | @withdrawn kind r id =>
    have hset : ∀ r' kind', Stands
        (l.setArrivals kind r.peer ((l.arrivals kind r.peer).withdraw id)) (events ++ []) r' kind' := by
      refine stands_setArrivals kind r _ hl (fun _ _ _ => ⟨rfl, rfl⟩) ?_
      simpa only [openedIn_nil, acceptedIn_nil, List.append_nil] using (hl r kind).withdrawn id
    exact fun r' kind' => stands_streams (Link.sorts_discard id) (hset r' kind')
  | @taken kind r id c htake =>
    refine stands_setArrivals kind r c hl (fun r' kind' hne => ⟨rfl, ?_⟩) ?_
    · have hne' : ¬(kind = kind' ∧ r.peer = r'.peer) := fun h => hne ⟨h.1, Role.peer_inj.mp h.2⟩
      rw [acceptedIn_accepted, if_neg hne']
    · simpa using (hl r kind).taken htake
  | closed =>
    refine fun r kind => stands_silent ?_ rfl rfl
    have hlane := hl r kind
    cases kind <;> exact hlane
  | @left r =>
    obtain ⟨streams, hsorts, hdetach⟩ := Link.detach_eq (l := l) r
    intro r' kind'
    refine stands_silent ?_ rfl rfl
    rw [hdetach]
    obtain rfl | rfl : r' = r ∨ r = r'.peer := by cases r <;> cases r' <;> simp [Role.peer]
    · have hlane := stands_streams hsorts (hl r' kind')
      rw [Stands, PerRole.get_set_peer]
      cases kind' <;> cases r' <;> exact hlane
    · have hlane := (stands_streams hsorts (hl r' kind')).cleared
      rw [Stands, PerRole.get_set]
      cases kind' <;> cases r' <;> exact hlane

end Move

theorem Sound.move {n : Nat} {l l' : Link} {events new : List Event} (h : Sound n l events)
    (hm : Move l new l') : Sound n l' (events ++ new) where
  lane := hm.stands h.lane
  rationed := hm.rationed h.rationed
  closes := by
    rw [hm.closes, h.closes, List.filterMap_append]

theorem Sound.run {n : Nat} {x x' : Pairing} (h : Sound n x.link x.events)
    (hx : Relation.ReflTransGen Step x x') : Sound n x'.link x'.events := by
  induction hx with
  | refl => exact h
  | tail _ hstep ih =>
    obtain ⟨new, hevents, hmove⟩ := hstep.move
    exact hevents ▸ ih.move hmove

theorem sound_fresh (overlay : Bool) (n : Nat) : Sound n (.fresh overlay n) [] where
  lane := fun r kind => by
    have hlane := Lane.fresh true (kind, r) Link.queueSize
    cases kind <;> cases r <;> exact hlane
  rationed :=
    ⟨rfl, fun _ => Nat.zero_le _, fun r => (PerRole.get_both 0 r).trans_le (Nat.zero_le n)⟩
  closes := rfl

/-! ## After the first close -/

/-- On a connection that is closed, no call gets further than its first step. -/
theorem step_of_isNew {l : Link} (hclosed : l.isClosed = true) (r : Role) (pick : Pick)
    {task : Task} (hnew : task.isNew = true) :
    task.step r pick l = .ends (.error (Link.refusal r), l) := by
  cases task with
  | opening call =>
    cases call with
    | start kind =>
      rw [Task.step, Opening.step, if_pos hclosed]
      rfl
    | handing kind id => cases hnew
  | accepting call =>
    cases call with
    | start kind =>
      rw [Task.step, Accepting.step, if_pos hclosed]
      rfl
    | waiting kind => cases hnew

theorem Call.isNew_of_isOut {c : Call} {task : Task} (h : c.IsOut)
    (hc : c.progress = .underWay task) : task.isNew = true := by
  rwa [IsOut, hc] at h

/-- A call begins, or one changes; on a connection that is closed, one that is out stays so. -/
theorem Step.calls {x x' : Pairing} (h : Step x x') :
    x'.calls = x.calls ∨ (∃ c, c.IsOut ∧ x'.calls = x.calls ++ [c]) ∨
    ∃ i c c', x.calls[i]? = some c ∧ x'.calls = x.calls.set i c' ∧
      (x.link.isClosed = true → c.IsOut → c'.IsOut) := by
  cases h with
  | begins hnew =>
    refine .inr (.inl ⟨_, ?_, rfl⟩)
    exact hnew
  | @goesOn i c _ _ _ pick hi hc h =>
    refine .inr (.inr ⟨i, c, _, hi, rfl, fun hclosed hout => ?_⟩)
    cases h.symm.trans (step_of_isNew hclosed c.role pick (Call.isNew_of_isOut hout hc))
  | @ends i c _ _ _ pick hi hc h =>
    refine .inr (.inr ⟨i, c, _, hi, rfl, fun hclosed hout => ?_⟩)
    have hrefused := h.symm.trans (step_of_isNew hclosed c.role pick (Call.isNew_of_isOut hout hc))
    exact (Prod.mk.inj (Attempt.ends.inj hrefused)).1
  | givenUp hi => exact .inr (.inr ⟨_, _, _, hi, rfl, fun _ _ => trivial⟩)
  | closed | left | used => exact .inl rfl

/-- The connection was closed when there were `count` calls. -/
structure Barred (count : Nat) (closing : TerminationCode × ReasonPhrase) (x : Pairing) : Prop where
  closing_eq : x.link.closing = some closing
  isOut : ∀ i c, count ≤ i → x.calls[i]? = some c → c.IsOut

theorem Barred.step {count : Nat} {closing : TerminationCode × ReasonPhrase} {x x' : Pairing}
    (h : Barred count closing x) (hx : Step x x') : Barred count closing x' where
  closing_eq := by
    obtain ⟨new, -, hmove⟩ := hx.move
    rw [Link.closing, hmove.closes, List.head?_append, ← Link.closing, h.closing_eq]
    rfl
  isOut := by
    have hclosed : x.link.isClosed = true := by rw [Link.isClosed, h.closing_eq]; rfl
    intro i c hle hi
    obtain hsame | ⟨c', hout, hbegun⟩ | ⟨j, before, after, hj, hset, hout⟩ := hx.calls
    · exact h.isOut i c hle (hsame ▸ hi)
    · rw [hbegun, List.getElem?_append] at hi
      split_ifs at hi
      · exact h.isOut i c hle hi
      · obtain rfl := List.mem_singleton.mp (List.mem_of_getElem? hi)
        exact hout
    · rw [hset, List.getElem?_set] at hi
      split_ifs at hi with hij hlt
      · obtain rfl := Option.some.inj hi
        exact hout hclosed (h.isOut j before (hij ▸ hle) hj)
      · exact h.isOut i c hle hi

theorem Barred.run {count : Nat} {closing : TerminationCode × ReasonPhrase} {x x' : Pairing}
    (h : Barred count closing x) (hx : Relation.ReflTransGen Step x x') :
    Barred count closing x' := by
  induction hx with
  | refl => exact h
  | tail _ hstep ih => exact ih.step hstep

/-! ## The two ends -/

/-- Whether stream `id` is the far end, on side `r`, of one that the other side has opened: what one
side writes is what the other one reads. -/
structure IsFarEnd (l : Link) (kind : StreamKind) (r : Role) (id : Nat) : Prop where
  lt_length : id < l.streams.length
  kind_eq : (l.stream id).kind = kind
  opener_eq : (l.stream id).opener = r.peer
  reads : ∀ p, (l.setOutbound id r.peer p).inbound id r = p
  answers : ∀ p, (l.setOutbound id r p).inbound id r.peer = p

theorem isFarEnd_of_sort {l : Link} {kind : StreamKind} {r : Role} {id : Nat}
    (h : l.sorts[id]? = some (kind, r.peer)) : IsFarEnd l kind r id := by
  obtain ⟨s, hs, hsort⟩ : ∃ s, l.streams[id]? = some s ∧ s.sort = (kind, r.peer) := by
    simpa [Link.sorts, List.getElem?_map, Option.map_eq_some_iff] using h
  have hlt : id < l.streams.length := (List.getElem?_eq_some_iff.mp hs).1
  have hstream : l.stream id = s := by rw [Link.stream, List.getD_eq_getElem?_getD, hs]; rfl
  refine ⟨hlt, ?_, ?_, fun p => ?_, fun p => ?_⟩
  · rw [hstream]
    exact congrArg Prod.fst hsort
  · rw [hstream]
    exact congrArg Prod.snd hsort
  · rw [Link.setOutbound_peer, Link.inbound_setInbound hlt]
  · have hself := Link.setOutbound_peer l id r.peer p
    rw [Role.peer_peer] at hself
    rw [hself, Link.inbound_setInbound hlt]

/-- However the two ends of a connection are used, closed and let go of, by calls that go on in any
order: the `k`-th stream of a kind that a side has accepted is the far end of the `k`-th one that
the other side has opened, and while a side is there it can get the next one once that is opened. No
side has opened more than `n` bidirectional streams. What the first close gave is what both sides
see from then on, whatever closes follow, and no call that begins later gets a stream, whether or
not there are some that wait. -/
theorem pairs_in_order_until_closed {overlay : Bool} {n : Nat} {x : Pairing}
    (h : Relation.ReflTransGen Step (start (.fresh overlay n)) x) :
    (∀ (r : Role) (kind : StreamKind), (x.opened r kind).Nodup ∧
      (∀ k id : Nat, (x.accepted r kind)[k]? = some id →
        (x.opened r.peer kind)[k]? = some id ∧ IsFarEnd x.link kind r id) ∧
      (x.link.held.get r = true →
        ∀ id : Nat, (x.opened r.peer kind)[(x.accepted r kind).length]? = some id →
          ∃ l, (Accepting.waiting kind).step r .stream x.link = .ends (.ok id, l))) ∧
    (∀ r, (x.opened r .bidirectional).length ≤ n) ∧
    x.link.closing = x.closes.head? ∧
    ∀ first, x.closes.head? = some first → ∀ x', Relation.ReflTransGen Step x x' →
      x'.link.closing = some first ∧ x'.link.isClosed = true ∧
      (∀ r pick (task : Task), task.isNew = true →
        task.step r pick x'.link = .ends (.error (Link.refusal r), x'.link)) ∧
      ∀ i c, x.calls.length ≤ i → x'.calls[i]? = some c → c.IsOut := by
  have hsound : Sound n x.link x.events := (sound_fresh overlay n).run h
  have hclosing : x.link.closing = x.closes.head? := congrArg List.head? hsound.closes
  refine ⟨fun r kind => ⟨?_, fun k id hk => ?_, fun hheld id hid => ?_⟩, fun r => ?_,
    hclosing, fun first hfirst x' hx' => ?_⟩
  · exact (List.nodup_append.mp (hsound.lane r kind).nodup).1
  · have hlane := hsound.lane r.peer kind
    rw [Stands, Role.peer_peer] at hlane
    have hopened : (x.opened r.peer kind)[k]? = some id := hlane.opened_of_accepted hk
    exact ⟨hopened, isFarEnd_of_sort (hlane.sort_eq id
      (List.mem_append_left _ (List.mem_of_getElem? hopened)))⟩
  · have hlane := hsound.lane r.peer kind
    rw [Stands, Role.peer_peer] at hlane
    obtain ⟨rest, htake⟩ := hlane.next hheld hid
    exact ⟨x.link.setArrivals kind r rest, by simp [Accepting.step, htake]⟩
  · exact (hsound.lane r .bidirectional).length_le.trans
      ((hsound.rationed.counted r).trans (hsound.rationed.within r))
  · have hbarred : Barred x.calls.length first x :=
      ⟨hclosing.trans hfirst, fun i c hle hi => by
        rw [List.getElem?_eq_none hle] at hi
        cases hi⟩
    obtain ⟨hfirst', hout⟩ := hbarred.run hx'
    have hclosed : x'.link.isClosed = true := by rw [Link.isClosed, hfirst']; rfl
    exact ⟨hfirst', hclosed, fun r pick task hnew => step_of_isNew hclosed r pick hnew, hout⟩

/-- The client opens a stream of each kind, and the server accepts one of them. -/
def meeting : List Action :=
  [.open .client .bidirectional, .goOn 0, .accept .server .bidirectional, .goOn 1, .goOn 1,
    .open .client .unidirectional, .goOn 2]

/-- Both sides close the connection, the server first. -/
def parting : List Action := [.close .server .goawayTimeout .empty, .close .client .noError .empty]

/-- The client opens another stream, and the server accepts the one that waits. -/
def lingering : List Action :=
  [.open .client .unidirectional, .goOn 3, .accept .server .unidirectional, .goOn 4]

/-- What the server gave when it closed stays, and the stream that waits is not accepted. -/
theorem pairs_in_order_until_closed_twice :
    ∃ x x', Relation.ReflTransGen Step (start (.fresh false 1)) x ∧
      Relation.ReflTransGen Step x x' ∧ x.accepted .server .bidirectional = [0] ∧
      (x.opened .client .bidirectional)[0]? = some 0 ∧ IsFarEnd x.link .bidirectional .server 0 ∧
      x.closes = [(.goawayTimeout, .empty), (.noError, .empty)] ∧
      x'.link.closing = some (.goawayTimeout, .empty) ∧
      (x'.link.arrivals .unidirectional .server).queue = [1] ∧
      ∀ i c, 3 ≤ i → x'.calls[i]? = some c → c.IsOut := by
  have hrun : ((start (.fresh false 1)).follow (meeting ++ parting)).any (fun x =>
      x.accepted .server .bidirectional = [0] ∧ x.calls.length = 3 ∧
        x.closes = [(.goawayTimeout, .empty), (.noError, .empty)] ∧
        (x.follow lingering).any (fun x' =>
          (x'.link.arrivals .unidirectional .server).queue = [1])) = true := by
    decide +kernel
  obtain ⟨x, hx, hok⟩ := (Option.any_eq_true _ _).mp hrun
  obtain ⟨haccepted, hcalls, hcloses, hlater⟩ := of_decide_eq_true hok
  obtain ⟨x', hx', hqueue⟩ := (Option.any_eq_true _ _).mp hlater
  have hreach := reaches_follow hx
  have hreach' := reaches_follow hx'
  obtain ⟨hpairs, -, -, hafter⟩ := pairs_in_order_until_closed hreach
  have hfirst : (x.accepted .server .bidirectional)[0]? = some 0 := by rw [haccepted]; rfl
  obtain ⟨hopened, hfar⟩ := (hpairs .server .bidirectional).2.1 0 0 hfirst
  have hclosed : x.closes.head? = some (.goawayTimeout, .empty) := by rw [hcloses]; rfl
  obtain ⟨hclosing, -, -, hout⟩ := hafter _ hclosed x' hreach'
  exact ⟨x, x', hreach, hreach', haccepted, hopened, hfar, hcloses, hclosing,
    of_decide_eq_true hqueue, fun i c hle => hout i c (hcalls ▸ hle)⟩

end Pairing

end MediaOverQuic
