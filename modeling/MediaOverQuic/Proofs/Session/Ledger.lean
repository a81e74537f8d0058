import Mathlib.Tactic
import MediaOverQuic.Proofs.Session.SetupParameters
import MediaOverQuic.Session.Operation

/-!
# The books of a session

Whatever is done with the state of a session, in whatever order, the ids handed out are those of the
role without a gap, and so are the ids accepted from the peer. What an operation comes to depends
only on how many ids were taken before and on the limit that was set last, which setup parameters
may also lower.
-/
namespace MediaOverQuic

/-- The first `count` request ids of a role. -/
def Role.ids (r : Role) (count : Nat) : List Nat :=
  (List.range count).map fun i => r.firstRequestId + 2 * i

theorem Role.ids_succ (r : Role) (count : Nat) :
    r.ids (count + 1) = r.ids count ++ [r.firstRequestId + 2 * count] := by
  simp [ids, List.range_succ]

/-- The ids in use are the first ones of a role, and `next` is the one that follows. -/
structure Role.Numbers (r : Role) (used : List Nat) (next : Nat) : Prop where
  used_eq : used = r.ids used.length
  next_eq : next = r.firstRequestId + 2 * used.length

theorem Role.Numbers.extend {r : Role} {used : List Nat} {next next' : Nat}
    (h : r.Numbers used next) {id? : Option Nat}
    (hid : (id? = none ∧ next' = next) ∨ (id? = some next ∧ next' = next + 2)) :
    r.Numbers (used ++ id?.toList) next' := by
  obtain ⟨rfl, rfl⟩ | ⟨rfl, rfl⟩ := hid
  · simpa using h
  · have hlength : (used ++ [next]).length = used.length + 1 := by simp
    constructor
    · rw [Option.toList_some, hlength, r.ids_succ, ← h.used_eq, ← h.next_eq]
    · have hnext := h.next_eq
      rw [Option.toList_some, hlength]
      omega

namespace SessionState

/-! ## Entries -/

/-- An operation, the states before and after it, and what it came to. -/
structure Entry where
  before : SessionState
  operation : Operation
  answer : Answer
  after : SessionState
  deriving DecidableEq, Repr

/-- The entry of an operation on a state. -/
def enter (s : SessionState) (op : Operation) : Entry :=
  ⟨s, op, (s.perform op).1, (s.perform op).2⟩

/-- The entries of operations that are performed one after another. -/
def ledger (s : SessionState) : List Operation → List Entry
  | [] => []
  | op :: ops => s.enter op :: (s.perform op).2.ledger ops

namespace Entry

/-- The id that was handed out. -/
def taken? (e : Entry) : Option Nat :=
  match e.answer with
  | .allocated id? => id?
  | _ => none

/-- The id that was accepted from the peer. -/
def accepted? (e : Entry) : Option Nat :=
  match e.operation, e.answer with
  | .acceptIncoming id, .done => some id
  | _, _ => none

/-- The limit that was set for the ids handed out. -/
def outgoingLimit? (e : Entry) : Option Nat :=
  match e.operation, e.answer with
  | .applyPeer params, _ => SetupParameter.maxRequestId.lastInt? params
  | .raiseOutgoing limit, .done => some limit
  | _, _ => none

/-- The limit that was set for the ids of the peer. -/
def incomingLimit? (e : Entry) : Option Nat :=
  match e.operation, e.answer with
  | .applyLocal params, _ => SetupParameter.maxRequestId.lastInt? params
  | .grant limit, .granted (some _) => some limit
  | _, _ => none

/-- The operation did not do what was asked for. -/
def IsRefused (e : Entry) : Prop :=
  (∃ error, e.answer = .refused error) ∨ e.answer = .allocated none ∨ e.answer = .granted none

end Entry

/-- The ids handed out so far. -/
def taken (history : List Entry) : List Nat := history.filterMap Entry.taken?

/-- The ids accepted from the peer so far. -/
def accepted (history : List Entry) : List Nat := history.filterMap Entry.accepted?

/-- The limit in force for the ids handed out. -/
def outgoingLimit (history : List Entry) : Nat :=
  history.foldl (fun limit e => e.outgoingLimit?.getD limit) 0

/-- The limit in force for the ids of the peer, which was `first` to begin with. -/
def incomingLimit (first : Nat) (history : List Entry) : Nat :=
  history.foldl (fun limit e => e.incomingLimit?.getD limit) first

/-! ## Bounds -/

/-- Limits are numbers that can be sent. -/
def Operation.IsBounded : Operation → Prop
  | .applyLocal params | .applyPeer params => ∀ p ∈ params, p.Valid
  | .raiseOutgoing limit | .grant limit => limit ≤ Varint.max
  | .allocate | .acceptIncoming _ | .reserveTokens _ | .releaseTokens _ => True

instance (op : Operation) : Decidable op.IsBounded :=
  match op with
  | .applyLocal params | .applyPeer params => inferInstanceAs (Decidable (∀ p ∈ params, p.Valid))
  | .raiseOutgoing limit | .grant limit => inferInstanceAs (Decidable (limit ≤ Varint.max))
  | .allocate | .acceptIncoming _ | .reserveTokens _ | .releaseTokens _ =>
    inferInstanceAs (Decidable True)

/-- No counter is close to the end of its word. -/
structure Fits (s : SessionState) : Prop where
  maxOutgoing : s.maxOutgoing ≤ Varint.max
  maxIncoming : s.maxIncoming ≤ Varint.max
  nextOutgoing : s.nextOutgoing ≤ Varint.max + 1
  nextIncoming : s.nextIncoming ≤ Varint.max + 1
  peerTokenCacheSize : s.peerTokenCacheSize ≤ Varint.max
  localTokenCacheSize : s.localTokenCacheSize ≤ Varint.max
  usedAtPeer : s.usedAtPeer ≤ Varint.max

theorem lastInt?_le {p : SetupParameter} {params : List KeyValuePair}
    (hv : ∀ q ∈ params, q.Valid) {limit : Nat} (hl : limit ≤ Varint.max) :
    (p.lastInt? params).getD limit ≤ Varint.max := by
  cases hlast : p.last? params with
  | none => simpa [SetupParameter.lastInt?, hlast] using hl
  | some q =>
    have hq : q.Valid := hv q (List.mem_reverse.mp (List.mem_of_find?_eq_some hlast))
    obtain ⟨t, v | b⟩ := q
    · simpa [SetupParameter.lastInt?, hlast, KeyValuePair.int?] using
        ((KeyValuePair.valid_int_iff t v).mp hq).2.2
    · simpa [SetupParameter.lastInt?, hlast, KeyValuePair.int?] using hl

theorem fits_start (role : Role) {maxIncoming tokens : Nat} (hm : maxIncoming ≤ Varint.max)
    (ht : tokens ≤ Varint.max) : (start role maxIncoming tokens).Fits where
  maxOutgoing := Nat.zero_le _
  maxIncoming := hm
  nextOutgoing := by cases role <;> exact Nat.le_of_ble_eq_true rfl
  nextIncoming := by cases role <;> exact Nat.le_of_ble_eq_true rfl
  peerTokenCacheSize := Nat.zero_le _
  localTokenCacheSize := ht
  usedAtPeer := Nat.zero_le _

/-! ## One operation -/

section Step

variable {s : SessionState} {op : Operation}

theorem perform_raiseOutgoing (s : SessionState) (limit : Nat) :
    s.perform (.raiseOutgoing limit) =
      if limit ≤ s.maxOutgoing then
        (.refused (.violation (.limitNotRaised limit s.maxOutgoing)), s)
      else (.done, { s with maxOutgoing := limit }) := by
  rw [perform, raiseOutgoing]
  split_ifs <;> rfl

theorem perform_acceptIncoming (s : SessionState) (id : Nat) :
    s.perform (.acceptIncoming id) =
      if id ≠ s.nextIncoming then
        (.refused (.violation (.requestIdOutOfTurn s.nextIncoming id)), s)
      else if s.maxIncoming ≤ id then
        (.refused (.violation (.requestIdBeyondLimit id s.maxIncoming)), s)
      else (.done, { s with nextIncoming := s.nextIncoming + 2 }) := by
  rw [perform, acceptIncoming]
  split_ifs <;> rfl

theorem perform_reserveTokens (s : SessionState) (size : Nat) :
    s.perform (.reserveTokens size) =
      if s.peerTokenCacheSize < Word.saturatingAdd s.usedAtPeer size then
        (.refused (.violation (.tokenCacheOverflow size s.peerTokenCacheSize s.usedAtPeer)), s)
      else (.done, { s with usedAtPeer := Word.saturatingAdd s.usedAtPeer size }) := by
  rw [perform, reserveTokens]
  split_ifs <;> rfl

theorem perform_allocate (s : SessionState) :
    s.perform .allocate =
      if s.nextOutgoing < s.maxOutgoing then
        (.allocated (some s.nextOutgoing), { s with nextOutgoing := s.nextOutgoing + 2 })
      else (.allocated none, s) := by
  rw [perform, allocate]
  split_ifs <;> rfl

theorem perform_grant (s : SessionState) (limit : Nat) :
    s.perform (.grant limit) =
      if limit ≤ s.maxIncoming then (.granted none, s)
      else (.granted (some (.maxRequestId limit)), { s with maxIncoming := limit }) := by
  rw [perform, grant]
  split_ifs <;> rfl

/-- What the entry of an operation says of the state after it. -/
structure Booked (s : SessionState) (e : Entry) : Prop where
  taken : (e.taken? = none ∧ e.after.nextOutgoing = s.nextOutgoing) ∨
    (e.taken? = some s.nextOutgoing ∧ e.after.nextOutgoing = s.nextOutgoing + 2)
  accepted : (e.accepted? = none ∧ e.after.nextIncoming = s.nextIncoming) ∨
    (e.accepted? = some s.nextIncoming ∧ e.after.nextIncoming = s.nextIncoming + 2)
  maxOutgoing : e.after.maxOutgoing = e.outgoingLimit?.getD s.maxOutgoing
  maxIncoming : e.after.maxIncoming = e.incomingLimit?.getD s.maxIncoming
  refused : e.IsRefused → e.after = s
  fits : s.Fits → e.after.Fits

/-- All that an operation can do to the counters, with what its entry says of it. -/
theorem booked_enter (h : op.IsBounded) : s.Booked (s.enter op) := by
  cases op with
  | applyLocal params =>
    rw [enter, perform, applyAllLocal_eq s h]
    refine ⟨.inl ⟨rfl, rfl⟩, .inl ⟨rfl, rfl⟩, rfl, rfl, ?_, fun hs => ?_⟩
    · simp [Entry.IsRefused]
    · exact { hs with
        maxIncoming := lastInt?_le h hs.maxIncoming
        localTokenCacheSize := lastInt?_le h hs.localTokenCacheSize }
  | applyPeer params =>
    rw [enter, perform, applyAllPeer_eq s h]
    refine ⟨.inl ⟨rfl, rfl⟩, .inl ⟨rfl, rfl⟩, rfl, rfl, ?_, fun hs => ?_⟩
    · simp [Entry.IsRefused]
    · exact { hs with
        maxOutgoing := lastInt?_le h hs.maxOutgoing
        peerTokenCacheSize := lastInt?_le h hs.peerTokenCacheSize }
  | allocate =>
    rw [enter, perform_allocate]
    split_ifs with hlt
    · refine ⟨.inr ⟨rfl, rfl⟩, .inl ⟨rfl, rfl⟩, rfl, rfl, ?_, fun hs => ?_⟩
      · simp [Entry.IsRefused]
      · have hmax := hs.maxOutgoing
        exact { hs with nextOutgoing := by dsimp only; omega }
    · exact ⟨.inl ⟨rfl, rfl⟩, .inl ⟨rfl, rfl⟩, rfl, rfl, fun _ => rfl, id⟩
  | raiseOutgoing limit =>
    rw [enter, perform_raiseOutgoing]
    split_ifs
    · exact ⟨.inl ⟨rfl, rfl⟩, .inl ⟨rfl, rfl⟩, rfl, rfl, fun _ => rfl, id⟩
    · refine ⟨.inl ⟨rfl, rfl⟩, .inl ⟨rfl, rfl⟩, rfl, rfl, ?_, fun hs => ?_⟩
      · simp [Entry.IsRefused]
      · exact { hs with maxOutgoing := h }
  | acceptIncoming n =>
    rw [enter, perform_acceptIncoming]
    split_ifs with hnext hlimit
    · exact ⟨.inl ⟨rfl, rfl⟩, .inl ⟨rfl, rfl⟩, rfl, rfl, fun _ => rfl, id⟩
    · exact ⟨.inl ⟨rfl, rfl⟩, .inl ⟨rfl, rfl⟩, rfl, rfl, fun _ => rfl, id⟩
    · obtain rfl := not_not.mp hnext
      refine ⟨.inl ⟨rfl, rfl⟩, .inr ⟨rfl, rfl⟩, rfl, rfl, ?_, fun hs => ?_⟩
      · simp [Entry.IsRefused]
      · have hmax := hs.maxIncoming
        exact { hs with nextIncoming := by dsimp only; omega }
  | grant limit =>
    rw [enter, perform_grant]
    split_ifs
    · exact ⟨.inl ⟨rfl, rfl⟩, .inl ⟨rfl, rfl⟩, rfl, rfl, fun _ => rfl, id⟩
    · refine ⟨.inl ⟨rfl, rfl⟩, .inl ⟨rfl, rfl⟩, rfl, rfl, ?_, fun hs => ?_⟩
      · simp [Entry.IsRefused]
      · exact { hs with maxIncoming := h }
  | reserveTokens size =>
    rw [enter, perform_reserveTokens]
    split_ifs with hover
    · exact ⟨.inl ⟨rfl, rfl⟩, .inl ⟨rfl, rfl⟩, rfl, rfl, fun _ => rfl, id⟩
    · refine ⟨.inl ⟨rfl, rfl⟩, .inl ⟨rfl, rfl⟩, rfl, rfl, ?_, fun hs => ?_⟩
      · simp [Entry.IsRefused]
      · exact { hs with usedAtPeer := (Nat.le_of_not_lt hover).trans hs.peerTokenCacheSize }
  | releaseTokens size =>
    refine ⟨.inl ⟨rfl, rfl⟩, .inl ⟨rfl, rfl⟩, rfl, rfl, ?_, fun hs => ?_⟩
    · simp [Entry.IsRefused, enter, perform]
    · exact { hs with usedAtPeer := (Nat.sub_le _ _).trans hs.usedAtPeer }

end Step

/-! ## All operations -/

/-- What the state is after the operations in `history`, on a side that began with the limit `first`
for its peer. -/
structure Kept (role : Role) (first : Nat) (history : List Entry) (s : SessionState) : Prop where
  outgoing : role.Numbers (taken history) s.nextOutgoing
  incoming : role.peer.Numbers (accepted history) s.nextIncoming
  maxOutgoing : s.maxOutgoing = outgoingLimit history
  maxIncoming : s.maxIncoming = incomingLimit first history
  fits : s.Fits

/-- What the entry `e` has to be after the operations in `earlier`. -/
structure Orderly (role : Role) (first : Nat) (earlier : List Entry) (e : Entry) : Prop where
  /-- The limits are those that were set last. -/
  maxOutgoing : e.before.maxOutgoing = outgoingLimit earlier
  maxIncoming : e.before.maxIncoming = incomingLimit first earlier
  allocated : e.operation = .allocate →
    e.answer = .allocated
      (if role.firstRequestId + 2 * (taken earlier).length < e.before.maxOutgoing then
        some (role.firstRequestId + 2 * (taken earlier).length)
      else none)
  raised : ∀ limit, e.operation = .raiseOutgoing limit →
    (e.IsRefused ↔ limit ≤ e.before.maxOutgoing)
  outOfTurn : ∀ n, e.operation = .acceptIncoming n →
    n ≠ role.peer.firstRequestId + 2 * (accepted earlier).length →
      ∃ error, e.answer = .refused error ∧ error.code = .invalidRequestId
  beyondLimit : ∀ n, e.operation = .acceptIncoming n →
    n = role.peer.firstRequestId + 2 * (accepted earlier).length → e.before.maxIncoming ≤ n →
      ∃ error, e.answer = .refused error ∧ error.code = .tooManyRequests
  inTurn : ∀ n, e.operation = .acceptIncoming n →
    n = role.peer.firstRequestId + 2 * (accepted earlier).length → n < e.before.maxIncoming →
      e.answer = .done
  granted : ∀ limit, e.operation = .grant limit →
    e.answer = .granted
      (if e.before.maxIncoming < limit then some (.maxRequestId limit) else none)
  unchanged : e.IsRefused → e.after = e.before
  fits : e.after.Fits

variable {role : Role} {first : Nat}

theorem kept_start {tokens : Nat} (hf : first ≤ Varint.max) (ht : tokens ≤ Varint.max) :
    Kept role first [] (start role first tokens) :=
  ⟨⟨rfl, rfl⟩, ⟨rfl, rfl⟩, rfl, rfl, fits_start role hf ht⟩

/-- The books are right after one more operation. -/
theorem kept_enter {history : List Entry} {s : SessionState} (hk : Kept role first history s)
    {op : Operation} (hop : op.IsBounded) :
    Kept role first (history ++ [s.enter op]) (s.perform op).2 := by
  have hb : s.Booked (s.enter op) := booked_enter hop
  have htaken : taken (history ++ [s.enter op]) =
      taken history ++ (s.enter op).taken?.toList := by
    cases h : (s.enter op).taken? <;> simp [taken, h]
  have haccepted : accepted (history ++ [s.enter op]) =
      accepted history ++ (s.enter op).accepted?.toList := by
    cases h : (s.enter op).accepted? <;> simp [accepted, h]
  constructor
  · rw [htaken]
    exact hk.outgoing.extend hb.taken
  · rw [haccepted]
    exact hk.incoming.extend hb.accepted
  · rw [outgoingLimit, List.foldl_concat, ← outgoingLimit, ← hk.maxOutgoing]
    exact hb.maxOutgoing
  · rw [incomingLimit, List.foldl_concat, ← incomingLimit, ← hk.maxIncoming]
    exact hb.maxIncoming
  · exact hb.fits hk.fits

/-- What an operation comes to, as far as the books tell. -/
theorem orderly_enter {history : List Entry} {s : SessionState} (hk : Kept role first history s)
    {op : Operation} (hop : op.IsBounded) : Orderly role first history (s.enter op) := by
  have hb : s.Booked (s.enter op) := booked_enter hop
  have hout := hk.outgoing.next_eq
  have hin := hk.incoming.next_eq
  refine ⟨hk.maxOutgoing, hk.maxIncoming, ?_, ?_, ?_, ?_, ?_, ?_, hb.refused, hb.fits hk.fits⟩
  · rintro rfl
    rw [← hout, enter, perform_allocate]
    split_ifs <;> rfl
  · rintro limit rfl
    rw [enter, perform_raiseOutgoing]
    split_ifs with hle <;> simp [Entry.IsRefused, hle]
  · rintro n rfl hn
    rw [enter, perform_acceptIncoming, hin, if_pos hn]
    exact ⟨_, rfl, rfl⟩
  · rintro n rfl hn (hle : s.maxIncoming ≤ n)
    rw [← hin] at hn
    rw [enter, perform_acceptIncoming, if_neg (not_not.mpr hn), if_pos hle]
    exact ⟨_, rfl, rfl⟩
  · rintro n rfl hn (hlt : n < s.maxIncoming)
    rw [← hin] at hn
    rw [enter, perform_acceptIncoming, if_neg (not_not.mpr hn), if_neg (Nat.not_le_of_lt hlt)]
  · rintro limit rfl
    rw [enter, perform_grant]
    by_cases hlt : s.maxIncoming < limit
    · simp [hlt, Nat.not_le_of_lt hlt]
    · simp [hlt, Nat.le_of_not_lt hlt]

/-- The books are right after any operations, and each of them comes to what it has to. -/
theorem kept_ledger {history : List Entry} {s : SessionState} (hk : Kept role first history s)
    {ops : List Operation} (hops : ∀ op ∈ ops, op.IsBounded) :
    (∃ s', Kept role first (history ++ s.ledger ops) s') ∧
      ∀ earlier e later, s.ledger ops = earlier ++ e :: later →
        Orderly role first (history ++ earlier) e := by
  induction ops generalizing history s with
  | nil =>
    refine ⟨⟨s, by simpa [SessionState.ledger] using hk⟩, fun earlier e later h => ?_⟩
    simp [SessionState.ledger] at h
  | cons op ops ih =>
    have hop : op.IsBounded := hops op (by simp)
    obtain ⟨hkept, horderly⟩ := ih (kept_enter hk hop) fun op hmem => hops op (by simp [hmem])
    rw [SessionState.ledger]
    refine ⟨by simpa using hkept, fun earlier e later h => ?_⟩
    cases earlier with
    | nil =>
      obtain ⟨rfl, -⟩ := List.cons.inj h
      simpa using orderly_enter hk hop
    | cons e' earlier =>
      obtain ⟨rfl, htail⟩ := List.cons.inj h
      simpa using horderly earlier e later htail

/-- Request ids over a whole run: the ids taken are those of the role, the ids accepted are those of
the peer, each without a gap and below the limit in force, and what is refused changes nothing. -/
theorem ledger_orderly (role : Role) {first tokens : Nat} (hf : first ≤ Varint.max)
    (ht : tokens ≤ Varint.max) {ops : List Operation} (hops : ∀ op ∈ ops, op.IsBounded) :
    taken ((start role first tokens).ledger ops) =
        role.ids (taken ((start role first tokens).ledger ops)).length ∧
      accepted ((start role first tokens).ledger ops) =
        role.peer.ids (accepted ((start role first tokens).ledger ops)).length ∧
      ∀ earlier e later, (start role first tokens).ledger ops = earlier ++ e :: later →
        Orderly role first earlier e := by
  obtain ⟨⟨s', hk⟩, horderly⟩ := kept_ledger (kept_start hf ht) hops
  exact ⟨hk.outgoing.used_eq, hk.incoming.used_eq, horderly⟩

/-- A client whose peer first allows it the ids below 4 and then none. -/
def revoked : List Operation :=
  [.applyPeer [⟨2, .int 4⟩], .allocate, .allocate, .allocate, .acceptIncoming 1, .acceptIncoming 1,
    .acceptIncoming 3, .grant 5, .acceptIncoming 3, .applyPeer [⟨2, .int 0⟩], .allocate,
    .raiseOutgoing 5, .allocate]

theorem ledger_orderly_revoked :
    (3 ≤ Varint.max ∧ 0 ≤ Varint.max ∧ ∀ op ∈ revoked, op.IsBounded) ∧
      taken ((start .client 3 0).ledger revoked) = [0, 2, 4] ∧
      accepted ((start .client 3 0).ledger revoked) = [1, 3] ∧
      ∀ earlier e later, (start .client 3 0).ledger revoked = earlier ++ e :: later →
        Orderly .client 3 earlier e := by
  have hf : 3 ≤ Varint.max := by decide
  have hops : ∀ op ∈ revoked, op.IsBounded := by decide
  have horderly := (ledger_orderly .client hf (Nat.zero_le _) hops).2.2
  exact ⟨⟨hf, Nat.zero_le _, hops⟩, by decide, by decide, horderly⟩

end SessionState

end MediaOverQuic
