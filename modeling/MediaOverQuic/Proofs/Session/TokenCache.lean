import Mathlib.Tactic
import MediaOverQuic.Proofs.Session.Ledger

/-!
# The account of the peer's token cache

A side may ask its peer to keep tokens up to the size that the peer's setup told, and to drop them
again. Additions stop at the end of a word and subtractions at zero. A size that can be sent is so
far from the end of a word that this makes no difference to what is granted, and as long as no more
is released than there is, what is in use is what was reserved less what was released.
-/
namespace MediaOverQuic.SessionState

/-! ## Running totals -/

/-- The state after operations that are performed one after another. -/
def performAll (s : SessionState) (ops : List Operation) : SessionState :=
  ops.foldl (fun s op => (s.perform op).2) s

theorem performAll_append (s : SessionState) (ops ops' : List Operation) :
    s.performAll (ops ++ ops') = (s.performAll ops).performAll ops' :=
  List.foldl_append

theorem ledger_append (s : SessionState) (ops ops' : List Operation) :
    s.ledger (ops ++ ops') = s.ledger ops ++ (s.performAll ops).ledger ops' := by
  induction ops generalizing s with
  | nil => rfl
  | cons op ops ih => simp only [List.cons_append, ledger, performAll, List.foldl_cons, ih]

/-- The size of a reservation that was granted. -/
def Entry.reserved (e : Entry) : Nat :=
  match e.operation, e.answer with
  | .reserveTokens size, .done => size
  | _, _ => 0

/-- The size that was released. -/
def Entry.released (e : Entry) : Nat :=
  match e.operation with
  | .releaseTokens size => size
  | _ => 0

/-- What was reserved in all. -/
def reserved (history : List Entry) : Nat := (history.map Entry.reserved).sum

/-- What was released in all. -/
def released (history : List Entry) : Nat := (history.map Entry.released).sum

theorem reserved_append (history history' : List Entry) :
    reserved (history ++ history') = reserved history + reserved history' := by
  simp [reserved]

theorem released_append (history history' : List Entry) :
    released (history ++ history') = released history + released history' := by
  simp [released]

/-- At no point more was released than had been reserved. -/
def Covered (history : List Entry) : Prop :=
  ∀ front, front <+: history → released front ≤ reserved front

theorem Covered.of_append {history history' : List Entry} (h : Covered (history ++ history')) :
    Covered history :=
  fun front hfront => h front (hfront.trans (List.prefix_append _ _))

theorem Covered.le {history : List Entry} (h : Covered history) :
    released history ≤ reserved history :=
  h history List.prefix_rfl

/-! ## One operation -/

/-- The account of a peer's token cache of size `limit`, which is a size that can be sent. -/
structure TokensWithin (limit : Nat) (s : SessionState) : Prop where
  size : s.peerTokenCacheSize = limit
  sendable : limit ≤ Varint.max
  used : s.usedAtPeer ≤ limit

variable {limit : Nat} {s : SessionState}

/-- Below a size that can be sent, an addition that stops at the end of a word is exact. -/
theorem saturatingAdd_le_iff (h : limit ≤ Varint.max) (used size : Nat) :
    Word.saturatingAdd used size ≤ limit ↔ used + size ≤ limit := by
  have hword : Varint.max < Word.max := by decide
  rw [Word.saturatingAdd, min_le_iff]
  omega

theorem saturatingAdd_of_le (h : limit ≤ Varint.max) {used size : Nat}
    (hle : used + size ≤ limit) : Word.saturatingAdd used size = used + size := by
  have hword : Varint.max < Word.max := by decide
  exact min_eq_left (by omega)

/-- A reservation is granted exactly if there is room for it, and changes nothing if there is
not. -/
theorem TokensWithin.perform_reserve (h : s.TokensWithin limit) (size : Nat) :
    s.perform (.reserveTokens size) =
      if s.usedAtPeer + size ≤ limit then
        (.done, { s with usedAtPeer := s.usedAtPeer + size })
      else (.refused (.violation (.tokenCacheOverflow size limit s.usedAtPeer)), s) := by
  rw [perform_reserveTokens, h.size]
  have hiff := saturatingAdd_le_iff h.sendable s.usedAtPeer size
  by_cases hle : s.usedAtPeer + size ≤ limit
  · rw [if_pos hle, if_neg (not_lt.mpr (hiff.mpr hle)), saturatingAdd_of_le h.sendable hle]
  · rw [if_neg hle, if_pos (not_le.mp (mt hiff.mp hle))]

/-- What this side tells of itself does not concern the peer's token cache. -/
theorem tokens_applyAllLocal (s : SessionState) (params : List KeyValuePair) :
    (s.applyAllLocal params).peerTokenCacheSize = s.peerTokenCacheSize ∧
      (s.applyAllLocal params).usedAtPeer = s.usedAtPeer := by
  induction params generalizing s with
  | nil => exact ⟨rfl, rfl⟩
  | cons p params ih =>
    have hp : (s.applyLocal p).peerTokenCacheSize = s.peerTokenCacheSize ∧
        (s.applyLocal p).usedAtPeer = s.usedAtPeer := by
      unfold applyLocal
      split <;> exact ⟨rfl, rfl⟩
    obtain ⟨hsize, hused⟩ := ih (s.applyLocal p)
    exact ⟨hsize.trans hp.1, hused.trans hp.2⟩

/-- Nothing but the peer's setup changes the size, and the account goes by what was reserved and
released. -/
theorem TokensWithin.perform (h : s.TokensWithin limit) {op : Operation}
    (hop : ∀ params, op ≠ .applyPeer params) :
    (s.perform op).2.TokensWithin limit ∧
      (s.perform op).2.usedAtPeer =
        s.usedAtPeer + (s.enter op).reserved - (s.enter op).released := by
  cases op with
  | applyPeer params => exact absurd rfl (hop params)
  | applyLocal params =>
    obtain ⟨hsize, hused⟩ := s.tokens_applyAllLocal params
    exact ⟨⟨hsize.trans h.size, h.sendable, hused.trans_le h.used⟩, hused⟩
  | allocate =>
    rw [enter, perform_allocate]
    split_ifs <;> exact ⟨⟨h.size, h.sendable, h.used⟩, rfl⟩
  | raiseOutgoing =>
    rw [enter, perform_raiseOutgoing]
    split_ifs <;> exact ⟨⟨h.size, h.sendable, h.used⟩, rfl⟩
  | acceptIncoming =>
    rw [enter, perform_acceptIncoming]
    split_ifs <;> exact ⟨⟨h.size, h.sendable, h.used⟩, rfl⟩
  | grant =>
    rw [enter, perform_grant]
    split_ifs <;> exact ⟨⟨h.size, h.sendable, h.used⟩, rfl⟩
  | reserveTokens size =>
    rw [enter, h.perform_reserve]
    split_ifs with hle
    · exact ⟨⟨h.size, h.sendable, hle⟩, rfl⟩
    · exact ⟨h, rfl⟩
  | releaseTokens size =>
    exact ⟨⟨h.size, h.sendable, (Nat.sub_le _ _).trans h.used⟩, rfl⟩

/-! ## All operations -/

theorem TokensWithin.performAll (h : s.TokensWithin limit) {ops : List Operation}
    (hops : ∀ params, .applyPeer params ∉ ops) : (s.performAll ops).TokensWithin limit := by
  induction ops generalizing s with
  | nil => exact h
  | cons op ops ih =>
    have hop : ∀ params, op ≠ .applyPeer params := by
      rintro params rfl
      exact hops params List.mem_cons_self
    exact ih (h.perform hop).1 fun params hmem => hops params (List.mem_cons_of_mem op hmem)

/-- As long as no more is released than there is, subtraction is exact too. -/
theorem TokensWithin.balance (h : s.TokensWithin limit) {ops : List Operation}
    (hops : ∀ params, .applyPeer params ∉ ops) (hcovered : Covered (s.ledger ops)) :
    (s.performAll ops).usedAtPeer + released (s.ledger ops) =
      s.usedAtPeer + reserved (s.ledger ops) := by
  induction ops using List.reverseRecOn with
  | nil => rfl
  | append_singleton ops op ih =>
    have hbefore : ∀ params, .applyPeer params ∉ ops :=
      fun params hmem => hops params (List.mem_append_left _ hmem)
    have hop : ∀ params, op ≠ .applyPeer params := by
      rintro params rfl
      exact hops params (by simp)
    rw [ledger_append] at hcovered ⊢
    have hbalance := ih hbefore hcovered.of_append
    have hle := hcovered.le
    obtain ⟨-, hused⟩ := (h.performAll hbefore).perform hop
    have hlast : (s.performAll ops).ledger [op] = [(s.performAll ops).enter op] := rfl
    rw [hlast, reserved_append, released_append] at hle ⊢
    have hafter : (s.performAll (ops ++ [op])).usedAtPeer =
        ((s.performAll ops).perform op).2.usedAtPeer := by
      rw [performAll_append]
      rfl
    rw [hafter, hused]
    simp only [reserved, released, List.map_singleton, List.sum_singleton] at hle hbalance ⊢
    omega

/-- A session before any tokens, whose peer's setup may have come. -/
def greeted (role : Role) (maxIncoming tokens : Nat) :
    Option (List KeyValuePair) → SessionState
  | none => start role maxIncoming tokens
  | some params => (start role maxIncoming tokens).applyAllPeer params

/-- The size of its token cache that the peer's setup told, if it came and told one. -/
def advertisedTokens (setup? : Option (List KeyValuePair)) : Nat :=
  (setup?.bind SetupParameter.maxAuthTokenCacheSize.lastInt?).getD 0

theorem tokensWithin_greeted (role : Role) (maxIncoming tokens : Nat)
    {setup? : Option (List KeyValuePair)} (hv : ∀ params ∈ setup?, ∀ p ∈ params, p.Valid) :
    (greeted role maxIncoming tokens setup?).TokensWithin (advertisedTokens setup?) ∧
      (greeted role maxIncoming tokens setup?).usedAtPeer = 0 := by
  cases setup? with
  | none => exact ⟨⟨rfl, Nat.zero_le _, le_rfl⟩, rfl⟩
  | some params =>
    have hparams : ∀ p ∈ params, p.Valid := hv params rfl
    rw [greeted, applyAllPeer_eq _ hparams]
    exact ⟨⟨rfl, lastInt?_le hparams (Nat.zero_le _), Nat.zero_le _⟩, rfl⟩

/-- What there is to say of the account of a token cache of size `limit` when the operations in
`history` have led to `s`. -/
structure TokensAccounted (limit : Nat) (s : SessionState) (history : List Entry) : Prop where
  size : s.peerTokenCacheSize = limit
  within : s.usedAtPeer ≤ limit
  granted : ∀ size, s.usedAtPeer + size ≤ limit →
    s.perform (.reserveTokens size) = (.done, { s with usedAtPeer := s.usedAtPeer + size })
  refused : ∀ size, limit < s.usedAtPeer + size →
    ∃ e, e.code = .authTokenCacheOverflow ∧ s.perform (.reserveTokens size) = (.refused e, s)
  balance : Covered history →
    released history ≤ reserved history ∧ s.usedAtPeer = reserved history - released history
  /-- What is released at once leaves no trace. -/
  undone : ∀ size s', s.perform (.reserveTokens size) = (.done, s') → s'.releaseTokens size = s
  /-- Whatever else is reserved and released, there is as much room as before once all of it is. -/
  restored : ∀ later, (∀ params, .applyPeer params ∉ later) → Covered (history ++ s.ledger later) →
    reserved (s.ledger later) = released (s.ledger later) →
      (s.performAll later).usedAtPeer = s.usedAtPeer

/-- The account of the peer's token cache is exact, whatever is reserved and released and whatever
else is done in between, except that the peer's setup comes only once and before. -/
theorem tokens_accounted (role : Role) (maxIncoming tokens : Nat)
    {setup? : Option (List KeyValuePair)} (hv : ∀ params ∈ setup?, ∀ p ∈ params, p.Valid)
    {ops : List Operation} (hops : ∀ params, .applyPeer params ∉ ops) :
    TokensAccounted (advertisedTokens setup?)
      ((greeted role maxIncoming tokens setup?).performAll ops)
      ((greeted role maxIncoming tokens setup?).ledger ops) := by
  obtain ⟨hstart, hnone⟩ := tokensWithin_greeted role maxIncoming tokens hv
  generalize greeted role maxIncoming tokens setup? = first at hstart hnone ⊢
  generalize advertisedTokens setup? = limit at hstart ⊢
  have hs : (first.performAll ops).TokensWithin limit := hstart.performAll hops
  have hbalance (hcovered : Covered (first.ledger ops)) :
      (first.performAll ops).usedAtPeer + released (first.ledger ops) =
        reserved (first.ledger ops) := by
    rw [hstart.balance hops hcovered, hnone, Nat.zero_add]
  refine ⟨hs.size, hs.used, ?_, ?_, ?_, ?_, ?_⟩
  · intro size hle
    rw [hs.perform_reserve, if_pos hle]
  · intro size hlt
    rw [hs.perform_reserve, if_neg (not_le.mpr hlt)]
    exact ⟨_, rfl, rfl⟩
  · intro hcovered
    have h := hbalance hcovered
    exact ⟨hcovered.le, by omega⟩
  · intro size s' hdone
    rw [hs.perform_reserve] at hdone
    split_ifs at hdone
    · obtain ⟨-, rfl⟩ := Prod.mk.inj hdone
      rw [releaseTokens, Nat.add_sub_cancel]
    · cases hdone
  · intro later hlater hcovered hsame
    have hall : ∀ params, .applyPeer params ∉ ops ++ later := fun params hmem =>
      (List.mem_append.mp hmem).elim (hops params) (hlater params)
    have hbefore := hbalance hcovered.of_append
    rw [← ledger_append] at hcovered
    have hafter := hstart.balance hall hcovered
    rw [ledger_append, reserved_append, released_append, performAll_append] at hafter
    omega

/-- A cache of 100 bytes that is filled up, after reservations that are too large, one of them so
large that the sum would not fit into a word, and of which a part is given back and used again. -/
def reservations : List Operation :=
  [.reserveTokens 60, .reserveTokens 41, .reserveTokens Word.max, .reserveTokens 40,
    .releaseTokens 50, .reserveTokens 50]

theorem tokens_accounted_full :
    let setup : List KeyValuePair := [⟨SetupParameter.maxAuthTokenCacheSize.id, .int 100⟩]
    let first := greeted .client 1000 0 (some setup)
    (∀ p ∈ setup, p.Valid) ∧ (∀ params, .applyPeer params ∉ reservations) ∧
      advertisedTokens (some setup) = 100 ∧
      (first.ledger reservations).map Entry.reserved = [60, 0, 0, 40, 0, 50] ∧
      (first.performAll reservations).usedAtPeer = 100 ∧
      TokensAccounted (advertisedTokens (some setup)) (first.performAll reservations)
        (first.ledger reservations) := by
  intro setup first
  have hv : ∀ p ∈ setup, p.Valid := by decide
  have hops : ∀ params, .applyPeer params ∉ reservations := by simp [reservations]
  refine ⟨hv, hops, by decide, by decide, by decide, ?_⟩
  exact tokens_accounted .client 1000 0 (by simpa using hv) hops

end MediaOverQuic.SessionState
