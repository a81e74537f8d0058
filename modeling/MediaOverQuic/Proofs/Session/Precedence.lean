import Mathlib.Tactic
import MediaOverQuic.Proofs.Session.SetupParameters

/-!
# Which of the setup parameters count

A side takes over the pairs that it is given one after the other. It listens to some parameters
only, and of each of these the last pair counts. So what a list does to a session is settled by a
few of its pairs: all the others may be dropped, and the order of pairs of different types makes no
difference.
-/
namespace MediaOverQuic

/-! ## The last pair of each parameter -/

namespace SetupParameter

variable (p : SetupParameter) {params params' : List KeyValuePair}

theorem last?_eq_getLast? (params : List KeyValuePair) :
    p.last? params = (params.filter (·.typeId = p.id)).getLast? :=
  List.getLast?_filter.symm

theorem last?_append (params params' : List KeyValuePair) :
    p.last? (params ++ params') = (p.last? params').or (p.last? params) := by
  rw [last?, find?, List.reverse_append, List.find?_append]
  rfl

theorem isSome_last?_iff : (p.last? params).isSome ↔ ∃ q ∈ params, q.typeId = p.id := by
  rw [last?, find?, List.find?_isSome]
  simp

/-- The pairs of the parameters that are listened to. -/
def restrict (heard : List SetupParameter) (params : List KeyValuePair) : List KeyValuePair :=
  params.filter fun q => (ofId? q.typeId).any (· ∈ heard)

variable {p} {heard : List SetupParameter}

theorem last?_restrict (hp : p ∈ heard) (params : List KeyValuePair) :
    p.last? (restrict heard params) = p.last? params := by
  rw [last?_eq_getLast?, last?_eq_getLast?, restrict, List.filter_filter]
  congr 1
  refine List.filter_congr fun q _ => ?_
  by_cases hq : q.typeId = p.id
  · simp [ofId?_eq_some_iff.mpr hq, hp]
  · simp [hq]

/-- A pair counts for nothing when one of its type comes later. -/
theorem last?_overridden {q : KeyValuePair} {back : List KeyValuePair}
    (hlater : ∃ later ∈ back, later.typeId = q.typeId) (front : List KeyValuePair) :
    p.last? (front ++ q :: back) = p.last? (front ++ back) := by
  rw [List.append_cons, last?_append, last?_append p front back, last?_concat]
  split_ifs with hq
  · rw [hq] at hlater
    have hback := (isSome_last?_iff p).mpr hlater
    rw [Option.or_of_isSome hback, Option.or_of_isSome hback]
  · rfl

end SetupParameter

namespace KeyValuePair

/-- Neighbours of different types leave the pairs of each type in order when they are swapped. -/
theorem filter_swap {p q : KeyValuePair} (hne : p.typeId ≠ q.typeId)
    (front back : List KeyValuePair) (t : Nat) :
    (front ++ p :: q :: back).filter (·.typeId = t) =
      (front ++ q :: p :: back).filter (·.typeId = t) := by
  rw [List.filter_append, List.filter_append]
  congr 1
  by_cases hp : p.typeId = t
  · have hq : q.typeId ≠ t := fun hq => hne (hp.trans hq.symm)
    simp [hp, hq]
  · simp [List.filter_cons, hp]

end KeyValuePair

/-! ## Taking over a list of parameters -/

namespace SessionState

/-- Whether a side that takes over parameters listens to those that are `heard`, and of each to the
last pair. -/
structure LastWins (heard : List SetupParameter)
    (apply : SessionState → List KeyValuePair → SessionState) : Prop where
  /-- Two lists may come one after the other. -/
  append : ∀ s params params', apply s (params ++ params') = apply (apply s params) params'
  /-- Nothing counts but the last pair of each. -/
  last : ∀ s {params params'}, (∀ q ∈ params, q.Valid) → (∀ q ∈ params', q.Valid) →
    (∀ p ∈ heard, p.last? params = p.last? params') → apply s params = apply s params'
  /-- Pairs of all other types make no difference, wherever they stand. -/
  unheard : ∀ s {params}, (∀ q ∈ params, q.Valid) →
    apply s (SetupParameter.restrict heard params) = apply s params
  /-- A pair makes no difference when one of its type comes later. -/
  overridden : ∀ s {front q back}, (∀ x ∈ front ++ q :: back, x.Valid) →
    (∃ later ∈ back, later.typeId = q.typeId) → apply s (front ++ q :: back) = apply s (front ++ back)
  /-- Neighbours of different types may be swapped. -/
  swap : ∀ s {front p q back}, (∀ x ∈ front ++ p :: q :: back, x.Valid) → p.typeId ≠ q.typeId →
    apply s (front ++ q :: p :: back) = apply s (front ++ p :: q :: back)
  /-- Pairs may be in any order, as long as those of one type stay in theirs. -/
  reorder : ∀ s {params params'}, (∀ q ∈ params, q.Valid) →
    (∀ t, params.filter (·.typeId = t) = params'.filter (·.typeId = t)) →
      apply s params' = apply s params

variable {heard : List SetupParameter} {apply : SessionState → List KeyValuePair → SessionState}

theorem lastWins_of_last
    (append : ∀ s params params', apply s (params ++ params') = apply (apply s params) params')
    (last : ∀ s {params params'}, (∀ q ∈ params, q.Valid) → (∀ q ∈ params', q.Valid) →
      (∀ p ∈ heard, p.last? params = p.last? params') → apply s params = apply s params') :
    LastWins heard apply := by
  have reorder (s : SessionState) {params params' : List KeyValuePair}
      (hv : ∀ q ∈ params, q.Valid)
      (h : ∀ t, params.filter (·.typeId = t) = params'.filter (·.typeId = t)) :
      apply s params' = apply s params := by
    refine last s (fun q hq => hv q ?_) hv fun p _ => ?_
    · have hmem : q ∈ params'.filter (·.typeId = q.typeId) := List.mem_filter.mpr ⟨hq, by simp⟩
      rw [← h] at hmem
      exact List.mem_of_mem_filter hmem
    · rw [p.last?_eq_getLast?, p.last?_eq_getLast?, h]
  refine ⟨append, last, ?_, ?_, ?_, reorder⟩
  · intro s params hv
    exact last s (fun q hq => hv q (List.mem_of_mem_filter hq)) hv
      fun p hp => SetupParameter.last?_restrict hp params
  · intro s front q back hv hlater
    refine last s hv (fun x hx => hv x ?_) fun p _ => SetupParameter.last?_overridden hlater front
    exact List.mem_append.mpr ((List.mem_append.mp hx).imp_right (List.mem_cons_of_mem q))
  · intro s front p q back hv hne
    exact reorder s hv (KeyValuePair.filter_swap hne front back)

theorem lastWins_applyAllPeer :
    LastWins [.implementation, .path, .authority, .maxRequestId, .maxAuthTokenCacheSize]
      applyAllPeer := by
  refine lastWins_of_last (fun s _ _ => List.foldl_append) fun s params params' hv hv' h => ?_
  simp only [List.forall_mem_cons] at h
  obtain ⟨himplementation, hpath, hauthority, hlimit, hsize, -⟩ := h
  rw [applyAllPeer_eq s hv, applyAllPeer_eq s hv']
  simp only [SetupParameter.lastText?, SetupParameter.lastBytes?, SetupParameter.lastInt?,
    himplementation, hpath, hauthority, hlimit, hsize]

theorem lastWins_applyAllLocal :
    LastWins [.path, .authority, .maxRequestId, .maxAuthTokenCacheSize] applyAllLocal := by
  refine lastWins_of_last (fun s _ _ => List.foldl_append) fun s params params' hv hv' h => ?_
  simp only [List.forall_mem_cons] at h
  obtain ⟨hpath, hauthority, hlimit, hsize, -⟩ := h
  rw [applyAllLocal_eq s hv, applyAllLocal_eq s hv']
  simp only [SetupParameter.lastText?, SetupParameter.lastBytes?, SetupParameter.lastInt?,
    hpath, hauthority, hlimit, hsize]

/-- Of the parameters that the peer sent and of those that this end sends, the last pair counts of
each that the side listens to. It sets one field. Fields for which there is no pair keep their
value, and so do those of the other side, the ids of the next requests and what is used of the
peer's token cache. -/
theorem setup_last_wins :
    LastWins [.implementation, .path, .authority, .maxRequestId, .maxAuthTokenCacheSize]
      applyAllPeer ∧
    LastWins [.path, .authority, .maxRequestId, .maxAuthTokenCacheSize] applyAllLocal ∧
    ∀ (s : SessionState) {params : List KeyValuePair}, (∀ p ∈ params, p.Valid) →
      s.applyAllPeer params = { s with
        peerImplementation :=
          (SetupParameter.implementation.lastText? params).getD s.peerImplementation
        path := (SetupParameter.path.lastText? params).getD s.path
        authority := (SetupParameter.authority.lastText? params).getD s.authority
        maxOutgoing := (SetupParameter.maxRequestId.lastInt? params).getD s.maxOutgoing
        peerTokenCacheSize :=
          (SetupParameter.maxAuthTokenCacheSize.lastInt? params).getD s.peerTokenCacheSize } ∧
      s.applyAllLocal params = { s with
        path := (SetupParameter.path.lastText? params).getD s.path
        authority := (SetupParameter.authority.lastText? params).getD s.authority
        maxIncoming := (SetupParameter.maxRequestId.lastInt? params).getD s.maxIncoming
        localTokenCacheSize :=
          (SetupParameter.maxAuthTokenCacheSize.lastInt? params).getD s.localTokenCacheSize } :=
  ⟨lastWins_applyAllPeer, lastWins_applyAllLocal,
    fun s _ hv => ⟨applyAllPeer_eq s hv, applyAllLocal_eq s hv⟩⟩

/-- A limit that is raised in the same setup, among a token and a pair of an unknown type. -/
theorem setup_last_wins_repeated :
    let limit (n : Nat) : KeyValuePair := ⟨SetupParameter.maxRequestId.id, .int n⟩
    let token : KeyValuePair := ⟨SetupParameter.authToken.id, .bytes [0x03]⟩
    let unknown : KeyValuePair := ⟨0x40, .int 9⟩
    let s := start .server 100 512
    (∀ p ∈ [limit 5, unknown, limit 7, token], p.Valid) ∧
      s.applyAllPeer [limit 5, unknown, limit 7, token] = s.applyAllPeer [unknown, token, limit 7] ∧
      s.applyAllPeer [limit 5, unknown, limit 7, token] = { s with maxOutgoing := 7 } ∧
      s.applyAllLocal [limit 5, unknown, limit 7, token] = { s with maxIncoming := 7 } := by
  intro limit token unknown s
  have hv : ∀ p ∈ [limit 5, unknown, limit 7, token], p.Valid := by decide
  obtain ⟨hpeer, -, hfields⟩ := setup_last_wins
  refine ⟨hv, hpeer.last s hv (by decide) (by decide), ?_, ?_⟩
  · rw [(hfields s hv).1]
    rfl
  · rw [(hfields s hv).2]
    rfl

end SessionState

end MediaOverQuic
