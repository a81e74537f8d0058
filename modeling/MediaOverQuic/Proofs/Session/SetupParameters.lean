import Mathlib.Tactic
import MediaOverQuic.Proofs.Model.KeyValuePair
import MediaOverQuic.Session.Handshake

/-!
# What the setup parameters set

A parameter that is named more than once counts as it is named last. Both sides take over what is
sent, each for its own half of the session state; what no parameter names stays as it was.
-/
namespace MediaOverQuic

namespace SetupParameter

/-- The last pair of this parameter. -/
def last? (p : SetupParameter) (params : List KeyValuePair) : Option KeyValuePair :=
  p.find? params.reverse

/-- The integer that the last pair of this parameter has. -/
def lastInt? (p : SetupParameter) (params : List KeyValuePair) : Option Nat :=
  (p.last? params).bind KeyValuePair.int?

/-- The bytes that the last pair of this parameter has. -/
def lastBytes? (p : SetupParameter) (params : List KeyValuePair) : Option Bytes :=
  (p.last? params).bind KeyValuePair.bytes?

/-- The bytes of the last pair of this parameter as text. What is not UTF-8 in them is replaced. -/
def lastText? (p : SetupParameter) (params : List KeyValuePair) : Option String :=
  (p.lastBytes? params).map Utf8.decodeLossy

theorem last?_concat (p : SetupParameter) (params : List KeyValuePair) (q : KeyValuePair) :
    p.last? (params ++ [q]) = if q.typeId = p.id then some q else p.last? params := by
  rw [last?, find?, List.reverse_append, List.reverse_singleton, List.singleton_append,
    List.find?_cons]
  split_ifs with h
  · simp [h]
  · simp [h, last?, find?]

theorem isPresent_eq (p : SetupParameter) (params : List KeyValuePair) :
    p.isPresent params = (p.last? params).isSome := by
  rw [isPresent, last?, find?, find?, Bool.eq_iff_iff, List.find?_isSome, List.find?_isSome]
  simp

theorem last?_eq_none {p : SetupParameter} {params : List KeyValuePair}
    (h : p.isPresent params = false) : p.last? params = none := by
  rw [isPresent_eq] at h
  exact Option.not_isSome_iff_eq_none.mp (by simp [h])

theorem lastInt?_eq_none {p : SetupParameter} {params : List KeyValuePair}
    (h : p.isPresent params = false) : p.lastInt? params = none := by
  rw [lastInt?, last?_eq_none h, Option.bind_none]

theorem lastText?_eq_none {p : SetupParameter} {params : List KeyValuePair}
    (h : p.isPresent params = false) : p.lastText? params = none := by
  rw [lastText?, lastBytes?, last?_eq_none h, Option.bind_none, Option.map_none]

theorem lastText?_concat (p : SetupParameter) (params : List KeyValuePair) (q : KeyValuePair) :
    p.lastText? (params ++ [q]) =
      if q.typeId = p.id then q.bytes?.map Utf8.decodeLossy else p.lastText? params := by
  rw [lastText?, lastBytes?, last?_concat]
  split_ifs <;> rfl

theorem lastInt?_concat (p : SetupParameter) (params : List KeyValuePair) (q : KeyValuePair) :
    p.lastInt? (params ++ [q]) = if q.typeId = p.id then q.int? else p.lastInt? params := by
  rw [lastInt?, last?_concat]
  split_ifs <;> rfl

theorem ne_id {t : Nat} (h : ofId? t = none) (p : SetupParameter) : t ≠ p.id := by
  intro he
  rw [ofId?_eq_some_iff.mpr he] at h
  cases h

end SetupParameter

theorem KeyValuePair.Valid.exists_int {q : KeyValuePair} (hq : q.Valid) (he : q.typeId % 2 = 0) :
    ∃ v, q.int? = some v := by
  obtain ⟨t, v | b⟩ := q
  · exact ⟨v, rfl⟩
  · obtain ⟨-, hodd, -⟩ := (KeyValuePair.valid_bytes_iff t b).mp hq
    exact absurd he (by simp [hodd])

theorem KeyValuePair.Valid.exists_bytes {q : KeyValuePair} (hq : q.Valid)
    (ho : q.typeId % 2 = 1) : ∃ b, q.bytes? = some b := by
  obtain ⟨t, v | b⟩ := q
  · obtain ⟨-, heven, -⟩ := (KeyValuePair.valid_int_iff t v).mp hq
    exact absurd ho (by simp [heven])
  · exact ⟨b, rfl⟩

namespace SessionState

open SetupParameter (lastText?_concat lastInt?_concat ofId?_eq_some_iff)

/-- What comes of the parameters that this end sends. -/
theorem applyAllLocal_eq (s : SessionState) {params : List KeyValuePair}
    (hv : ∀ p ∈ params, p.Valid) :
    s.applyAllLocal params = { s with
      path := (SetupParameter.path.lastText? params).getD s.path
      authority := (SetupParameter.authority.lastText? params).getD s.authority
      maxIncoming := (SetupParameter.maxRequestId.lastInt? params).getD s.maxIncoming
      localTokenCacheSize :=
        (SetupParameter.maxAuthTokenCacheSize.lastInt? params).getD s.localTokenCacheSize } := by
  induction params using List.reverseRecOn with
  | nil => rfl
  | append_singleton params q ih =>
    have hq : q.Valid := hv q (by simp)
    have ih := ih fun p hp => hv p (by simp [hp])
    rw [applyAllLocal] at ih ⊢
    rw [List.foldl_concat, ih, applyLocal]
    cases hid : SetupParameter.ofId? q.typeId with
    | none =>
      simp only [lastText?_concat, lastInt?_concat, if_neg (SetupParameter.ne_id hid _)]
    | some p =>
      have ht := ofId?_eq_some_iff.mp hid
      cases p with
      | path | authority | authToken | implementation =>
        obtain ⟨b, hbytes⟩ := hq.exists_bytes (by rw [ht]; rfl)
        simp [lastText?_concat, lastInt?_concat, ht, hbytes, textOf, SetupParameter.id]
      | maxRequestId | maxAuthTokenCacheSize =>
        obtain ⟨v, hint⟩ := hq.exists_int (by rw [ht]; rfl)
        simp [lastText?_concat, lastInt?_concat, ht, hint, SetupParameter.id]

/-- What comes of the parameters that the peer sent. -/
theorem applyAllPeer_eq (s : SessionState) {params : List KeyValuePair}
    (hv : ∀ p ∈ params, p.Valid) :
    s.applyAllPeer params = { s with
      peerImplementation :=
        (SetupParameter.implementation.lastText? params).getD s.peerImplementation
      path := (SetupParameter.path.lastText? params).getD s.path
      authority := (SetupParameter.authority.lastText? params).getD s.authority
      maxOutgoing := (SetupParameter.maxRequestId.lastInt? params).getD s.maxOutgoing
      peerTokenCacheSize :=
        (SetupParameter.maxAuthTokenCacheSize.lastInt? params).getD s.peerTokenCacheSize } := by
  induction params using List.reverseRecOn with
  | nil => rfl
  | append_singleton params q ih =>
    have hq : q.Valid := hv q (by simp)
    have ih := ih fun p hp => hv p (by simp [hp])
    rw [applyAllPeer] at ih ⊢
    rw [List.foldl_concat, ih, applyPeer]
    cases hid : SetupParameter.ofId? q.typeId with
    | none =>
      simp only [lastText?_concat, lastInt?_concat, if_neg (SetupParameter.ne_id hid _)]
    | some p =>
      have ht := ofId?_eq_some_iff.mp hid
      cases p with
      | path | authority | authToken | implementation =>
        obtain ⟨b, hbytes⟩ := hq.exists_bytes (by rw [ht]; rfl)
        simp [lastText?_concat, lastInt?_concat, ht, hbytes, textOf, SetupParameter.id]
      | maxRequestId | maxAuthTokenCacheSize =>
        obtain ⟨v, hint⟩ := hq.exists_int (by rw [ht]; rfl)
        simp [lastText?_concat, lastInt?_concat, ht, hint, SetupParameter.id]

end SessionState

namespace SetupParameter

/-- A parameter with an integer that is named has one. -/
theorem exists_lastInt? {p : SetupParameter} {params : List KeyValuePair}
    (hv : ∀ q ∈ params, q.Valid) (he : p.id % 2 = 0) (h : p.isPresent params = true) :
    ∃ v, p.lastInt? params = some v := by
  rw [isPresent_eq] at h
  obtain ⟨q, hq⟩ := Option.isSome_iff_exists.mp h
  have hmem : q ∈ params := List.mem_reverse.mp (List.mem_of_find?_eq_some hq)
  have ht : q.typeId = p.id := by simpa using List.find?_some hq
  rw [lastInt?, hq, Option.bind_some]
  exact (hv q hmem).exists_int (by rw [ht, he])

end SetupParameter

namespace Handshake

open SetupParameter

/-- A limit is named unless it is zero. -/
theorem withLimit_eq_ok {p : SetupParameter} {limit : Nat} {params sent : List KeyValuePair}
    (h : withLimit p limit params = .ok sent) :
    ((p.isPresent params = true ∨ limit = 0) ∧ sent = params) ∨
      (p.isPresent params = false ∧ sent = params ++ [⟨p.id, .int limit⟩] ∧
        KeyValuePair.Valid ⟨p.id, .int limit⟩) := by
  unfold withLimit at h
  split_ifs at h with hadd
  · obtain ⟨hp, -⟩ := hadd
    cases hmake : p.pair (.int limit) with
    | error e =>
      rw [hmake] at h
      cases h
    | ok pair =>
      rw [hmake] at h
      obtain rfl := Except.ok.inj h
      obtain ⟨hle, rfl⟩ := KeyValuePair.make_int_eq_ok_iff.mp hmake
      exact .inr ⟨by simpa using hp, rfl, (KeyValuePair.valid_int_iff _ _).mpr hle⟩
  · obtain rfl := Except.ok.inj h
    refine .inl ⟨?_, rfl⟩
    rw [not_and_or, Nat.not_lt, Nat.le_zero] at hadd
    simpa using hadd

/-- What is sent says of the limit what holds for the side that sets it. -/
theorem lastInt?_withLimit {p : SetupParameter} {limit : Nat} {params sent : List KeyValuePair}
    (h : withLimit p limit params = .ok sent) (hv : ∀ q ∈ params, q.Valid) (he : p.id % 2 = 0)
    {default : Nat} (hd : default = 0 ∨ default = limit) :
    (p.lastInt? sent).getD default = (p.lastInt? params).getD limit := by
  rcases withLimit_eq_ok h with ⟨hp, rfl⟩ | ⟨hp, rfl, -⟩
  · rcases hp with hp | rfl
    · obtain ⟨v, hint⟩ := exists_lastInt? hv he hp
      rw [hint, Option.getD_some, Option.getD_some]
    · rw [or_self] at hd
      rw [hd]
  · rw [lastInt?_concat, if_pos rfl, lastInt?_eq_none hp]
    rfl

theorem last?_withLimit {p q : SetupParameter} {limit : Nat} {params sent : List KeyValuePair}
    (h : withLimit p limit params = .ok sent) (hne : p ≠ q) : q.last? sent = q.last? params := by
  rcases withLimit_eq_ok h with ⟨-, rfl⟩ | ⟨-, rfl, -⟩
  · rfl
  · rw [last?_concat, if_neg]
    intro hid
    exact hne (by cases p <;> cases q <;> first | rfl | cases hid)

theorem valid_withLimit {p : SetupParameter} {limit : Nat} {params sent : List KeyValuePair}
    (h : withLimit p limit params = .ok sent) (hv : ∀ q ∈ params, q.Valid) :
    ∀ q ∈ sent, q.Valid := by
  rcases withLimit_eq_ok h with ⟨-, rfl⟩ | ⟨-, rfl, hpair⟩
  · exact hv
  · intro q hq
    rw [List.mem_append, List.mem_singleton] at hq
    rcases hq with hq | rfl
    · exact hv q hq
    · exact hpair

/-- How the parameters `sent` of a side come from the configuration and those that were `given`. -/
structure Sends (role : Role) (config : Config) (given sent : List KeyValuePair) : Prop where
  valid : ∀ p ∈ sent, p.Valid
  text : ∀ p : SetupParameter, p ≠ .maxRequestId → p ≠ .maxAuthTokenCacheSize →
    p.lastText? sent = p.lastText? given
  requestLimit : ∀ {d}, d = 0 ∨ d = config.maxIncomingRequestId →
    (maxRequestId.lastInt? sent).getD d =
      (maxRequestId.lastInt? given).getD config.maxIncomingRequestId
  cacheSize : ∀ {d}, d = 0 ∨ d = config.localTokenCacheSize →
    (maxAuthTokenCacheSize.lastInt? sent).getD d =
      (maxAuthTokenCacheSize.lastInt? given).getD config.localTokenCacheSize
  /-- A server does not say where the client wants to go. -/
  noDestination : role = .server → path.lastText? sent = none ∧ authority.lastText? sent = none

theorem withLimits_eq_ok {config : Config} {given sent : List KeyValuePair} :
    withLimits config given = .ok sent ↔
      ∃ named, withLimit maxRequestId config.maxIncomingRequestId given = .ok named ∧
        withLimit maxAuthTokenCacheSize config.localTokenCacheSize named = .ok sent := by
  have hlimits : withLimits config given =
      withLimit maxRequestId config.maxIncomingRequestId given >>=
        withLimit maxAuthTokenCacheSize config.localTokenCacheSize := rfl
  rw [hlimits]
  cases withLimit maxRequestId config.maxIncomingRequestId given <;> simp [bind, Except.bind]

/-- What is sent has passed all checks, and is then given the limits. -/
theorem outgoing_eq_ok_iff_checks {role : Role} {config : Config} {overlay : Bool}
    {given sent : List KeyValuePair} : outgoing role config overlay given = .ok sent ↔
      checkOverlay overlay given = .ok () ∧ checkDirection role given = .ok () ∧
        withLimits config given = .ok sent := by
  unfold outgoing
  constructor
  · intro h
    cases hoverlay : checkOverlay overlay given with
    | error e =>
      rw [hoverlay] at h
      cases h
    | ok =>
      cases hdirection : checkDirection role given with
      | error e =>
        rw [hoverlay, hdirection] at h
        cases h
      | ok =>
        cases hlimits : withLimits config given with
        | error e =>
          rw [hoverlay, hdirection, hlimits] at h
          cases h
        | ok named =>
          rw [hoverlay, hdirection, hlimits] at h
          obtain rfl := Except.ok.inj h
          exact ⟨rfl, rfl, rfl⟩
  · rintro ⟨hoverlay, hdirection, hlimits⟩
    rw [hoverlay, hdirection, hlimits]
    rfl

/-- Parameters that may be sent name no destination where they must not. -/
theorem outgoing_eq_ok {role : Role} {config : Config} {overlay : Bool}
    {given sent : List KeyValuePair} (h : outgoing role config overlay given = .ok sent) :
    (role = .server → namesDestination given = false) ∧
      ∃ named, withLimit maxRequestId config.maxIncomingRequestId given = .ok named ∧
        withLimit maxAuthTokenCacheSize config.localTokenCacheSize named = .ok sent := by
  obtain ⟨-, hdirection, hlimits⟩ := outgoing_eq_ok_iff_checks.mp h
  refine ⟨fun hserver => ?_, withLimits_eq_ok.mp hlimits⟩
  unfold checkDirection at hdirection
  split_ifs at hdirection with hnames
  simpa [hserver] using hnames

theorem sends_of_outgoing {role : Role} {config : Config} {overlay : Bool}
    {given sent : List KeyValuePair} (h : outgoing role config overlay given = .ok sent)
    (hv : ∀ p ∈ given, p.Valid) : Sends role config given sent := by
  obtain ⟨hdest, named, hn, hs⟩ := outgoing_eq_ok h
  have hvn := valid_withLimit hn hv
  refine ⟨valid_withLimit hs hvn, ?_, ?_, ?_, ?_⟩
  · intro p hp hp'
    rw [lastText?, lastText?, lastBytes?, lastBytes?, last?_withLimit hs (Ne.symm hp'),
      last?_withLimit hn (Ne.symm hp)]
  · intro d hd
    rw [← lastInt?_withLimit hn hv rfl hd, lastInt?, lastInt?, last?_withLimit hs (by decide)]
  · intro d hd
    rw [lastInt?_withLimit hs hvn rfl hd, lastInt?, lastInt?, last?_withLimit hn (by decide)]
  · intro hr
    have hnone := hdest hr
    rw [namesDestination, Bool.or_eq_false_iff] at hnone
    rw [lastText?, lastText?, lastBytes?, lastBytes?, last?_withLimit hs (by decide),
      last?_withLimit hn (by decide), last?_withLimit hs (by decide),
      last?_withLimit hn (by decide)]
    exact ⟨lastText?_eq_none hnone.1, lastText?_eq_none hnone.2⟩

end Handshake

end MediaOverQuic
