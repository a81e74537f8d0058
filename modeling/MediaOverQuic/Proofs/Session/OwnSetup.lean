import Mathlib.Tactic
import MediaOverQuic.Proofs.Session.PeerSetup
import MediaOverQuic.Proofs.Session.SetupParameters

/-!
# What a side sends as its setup message

A side adds the limits of its configuration to the parameters that it is given. It is refused when
these name where the client wants to go and must not, or when a limit is too large to be written.
What is added names no destination, so what is sent names none either where it must not.
-/
namespace MediaOverQuic.Handshake

variable {role : Role} {config : Config} {overlay : Bool} {p : SetupParameter} {limit : Nat}
  {given sent : List KeyValuePair}

/-- What is added for a limit: a pair, unless the limit is zero or is named already. -/
def addition (p : SetupParameter) (limit : Nat) (given : List KeyValuePair) : List KeyValuePair :=
  if !p.isPresent given ∧ 0 < limit then [⟨p.id, .int limit⟩] else []

/-- The parameters that are given, and the limits of the configuration. -/
def augmented (config : Config) (given : List KeyValuePair) : List KeyValuePair :=
  given ++ addition .maxRequestId config.maxIncomingRequestId given ++
    addition .maxAuthTokenCacheSize config.localTokenCacheSize given

/-- Whether the limits that are added can be written. -/
structure LimitsFit (config : Config) (given : List KeyValuePair) : Prop where
  requests : SetupParameter.maxRequestId.isPresent given = false →
    config.maxIncomingRequestId ≤ Varint.max
  tokens : SetupParameter.maxAuthTokenCacheSize.isPresent given = false →
    config.localTokenCacheSize ≤ Varint.max

/-- Whether a side must not say where the client wants to go. -/
def silent (role : Role) (overlay : Bool) : Bool := role = .server || overlay

theorem withLimit_eq_ok_iff (he : p.id % 2 = 0) : withLimit p limit given = .ok sent ↔
    (p.isPresent given = false → limit ≤ Varint.max) ∧ sent = given ++ addition p limit given := by
  have hid : p.id ≤ Varint.max := by cases p <;> decide
  unfold withLimit addition
  cases hp : p.isPresent given with
  | true => simp [eq_comm]
  | false =>
    by_cases hpos : 0 < limit
    · by_cases hle : limit ≤ Varint.max
      · have hmake : p.pair (.int limit) = .ok ⟨p.id, .int limit⟩ :=
          KeyValuePair.make_int_eq_ok_iff.mpr ⟨⟨hid, he, hle⟩, rfl⟩
        simp [hpos, hle, hmake, Except.map, eq_comm]
      · have hmake (pair : KeyValuePair) : p.pair (.int limit) ≠ .ok pair := fun h =>
          hle (KeyValuePair.make_int_eq_ok_iff.mp h).1.2.2
        cases h : p.pair (.int limit) with
        | ok pair => exact absurd h (hmake pair)
        | error e => simp [hpos, hle, Except.map]
    · have hle : limit ≤ Varint.max := by omega
      simp [hpos, hle, eq_comm]

theorem isPresent_append_addition {q : SetupParameter} (hne : p ≠ q) (front : List KeyValuePair) :
    q.isPresent (front ++ addition p limit given) = q.isPresent front := by
  have hid : p.id ≠ q.id := by
    intro hid
    exact hne (by cases p <;> cases q <;> first | rfl | cases hid)
  rw [Bool.eq_iff_iff, SetupParameter.isPresent_iff, SetupParameter.isPresent_iff]
  unfold addition
  split_ifs
  · simp [hid]
  · simp

theorem addition_append_addition {q : SetupParameter} (hne : p ≠ q) (front : List KeyValuePair)
    (limit' : Nat) : addition q limit' (front ++ addition p limit given) =
      addition q limit' front := by
  rw [addition, isPresent_append_addition hne]
  rfl

theorem namesDestination_augmented (config : Config) (given : List KeyValuePair) :
    namesDestination (augmented config given) = namesDestination given := by
  unfold namesDestination augmented
  rw [isPresent_append_addition (by decide), isPresent_append_addition (by decide),
    isPresent_append_addition (by decide), isPresent_append_addition (by decide)]

theorem withLimits_eq_ok_iff : withLimits config given = .ok sent ↔
    LimitsFit config given ∧ sent = augmented config given := by
  have hne : SetupParameter.maxRequestId ≠ .maxAuthTokenCacheSize := by decide
  rw [withLimits_eq_ok]
  constructor
  · rintro ⟨named, hnamed, hall⟩
    obtain ⟨hrequests, rfl⟩ := (withLimit_eq_ok_iff rfl).mp hnamed
    obtain ⟨htokens, rfl⟩ := (withLimit_eq_ok_iff rfl).mp hall
    rw [isPresent_append_addition hne] at htokens
    rw [addition_append_addition hne]
    exact ⟨⟨hrequests, htokens⟩, rfl⟩
  · rintro ⟨hfit, rfl⟩
    refine ⟨_, (withLimit_eq_ok_iff rfl).mpr ⟨hfit.requests, rfl⟩,
      (withLimit_eq_ok_iff rfl).mpr ⟨?_, ?_⟩⟩
    · rw [isPresent_append_addition hne]
      exact hfit.tokens
    · rw [addition_append_addition hne]
      rfl

theorem checkOverlay_eq_ok_iff :
    checkOverlay overlay given = .ok () ↔ (overlay = true → namesDestination given = false) := by
  cases hnames : namesDestination given <;> cases overlay <;> simp [checkOverlay, hnames]

theorem checkDirection_eq_ok_iff :
    checkDirection role given = .ok () ↔ (role = .server → namesDestination given = false) := by
  cases hnames : namesDestination given <;> cases role <;> simp [checkDirection, hnames]

theorem silent_iff {P : Prop} :
    (silent role overlay = true → P) ↔ (overlay = true → P) ∧ (role = .server → P) := by
  cases role <;> cases overlay <;> simp [silent]

/-- What is sent is what is given and the limits, if that is allowed. -/
theorem outgoing_eq_ok_iff : outgoing role config overlay given = .ok sent ↔
    (silent role overlay = true → namesDestination given = false) ∧ LimitsFit config given ∧
      sent = augmented config given := by
  rw [← withLimits_eq_ok_iff, silent_iff, ← checkOverlay_eq_ok_iff, ← checkDirection_eq_ok_iff,
    outgoing_eq_ok_iff_checks, and_assoc]

theorem valid_setup (role : Role) (hv : ∀ p ∈ sent, p.Valid) : (Message.setup role sent).Valid := by
  cases role <;> exact hv

/-- Pairs that go together stay so when the limits are added. -/
theorem valid_augmented (hfit : LimitsFit config given) (hv : ∀ p ∈ given, p.Valid) :
    ∀ p ∈ augmented config given, p.Valid := by
  obtain ⟨named, hnamed, hall⟩ := withLimits_eq_ok.mp (withLimits_eq_ok_iff.mpr ⟨hfit, rfl⟩)
  exact valid_withLimit hall (valid_withLimit hnamed hv)

end MediaOverQuic.Handshake
