import Mathlib.Tactic
import MediaOverQuic.Datagram.Draft
import MediaOverQuic.Proofs.Model.KeyValuePair

/-!
# What a kind says of a datagram

Reading looks at the kind of a datagram only, writing at the parts that the datagram has. The two
fit together as long as the kind says which parts there are. Every part that is given to a draft
keeps them together, and a finished draft has exactly one body.
-/
namespace MediaOverQuic

namespace DatagramKind

/-- The numbers of kinds: six bits, of which 0x10 is clear, and 0x20 and 0x02 are not both set. -/
def IsNumber (n : Nat) : Prop :=
  n ≤ maxId ∧ n.testBit 4 = false ∧ ¬ (n.testBit 5 = true ∧ n.testBit 1 = true)

instance (n : Nat) : Decidable (IsNumber n) := inferInstanceAs (Decidable (_ ∧ _))

theorem id_ofBits {n : Nat} (h : n ≤ maxId) (hr : n.testBit 4 = false) : (ofBits n).id = n := by
  have hall : ∀ n < 0x40, n.testBit 4 = false → (ofBits n).id = n := by decide
  exact hall n (Nat.lt_succ_of_le h) hr

theorem isNumber_id_iff (k : DatagramKind) :
    IsNumber k.id ↔ (k.status = true → k.endOfGroup = false) := by
  obtain ⟨extensions, endOfGroup, objectId, priority, status⟩ := k
  revert extensions endOfGroup objectId priority status
  decide

theorem ofId_eq_ok_iff {n : Nat} {k : DatagramKind} :
    ofId n = .ok k ↔ IsNumber n ∧ n = k.id := by
  constructor
  · intro h
    unfold ofId at h
    split_ifs at h with hmax hreserved hboth
    obtain rfl := Except.ok.inj h
    rw [Bool.not_eq_true] at hreserved
    rw [Bool.and_eq_true] at hboth
    exact ⟨⟨by omega, hreserved, hboth⟩, (id_ofBits (by omega) hreserved).symm⟩
  · rintro ⟨⟨hmax, hreserved, hboth⟩, rfl⟩
    rw [← Bool.and_eq_true] at hboth
    rw [ofId, if_neg (by omega), if_neg (by simp [hreserved]), if_neg hboth, ofBits_id]

theorem testBit_extensions (k : DatagramKind) : k.id.testBit 0 = k.extensions :=
  congrArg extensions (ofBits_id k)

theorem testBit_objectId (k : DatagramKind) : k.id.testBit 2 = !k.objectId := by
  rw [← congrArg objectId (ofBits_id k)]
  exact (Bool.not_not _).symm

theorem testBit_priority (k : DatagramKind) : k.id.testBit 3 = !k.priority := by
  rw [← congrArg priority (ofBits_id k)]
  exact (Bool.not_not _).symm

theorem testBit_status (k : DatagramKind) : k.id.testBit 5 = k.status :=
  congrArg status (ofBits_id k)

theorem id_le (k : DatagramKind) : k.id ≤ Varint.max := by
  obtain ⟨extensions, endOfGroup, objectId, priority, status⟩ := k
  revert extensions endOfGroup objectId priority status
  decide

end DatagramKind

namespace Datagram

/-- Whether the kind says what the datagram has. -/
structure Consistent (d : Datagram) : Prop where
  objectId : d.kind.objectId = false → d.location.object = 0
  priority : d.publisherPriority.isSome = d.kind.priority
  extensions : d.extensions.isSome = d.kind.extensions
  status : d.status?.isSome = d.kind.status
  endOfGroup : d.kind.status = true → d.kind.endOfGroup = false

end Datagram

namespace DatagramDraft

/-- Whether the kind says which parts were given, and the extensions are among some lists. -/
structure Consistent (allowed : List KeyValuePair → Prop) (d : DatagramDraft) : Prop where
  objectId : d.kind.objectId = false → d.location.object = 0
  priority : d.publisherPriority.isSome = d.kind.priority
  extensions : d.extensions.isSome = d.kind.extensions
  status : d.status.isSome = d.kind.status
  allowed : ∀ pairs, d.extensions = some pairs → allowed pairs

variable {allowed : List KeyValuePair → Prop} {d : DatagramDraft}

theorem consistent_start (allowed : List KeyValuePair → Prop) (trackAlias group : Nat) :
    Consistent allowed (start trackAlias group) where
  objectId _ := rfl
  priority := rfl
  extensions := rfl
  status := rfl
  allowed := by simp [start]

theorem Consistent.add (h : d.Consistent allowed) (part : DatagramPart)
    (hp : ∀ pairs, part = .extensions pairs → allowed pairs) :
    (d.add part).Consistent allowed := by
  cases part with
  | objectId id => exact { h with objectId := by simp [DatagramDraft.add] }
  | publisherPriority priority => exact { h with priority := rfl }
  | extensions pairs =>
    refine { h with extensions := rfl, allowed := ?_ }
    rintro _ ⟨⟩
    exact hp pairs rfl
  | endOfGroup => exact { h with }
  | status s => exact { h with status := rfl }
  | payload bytes => exact { h with }

theorem Consistent.addAll (h : d.Consistent allowed) {parts : List DatagramPart}
    (hp : ∀ pairs, .extensions pairs ∈ parts → allowed pairs) :
    (parts.foldl DatagramDraft.add d).Consistent allowed := by
  induction parts generalizing d with
  | nil => exact h
  | cons part parts ih =>
    refine ih (h.add part ?_) fun pairs hmem => hp pairs (List.mem_cons_of_mem _ hmem)
    rintro pairs rfl
    exact hp pairs List.mem_cons_self

/-- A draft has a body when it was given a status or a payload and not the other one. -/
theorem body_eq_ok_iff {body : DatagramBody} : d.body = .ok body ↔
    (∃ s, d.status = some s ∧ d.payload = none ∧ body = .status s) ∨
      ∃ bytes, d.status = none ∧ d.payload = some bytes ∧ body = .payload bytes := by
  unfold DatagramDraft.body
  cases d.status <;> cases d.payload <;> simp [eq_comm]

/-- A draft is finished when it has a body and ends its group with neither extensions nor a
status. -/
theorem finish_eq_ok {done : Datagram} : d.finish = .ok done ↔
    ∃ body, d.body = .ok body ∧ ¬ (d.kind.extensions = true ∧ d.kind.endOfGroup = true) ∧
      ¬ (d.kind.status = true ∧ d.kind.endOfGroup = true) ∧
      done = ⟨d.kind, d.trackAlias, d.location, d.publisherPriority, d.extensions, body⟩ := by
  unfold DatagramDraft.finish
  cases hb : d.body with
  | error e => simp
  | ok body =>
    dsimp only
    split_ifs with hext hends
    · simp [Bool.and_eq_true_iff.mp hext]
    · simp [Bool.and_eq_true_iff.mp hends]
    · rw [Bool.and_eq_true] at hext hends
      constructor
      · intro h
        exact ⟨body, rfl, hext, hends, (Except.ok.inj h).symm⟩
      · rintro ⟨_, ⟨⟩, -, -, rfl⟩
        rfl

/-- A finished draft is a datagram whose kind says what it has. -/
theorem Consistent.finish (h : d.Consistent allowed) {done : Datagram} (hd : d.finish = .ok done) :
    done.Consistent ∧ ∀ pairs, done.extensions = some pairs → allowed pairs := by
  obtain ⟨body, hb, -, hends, rfl⟩ := finish_eq_ok.mp hd
  refine ⟨⟨h.objectId, h.priority, h.extensions, ?_, ?_⟩, h.allowed⟩
  · rcases body_eq_ok_iff.mp hb with ⟨s, hs, -, rfl⟩ | ⟨bytes, hs, -, rfl⟩
    · simpa [Datagram.status?, hs] using h.status
    · simpa [Datagram.status?, hs] using h.status
  · intro (hs : d.kind.status = true)
    simpa [hs] using hends

end DatagramDraft

namespace Datagram

theorem consistent_of_build {allowed : List KeyValuePair → Prop} {trackAlias group : Nat}
    {parts : List DatagramPart} {d : Datagram}
    (hp : ∀ pairs, .extensions pairs ∈ parts → allowed pairs)
    (h : build trackAlias group parts = .ok d) :
    d.Consistent ∧ ∀ pairs, d.extensions = some pairs → allowed pairs :=
  ((DatagramDraft.consistent_start allowed trackAlias group).addAll hp).finish h

end Datagram

end MediaOverQuic
