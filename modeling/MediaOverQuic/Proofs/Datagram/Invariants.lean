import Mathlib.Tactic
import MediaOverQuic.Proofs.Datagram.Grammar

/-!
# Datagrams put together and datagrams read

A datagram is put together from parts or read from bytes. Both ways its kind says what it has. The
parts that match what it has, in any order, make it again, unless it has extensions and ends its
group: these two are never put together, while reading does not look for them.
-/
namespace MediaOverQuic

/-! ## The order of parts -/

/-- Which field of a draft a part is for. -/
def DatagramPart.slot : DatagramPart → Nat
  | objectId _ => 0
  | publisherPriority _ => 1
  | extensions _ => 2
  | endOfGroup => 3
  | status _ => 4
  | payload _ => 5

namespace DatagramDraft

/-- Parts for different fields can be given in either order. -/
theorem add_comm (d : DatagramDraft) {p q : DatagramPart} (h : p.slot ≠ q.slot) :
    (d.add p).add q = (d.add q).add p := by
  cases p <;> cases q <;> first | rfl | exact absurd rfl h

/-- Parts of which no two are for the same field can be given in any order. -/
theorem foldl_add_perm (d : DatagramDraft) {parts parts' : List DatagramPart}
    (hperm : parts.Perm parts') (hslots : (parts.map DatagramPart.slot).Nodup) :
    parts.foldl add d = parts'.foldl add d := by
  refine hperm.foldl_eq' ?_ d
  intro p hp q hq d
  by_cases h : p.slot = q.slot
  · obtain rfl := List.inj_on_of_nodup_map hslots hp hq h
    rfl
  · exact d.add_comm h

end DatagramDraft

/-! ## The parts of a datagram -/

/-- The part that gives a draft this body. -/
def DatagramBody.part : DatagramBody → DatagramPart
  | status s => .status s
  | payload bytes => .payload bytes

namespace Datagram

variable {d : Datagram}

/-- The parts that match what a datagram has. -/
def parts (d : Datagram) : List DatagramPart :=
  (if d.kind.objectId then [.objectId d.location.object] else [])
    ++ (d.publisherPriority.map DatagramPart.publisherPriority).toList
    ++ (d.extensions.map DatagramPart.extensions).toList
    ++ (if d.kind.endOfGroup then [.endOfGroup] else [])
    ++ [d.body.part]

/-- The draft that has what a datagram has. -/
def draft (d : Datagram) : DatagramDraft where
  kind := d.kind
  trackAlias := d.trackAlias
  location := d.location
  publisherPriority := d.publisherPriority
  extensions := d.extensions
  status := d.status?
  payload := d.payload?

theorem nodup_slot_parts (d : Datagram) : (d.parts.map DatagramPart.slot).Nodup := by
  -- what is there does not matter, only which of the parts there are
  unfold parts
  cases d.body <;> cases d.publisherPriority <;> cases d.extensions <;> split_ifs <;>
    simp [DatagramPart.slot, DatagramBody.part]

/-- A draft that starts with nothing has what the datagram has when it was given its parts. -/
theorem foldl_parts (h : d.Consistent) :
    d.parts.foldl DatagramDraft.add (.start d.trackAlias d.location.group) = d.draft := by
  obtain ⟨⟨extensions, endOfGroup, objectId, priority, status⟩, trackAlias, ⟨group, object⟩,
    publisherPriority, pairs, body⟩ := d
  obtain rfl : publisherPriority.isSome = priority := h.priority
  obtain rfl : pairs.isSome = extensions := h.extensions
  obtain rfl : body.isStatus = status := (isSome_status? _).symm.trans h.status
  have hobject : objectId = false → object = 0 := h.objectId
  cases objectId with
  | true => cases endOfGroup <;> cases publisherPriority <;> cases pairs <;> cases body <;> rfl
  | false =>
    obtain rfl : object = 0 := hobject rfl
    cases endOfGroup <;> cases publisherPriority <;> cases pairs <;> cases body <;> rfl

theorem body_draft (d : Datagram) : d.draft.body = .ok d.body := by
  obtain ⟨kind, trackAlias, location, publisherPriority, extensions, body⟩ := d
  cases body <;> rfl

/-- Extensions and the end of a group are all that can be in the way of a consistent datagram. -/
theorem finish_draft (h : d.Consistent) :
    d.draft.finish =
      if d.kind.extensions && d.kind.endOfGroup then .error (.violation .datagramExtensionsEndGroup)
      else .ok d := by
  have hends := h.endOfGroup
  rw [DatagramDraft.finish, body_draft]
  unfold draft
  cases hs : d.kind.status with
  | true => simp [hends hs]
  | false => simp

/-- The parts of a consistent datagram, in any order, make it again if they go together. -/
theorem build_of_perm_parts (h : d.Consistent) {parts : List DatagramPart}
    (hperm : parts.Perm d.parts) :
    build d.trackAlias d.location.group parts =
      if d.kind.extensions && d.kind.endOfGroup then .error (.violation .datagramExtensionsEndGroup)
      else .ok d := by
  rw [build, ← DatagramDraft.foldl_add_perm _ hperm.symm d.nodup_slot_parts, foldl_parts h,
    finish_draft h]

/-! ## Both ways to get a datagram -/

/-- Whether a datagram was put together or read. -/
inductive Obtained (d : Datagram) : Prop
  | built {trackAlias group : Nat} {parts : List DatagramPart}
      (h : build trackAlias group parts = .ok d)
  | decoded {bytes rest : Bytes} (h : decode bytes = (.ok d, rest))

theorem Obtained.consistent (h : d.Obtained) : d.Consistent := by
  cases h with
  | @built _ _ parts h =>
    have hall : ∀ pairs, DatagramPart.extensions pairs ∈ parts → True := fun _ _ => trivial
    exact (consistent_of_build hall h).1
  | decoded h => exact (starts_of_decode h).1

/-- A datagram that was put together does not have extensions and end its group. -/
theorem not_both_of_build {trackAlias group : Nat} {parts : List DatagramPart}
    (h : build trackAlias group parts = .ok d) :
    ¬ (d.kind.extensions = true ∧ d.kind.endOfGroup = true) := by
  obtain ⟨body, -, hboth, -, rfl⟩ := DatagramDraft.finish_eq_ok.mp h
  exact hboth

theorem isSome_payload? (d : Datagram) : d.payload?.isSome = !d.status?.isSome := by
  unfold payload? status?
  cases d.body <;> rfl

theorem ofId_id (h : d.Consistent) : DatagramKind.ofId d.kind.id = .ok d.kind :=
  DatagramKind.ofId_eq_ok_iff.mpr ⟨(DatagramKind.isNumber_id_iff d.kind).mpr h.endOfGroup, rfl⟩

/-- The kinds with extensions that end their group. -/
theorem both_iff (h : d.Consistent) :
    d.kind.extensions = true ∧ d.kind.endOfGroup = true ↔
      d.kind.id ∈ [0x03, 0x07, 0x0B, 0x0F] := by
  have hends := h.endOfGroup
  generalize d.kind = kind at hends
  obtain ⟨extensions, endOfGroup, objectId, priority, status⟩ := kind
  revert extensions endOfGroup objectId priority status
  decide

/-- A datagram that was put together or read has what its kind says, and a kind with a number. Its
parts make it again in any order, and it can be put together at all, unless it is one of the four
kinds that have extensions and end their group. -/
theorem obtained_invariants (h : d.Obtained) :
    d.Consistent ∧ d.payload?.isSome = !d.kind.status ∧
      DatagramKind.ofId d.kind.id = .ok d.kind ∧
      (d.kind.extensions = true ∧ d.kind.endOfGroup = true ↔
        d.kind.id ∈ [0x03, 0x07, 0x0B, 0x0F]) ∧
      ((∃ trackAlias group parts, build trackAlias group parts = .ok d) ↔
        ¬ (d.kind.extensions = true ∧ d.kind.endOfGroup = true)) ∧
      ∀ parts : List DatagramPart, parts.Perm d.parts →
        build d.trackAlias d.location.group parts =
          if d.kind.extensions && d.kind.endOfGroup then
            .error (.violation .datagramExtensionsEndGroup)
          else .ok d := by
  have hc := h.consistent
  refine ⟨hc, ?_, ofId_id hc, both_iff hc, ?_, fun parts => build_of_perm_parts hc⟩
  · rw [isSome_payload?, hc.status]
  · constructor
    · rintro ⟨trackAlias, group, parts, hbuild⟩
      exact not_both_of_build hbuild
    · intro hboth
      refine ⟨d.trackAlias, d.location.group, d.parts, ?_⟩
      rw [build_of_perm_parts hc (.refl _), if_neg (by rwa [Bool.and_eq_true])]

/-- A status with extensions that was read is made again by its parts, given in another order. -/
theorem obtained_invariants_status :
    ∃ d, decode [0x21, 1, 2, 3, 0x80, 1, 2, 5, 4] = (.ok d, []) ∧ d.Consistent ∧
      build d.trackAlias d.location.group
        [.status .endOfTrack, .extensions [⟨2, .int 5⟩], .objectId 3, .publisherPriority 0x80] =
        .ok d := by
  have hdecode : decode [0x21, 1, 2, 3, 0x80, 1, 2, 5, 4] = (.ok ⟨⟨true, false, true, true, true⟩,
      1, ⟨2, 3⟩, some 0x80, some [⟨2, .int 5⟩], .status .endOfTrack⟩, []) := by decide
  have h := obtained_invariants (.decoded hdecode)
  exact ⟨_, hdecode, h.1, h.2.2.2.2.2 _ (by decide)⟩

/-- Reading accepts a datagram with extensions that ends its group, which no parts make. -/
theorem decode_extensions_endOfGroup :
    ∃ d, decode [0x03, 1, 2, 3, 0x80, 0, 0xAA] = (.ok d, []) ∧
      d.kind.extensions = true ∧ d.kind.endOfGroup = true ∧
      (∀ trackAlias group parts, build trackAlias group parts ≠ .ok d) ∧
      build d.trackAlias d.location.group d.parts =
        .error (.violation .datagramExtensionsEndGroup) := by
  have hdecode : decode [0x03, 1, 2, 3, 0x80, 0, 0xAA] = (.ok ⟨⟨true, true, true, true, false⟩,
      1, ⟨2, 3⟩, some 0x80, some [], .payload [0xAA]⟩, []) := by decide
  exact ⟨_, hdecode, rfl, rfl, fun _ _ _ h => not_both_of_build h ⟨rfl, rfl⟩, rfl⟩

end Datagram

end MediaOverQuic
