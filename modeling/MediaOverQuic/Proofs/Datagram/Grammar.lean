import Mathlib.Tactic
import MediaOverQuic.Proofs.Datagram.Facets
import MediaOverQuic.Proofs.Model.PairGrammar

/-!
# The grammar of datagrams

A datagram is the number of its kind, three more numbers, the parts that the kind says there are,
and a status or a payload. Reading follows this grammar with the kind to go by, writing with the
parts. What is read is consistent, so it is written in the same grammar, with numbers no longer than
those that were read and an object id of zero where the kind has none.
-/
namespace MediaOverQuic

/-- The byte strings of a part that may be missing. -/
def optionWords (words : α → Language UInt8) : Option α → Language UInt8
  | some a => words a
  | none => 1

theorem ObjectStatus.ofWire_eq_ok_iff {v : Nat} {s : ObjectStatus} :
    ofWire v = .ok s ↔ v = s.value := by
  rw [← ofValue?_eq_some_iff, ofWire]
  cases ofValue? v <;> simp

namespace DatagramBody

def words : DatagramBody → Language UInt8
  | status s => Varint.words s.value
  | payload bytes => {bytes}

def wire : DatagramBody → Bytes
  | status s => Varint.encode s.value
  | payload bytes => bytes

def isStatus : DatagramBody → Bool
  | status _ => true
  | payload _ => false

end DatagramBody

namespace Datagram

variable {bytes rest : Bytes}

theorem isSome_status? (d : Datagram) : d.status?.isSome = d.body.isStatus := by
  unfold status?
  cases d.body <;> rfl

theorem decodeIf_eq_ok {d : Decoder α} {words : α → Language UInt8} (hd : Decoder.Reads d words)
    {present : Bool} {o : Option α} :
    decodeIf present d bytes = (.ok o, rest) ↔
      o.isSome = present ∧ Starts (optionWords words o) bytes rest := by
  cases present with
  | false =>
    cases o with
    | none => simp [decodeIf, optionWords]
    | some a => simp [decodeIf]
  | true =>
    rw [decodeIf, if_pos rfl, Decoder.bind_eq_ok]
    constructor
    · rintro ⟨a, middle, ha, h⟩
      obtain ⟨rfl, rfl⟩ := by simpa using h
      exact ⟨rfl, hd.mp ha⟩
    · rintro ⟨hs, h⟩
      obtain ⟨a, rfl⟩ := Option.isSome_iff_exists.mp hs
      exact ⟨a, rest, hd.mpr h, rfl⟩

theorem reads_byte : Decoder.Reads Decoder.byte fun b => {[b]} := by
  intro bytes b rest
  rw [Starts.singleton_iff, List.singleton_append]
  cases bytes <;> simp [Decoder.byte]

theorem decodeKind_eq_ok {kind : DatagramKind} :
    decodeKind bytes = (.ok kind, rest) ↔
      DatagramKind.IsNumber kind.id ∧ Starts (Varint.words kind.id) bytes rest := by
  rw [decodeKind, Decoder.bind_eq_ok]
  constructor
  · rintro ⟨n, middle, hn, h⟩
    cases hk : DatagramKind.ofId n with
    | error e => simp [hk] at h
    | ok k =>
      obtain ⟨rfl, rfl⟩ := by simpa [hk] using h
      obtain ⟨hnum, rfl⟩ := DatagramKind.ofId_eq_ok_iff.mp hk
      exact ⟨hnum, Varint.reads_decode.mp hn⟩
  · rintro ⟨hnum, h⟩
    refine ⟨kind.id, rest, Varint.reads_decode.mpr h, ?_⟩
    rw [DatagramKind.ofId_eq_ok_iff.mpr ⟨hnum, rfl⟩]
    rfl

theorem reads_location :
    Decoder.Reads Location.decode fun l => Varint.words l.group * Varint.words l.object := by
  intro bytes l rest
  rw [Location.decode, Decoder.bind_eq_ok, Starts.mul_iff]
  constructor
  · rintro ⟨group, middle, hg, h⟩
    obtain ⟨object, rest', ho, h⟩ := Decoder.bind_eq_ok.mp h
    obtain ⟨rfl, rfl⟩ := by simpa using h
    exact ⟨middle, Varint.reads_decode.mp hg, Varint.reads_decode.mp ho⟩
  · rintro ⟨middle, hg, ho⟩
    exact ⟨l.group, middle, Varint.reads_decode.mpr hg,
      Decoder.bind_eq_ok.mpr ⟨l.object, rest, Varint.reads_decode.mpr ho, rfl⟩⟩

/-- A status stands in front of what is left, a payload is all there is. -/
theorem decodeBody_eq_ok {kind : DatagramKind} {body : DatagramBody} :
    decodeBody kind bytes = (.ok body, rest) ↔ Starts body.words bytes rest ∧
      match body with
      | .status _ => kind.status = true
      | .payload _ => kind.status = false ∧ rest = [] := by
  unfold decodeBody
  cases hs : kind.status with
  | true =>
    rw [if_pos rfl, Decoder.bind_eq_ok]
    constructor
    · rintro ⟨v, middle, hv, h⟩
      cases hw : ObjectStatus.ofWire v with
      | error e => simp [hw] at h
      | ok s =>
        obtain ⟨rfl, rfl⟩ := by simpa [hw] using h
        obtain rfl := ObjectStatus.ofWire_eq_ok_iff.mp hw
        exact ⟨Varint.reads_decode.mp hv, rfl⟩
    · rintro ⟨h, hbody⟩
      cases body with
      | payload bytes => cases hbody.1
      | status s =>
        refine ⟨s.value, rest, Varint.reads_decode.mpr h, ?_⟩
        rw [ObjectStatus.ofWire_eq_ok_iff.mpr rfl]
        rfl
  | false =>
    rw [if_neg (by simp), Decoder.bind_eq_ok]
    cases body with
    | status s => simp
    | payload bytes' =>
      simp only [Decoder.remaining, DatagramBody.words, Starts.singleton_iff]
      constructor
      · rintro ⟨all, middle, hall, h⟩
        obtain ⟨rfl, rfl⟩ := by simpa using hall
        obtain ⟨rfl, rfl⟩ := by simpa using h
        simp
      · rintro ⟨h, -, rfl⟩
        obtain rfl : bytes = bytes' := by simpa using h
        exact ⟨bytes, [], rfl, rfl⟩

/-- The byte strings that a datagram may be written in with this number as its object id. -/
def words (d : Datagram) (object : Nat) : Language UInt8 :=
  Varint.words d.kind.id * (Varint.words d.trackAlias *
    ((Varint.words d.location.group * Varint.words object) *
      (optionWords (fun priority => {[priority]}) d.publisherPriority *
        (optionWords KeyValuePair.listWords d.extensions * d.body.words))))

/-- What is read is consistent and stands in front, with any object id where the kind has none. -/
theorem starts_of_decode {d : Datagram} (h : decode bytes = (.ok d, rest)) :
    d.Consistent ∧ (d.kind.status = false → rest = []) ∧
      ∃ object, d.location.object = (if d.kind.objectId then object else 0) ∧
        Starts (d.words object) bytes rest := by
  rw [decode] at h
  obtain ⟨kind, b₁, hkind, h⟩ := Decoder.bind_eq_ok.mp h
  obtain ⟨trackAlias, b₂, halias, h⟩ := Decoder.bind_eq_ok.mp h
  obtain ⟨location, b₃, hlocation, h⟩ := Decoder.bind_eq_ok.mp h
  obtain ⟨priority, b₄, hpriority, h⟩ := Decoder.bind_eq_ok.mp h
  obtain ⟨extensions, b₅, hextensions, h⟩ := Decoder.bind_eq_ok.mp h
  obtain ⟨body, b₆, hbody, h⟩ := Decoder.bind_eq_ok.mp h
  cases h
  obtain ⟨hnumber, hkind⟩ := decodeKind_eq_ok.mp hkind
  obtain ⟨b, hgroup, hobject⟩ := Starts.mul_iff.mp (reads_location.mp hlocation)
  obtain ⟨hp, hpriority⟩ := (decodeIf_eq_ok reads_byte).mp hpriority
  obtain ⟨he, hextensions⟩ := (decodeIf_eq_ok KeyValuePair.reads_decodeList).mp hextensions
  obtain ⟨hwords, hbody⟩ := decodeBody_eq_ok.mp hbody
  refine ⟨⟨?_, hp, he, ?_, (DatagramKind.isNumber_id_iff kind).mp hnumber⟩, ?_, location.object,
    ?_, ?_⟩
  · intro (hk : kind.objectId = false)
    simp [hk]
  · cases body with
    | status s => exact hbody.symm
    | payload bytes => exact hbody.1.symm
  · intro (hs : kind.status = false)
    cases body with
    | status s => exact absurd hbody (by simp [hs])
    | payload bytes => exact hbody.2
  · split_ifs <;> rfl
  · simp only [words, Starts.mul_iff]
    refine ⟨b₁, hkind, b₂, Varint.reads_decode.mp halias, b₃, ⟨b, ?_, hobject⟩, b₄, hpriority, b₅,
      hextensions, hwords⟩
    split_ifs <;> exact hgroup

/-- What is consistent and stands in front is read, with object id zero where the kind has none. -/
theorem decode_of_starts {d : Datagram} {object : Nat} (hc : d.Consistent)
    (hrest : d.kind.status = false → rest = [])
    (hobject : d.location.object = (if d.kind.objectId then object else 0))
    (h : Starts (d.words object) bytes rest) : decode bytes = (.ok d, rest) := by
  simp only [words, Starts.mul_iff] at h
  obtain ⟨b₁, hkind, b₂, halias, b₃, hlocation, b₄, hpriority, b₅, hextensions, hbody⟩ := h
  have hnumber := (DatagramKind.isNumber_id_iff d.kind).mpr hc.endOfGroup
  have hbody' : decodeBody d.kind b₅ = (.ok d.body, rest) := by
    refine decodeBody_eq_ok.mpr ⟨hbody, ?_⟩
    have hs := hc.status
    cases hb : d.body with
    | status s =>
      rw [status?, hb] at hs
      exact hs.symm
    | payload bytes =>
      rw [status?, hb] at hs
      exact ⟨hs.symm, hrest hs.symm⟩
  have hlocation' : (if d.kind.objectId = true then (⟨d.location.group, object⟩ : Location)
      else ⟨d.location.group, 0⟩) = d.location := by
    split_ifs at hobject ⊢ <;> rw [← hobject]
  rw [decode]
  refine Decoder.bind_eq_ok.mpr ⟨_, b₁, decodeKind_eq_ok.mpr ⟨hnumber, hkind⟩, ?_⟩
  refine Decoder.bind_eq_ok.mpr ⟨_, b₂, Varint.reads_decode.mpr halias, ?_⟩
  refine Decoder.bind_eq_ok.mpr ⟨⟨d.location.group, object⟩, b₃,
    reads_location.mpr (Starts.mul_iff.mpr hlocation), ?_⟩
  refine Decoder.bind_eq_ok.mpr ⟨_, b₄,
    (decodeIf_eq_ok reads_byte).mpr ⟨hc.priority, hpriority⟩, ?_⟩
  refine Decoder.bind_eq_ok.mpr ⟨_, b₅,
    (decodeIf_eq_ok KeyValuePair.reads_decodeList).mpr ⟨hc.extensions, hextensions⟩, ?_⟩
  refine Decoder.bind_eq_ok.mpr ⟨_, rest, hbody', ?_⟩
  simp only [hlocation']
  rfl

end Datagram

end MediaOverQuic
