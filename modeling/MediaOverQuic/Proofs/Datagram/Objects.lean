import Mathlib.Tactic
import MediaOverQuic.Proofs.Datagram.Assembly
import MediaOverQuic.Proofs.Datagram.RoundTrip

/-!
# Objects sent as datagrams

A datagram carries the place of an object, its priority, its extension headers, and its payload or
the status that there is none for. All of it arrives: no header is told apart from an empty list of
headers, and a normal object without payload from one that is missing. What a datagram does not
carry of an object that was put together is nothing but its track, its subgroup and how it is to be
forwarded.
-/
namespace MediaOverQuic

namespace Object

variable {o o' : Object}

def IsBuilt (o : Object) : Prop := ∃ track location choices, build track location choices = .ok o

/-- Whether what a datagram carries of an object can be written. -/
structure IsSendable (o : Object) : Prop where
  group : o.location.group ≤ Varint.max
  object : o.location.object ≤ Varint.max
  extensionHeaders : KeyValuePair.Writable o.extensionHeaders

/-- Whether two objects have in common what a datagram carries. -/
structure SameContent (o o' : Object) : Prop where
  location : o.location = o'.location
  publisherPriority : o.publisherPriority = o'.publisherPriority
  status : o.status = o'.status
  extensionHeaders : o.extensionHeaders = o'.extensionHeaders
  payload : o.payload = o'.payload

theorem check_eq_ok_iff :
    o.check = .ok o' ↔ (o.status ≠ .normal → o.payload = [] ∧ o.extensionHeaders = []) ∧ o = o' := by
  unfold check
  split_ifs with hstatus hpayload hheaders
  · simp [hstatus]
  · simp [hstatus, hpayload]
  · simp [hstatus, hheaders]
  · rw [not_not] at hpayload hheaders
    simp [hpayload, hheaders]

/-- An object that was put together and reports that there is none is empty. -/
theorem IsBuilt.empty (h : o.IsBuilt) (hs : o.status ≠ .normal) : o.payload = [] := by
  obtain ⟨track, location, choices, hbuild⟩ := h
  obtain ⟨hempty, rfl⟩ := check_eq_ok_iff.mp hbuild
  exact (hempty hs).1

end Object

namespace Datagram

variable {trackAlias : Nat} {o o' : Object} {d : Datagram}

/-- Whether a datagram says of an object all that datagrams can say. -/
structure Carries (d : Datagram) (o : Object) : Prop where
  location : d.location = o.location
  objectId : d.kind.objectId = true
  publisherPriority : d.publisherPriority = some o.publisherPriority
  extensionHeaders : d.extensions.getD [] = o.extensionHeaders
  payload : o.status = .normal → d.payload? = some o.payload ∧ d.status? = none
  status : o.status ≠ .normal → d.status? = some o.status ∧ d.payload? = none

/-- An object is sent with exactly one of a status and a payload, and never ends its group. -/
theorem goTogether_partsOfObject (o : Object) : DatagramPart.GoTogether (partsOfObject o) := by
  unfold partsOfObject
  constructor <;> split_ifs <;> simp

theorem last?_partsOfObject (o : Object) :
    DatagramField.objectId.last? (partsOfObject o) = some o.location.object ∧
    DatagramField.publisherPriority.last? (partsOfObject o) = some o.publisherPriority ∧
    DatagramField.extensions.last? (partsOfObject o) =
      (if o.extensionHeaders = [] then none else some o.extensionHeaders) ∧
    DatagramField.status.last? (partsOfObject o) =
      (if o.status = .normal then none else some o.status) ∧
    DatagramField.payload.last? (partsOfObject o) =
      (if o.status = .normal then some o.payload else none) := by
  unfold partsOfObject
  split_ifs <;> exact ⟨rfl, rfl, rfl, rfl, rfl⟩

theorem carries_ofObject (h : ofObject trackAlias o = .ok d) :
    d.trackAlias = trackAlias ∧ d.Carries o := by
  have hmade := madeOf_of_build h
  obtain ⟨hid, hpriority, hextensions, hstatus, hpayload⟩ := last?_partsOfObject o
  refine ⟨hmade.trackAlias, ?_, ?_, ?_, ?_, ?_, ?_⟩
  · rw [hmade.location, hid, Option.getD_some]
  · exact hmade.hasObjectId.mpr ⟨o.location.object, by simp [partsOfObject]⟩
  · rw [hmade.publisherPriority, hpriority]
  · rw [hmade.extensions, hextensions]
    split_ifs with hnone
    · exact hnone.symm
    · rfl
  · intro hnormal
    rw [hmade.payload, hmade.status, hpayload, hstatus, if_pos hnormal, if_pos hnormal]
    exact ⟨rfl, rfl⟩
  · intro hnormal
    rw [hmade.payload, hmade.status, hpayload, hstatus, if_neg hnormal, if_neg hnormal]
    exact ⟨rfl, rfl⟩

/-- The datagram of an object is written and read back. -/
theorem decode_ofObject (ha : trackAlias ≤ Varint.max) (hs : o.IsSendable)
    (h : ofObject trackAlias o = .ok d) :
    ∃ bytes, d.encode.complete = .ok bytes ∧ decode bytes = (.ok d, []) := by
  obtain ⟨halias, hcarries⟩ := carries_ofObject h
  have hc : d.Consistent := (Obtained.built h).consistent
  have hext : ∀ pairs, d.extensions = some pairs → KeyValuePair.Writable pairs := by
    intro pairs he
    have hheaders := hcarries.extensionHeaders
    rw [he, Option.getD_some] at hheaders
    rw [hheaders]
    exact hs.extensionHeaders
  have hrange : d.InRange := by
    refine ⟨halias.trans_le ha, ?_, ?_⟩
    · rw [hcarries.location]
      exact hs.group
    · rw [hcarries.location]
      exact hs.object
  have hbytes := (complete_encode_eq_ok hext).mpr ⟨hrange, rfl⟩
  exact ⟨d.wire, hbytes, decode_of_complete hc hext hbytes⟩

/-- A datagram tells apart what it carries of two objects that were put together. -/
theorem Carries.sameContent (h : d.Carries o) (h' : d.Carries o') (hb : o.IsBuilt)
    (hb' : o'.IsBuilt) : o.SameContent o' := by
  have hstatus : o.status = o'.status ∧ o.payload = o'.payload := by
    by_cases hn : o.status = .normal <;> by_cases hn' : o'.status = .normal
    · refine ⟨hn.trans hn'.symm, Option.some.inj ?_⟩
      rw [← (h.payload hn).1, (h'.payload hn').1]
    · cases (h.payload hn).1.symm.trans (h'.status hn').2
    · cases (h'.payload hn').1.symm.trans (h.status hn).2
    · refine ⟨Option.some.inj ?_, (hb.empty hn).trans (hb'.empty hn').symm⟩
      rw [← (h.status hn).1, (h'.status hn').1]
  exact {
    location := h.location.symm.trans h'.location
    publisherPriority := Option.some.inj (h.publisherPriority.symm.trans h'.publisherPriority)
    status := hstatus.1
    extensionHeaders := h.extensionHeaders.symm.trans h'.extensionHeaders
    payload := hstatus.2 }

/-- Every object whose numbers can be written is sent in a datagram that is read back and carries
all of it. If the datagrams of two objects that were put together have the same bytes, the two have
all content in common. -/
theorem ofObject_lossless (ha : trackAlias ≤ Varint.max) :
    (∀ o : Object, o.IsSendable → ∃ d bytes, ofObject trackAlias o = .ok d ∧
      d.encode.complete = .ok bytes ∧ decode bytes = (.ok d, []) ∧
      d.trackAlias = trackAlias ∧ d.Carries o) ∧
    ∀ o o' : Object, o.IsBuilt → o'.IsBuilt → o.IsSendable → o'.IsSendable →
      ∀ d d' bytes, ofObject trackAlias o = .ok d → ofObject trackAlias o' = .ok d' →
        d.encode.complete = .ok bytes → d'.encode.complete = .ok bytes → o.SameContent o' := by
  constructor
  · intro o hs
    obtain ⟨d, hd⟩ : ∃ d, ofObject trackAlias o = .ok d :=
      exists_build_iff.mpr (goTogether_partsOfObject o)
    obtain ⟨bytes, hbytes, hback⟩ := decode_ofObject ha hs hd
    exact ⟨d, bytes, hd, hbytes, hback, carries_ofObject hd⟩
  · intro o o' hb hb' hs hs' d d' bytes hd hd' hbytes hbytes'
    obtain ⟨_, h, hback⟩ := decode_ofObject ha hs hd
    obtain ⟨_, h', hback'⟩ := decode_ofObject ha hs' hd'
    obtain rfl := Except.ok.inj (h.symm.trans hbytes)
    obtain rfl := Except.ok.inj (h'.symm.trans hbytes')
    obtain rfl : d = d' := by simpa using hback.symm.trans hback'
    exact (carries_ofObject hd).2.sameContent (carries_ofObject hd').2 hb hb'

/-- The ends of two tracks, at the same place and with the same priority. -/
theorem ofObject_lossless_endOfTrack :
    let o : Object := ⟨⟨5, 0⟩, 0, ⟨[[0x6C]], [0x61]⟩, 2, .subgroup, .endOfTrack, [], []⟩
    let o' : Object := { o with subgroupId := 9, track := ⟨[[0x6C]], [0x76]⟩ }
    11 ≤ Varint.max ∧ (o.IsBuilt ∧ o'.IsBuilt ∧ o.IsSendable ∧ o'.IsSendable) ∧
    (∃ d bytes, ofObject 11 o = .ok d ∧ d.encode.complete = .ok bytes ∧
      decode bytes = (.ok d, []) ∧ d.trackAlias = 11 ∧ d.Carries o) ∧
    o.SameContent o' := by
  intro o o'
  have ha : 11 ≤ Varint.max := by decide
  have hb : o.IsBuilt :=
    ⟨o.track, o.location, [.publisherPriority 2, .status .endOfTrack], by decide⟩
  have hb' : o'.IsBuilt := ⟨o'.track, o'.location,
    [.status .endOfTrack, .subgroupId 9, .publisherPriority 7, .publisherPriority 2], by decide⟩
  have hs : o.IsSendable := ⟨by decide, by decide, by simp [o], by decide⟩
  have hs' : o'.IsSendable := ⟨by decide, by decide, by simp [o', o], by decide⟩
  obtain ⟨hsent, hsame⟩ := ofObject_lossless ha
  let d : Datagram :=
    ⟨⟨false, false, true, true, true⟩, 11, ⟨5, 0⟩, some 2, none, .status .endOfTrack⟩
  have hd : ofObject 11 o = .ok d := by decide
  have hd' : ofObject 11 o' = .ok d := by decide
  have hbytes : d.encode.complete = .ok [0x20, 11, 5, 0, 2, 4] := by decide
  exact ⟨ha, ⟨hb, hb', hs, hs'⟩, hsent o hs, hsame o o' hb hb' hs hs' d d _ hd hd' hbytes hbytes⟩

end Datagram

end MediaOverQuic
