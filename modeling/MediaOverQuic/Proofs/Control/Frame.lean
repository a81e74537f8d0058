import Mathlib.Tactic
import MediaOverQuic.Control.Frame
import MediaOverQuic.Proofs.Model.KeyValuePair
import MediaOverQuic.Proofs.Wire.Scan

/-!
# Frames read back

A message can be framed when the number that its payload starts with can be written and the payload
is short enough. What is written then is read back as the message, and nothing behind it is touched.
-/
namespace MediaOverQuic

theorem MessageType.ofValue_value (t : MessageType) : ofValue t.value = .ok t := by
  cases t <;> rfl

theorem MessageType.value_le (t : MessageType) : t.value ≤ Varint.max := by
  cases t <;> decide

namespace Message

/-- The parameters of a setup message. -/
def params : Message → List KeyValuePair
  | clientSetup params | serverSetup params => params
  | maxRequestId _ | requestsBlocked _ => []

/-- The limit for request ids that a message is about. -/
def limit? : Message → Option Nat
  | clientSetup _ | serverSetup _ => none
  | maxRequestId limit | requestsBlocked limit => some limit

/-- Whether all parameters are pairs that go together. -/
def Valid (m : Message) : Prop := ∀ p ∈ m.params, p.Valid

instance (m : Message) : Decidable m.Valid := inferInstanceAs (Decidable (∀ p ∈ m.params, p.Valid))

/-- The number that the payload starts with: the limit, or how many parameters there are. -/
def number (m : Message) : Nat := m.limit?.getD m.params.length

/-- The payload of a message whose number can be written. -/
def payload : Message → Bytes
  | clientSetup params | serverSetup params =>
    Varint.encode params.length ++ KeyValuePair.wireAll params
  | maxRequestId limit | requestsBlocked limit => Varint.encode limit

theorem encodePayload_of_le {m : Message} (hv : m.Valid) (h : m.number ≤ Varint.max) :
    m.encodePayload = .ofBytes m.payload := by
  cases m with
  | clientSetup params | serverSetup params => exact KeyValuePair.encodeList_of_valid hv h
  | maxRequestId limit | requestsBlocked limit => exact Varint.put_of_le h

theorem encodePayload_of_lt {m : Message} (h : Varint.max < m.number) :
    m.encodePayload = .failed (.varintTooLarge m.number) := by
  cases m with
  | clientSetup params | serverSetup params => exact KeyValuePair.encodeList_of_lt h
  | maxRequestId limit | requestsBlocked limit => exact Varint.put_of_lt h

theorem decodeContent_payload {m : Message} (hv : m.Valid) (h : m.number ≤ Varint.max) :
    decodeContent m.type m.payload = (.ok m, []) := by
  cases m with
  | clientSetup params | serverSetup params =>
    have hl := KeyValuePair.decodeList_append hv h []
    rw [List.append_nil] at hl
    exact Decoder.bind_of_ok hl
  | maxRequestId limit | requestsBlocked limit =>
    have hl := Varint.decode_encode_append limit h []
    rw [List.append_nil] at hl
    exact Decoder.bind_of_ok hl

/-- A payload is read back as the message that it is the payload of. -/
theorem decode_payload {m : Message} (hv : m.Valid) (h : m.number ≤ Varint.max) :
    decode m.type.value m.payload = .ok m := by
  simp only [decode, MessageType.ofValue_value, decodeContent_payload hv h]

end Message

namespace Frame

/-- Whether a message can be framed with a payload of at most `limit` bytes. -/
def Fits (limit : Nat) (m : Message) : Prop :=
  m.number ≤ Varint.max ∧ m.payload.length ≤ min limit Varint.max

instance (limit : Nat) (m : Message) : Decidable (Fits limit m) :=
  inferInstanceAs (Decidable (_ ∧ _))

/-- What keeps a message from being framed, when its parameters can be counted. -/
theorem not_fits_iff {limit : Nat} {m : Message} (hp : m.params.length ≤ Varint.max) :
    ¬ Fits limit m ↔
      (∃ n, m.limit? = some n ∧ Varint.max < n) ∨ min limit Varint.max < m.payload.length := by
  rw [Fits, not_and_or, Nat.not_le, Nat.not_le]
  refine or_congr_left ?_
  cases m with
  | clientSetup params | serverSetup params => simpa [Message.number, Message.limit?] using hp
  | maxRequestId n | requestsBlocked n => simp [Message.number, Message.limit?]

theorem Fits.mono {limit limit' : Nat} {m : Message} (hl : limit ≤ limit') (h : Fits limit m) :
    Fits limit' m := ⟨h.1, h.2.trans (min_le_min_right _ hl)⟩

/-- The bytes of a message that can be framed. -/
def wire (m : Message) : Bytes :=
  Varint.encode m.type.value ++ Varint.encode m.payload.length ++ m.payload

theorem wire_ne_nil (m : Message) : wire m ≠ [] := by
  simp [wire, Varint.encode_ne_nil]

theorem encode_of_fits {limit : Nat} {m : Message} (hv : m.Valid) (h : Fits limit m) :
    encode limit m = .ok (wire m) := by
  obtain ⟨hn, hl⟩ := h
  obtain ⟨hlim, hmax⟩ := Nat.le_min.mp hl
  simp only [encode, Message.encodePayload_of_le hv hn, Output.complete_ofBytes,
    if_neg (Nat.not_lt.mpr hlim), Varint.put_of_le m.type.value_le, Varint.put_of_le hmax,
    Output.ofBytes_append_ofBytes]
  rfl

/-- Why a message can not be framed: its number comes first, then the limit, then what can be
written as a length at all. -/
theorem encode_of_not_fits {limit : Nat} {m : Message} (hv : m.Valid) (h : ¬ Fits limit m) :
    encode limit m = .error (
      if Varint.max < m.number then .varintTooLarge m.number
      else if limit < m.payload.length then
        .violation (.messageTooLong m.type m.payload.length limit)
      else .varintTooLarge m.payload.length) := by
  by_cases hn : Varint.max < m.number
  · simp only [encode, Message.encodePayload_of_lt hn, Output.complete_failed, if_pos hn]
  · simp only [encode, Message.encodePayload_of_le hv (Nat.not_lt.mp hn),
      Output.complete_ofBytes, if_neg hn]
    split_ifs with hlim
    · rfl
    · have hmax : Varint.max < m.payload.length := by
        by_contra hle
        exact h ⟨Nat.not_lt.mp hn, Nat.le_min.mpr ⟨Nat.not_lt.mp hlim, Nat.not_lt.mp hle⟩⟩
      simp only [Varint.put_of_le m.type.value_le, Varint.put_of_lt hmax,
        Output.ofBytes_append_failed]
      rfl

theorem encode_eq_ok_iff {limit : Nat} {m : Message} (hv : m.Valid) {frame : Bytes} :
    encode limit m = .ok frame ↔ Fits limit m ∧ frame = wire m := by
  by_cases h : Fits limit m
  · rw [encode_of_fits hv h, Except.ok.injEq, eq_comm]
    exact (and_iff_right h).symm
  · rw [encode_of_not_fits hv h]
    constructor
    · intro he
      cases he
    · intro he
      exact absurd he.1 h

/-! ## Reading -/

theorem lawful_scan (limit : Nat) : (scan limit).Lawful := by
  refine Scan.lawful_varint.bind fun typeId => Scan.lawful_varint.bind fun length => ?_
  split_ifs
  · exact Scan.lawful_pure _
  · exact (Scan.lawful_exactly length).bind fun payload => Scan.lawful_pure _

/-- The header of a frame decides whether its payload is read. -/
theorem scan_wire_append {limit sent : Nat} {m : Message} (h : Fits sent m) (rest : Bytes) :
    scan limit (wire m ++ rest) =
      if limit < m.payload.length then
        .ready (.error (.violation (.frameTooLong m.payload.length limit)), m.payload ++ rest)
      else .ready (Message.decode m.type.value m.payload, rest) := by
  obtain ⟨-, hl⟩ := h
  have hmax := (Nat.le_min.mp hl).2
  rw [scan, wire, List.append_assoc, List.append_assoc,
    Scan.bind_of_ready (Scan.varint_encode_append _ m.type.value_le _),
    Scan.bind_of_ready (Scan.varint_encode_append _ hmax _)]
  split_ifs with hlim
  · rfl
  · rw [Scan.bind_of_ready (Scan.exactly_append m.payload rest)]
    rfl

/-- A frame is read back as the message that was framed, by whoever accepts its length. -/
theorem scan_wire_of_fits {limit : Nat} {m : Message} (hv : m.Valid) (h : Fits limit m)
    (rest : Bytes) : scan limit (wire m ++ rest) = .ready (.ok m, rest) := by
  have hlim := (Nat.le_min.mp h.2).1
  rw [scan_wire_append h rest, if_neg (Nat.not_lt.mpr hlim), Message.decode_payload hv h.1]

/-- Whoever reads a message out of a frame reads the one that was framed, and all of the frame. -/
theorem eq_of_scan_wire_append {limit sent : Nat} {m got : Message} (hv : m.Valid)
    (h : Fits sent m) {rest left : Bytes}
    (hs : scan limit (wire m ++ rest) = .ready (.ok got, left)) : got = m ∧ left = rest := by
  rw [scan_wire_append h rest, Message.decode_payload hv h.1] at hs
  split_ifs at hs
  · cases hs
  · obtain ⟨rfl, rfl⟩ := by simpa using hs
    exact ⟨rfl, rfl⟩

/-- Whoever reads a message out of the first part of a frame has all of it. -/
theorem eq_of_scan_of_append {limit sent : Nat} {m got : Message} (hv : m.Valid) (h : Fits sent m)
    {read more rest : Bytes} (hw : read ++ more = wire m)
    (hs : scan limit read = .ready (.ok got, rest)) : got = m ∧ more = [] := by
  have hall := (lawful_scan limit).steady hs more
  rw [hw, ← List.append_nil (wire m)] at hall
  obtain ⟨rfl, hrest⟩ := eq_of_scan_wire_append hv h hall
  exact ⟨rfl, (List.append_eq_nil_iff.mp hrest).2⟩

/-- Whether no message can be read out of some bytes. -/
def Unreadable (limit : Nat) (bytes : Bytes) : Prop :=
  ∀ m rest, scan limit bytes ≠ .ready (.ok m, rest)

theorem unreadable_nil (limit : Nat) : Unreadable limit [] := by
  intro m rest h
  cases h

theorem unreadable_of_append {limit sent : Nat} {m : Message} (hv : m.Valid) (h : Fits sent m)
    {read more : Bytes} (hw : read ++ more = wire m) (hne : more ≠ []) : Unreadable limit read :=
  fun _ _ hs => hne (eq_of_scan_of_append hv h hw hs).2

theorem Unreadable.of_append {limit : Nat} {read more : Bytes}
    (h : Unreadable limit (read ++ more)) : Unreadable limit read := by
  intro m rest hs
  exact h m _ ((lawful_scan limit).steady hs more)

end Frame

end MediaOverQuic
