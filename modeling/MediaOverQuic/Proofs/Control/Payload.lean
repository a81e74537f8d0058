import Mathlib.Tactic
import MediaOverQuic.Proofs.Control.FirstFrame

/-!
# Payloads of control messages

A payload that was written is told apart from everything that is a little shorter or a little
longer: cut short anywhere it lacks bytes, and with anything behind it its length does not fit its
content. Both come from one fact about decoders: what they take depends on no byte behind it.
Conversely what is read from a payload can be written again, in no more bytes.
-/
namespace MediaOverQuic

/-! ## Decoders of words that are cut short -/

namespace Decoder

/-- Whether the decoder lacks bytes whenever a word is cut short. -/
def NoticesCut (d : Decoder α) (words : α → Language UInt8) : Prop :=
  ∀ {a : α} {front more : Bytes}, front ++ more ∈ words a → more ≠ [] →
    ∃ needed remaining rest, d front = (.error (.unexpectedEnd needed remaining), rest)

/-- Nothing is taken from a word that is cut short: it would be taken from the whole word too. -/
theorem Reads.exists_error {d : Decoder α} {words : α → Language UInt8} (hd : Reads d words)
    {a : α} {front more : Bytes} (h : front ++ more ∈ words a) (hne : more ≠ []) :
    ∃ e rest, d front = (.error e, rest) := by
  rcases hfront : d front with ⟨b | e, rest⟩
  · exact ⟨_, rest, rfl⟩
  · have hall := (hd.mp hfront).append more
    obtain ⟨-, hrest⟩ := hd.unique hall (Starts.nil_right.mpr h)
    exact absurd (List.append_eq_nil_iff.mp hrest).2 hne

theorem Reads.noticesCut {d : Decoder α} {words : α → Language UInt8} (hd : Reads d words)
    (hcut : OnlyCutShort d) : NoticesCut d words := by
  intro a front more h hne
  obtain ⟨e, rest, he⟩ := hd.exists_error h hne
  obtain ⟨needed, remaining, rfl⟩ := hcut he
  exact ⟨needed, remaining, rest, he⟩

end Decoder

namespace KeyValuePair

theorem Oversized.append {bytes : Bytes} (h : Oversized bytes) (later : Bytes) :
    Oversized (bytes ++ later) := by
  obtain ⟨count, pairs, t, length, rest, hcount, hodd, hmax, hstarts⟩ := h
  exact ⟨count, pairs, t, length, rest ++ later, hcount, hodd, hmax, hstarts.append later⟩

/-- No parameter of a list that is cut short declares too much, as none of the whole list does. -/
theorem noticesCut_decodeList : Decoder.NoticesCut decodeList listWords := by
  intro pairs front more h hne
  obtain ⟨e, rest, he⟩ := reads_decodeList.exists_error h hne
  rcases decodeList_eq_error he with ⟨needed, remaining, rfl⟩ | ⟨t, length, rfl⟩
  · exact ⟨needed, remaining, rest, he⟩
  · have hover : Oversized front := oversized_iff.mpr ⟨t, length, rest, he⟩
    exact absurd (hover.append more) (not_oversized_of_starts (Starts.nil_right.mpr h))

end KeyValuePair

namespace Message

variable {m : Message} {typeId : Nat} {payload front more : Bytes}

/-! ## What is read of a payload -/

/-- The content is taken from the front of a payload, whatever stands behind it. -/
theorem decodeContent_append (h : payload ∈ m.words) (rest : Bytes) :
    decodeContent m.type (payload ++ rest) = (.ok m, rest) := by
  have hstarts := Starts.of_mem h rest
  cases m with
  | clientSetup params | serverSetup params =>
    exact Decoder.bind_of_ok (KeyValuePair.reads_decodeList.mpr hstarts)
  | maxRequestId limit | requestsBlocked limit =>
    exact Decoder.bind_of_ok (Varint.reads_decode.mpr hstarts)

theorem decodeContent_of_cut (h : front ++ more ∈ m.words) (hne : more ≠ []) :
    ∃ needed remaining rest,
      decodeContent m.type front = (.error (.unexpectedEnd needed remaining), rest) := by
  cases m with
  | clientSetup params | serverSetup params =>
    obtain ⟨needed, remaining, rest, he⟩ := KeyValuePair.noticesCut_decodeList h hne
    exact ⟨needed, remaining, rest, Decoder.bind_of_error he⟩
  | maxRequestId limit | requestsBlocked limit =>
    obtain ⟨needed, remaining, rest, he⟩ :=
      Varint.reads_decode.noticesCut Varint.onlyCutShort_decode h hne
    exact ⟨needed, remaining, rest, Decoder.bind_of_error he⟩

/-- A payload that is cut short lacks bytes. -/
theorem decode_of_cut (h : front ++ more ∈ m.words) (hne : more ≠ []) :
    ∃ needed remaining,
      decode m.type.value front = .error (.unexpectedEnd needed remaining) := by
  obtain ⟨needed, remaining, rest, he⟩ := decodeContent_of_cut h hne
  refine ⟨needed, remaining, ?_⟩
  simp only [decode, MessageType.ofValue_value, he]

/-- A payload with something behind it is longer than its content. -/
theorem decode_append (h : payload ∈ m.words) {rest : Bytes} (hne : rest ≠ []) :
    decode m.type.value (payload ++ rest) = .error
      (.violation (.lengthMismatch m.type (payload ++ rest).length payload.length)) := by
  obtain ⟨b, more, rfl⟩ := List.exists_cons_of_ne_nil hne
  have hused : (payload ++ b :: more).length - (b :: more).length = payload.length := by
    rw [List.length_append, Nat.add_sub_cancel]
  simp only [decode, MessageType.ofValue_value, decodeContent_append h, hused]

/-- Types without a payload that is read are refused, known or not. -/
theorem decode_of_not_mem (h : typeId ∉ [0x20, 0x21, 0x15, 0x1A]) (payload : Bytes) :
    ∃ rule, decode typeId payload = .error (.violation rule) ∧
      rule.code = .protocolViolation := by
  unfold decode
  cases ht : MessageType.ofValue typeId with
  | error u => exact ⟨_, rfl, rfl⟩
  | ok t =>
    obtain rfl := MessageType.ofValue_eq_ok_iff.mp ht
    cases t
    case clientSetup | serverSetup | maxRequestId | requestsBlocked =>
      simp [MessageType.value] at h
    all_goals exact ⟨_, rfl, rfl⟩

/-! ## What is written of a message -/

theorem complete_encodePayload_eq_ok_iff (hv : m.Valid) :
    m.encodePayload.complete = .ok payload ↔ m.number ≤ Varint.max ∧ payload = m.payload := by
  rcases Nat.lt_or_ge Varint.max m.number with hlt | hle
  · rw [encodePayload_of_lt hlt, Output.complete_failed]
    constructor
    · intro h
      cases h
    · rintro ⟨hle, -⟩
      omega
  · rw [encodePayload_of_le hv hle, Output.complete_ofBytes, Except.ok.injEq, eq_comm]
    exact (and_iff_right hle).symm

theorem payload_mem_words (hv : m.Valid) (hn : m.number ≤ Varint.max) : m.payload ∈ m.words :=
  (decodeContent_eq_ok_iff.mp (decodeContent_payload hv hn)).2

/-- A message that is read can be written, in no more bytes. -/
theorem valid_of_mem_words (h : payload ∈ m.words) :
    m.Valid ∧ m.number ≤ Varint.max ∧ m.payload.length ≤ payload.length := by
  cases m with
  | clientSetup params | serverSetup params =>
    obtain ⟨⟨hvalid, hcount⟩, hlength⟩ := KeyValuePair.valid_of_mem_listWords h
    exact ⟨hvalid, hcount, hlength⟩
  | maxRequestId limit | requestsBlocked limit =>
    obtain ⟨hmax, hwidth⟩ := Varint.le_of_mem_words h
    refine ⟨fun p hp => absurd hp List.not_mem_nil, hmax, ?_⟩
    rw [Message.payload, Varint.length_encode]
    exact hwidth

/-- A payload that was written is read back as its message, lacks bytes when it is cut short
anywhere, and has a length that does not match when anything is put behind it. Whatever is read from
a payload is of the type that was declared, and can be written again in no more bytes, which are
read as the same message. No other type has a payload that is read. -/
theorem payload_codec_exact :
    (∀ (m : Message) (p : Bytes), m.Valid → m.encodePayload.complete = .ok p →
      decode m.type.value p = .ok m ∧
      (∀ front more, front ++ more = p → more ≠ [] → ∃ needed remaining,
        decode m.type.value front = .error (.unexpectedEnd needed remaining)) ∧
      ∀ rest, rest ≠ [] → ∃ rule, decode m.type.value (p ++ rest) = .error (.violation rule) ∧
        rule = .lengthMismatch m.type (p ++ rest).length p.length ∧
        rule.code = .protocolViolation) ∧
    (∀ (t : Nat) (q : Bytes) (m : Message), decode t q = .ok m →
      t = m.type.value ∧ m.Valid ∧ ∃ p, m.encodePayload.complete = .ok p ∧
        p.length ≤ q.length ∧ decode t p = .ok m) ∧
    ∀ (t : Nat) (q : Bytes), t ∉ [0x20, 0x21, 0x15, 0x1A] →
      ∃ rule, decode t q = .error (.violation rule) ∧ rule.code = .protocolViolation := by
  refine ⟨?_, ?_, fun t q ht => decode_of_not_mem ht q⟩
  · intro m p hv hp
    obtain ⟨hn, rfl⟩ := (complete_encodePayload_eq_ok_iff hv).mp hp
    have hwords := payload_mem_words hv hn
    refine ⟨decode_payload hv hn, ?_, fun rest hne => ⟨_, decode_append hwords hne, rfl, rfl⟩⟩
    intro front more hcut hne
    rw [← hcut] at hwords
    exact decode_of_cut hwords hne
  · intro t q m h
    obtain ⟨rfl, hwords⟩ := decode_eq_ok_iff_mem_words.mp h
    obtain ⟨hv, hn, hlength⟩ := valid_of_mem_words hwords
    exact ⟨rfl, hv, m.payload, (complete_encodePayload_eq_ok_iff hv).mpr ⟨hn, rfl⟩, hlength,
      decode_payload hv hn⟩

/-- A client that names a path and allows a hundred requests, cut after the first of its parameters,
and with a byte too many. -/
theorem payload_codec_exact_clientSetup :
    let m : Message := .clientSetup [⟨1, .bytes [0x2F]⟩, ⟨2, .int 100⟩]
    m.Valid ∧ m.encodePayload.complete = .ok [2, 1, 1, 0x2F, 2, 0x40, 0x64] ∧
    decode 0x20 [2, 1, 1, 0x2F, 2, 0x40, 0x64] = .ok m ∧
    (∃ needed remaining,
      decode 0x20 [2, 1, 1, 0x2F] = .error (.unexpectedEnd needed remaining)) ∧
    (∃ rule, decode 0x20 [2, 1, 1, 0x2F, 2, 0x40, 0x64, 0] = .error (.violation rule) ∧
      rule = .lengthMismatch .clientSetup 8 7 ∧ rule.code = .protocolViolation) ∧
    (∃ p, m.encodePayload.complete = .ok p ∧ p.length ≤ 7 ∧ decode 0x20 p = .ok m) ∧
    ∃ rule, decode 0x10 [] = .error (.violation rule) ∧ rule.code = .protocolViolation := by
  intro m
  have hv : m.Valid := by decide
  have hp : m.encodePayload.complete = .ok [2, 1, 1, 0x2F, 2, 0x40, 0x64] := by decide
  obtain ⟨hread, hcut, hmore⟩ := payload_codec_exact.1 m _ hv hp
  obtain ⟨-, -, hagain⟩ := payload_codec_exact.2.1 _ _ m hread
  exact ⟨hv, hp, hread, hcut _ [2, 0x40, 0x64] rfl (by decide), hmore [0] (by decide), hagain,
    payload_codec_exact.2.2 0x10 [] (by decide)⟩

end Message

end MediaOverQuic
