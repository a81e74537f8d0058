import Mathlib.Tactic
import MediaOverQuic.Proofs.Control.Frame
import MediaOverQuic.Proofs.Model.PairGrammar

/-!
# What stands in front of a control stream

Whatever the bytes of a stream are, there is a frame in front of them, or a header that declares too
long a payload, or the first frame is not complete. A frame is one of a setup message when its type
says so and its payload is a list of parameters and nothing else; all other payloads are refused,
and only one with parameters that declare too long a value with a code of its own.
-/
namespace MediaOverQuic

theorem MessageType.ofValue_eq_ok_iff {v : Nat} {t : MessageType} :
    ofValue v = .ok t ↔ v = t.value := by
  constructor
  · intro h
    unfold ofValue lookUp at h
    split at h
    · next t' hfind =>
      obtain rfl := Except.ok.inj h
      have hv := List.find?_some hfind
      exact (of_decide_eq_true hv).symm
    · cases h
  · rintro rfl
    exact ofValue_value t

/-- The type of a side's setup message. -/
def MessageType.setup : Role → MessageType
  | .client => clientSetup
  | .server => serverSetup

namespace Message

variable {typeId : Nat} {payload : Bytes} {m : Message}

theorem decode_eq_ok_iff : decode typeId payload = .ok m ↔
    ∃ t, typeId = MessageType.value t ∧ decodeContent t payload = (.ok m, []) := by
  unfold decode
  constructor
  · intro h
    split at h
    · cases h
    · next t ht =>
      refine ⟨t, MessageType.ofValue_eq_ok_iff.mp ht, ?_⟩
      split at h
      · cases h
      · next m' hm =>
        obtain rfl := Except.ok.inj h
        exact hm
      · cases h
  · rintro ⟨t, rfl, hm⟩
    simp only [MessageType.ofValue_value, hm]

theorem decodeContent_setup (r : Role) : decodeContent (.setup r) = do
    return Message.setup r (← KeyValuePair.decodeList) := by
  cases r <;> rfl

/-- The payloads that a message may be written with. -/
def words : Message → Language UInt8
  | clientSetup params | serverSetup params => KeyValuePair.listWords params
  | maxRequestId limit | requestsBlocked limit => Varint.words limit

/-- The content of a message is all of its payload, whatever its type is. -/
theorem decodeContent_eq_ok_iff {t : MessageType} :
    decodeContent t payload = (.ok m, []) ↔ t = m.type ∧ payload ∈ m.words := by
  constructor
  · intro h
    cases t
    case clientSetup | serverSetup =>
      obtain ⟨params, middle, hparams, hm⟩ := Decoder.bind_eq_ok.mp h
      obtain ⟨rfl, rfl⟩ := by simpa using hm
      exact ⟨rfl, Starts.nil_right.mp (KeyValuePair.reads_decodeList.mp hparams)⟩
    case maxRequestId | requestsBlocked =>
      obtain ⟨limit, middle, hlimit, hm⟩ := Decoder.bind_eq_ok.mp h
      obtain ⟨rfl, rfl⟩ := by simpa using hm
      exact ⟨rfl, Starts.nil_right.mp (Varint.reads_decode.mp hlimit)⟩
    all_goals cases h
  · rintro ⟨rfl, h⟩
    have hstarts := Starts.nil_right.mpr h
    cases m with
    | clientSetup params | serverSetup params =>
      exact Decoder.bind_of_ok (KeyValuePair.reads_decodeList.mpr hstarts)
    | maxRequestId limit | requestsBlocked limit =>
      exact Decoder.bind_of_ok (Varint.reads_decode.mpr hstarts)

theorem decode_eq_ok_iff_mem_words :
    decode typeId payload = .ok m ↔ typeId = m.type.value ∧ payload ∈ m.words := by
  rw [decode_eq_ok_iff]
  constructor
  · rintro ⟨t, rfl, h⟩
    obtain ⟨rfl, hwords⟩ := decodeContent_eq_ok_iff.mp h
    exact ⟨rfl, hwords⟩
  · rintro ⟨rfl, h⟩
    exact ⟨m.type, rfl, decodeContent_eq_ok_iff.mpr ⟨rfl, h⟩⟩

/-- A setup message is read from a payload that is a list of parameters. -/
theorem decode_eq_setup_iff {r : Role} {params : List KeyValuePair} :
    decode typeId payload = .ok (.setup r params) ↔
      typeId = (MessageType.setup r).value ∧ payload ∈ KeyValuePair.listWords params := by
  rw [decode_eq_ok_iff_mem_words]
  cases r <;> rfl

/-- Whether a payload of a setup message has a parameter that declares too long a value. -/
def Misformatted (typeId : Nat) (payload : Bytes) : Prop :=
  (typeId = 0x20 ∨ typeId = 0x21) ∧ KeyValuePair.Oversized payload

theorem misformatted_setup {r : Role} :
    Misformatted (MessageType.setup r).value payload ↔ KeyValuePair.Oversized payload := by
  cases r <;> simp [Misformatted, MessageType.setup, MessageType.value]

theorem exists_setup_of_misformatted {t : MessageType} (h : Misformatted t.value payload) :
    ∃ r, t = .setup r := by
  rcases h.1 with ht | ht
  · exact ⟨.client, by cases t <;> first | rfl | cases ht⟩
  · exact ⟨.server, by cases t <;> first | rfl | cases ht⟩

/-- Parameters that could all be read are not too long. -/
theorem not_oversized_of_decodeContent {r : Role} {left : Bytes}
    (h : decodeContent (.setup r) payload = (.ok m, left)) : ¬ KeyValuePair.Oversized payload := by
  rw [decodeContent_setup] at h
  obtain ⟨params, middle, hparams, -⟩ := Decoder.bind_eq_ok.mp h
  exact KeyValuePair.not_oversized_of_starts (KeyValuePair.reads_decodeList.mp hparams)

theorem not_misformatted_of_decode (h : decode typeId payload = .ok m) :
    ¬ Misformatted typeId payload := by
  intro hm
  obtain ⟨t, rfl, hcontent⟩ := decode_eq_ok_iff.mp h
  obtain ⟨r, rfl⟩ := exists_setup_of_misformatted hm
  exact not_oversized_of_decodeContent hcontent (misformatted_setup.mp hm)

/-- What is wrong with parameters is a matter of key-value pairs only if one declared too much. -/
theorem code_of_decodeContent_setup {r : Role} {e : Error} {left : Bytes}
    (h : decodeContent (.setup r) payload = (.error e, left)) :
    (KeyValuePair.Oversized payload ∧ e.code = .keyValueFormattingError) ∨
      (¬ KeyValuePair.Oversized payload ∧ e.code = .protocolViolation) := by
  rw [decodeContent_setup] at h
  rcases Decoder.bind_eq_error.mp h with h | ⟨params, middle, -, h⟩
  · exact KeyValuePair.code_of_decodeList h
  · cases h

theorem code_of_decodeContent {t : MessageType} {e : Error} {left : Bytes}
    (ht : ∀ r, t ≠ .setup r) (h : decodeContent t payload = (.error e, left)) :
    e.code = .protocolViolation := by
  cases t
  case clientSetup => exact absurd rfl (ht .client)
  case serverSetup => exact absurd rfl (ht .server)
  case maxRequestId | requestsBlocked =>
    rcases Decoder.bind_eq_error.mp h with h | ⟨v, middle, -, h⟩
    · obtain ⟨needed, remaining, rfl⟩ := Varint.onlyCutShort_decode h
      rfl
    · cases h
  all_goals
    cases h
    rfl

/-- What is wrong with the content of a message is a matter of key-value pairs only if one of the
parameters declared too much. -/
theorem code_of_decode {e : Error} (h : decode typeId payload = .error e) :
    (Misformatted typeId payload ∧ e.code = .keyValueFormattingError) ∨
      (¬ Misformatted typeId payload ∧ e.code = .protocolViolation) := by
  unfold decode at h
  split at h
  · next u hu =>
    obtain rfl := Except.error.inj h
    refine .inr ⟨?_, rfl⟩
    rintro ⟨rfl | rfl, -⟩ <;> cases hu
  · next t ht =>
    obtain rfl := MessageType.ofValue_eq_ok_iff.mp ht
    by_cases hr : ∃ r, t = .setup r
    · obtain ⟨r, rfl⟩ := hr
      rw [misformatted_setup]
      split at h
      · next e' left he =>
        obtain rfl := Except.error.inj h
        exact code_of_decodeContent_setup he
      · cases h
      · next m left _ hm =>
        obtain rfl := Except.error.inj h
        exact .inr ⟨not_oversized_of_decodeContent hm, rfl⟩
    · refine .inr ⟨fun hm => hr (exists_setup_of_misformatted hm), ?_⟩
      split at h
      · next e' left he =>
        obtain rfl := Except.error.inj h
        exact code_of_decodeContent (not_exists.mp hr) he
      · cases h
      · obtain rfl := Except.error.inj h
        rfl

end Message

namespace Frame

/-- The byte strings that the header of a frame may be written in. -/
def header (typeId length : Nat) : Language UInt8 := Varint.words typeId * Varint.words length

/-- The byte strings that a frame may be written in. -/
def words (typeId : Nat) (payload : Bytes) : Language UInt8 :=
  header typeId payload.length * {payload}

variable {limit : Nat} {bytes rest : Bytes}

/-- Whether `bytes` are a complete frame, of a length that is accepted, and then `rest`. -/
def Opens (limit : Nat) (bytes : Bytes) (typeId : Nat) (payload rest : Bytes) : Prop :=
  payload.length ≤ limit ∧ Starts (words typeId payload) bytes rest

/-- Whether there is a complete header in front that declares too long a payload. -/
def Overlong (limit : Nat) (bytes : Bytes) : Prop :=
  ∃ typeId length rest, limit < length ∧ Starts (header typeId length) bytes rest

/-- Whether the first frame may still become one that is accepted, but is not complete. -/
def Incomplete (limit : Nat) (bytes : Bytes) : Prop :=
  ¬ Overlong limit bytes ∧ ∀ typeId payload rest, ¬ Opens limit bytes typeId payload rest

theorem scan_of_overlong {typeId length : Nat} (hl : limit < length)
    (h : Starts (header typeId length) bytes rest) :
    scan limit bytes = .ready (.error (.violation (.frameTooLong length limit)), rest) := by
  obtain ⟨middle, ht, hlen⟩ := Starts.mul_iff.mp h
  rw [scan, Scan.bind_of_ready (Scan.varint_eq_ready_iff.mpr ht),
    Scan.bind_of_ready (Scan.varint_eq_ready_iff.mpr hlen), if_pos hl]
  rfl

theorem scan_of_opens {typeId : Nat} {payload : Bytes} (h : Opens limit bytes typeId payload rest) :
    scan limit bytes = .ready (Message.decode typeId payload, rest) := by
  obtain ⟨hl, h⟩ := h
  obtain ⟨back, hheader, hpayload⟩ := Starts.mul_iff.mp h
  obtain ⟨middle, ht, hlen⟩ := Starts.mul_iff.mp hheader
  have hexact : Scan.exactly payload.length back = .ready (payload, rest) :=
    Scan.exactly_eq_ready_iff.mpr ⟨rfl, Starts.singleton_iff.mp hpayload⟩
  rw [scan, Scan.bind_of_ready (Scan.varint_eq_ready_iff.mpr ht),
    Scan.bind_of_ready (Scan.varint_eq_ready_iff.mpr hlen), if_neg (Nat.not_lt.mpr hl),
    Scan.bind_of_ready hexact]
  rfl

/-- A scan is ready with a frame or with a header that is refused. -/
theorem scan_eq_ready {result : Except Error Message}
    (h : scan limit bytes = .ready (result, rest)) :
    (∃ typeId length, limit < length ∧ Starts (header typeId length) bytes rest ∧
      result = .error (.violation (.frameTooLong length limit))) ∨
    ∃ typeId payload, Opens limit bytes typeId payload rest ∧
      result = Message.decode typeId payload := by
  obtain ⟨typeId, middle, ht, h⟩ := Scan.bind_eq_ready h
  obtain ⟨length, back, hlen, h⟩ := Scan.bind_eq_ready h
  have hheader : Starts (header typeId length) bytes back := Starts.mul_iff.mpr
    ⟨middle, Scan.varint_eq_ready_iff.mp ht, Scan.varint_eq_ready_iff.mp hlen⟩
  split_ifs at h with hl
  · obtain ⟨rfl, rfl⟩ := by simpa using h
    exact .inl ⟨typeId, length, hl, hheader, rfl⟩
  · obtain ⟨payload, rest', hexact, h⟩ := Scan.bind_eq_ready h
    obtain ⟨rfl, rfl⟩ := by simpa using h
    obtain ⟨rfl, hback⟩ := Scan.exactly_eq_ready hexact
    exact .inr ⟨typeId, payload, ⟨Nat.not_lt.mp hl,
      Starts.mul_iff.mpr ⟨back, hheader, Starts.singleton_iff.mpr hback⟩⟩, rfl⟩

/-- Whether `bytes` are a frame of `m`, of a length that is accepted, and then `rest`. -/
def Holds (limit : Nat) (bytes : Bytes) (m : Message) (rest : Bytes) : Prop :=
  ∃ payload ∈ m.words, Opens limit bytes m.type.value payload rest

theorem scan_eq_ok_iff {m : Message} :
    scan limit bytes = .ready (.ok m, rest) ↔ Holds limit bytes m rest := by
  constructor
  · intro h
    rcases scan_eq_ready h with ⟨_, _, -, -, he⟩ | ⟨typeId, payload, hopens, hdecode⟩
    · cases he
    · obtain ⟨rfl, hwords⟩ := Message.decode_eq_ok_iff_mem_words.mp hdecode.symm
      exact ⟨payload, hwords, hopens⟩
  · rintro ⟨payload, hwords, hopens⟩
    rw [scan_of_opens hopens, Message.decode_eq_ok_iff_mem_words.mpr ⟨rfl, hwords⟩]

theorem Holds.length_lt {m : Message} (h : Holds limit bytes m rest) :
    rest.length < bytes.length := by
  obtain ⟨payload, -, -, hstarts⟩ := h
  obtain ⟨back, hheader, hpayload⟩ := Starts.mul_iff.mp hstarts
  obtain ⟨middle, htype, hlength⟩ := Starts.mul_iff.mp hheader
  have hpos : 1 + middle.length ≤ bytes.length := by
    refine htype.length_le ?_
    rintro word ⟨first, more, rfl, -⟩
    exact Nat.le_add_left 1 more.length
  have hback := hlength.suffix.length_le
  have hrest := hpayload.suffix.length_le
  omega

theorem incomplete_iff :
    Incomplete limit bytes ↔ ∃ count atEnd, scan limit bytes = .more count atEnd := by
  constructor
  · rintro ⟨hover, hopens⟩
    cases h : scan limit bytes with
    | more count atEnd => exact ⟨count, atEnd, rfl⟩
    | ready found =>
      obtain ⟨result, rest⟩ := found
      rcases scan_eq_ready h with ⟨typeId, length, hl, hs, -⟩ | ⟨typeId, payload, ho, -⟩
      · exact absurd ⟨typeId, length, rest, hl, hs⟩ hover
      · exact absurd ho (hopens typeId payload rest)
  · rintro ⟨count, atEnd, h⟩
    constructor
    · rintro ⟨typeId, length, rest, hl, hs⟩
      cases h.symm.trans (scan_of_overlong hl hs)
    · intro typeId payload rest ho
      cases h.symm.trans (scan_of_opens ho)

/-- What whoever reads the first frame gets to know, and the bytes that are left: what the frame
holds, or that the stream ended, or, when nothing more comes, that it waited too long. -/
def heard (limit : Nat) (ends : Bool) (patience : Duration) (bytes : Bytes) :
    Except Error Message × Bytes :=
  match scan limit bytes with
  | .ready (result, rest) => (result, rest)
  | .more _ atEnd => (.error (if ends then .transport atEnd else .timeout patience), [])

end Frame

end MediaOverQuic
