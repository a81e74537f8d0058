import Mathlib.Tactic
import MediaOverQuic.Proofs.Datagram.Grammar

/-!
# Datagrams read back

A consistent datagram whose numbers can be written is written in one of its words, and no word of it
is shorter. So what was written is read back, and what was read is written again in no more bytes,
which is read as the same datagram.
-/
namespace MediaOverQuic

theorem Output.complete_append_eq_ok {a b : Output} {bytes : Bytes} :
    (a ++ b).complete = .ok bytes ↔
      ∃ xs ys, a.complete = .ok xs ∧ b.complete = .ok ys ∧ bytes = xs ++ ys := by
  obtain ⟨written, failure⟩ := a
  obtain ⟨written', failure'⟩ := b
  cases failure with
  | some e => simp [show (⟨written, some e⟩ : Output) ++ _ = ⟨written, some e⟩ from rfl, complete]
  | none =>
    rw [show (⟨written, none⟩ : Output) ++ ⟨written', failure'⟩ = ⟨written ++ written', failure'⟩
      from rfl]
    cases failure' <;> simp [complete, eq_comm]

theorem Varint.complete_put_eq_ok {v : Nat} {bytes : Bytes} :
    (put v).complete = .ok bytes ↔ v ≤ max ∧ bytes = encode v := by
  rcases Nat.lt_or_ge max v with h | h
  · simp [put_of_lt h, h]
  · simp [put_of_le h, h, eq_comm]

/-- The bytes of a part that may be missing. -/
def optionWire (wire : α → Bytes) : Option α → Bytes
  | some a => wire a
  | none => []

section

variable {words : α → Language UInt8} {wire : α → Bytes} {o : Option α} {word : Bytes}

theorem optionWire_mem_words (h : ∀ a, o = some a → wire a ∈ words a) :
    optionWire wire o ∈ optionWords words o := by
  cases o with
  | none => exact rfl
  | some a => exact h a rfl

theorem length_optionWire_le (h : ∀ a, word ∈ words a → (wire a).length ≤ word.length)
    (hw : word ∈ optionWords words o) : (optionWire wire o).length ≤ word.length := by
  cases o with
  | none => exact Nat.zero_le _
  | some a => exact h a hw

end

theorem Varint.width_zero_le (v : Nat) : width 0 ≤ width v := by
  unfold width
  split_ifs <;> omega

namespace DatagramBody

variable {body : DatagramBody} {word : Bytes}

theorem wire_mem_words (body : DatagramBody) : body.wire ∈ body.words := by
  cases body with
  | status s => exact Varint.encode_mem_words (by cases s <;> decide)
  | payload bytes => exact rfl

theorem length_wire_le (h : word ∈ body.words) : body.wire.length ≤ word.length := by
  cases body with
  | status s => exact (Varint.length_encode s.value).trans_le (Varint.le_of_mem_words h).2
  | payload bytes => exact (congrArg List.length (Set.mem_singleton_iff.mp h)).ge

end DatagramBody

namespace Datagram

variable {d : Datagram} {bytes : Bytes}

/-- The bytes that a datagram is written in. -/
def wire (d : Datagram) : Bytes :=
  Varint.encode d.kind.id ++ (Varint.encode d.trackAlias ++
    ((Varint.encode d.location.group ++ Varint.encode d.location.object) ++
      (optionWire (fun priority => [priority]) d.publisherPriority ++
        (optionWire (fun pairs => Varint.encode pairs.length ++ KeyValuePair.wireAll pairs)
          d.extensions ++ d.body.wire))))

/-- Whether the three numbers of a datagram can be written. -/
def InRange (d : Datagram) : Prop :=
  d.trackAlias ≤ Varint.max ∧ d.location.group ≤ Varint.max ∧ d.location.object ≤ Varint.max

instance (d : Datagram) : Decidable d.InRange := inferInstanceAs (Decidable (_ ∧ _))

/-- Behind the three numbers, whatever a datagram has can be written. -/
theorem encode_eq (hext : ∀ pairs, d.extensions = some pairs → KeyValuePair.Writable pairs) :
    d.encode = .ofBytes (Varint.encode d.kind.id) ++ Varint.put d.trackAlias ++ d.location.encode
      ++ .ofBytes (optionWire (fun priority => [priority]) d.publisherPriority)
      ++ .ofBytes (optionWire (fun pairs =>
          Varint.encode pairs.length ++ KeyValuePair.wireAll pairs) d.extensions)
      ++ .ofBytes d.body.wire := by
  rw [← Varint.put_of_le d.kind.id_le]
  refine congrArg₂ (· ++ ·) (congrArg₂ (· ++ ·) (congrArg₂ (· ++ ·) rfl ?_) ?_) ?_
  · cases d.publisherPriority <;> rfl
  · cases he : d.extensions with
    | none => rfl
    | some pairs => exact KeyValuePair.encodeList_of_valid (hext pairs he).1 (hext pairs he).2
  · cases d.body with
    | status s => exact Varint.put_of_le (by cases s <;> decide)
    | payload bytes => rfl

theorem complete_encode_eq_ok
    (hext : ∀ pairs, d.extensions = some pairs → KeyValuePair.Writable pairs) :
    d.encode.complete = .ok bytes ↔ d.InRange ∧ bytes = d.wire := by
  simp only [encode_eq hext, Location.encode, InRange, wire, Output.complete_append_eq_ok,
    Varint.complete_put_eq_ok, Output.complete_ofBytes, Except.ok.injEq]
  constructor
  · rintro ⟨_, _, ⟨_, _, ⟨_, _, ⟨_, _, ⟨_, _, rfl, ⟨ha, rfl⟩, rfl⟩, ⟨_, _, ⟨hg, rfl⟩, ⟨ho, rfl⟩,
      rfl⟩, rfl⟩, rfl, rfl⟩, rfl, rfl⟩, rfl, rfl⟩
    exact ⟨⟨ha, hg, ho⟩, by simp only [List.append_assoc]⟩
  · rintro ⟨⟨ha, hg, ho⟩, rfl⟩
    exact ⟨_, _, ⟨_, _, ⟨_, _, ⟨_, _, ⟨_, _, rfl, ⟨ha, rfl⟩, rfl⟩, ⟨_, _, ⟨hg, rfl⟩, ⟨ho, rfl⟩,
      rfl⟩, rfl⟩, rfl, rfl⟩, rfl, rfl⟩, rfl, by simp only [List.append_assoc]⟩

/-- A datagram is written in one of its words. -/
theorem wire_mem_words (hd : d.InRange)
    (hext : ∀ pairs, d.extensions = some pairs → KeyValuePair.Writable pairs) :
    d.wire ∈ d.words d.location.object := by
  obtain ⟨halias, hgroup, hobject⟩ := hd
  have hlocation := Language.append_mem_mul (Varint.encode_mem_words hgroup)
    (Varint.encode_mem_words hobject)
  have hpriority : optionWire (fun priority => [priority]) d.publisherPriority ∈
      optionWords (fun priority => {[priority]}) d.publisherPriority :=
    optionWire_mem_words fun _ _ => rfl
  have hextensions : _ ∈ optionWords KeyValuePair.listWords d.extensions :=
    optionWire_mem_words fun pairs he => KeyValuePair.wire_mem_listWords (hext pairs he)
  exact Language.append_mem_mul (Varint.encode_mem_words d.kind.id_le)
    (Language.append_mem_mul (Varint.encode_mem_words halias)
      (Language.append_mem_mul hlocation
        (Language.append_mem_mul hpriority
          (Language.append_mem_mul hextensions d.body.wire_mem_words))))

/-- Any word of a datagram, also one with another object id, is at least as long as the datagram
with object id zero written in the fewest bytes. -/
theorem of_mem_words {object : Nat} {word : Bytes} (h : word ∈ d.words object)
    (hobject : d.location.object = object ∨ d.location.object = 0) :
    (d.InRange ∧ ∀ pairs, d.extensions = some pairs → KeyValuePair.Writable pairs) ∧
      d.wire.length ≤ word.length := by
  obtain ⟨wkind, hkind, _, h₁, rfl⟩ := Language.mem_mul.mp h
  obtain ⟨walias, halias, _, h₂, rfl⟩ := Language.mem_mul.mp h₁
  obtain ⟨_, hlocation, _, h₃, rfl⟩ := Language.mem_mul.mp h₂
  obtain ⟨wgroup, hgroup, wobject, hob, rfl⟩ := Language.mem_mul.mp hlocation
  obtain ⟨wpriority, hpriority, _, h₄, rfl⟩ := Language.mem_mul.mp h₃
  obtain ⟨wextensions, hextensions, wbody, hbody, rfl⟩ := Language.mem_mul.mp h₄
  obtain ⟨-, lkind⟩ := Varint.le_of_mem_words hkind
  obtain ⟨maxalias, lalias⟩ := Varint.le_of_mem_words halias
  obtain ⟨maxgroup, lgroup⟩ := Varint.le_of_mem_words hgroup
  obtain ⟨maxobject, lobject⟩ : d.location.object ≤ Varint.max ∧
      Varint.width d.location.object ≤ wobject.length := by
    obtain ⟨hmax, hlen⟩ := Varint.le_of_mem_words hob
    rcases hobject with ho | ho
    · rw [ho]
      exact ⟨hmax, hlen⟩
    · rw [ho]
      exact ⟨Nat.zero_le _, (Varint.width_zero_le object).trans hlen⟩
  have lpriority : (optionWire (fun priority => [priority]) d.publisherPriority).length ≤
      wpriority.length :=
    length_optionWire_le (fun _ h => (congrArg List.length (Set.mem_singleton_iff.mp h)).ge)
      hpriority
  have lextensions := length_optionWire_le
    (fun _ h => (KeyValuePair.valid_of_mem_listWords h).2) hextensions
  have hwritable : ∀ pairs, d.extensions = some pairs → KeyValuePair.Writable pairs := by
    intro pairs he
    rw [he] at hextensions
    exact (KeyValuePair.valid_of_mem_listWords hextensions).1
  have lbody := DatagramBody.length_wire_le hbody
  refine ⟨⟨⟨maxalias, maxgroup, maxobject⟩, hwritable⟩, ?_⟩
  simp only [wire, List.length_append, Varint.length_encode] at lpriority lextensions ⊢
  omega

/-- What a consistent datagram is written in is read as that datagram. -/
theorem decode_of_complete (hc : d.Consistent)
    (hext : ∀ pairs, d.extensions = some pairs → KeyValuePair.Writable pairs)
    (h : d.encode.complete = .ok bytes) : decode bytes = (.ok d, []) := by
  obtain ⟨hrange, rfl⟩ := (complete_encode_eq_ok hext).mp h
  have hobject : d.location.object = if d.kind.objectId then d.location.object else 0 := by
    split_ifs with hid
    · rfl
    · exact hc.objectId (Bool.eq_false_iff.mpr hid)
  have hword := wire_mem_words hrange hext
  exact decode_of_starts hc (fun _ => rfl) hobject (Starts.nil_right.mpr hword)

/-- A datagram that was put together is written exactly when its three numbers can be, and is then
read back as it was, with nothing left over. -/
theorem decode_encode_of_build {trackAlias group : Nat} {parts : List DatagramPart}
    (hp : ∀ pairs, .extensions pairs ∈ parts → KeyValuePair.Writable pairs)
    (h : build trackAlias group parts = .ok d) :
    ((∃ bytes, d.encode.complete = .ok bytes) ↔ d.InRange) ∧
      ∀ bytes, d.encode.complete = .ok bytes → decode bytes = (.ok d, []) := by
  obtain ⟨hc, hext⟩ := consistent_of_build hp h
  constructor
  · constructor
    · rintro ⟨bytes, hb⟩
      exact ((complete_encode_eq_ok hext).mp hb).1
    · intro hrange
      exact ⟨d.wire, (complete_encode_eq_ok hext).mpr ⟨hrange, rfl⟩⟩
  · intro bytes hb
    exact decode_of_complete hc hext hb

/-- An empty list of extensions is there after reading, and an empty payload too. -/
theorem decode_encode_of_build_empty :
    ∃ d, build 7 300 [.extensions [], .objectId 5, .payload []] = .ok d ∧ d.extensions = some [] ∧
      (∃ bytes, d.encode.complete = .ok bytes) ∧
      ∀ bytes, d.encode.complete = .ok bytes → decode bytes = (.ok d, []) := by
  have hp : ∀ pairs, DatagramPart.extensions pairs ∈
      [.extensions [], .objectId 5, .payload []] → KeyValuePair.Writable pairs := by
    intro pairs hmem
    obtain rfl : pairs = [] := by simpa using hmem
    exact ⟨by simp, by decide⟩
  have hb : build 7 300 [.extensions [], .objectId 5, .payload []] = .ok ⟨⟨true, false, true, false,
      false⟩, 7, ⟨300, 5⟩, none, some [], .payload []⟩ := by decide
  have h := decode_encode_of_build hp hb
  exact ⟨_, hb, rfl, h.1.mpr (by decide), h.2⟩

end Datagram

end MediaOverQuic
