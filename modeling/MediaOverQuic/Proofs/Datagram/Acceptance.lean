import Mathlib.Tactic
import MediaOverQuic.Proofs.Datagram.RoundTrip

/-!
# What is read as a datagram

The grammar of datagrams goes by the bits of the number in front: which parts stand behind it, and
whether they end in a status or go on to the end. Reading succeeds on exactly the byte strings of
this grammar. Numbers may be written in more bytes than they need and an object id may stand where
the kind has none, so writing what was read again can only make it shorter, and does so once.
-/
namespace MediaOverQuic

/-- The words of a part, if it is there. -/
def optional (present : Bool) (L : Language UInt8) : Language UInt8 := if present then L else 1

theorem mem_optional_iff {words : α → Language UInt8} {present : Bool} {word : Bytes} :
    word ∈ optional present (⨆ a, words a) ↔
      ∃ o : Option α, o.isSome = present ∧ word ∈ optionWords words o := by
  cases present with
  | true =>
    rw [optional, if_pos rfl, Language.mem_iSup]
    constructor
    · rintro ⟨a, h⟩
      exact ⟨some a, rfl, h⟩
    · rintro ⟨o, ho, h⟩
      obtain ⟨a, rfl⟩ := Option.isSome_iff_exists.mp ho
      exact ⟨a, h⟩
  | false =>
    rw [optional, if_neg (by decide)]
    constructor
    · intro h
      exact ⟨none, rfl, h⟩
    · rintro ⟨o, ho, h⟩
      obtain rfl : o = none := by simpa using ho
      exact h

namespace KeyValuePair

/-- The byte strings that any pair may be written in. -/
def pair : Language UInt8 := ⨆ p, words p

/-- The byte strings that any list of pairs may be written in: a number, and that many pairs. -/
def pairList : Language UInt8 := ⨆ n, Varint.words n * pair ^ n

theorem mem_pair_pow_iff {n : Nat} {word : Bytes} :
    word ∈ pair ^ n ↔
      ∃ pairs : List KeyValuePair, pairs.length = n ∧ word ∈ (pairs.map words).prod := by
  induction n generalizing word with
  | zero => simp
  | succ n ih =>
    rw [pow_succ']
    constructor
    · intro h
      obtain ⟨front, hfront, back, hback, rfl⟩ := Language.mem_mul.mp h
      obtain ⟨p, hp⟩ := Language.mem_iSup.mp hfront
      obtain ⟨pairs, rfl, hps⟩ := ih.mp hback
      exact ⟨p :: pairs, rfl, Language.append_mem_mul hp hps⟩
    · rintro ⟨_ | ⟨p, pairs⟩, hl, h⟩
      · cases hl
      · rw [List.map_cons, List.prod_cons] at h
        obtain ⟨front, hp, back, hps, rfl⟩ := Language.mem_mul.mp h
        exact Language.append_mem_mul (Language.mem_iSup.mpr ⟨p, hp⟩)
          (ih.mpr ⟨pairs, Nat.succ.inj hl, hps⟩)

theorem pairList_eq : pairList = ⨆ pairs, listWords pairs := by
  ext word
  rw [pairList, Language.mem_iSup, Language.mem_iSup]
  constructor
  · rintro ⟨n, h⟩
    obtain ⟨front, hn, back, hback, rfl⟩ := Language.mem_mul.mp h
    obtain ⟨pairs, rfl, hps⟩ := mem_pair_pow_iff.mp hback
    exact ⟨pairs, Language.append_mem_mul hn hps⟩
  · rintro ⟨pairs, h⟩
    obtain ⟨front, hn, back, hps, rfl⟩ := Language.mem_mul.mp h
    exact ⟨pairs.length, Language.append_mem_mul hn (mem_pair_pow_iff.mpr ⟨pairs, rfl, hps⟩)⟩

end KeyValuePair

namespace Datagram

/-- Any number, of any width. -/
def number : Language UInt8 := ⨆ v, Varint.words v

/-- Any single byte. -/
def octet : Language UInt8 := ⨆ b : UInt8, {[b]}

/-- The numbers that stand for a status. -/
def statusNumbers : Finset Nat := {0, 1, 3, 4}

/-- What stands at the end: a status, or any bytes. -/
def ending (status : Bool) : Language UInt8 :=
  if status then ⨆ v ∈ statusNumbers, Varint.words v else ⊤

/-- The byte strings of datagrams whose kind has the number `id`. -/
def grammar (id : Nat) : Language UInt8 :=
  Varint.words id * (number * ((number * number) * (optional (!id.testBit 3) octet *
    (optional (id.testBit 0) KeyValuePair.pairList * ending (id.testBit 5)))))

variable {d : Datagram} {bytes rest word : Bytes}

theorem mem_statusNumbers_iff {v : Nat} : v ∈ statusNumbers ↔ ∃ s : ObjectStatus, v = s.value := by
  constructor
  · intro h
    simp only [statusNumbers, Finset.mem_insert, Finset.mem_singleton] at h
    rcases h with rfl | rfl | rfl | rfl
    · exact ⟨.normal, rfl⟩
    · exact ⟨.doesNotExist, rfl⟩
    · exact ⟨.endOfGroup, rfl⟩
    · exact ⟨.endOfTrack, rfl⟩
  · rintro ⟨s, rfl⟩
    cases s <;> decide

theorem mem_ending_iff {status : Bool} :
    word ∈ ending status ↔ ∃ body : DatagramBody, word ∈ body.words ∧ body.isStatus = status := by
  cases status with
  | true =>
    simp only [ending, if_true, Language.mem_iSup, exists_prop]
    constructor
    · rintro ⟨v, hv, h⟩
      obtain ⟨s, rfl⟩ := mem_statusNumbers_iff.mp hv
      exact ⟨.status s, h, rfl⟩
    · rintro ⟨s | bytes, h, hs⟩
      · exact ⟨s.value, mem_statusNumbers_iff.mpr ⟨s, rfl⟩, h⟩
      · cases hs
  | false =>
    constructor
    · intro _
      exact ⟨.payload word, rfl, rfl⟩
    · intro _
      exact Set.mem_univ word

/-- The words of a consistent datagram follow the grammar. -/
theorem mem_grammar_of_mem_words {object : Nat} (hc : d.Consistent) (h : word ∈ d.words object) :
    word ∈ grammar d.kind.id := by
  have hnumber (v : Nat) : Varint.words v ≤ number := le_iSup Varint.words v
  have hpriority : optionWords (fun priority => {[priority]}) d.publisherPriority ≤
      optional (!d.kind.id.testBit 3) octet := by
    intro w hw
    rw [DatagramKind.testBit_priority, Bool.not_not]
    exact mem_optional_iff.mpr ⟨_, hc.priority, hw⟩
  have hextensions : optionWords KeyValuePair.listWords d.extensions ≤
      optional (d.kind.id.testBit 0) KeyValuePair.pairList := by
    intro w hw
    rw [DatagramKind.testBit_extensions, KeyValuePair.pairList_eq]
    exact mem_optional_iff.mpr ⟨_, hc.extensions, hw⟩
  have hbody : d.body.words ≤ ending (d.kind.id.testBit 5) := by
    intro w hw
    rw [DatagramKind.testBit_status]
    exact mem_ending_iff.mpr ⟨d.body, hw, d.isSome_status?.symm.trans hc.status⟩
  have hgrammar : d.words object ≤ grammar d.kind.id :=
    mul_le_mul' le_rfl (mul_le_mul' (hnumber _) (mul_le_mul' (mul_le_mul' (hnumber _) (hnumber _))
      (mul_le_mul' hpriority (mul_le_mul' hextensions hbody))))
  exact hgrammar h

/-- What follows the grammar is a word of a consistent datagram, with some object id. -/
theorem exists_mem_words_of_mem_grammar {id : Nat} (hid : DatagramKind.IsNumber id)
    (h : word ∈ grammar id) :
    ∃ (d : Datagram) (object : Nat), d.kind.id = id ∧ d.Consistent ∧
      d.location.object = (if d.kind.objectId then object else 0) ∧ word ∈ d.words object := by
  obtain ⟨kind, rfl⟩ : ∃ kind : DatagramKind, kind.id = id :=
    ⟨.ofBits id, DatagramKind.id_ofBits hid.1 hid.2.1⟩
  obtain ⟨wkind, hkind, _, h₁, rfl⟩ := Language.mem_mul.mp h
  obtain ⟨walias, halias, _, h₂, rfl⟩ := Language.mem_mul.mp h₁
  obtain ⟨_, hlocation, _, h₃, rfl⟩ := Language.mem_mul.mp h₂
  obtain ⟨wgroup, hgroup, wobject, hobject, rfl⟩ := Language.mem_mul.mp hlocation
  obtain ⟨wpriority, hpriority, _, h₄, rfl⟩ := Language.mem_mul.mp h₃
  obtain ⟨wextensions, hextensions, wbody, hbody, rfl⟩ := Language.mem_mul.mp h₄
  obtain ⟨trackAlias, halias⟩ := Language.mem_iSup.mp halias
  obtain ⟨group, hgroup⟩ := Language.mem_iSup.mp hgroup
  obtain ⟨object, hobject⟩ := Language.mem_iSup.mp hobject
  rw [DatagramKind.testBit_priority, Bool.not_not] at hpriority
  rw [DatagramKind.testBit_extensions, KeyValuePair.pairList_eq] at hextensions
  rw [DatagramKind.testBit_status] at hbody
  obtain ⟨priority, hp, hpriority⟩ := mem_optional_iff.mp hpriority
  obtain ⟨extensions, he, hextensions⟩ := mem_optional_iff.mp hextensions
  obtain ⟨body, hbody, hs⟩ := mem_ending_iff.mp hbody
  let d : Datagram := ⟨kind, trackAlias, ⟨group, if kind.objectId then object else 0⟩, priority,
    extensions, body⟩
  have hc : d.Consistent := {
    objectId := by
      intro (hno : kind.objectId = false)
      simp [d, hno]
    priority := hp
    extensions := he
    status := d.isSome_status?.trans hs
    endOfGroup := (DatagramKind.isNumber_id_iff kind).mp hid }
  refine ⟨d, object, rfl, hc, rfl, ?_⟩
  exact Language.append_mem_mul hkind (Language.append_mem_mul halias
    (Language.append_mem_mul (Language.append_mem_mul hgroup hobject)
      (Language.append_mem_mul hpriority (Language.append_mem_mul hextensions hbody))))

/-- Reading succeeds on exactly what starts with a word of the grammar, and on nothing more if that
ends in a payload. -/
theorem exists_decode_iff : (∃ d, decode bytes = (.ok d, rest)) ↔
    ∃ id, DatagramKind.IsNumber id ∧ Starts (grammar id) bytes rest ∧
      (id.testBit 5 = false → rest = []) := by
  constructor
  · rintro ⟨d, h⟩
    obtain ⟨hc, hrest, object, -, word, hword, rfl⟩ := starts_of_decode h
    refine ⟨d.kind.id, (DatagramKind.isNumber_id_iff d.kind).mpr hc.endOfGroup,
      .of_mem (mem_grammar_of_mem_words hc hword) rest, ?_⟩
    rwa [DatagramKind.testBit_status]
  · rintro ⟨id, hid, ⟨word, hword, rfl⟩, hrest⟩
    obtain ⟨d, object, rfl, hc, hobject, hword⟩ := exists_mem_words_of_mem_grammar hid hword
    rw [DatagramKind.testBit_status] at hrest
    exact ⟨d, decode_of_starts hc hrest hobject (.of_mem hword rest)⟩

/-- What was read can be written, in no more bytes, and these are read as the same. -/
theorem encode_of_decode (h : decode bytes = (.ok d, rest)) :
    ∃ front, front ++ rest = bytes ∧ ∃ again, d.encode.complete = .ok again ∧
      again.length ≤ front.length ∧ decode again = (.ok d, []) := by
  obtain ⟨hc, -, object, hobject, word, hword, rfl⟩ := starts_of_decode h
  have ho : d.location.object = object ∨ d.location.object = 0 := by
    split_ifs at hobject
    · exact .inl hobject
    · exact .inr hobject
  obtain ⟨⟨hrange, hext⟩, hlength⟩ := of_mem_words hword ho
  have hagain := (complete_encode_eq_ok hext).mpr ⟨hrange, rfl⟩
  exact ⟨word, rfl, d.wire, hagain, hlength, decode_of_complete hc hext hagain⟩

/-- The object id is zero when the kind has none. -/
theorem object_eq_zero {id : Nat} {middle : Bytes} (h : decode bytes = (.ok d, rest))
    (hid : Starts (Varint.words id) bytes middle) (hbit : id.testBit 2 = true) :
    d.location.object = 0 := by
  obtain ⟨hc, -, object, -, hwords⟩ := starts_of_decode h
  obtain ⟨middle', hkind, -⟩ := Starts.mul_iff.mp hwords
  obtain ⟨rfl, -⟩ := Varint.reads_decode.unique hid hkind
  rw [DatagramKind.testBit_objectId, Bool.not_eq_true'] at hbit
  exact hc.objectId hbit

/-- Reading accepts exactly the grammar of datagrams; where the kind has no object id, it is zero,
whatever stands in its place; and what was read is written again in no more bytes, once and for
all. -/
theorem decode_accepts (bytes : Bytes) :
    (∀ rest, (∃ d, decode bytes = (.ok d, rest)) ↔
      ∃ id, DatagramKind.IsNumber id ∧ Starts (grammar id) bytes rest ∧
        (id.testBit 5 = false → rest = [])) ∧
      ∀ d rest, decode bytes = (.ok d, rest) →
        (∀ id middle, Starts (Varint.words id) bytes middle → id.testBit 2 = true →
          d.location.object = 0) ∧
        ∃ front, front ++ rest = bytes ∧ ∃ again, d.encode.complete = .ok again ∧
          again.length ≤ front.length ∧ decode again = (.ok d, []) := by
  refine ⟨fun rest => exists_decode_iff, ?_⟩
  intro d rest h
  refine ⟨?_, encode_of_decode h⟩
  intro id middle hid hbit
  exact object_eq_zero h hid hbit

/-- A kind in two bytes that has no object id, and 5 in its place. -/
theorem decode_accepts_wide : ∃ d, decode [0x40, 0x0C, 7, 1, 5, 0xAA] = (.ok d, []) ∧
    d.location.object = 0 ∧ ∃ again, d.encode.complete = .ok again ∧ again.length ≤ 6 ∧
      decode again = (.ok d, []) := by
  have hd : decode [0x40, 0x0C, 7, 1, 5, 0xAA] =
      (.ok ⟨⟨false, false, false, false, false⟩, 7, ⟨1, 0⟩, none, none, .payload [0xAA]⟩, []) := by
    decide
  obtain ⟨hobject, front, hfront, again, hagain, hlength, hback⟩ := (decode_accepts _).2 _ _ hd
  have hid : Starts (Varint.words 12) [0x40, 0x0C, 7, 1, 5, 0xAA] [7, 1, 5, 0xAA] :=
    Varint.reads_decode.mp (by decide)
  obtain rfl : front = [0x40, 0x0C, 7, 1, 5, 0xAA] := by simpa using hfront
  exact ⟨_, hd, hobject 12 _ hid (by decide), again, hagain, hlength, hback⟩

end Datagram

end MediaOverQuic
