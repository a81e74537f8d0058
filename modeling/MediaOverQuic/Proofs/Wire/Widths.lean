import Mathlib.Tactic
import MediaOverQuic.Proofs.Wire.Grammar

/-!
# Numbers in every width

A number may be written in each of the four widths that it fits into, and in no other way. Writing
takes the narrowest of them and appends all of its bytes or none. Reading looks at the first byte
only to tell how many there must be, and then takes exactly those or nothing.
-/
namespace MediaOverQuic

theorem ofBigEndian_eq (high : Nat) (bytes : Bytes) :
    ofBigEndian high bytes = high * 256 ^ bytes.length + ofBigEndian 0 bytes := by
  induction bytes using List.reverseRecOn with
  | nil => simp
  | append_singleton bytes b ih =>
    simp only [ofBigEndian_append, ofBigEndian_cons, ofBigEndian_nil, List.length_append,
      List.length_singleton]
    rw [ih, Nat.pow_succ, Nat.add_mul, Nat.mul_assoc, Nat.add_assoc]

/-- Writing what bytes spell gives these bytes again, whatever they were spelt behind. -/
theorem bigEndian_ofBigEndian (high : Nat) (bytes : Bytes) :
    bigEndian bytes.length (ofBigEndian high bytes) = bytes := by
  induction bytes using List.reverseRecOn with
  | nil => rfl
  | append_singleton bytes b ih =>
    have hb := b.toNat_lt
    have hdiv : (ofBigEndian high bytes * 256 + b.toNat) / 256 = ofBigEndian high bytes := by omega
    have hmod : (ofBigEndian high bytes * 256 + b.toNat) % 256 = b.toNat := by omega
    rw [ofBigEndian_append, ofBigEndian_cons, ofBigEndian_nil, List.length_append,
      List.length_singleton, bigEndian, hdiv, hmod, ih, UInt8.ofNat_toNat]

namespace Varint

/-! ## The words of each width -/

def widths : List Nat := [1, 2, 4, 8]

/-- The two top bits of a width are those that declare it. -/
theorem widths_eq {n : Nat} (h : n ∈ widths) :
    ∃ k, n = k + 1 ∧ 2 ^ tag (k + 1) = k + 1 ∧ tag (k + 1) < 4 := by
  fin_cases h
  · exact ⟨0, rfl, rfl, by decide⟩
  · exact ⟨1, rfl, rfl, by decide⟩
  · exact ⟨3, rfl, rfl, by decide⟩
  · exact ⟨7, rfl, rfl, by decide⟩

theorem declaredWidth_mem_widths (first : UInt8) : declaredWidth first ∈ widths := by
  rcases declaredWidth_cases first with h | h | h | h <;> rw [h] <;> decide

theorem tag_declaredWidth (first : UInt8) : tag (declaredWidth first) = first.toNat / 64 := by
  have hlt := first.toNat_lt
  have h : first.toNat / 64 = 0 ∨ first.toNat / 64 = 1 ∨ first.toNat / 64 = 2 ∨
      first.toNat / 64 = 3 := by omega
  unfold declaredWidth
  rcases h with h | h | h | h <;> rw [h] <;> rfl

/-- The bytes of a number are what it is written as in their width. -/
theorem encodeIn_value {first : UInt8} {back : Bytes}
    (h : declaredWidth first = back.length + 1) :
    encodeIn (back.length + 1) (value (first :: back)) = first :: back := by
  have htag := tag_declaredWidth first
  have hfirst := Nat.div_add_mod first.toNat 64
  have hvalue : tag (back.length + 1) <<< (8 * (back.length + 1) - 2) + value (first :: back) =
      ofBigEndian 0 (first :: back) := by
    rw [Nat.shiftLeft_eq, two_pow_width, ← h, htag, value, ofBigEndian_cons, Nat.zero_mul,
      Nat.zero_add, ofBigEndian_eq, ofBigEndian_eq first.toNat, ← Nat.add_assoc, ← Nat.mul_assoc,
      ← Nat.add_mul, Nat.mul_comm _ 64, hfirst]
  rw [encodeIn, hvalue]
  exact bigEndian_ofBigEndian 0 (first :: back)

/-- A number has one word for each width that it fits into. -/
theorem mem_words_iff {v : Nat} {word : Bytes} :
    word ∈ words v ↔ ∃ n ∈ widths, v < 2 ^ (8 * n - 2) ∧ word = encodeIn n v := by
  constructor
  · rintro ⟨first, back, rfl, hw, rfl⟩
    refine ⟨declaredWidth first, declaredWidth_mem_widths first, ?_, ?_⟩
    · rw [hw, List.length_cons, two_pow_width]
      exact value_lt first back
    · rw [hw]
      exact (encodeIn_value hw).symm
  · rintro ⟨n, hn, hv, rfl⟩
    obtain ⟨k, rfl, hw, ht⟩ := widths_eq hn
    rw [two_pow_width] at hv
    obtain ⟨first, back, he, hdeclared, hvalue⟩ := exists_encodeIn_eq_cons hv hw ht
    exact he ▸ cons_mem_words.mpr ⟨hdeclared, hvalue⟩

theorem starts_words_iff {v : Nat} {bytes rest : Bytes} :
    Starts (words v) bytes rest ↔
      ∃ n ∈ widths, v < 2 ^ (8 * n - 2) ∧ bytes = encodeIn n v ++ rest := by
  constructor
  · rintro ⟨word, hword, rfl⟩
    obtain ⟨n, hn, hv, rfl⟩ := mem_words_iff.mp hword
    exact ⟨n, hn, hv, rfl⟩
  · rintro ⟨n, hn, hv, rfl⟩
    exact .of_mem (mem_words_iff.mpr ⟨n, hn, hv, rfl⟩) rest

/-! ## What reading takes -/

/-- How many bytes a number in front of these takes, as far as they tell. -/
def announced : Bytes → Nat
  | [] => 1
  | first :: _ => declaredWidth first

theorem decode_of_le {bytes : Bytes} (h : announced bytes ≤ bytes.length) :
    ∃ v, decode bytes = (.ok v, bytes.drop (announced bytes)) := by
  cases bytes with
  | nil => cases h
  | cons first back =>
    have htake : Decoder.take (declaredWidth first) (first :: back) = _ := Decoder.take_of_le h
    refine ⟨value ((first :: back).take (declaredWidth first)), ?_⟩
    simp only [decode, htake, announced]

theorem decode_of_lt {bytes : Bytes} (h : bytes.length < announced bytes) :
    decode bytes = (.error (.unexpectedEnd (announced bytes) bytes.length), bytes) := by
  cases bytes with
  | nil => rfl
  | cons first back =>
    have htake : Decoder.take (declaredWidth first) (first :: back) = _ := Decoder.take_of_lt h
    simp only [decode, htake, announced]

/-- What is taken from the front is one of the number's words. -/
theorem take_announced_mem_words {bytes : Bytes} {v : Nat}
    (hv : decode bytes = (.ok v, bytes.drop (announced bytes))) :
    bytes.take (announced bytes) ∈ words v := by
  obtain ⟨word, hword, he⟩ := reads_decode.mp hv
  have htake : bytes.take (announced bytes) ++ bytes.drop (announced bytes) =
      word ++ bytes.drop (announced bytes) := (List.take_append_drop _ _).trans he.symm
  exact List.append_cancel_right htake ▸ hword

/-! ## Both together -/

/-- Writing a number of at most 62 bits appends its narrowest word to the buffer, from which it is
read back, whatever follows; a larger one appends nothing. Reading takes exactly the bytes that the
first one declares, which are a number of at most 62 bits written in that width; if they are not all
there, it takes none. A number is read from its words in the widths that it fits into, of which the
one that is written is the shortest. -/
theorem codec_exact :
    (∀ v ≤ max, ∀ buffer, Output.ofBytes buffer ++ put v = .ofBytes (buffer ++ encode v) ∧
      width? v = .ok (encode v).length ∧ ∀ rest, decode (encode v ++ rest) = (.ok v, rest)) ∧
    (∀ v, max < v → ∀ buffer, width? v = .error (.varintTooLarge v) ∧
      Output.ofBytes buffer ++ put v = ⟨buffer, some (.varintTooLarge v)⟩) ∧
    (∀ bytes, announced bytes ≤ bytes.length →
      ∃ v ≤ max, decode bytes = (.ok v, bytes.drop (announced bytes)) ∧
        bytes.take (announced bytes) = encodeIn (announced bytes) v ∧
        (encode v).length ≤ announced bytes) ∧
    (∀ bytes, bytes.length < announced bytes →
      decode bytes = (.error (.unexpectedEnd (announced bytes) bytes.length), bytes)) ∧
    ∀ v bytes rest, decode bytes = (.ok v, rest) ↔
      ∃ n ∈ widths, v < 2 ^ (8 * n - 2) ∧ (encode v).length ≤ n ∧
        bytes = encodeIn n v ++ rest := by
  refine ⟨fun v hv buffer => ⟨?_, ?_, decode_encode_append v hv⟩, fun v hv buffer => ⟨?_, ?_⟩,
    fun bytes h => ?_, fun bytes => decode_of_lt, fun v bytes rest => ?_⟩
  · rw [put_of_le hv, Output.ofBytes_append_ofBytes]
  · rw [width?, if_pos hv, length_encode]
  · rw [width?, if_neg (Nat.not_le.mpr hv)]
  · rw [put_of_lt hv, Output.ofBytes_append_failed]
  · obtain ⟨v, hread⟩ := decode_of_le h
    have hword := take_announced_mem_words hread
    obtain ⟨hmax, hshort⟩ := le_of_mem_words hword
    obtain ⟨n, hn, -, he⟩ := mem_words_iff.mp hword
    obtain rfl : announced bytes = n := by
      have hl := congrArg List.length he
      rwa [List.length_take_of_le h, encodeIn, bigEndian_length] at hl
    refine ⟨v, hmax, hread, he, ?_⟩
    rwa [length_encode, ← List.length_take_of_le h]
  · rw [reads_decode, starts_words_iff]
    refine exists_congr fun n => and_congr_right fun hn => and_congr_right fun hv => ?_
    have hshort := (le_of_mem_words (mem_words_iff.mpr ⟨n, hn, hv, rfl⟩)).2
    rw [encodeIn, bigEndian_length, ← length_encode] at hshort
    exact (and_iff_right hshort).symm

/-- 37 in two bytes and then a byte more: the two are taken, although one would have done. -/
theorem codec_exact_wide :
    decode [0x40, 0x25, 0x01] = (.ok 37, [0x01]) ∧ (encode 37).length ≤ 2 ∧
      Output.ofBytes [0xFF] ++ put 37 = .ofBytes [0xFF, 0x25] ∧
      Output.ofBytes [0xFF] ++ put (max + 1) = ⟨[0xFF], some (.varintTooLarge (max + 1))⟩ ∧
      decode [0x80, 0x12] = (.error (.unexpectedEnd 4 2), [0x80, 0x12]) := by
  obtain ⟨hwritten, hrefused, htaken, hcut, -⟩ := codec_exact
  obtain ⟨v, -, hread, he, hshort⟩ := htaken [0x40, 0x25, 0x01] (by decide)
  obtain ⟨hput, -, -⟩ := hwritten 37 (by decide) [0xFF]
  obtain ⟨-, htoo⟩ := hrefused (max + 1) (Nat.lt_succ_self max) [0xFF]
  obtain rfl : v = 37 := by
    have hdecode : decode [0x40, 0x25, 0x01] = (.ok 37, [0x01]) := by decide
    simpa [hdecode] using congrArg Prod.fst hread.symm
  exact ⟨hread, hshort, hput, htoo, hcut [0x80, 0x12] (by decide)⟩

end Varint

end MediaOverQuic
