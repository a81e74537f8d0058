import Mathlib.Tactic
import MediaOverQuic.Proofs.Model.PairGrammar

/-!
# Lists of pairs, written and read

What was made is written and read back, whatever stands behind it. What was read, in numbers of any
width and without the checks of making a pair, is nevertheless a list that can be made, is written
again in no more bytes, and does not depend on what follows.
-/
namespace MediaOverQuic.KeyValuePair

variable {pairs : List KeyValuePair} {bytes rest : Bytes}

/-- The bounds that the protocol sets for a type and its value. -/
def InBounds (p : KeyValuePair) : Prop :=
  p.typeId ≤ Varint.max ∧ match p.value with
    | .int v => p.typeId % 2 = 0 ∧ v ≤ Varint.max
    | .bytes b => p.typeId % 2 = 1 ∧ b.length ≤ maxLength

theorem valid_iff_inBounds {p : KeyValuePair} : p.Valid ↔ p.InBounds := by
  obtain ⟨t, v | b⟩ := p
  · exact valid_int_iff t v
  · exact valid_bytes_iff t b

/-- A list that was made can be written unless it has too many pairs. -/
theorem complete_encodeList_eq_ok (h : ∀ p ∈ pairs, p.Valid) :
    (encodeList pairs).complete = .ok bytes ↔
      pairs.length ≤ Varint.max ∧ bytes = Varint.encode pairs.length ++ wireAll pairs := by
  rcases Nat.lt_or_ge Varint.max pairs.length with hlt | hle
  · rw [encodeList_of_lt hlt, Output.complete_failed]
    constructor
    · intro hcomplete
      cases hcomplete
    · rintro ⟨hle, -⟩
      omega
  · rw [encodeList_of_valid h hle, Output.complete_ofBytes, Except.ok.injEq, eq_comm]
    exact (and_iff_right hle).symm

/-- The number in front of a list that is read is that of its pairs. -/
theorem decode_count (h : decodeList bytes = (.ok pairs, rest)) :
    ∃ middle, Varint.decode bytes = (.ok pairs.length, middle) := by
  obtain ⟨middle, hcount, -⟩ := Starts.mul_iff.mp (reads_decodeList.mp h)
  exact ⟨middle, Varint.reads_decode.mpr hcount⟩

/-- A list that is read can be written, in no more bytes, which are read as the same list. -/
theorem encodeList_of_decodeList (h : decodeList bytes = (.ok pairs, rest)) :
    (∀ p ∈ pairs, p.Valid) ∧ ∃ front, front ++ rest = bytes ∧
      ∃ again, (encodeList pairs).complete = .ok again ∧ again.length ≤ front.length ∧
        ∀ later, decodeList (again ++ later) = (.ok pairs, later) := by
  obtain ⟨front, hfront, rfl⟩ := reads_decodeList.mp h
  obtain ⟨⟨hvalid, hcount⟩, hlength⟩ := valid_of_mem_listWords hfront
  exact ⟨hvalid, front, rfl, _, (complete_encodeList_eq_ok hvalid).mpr ⟨hcount, rfl⟩, hlength,
    decodeList_append hvalid hcount⟩

/-- Lists of pairs are written exactly when their number can be, and read back with what stands
behind them left over. Whatever is read has the number of pairs that was declared, all of them
within the bounds of making them, is written again in no more bytes that are read as the same list,
and stays the same when more bytes follow. -/
theorem list_codec_exact :
    (∀ pairs : List KeyValuePair, (∀ p ∈ pairs, ∃ t v, make t v = .ok p) →
      ((∃ bytes, (encodeList pairs).complete = .ok bytes) ↔ pairs.length ≤ Varint.max) ∧
      ∀ bytes, (encodeList pairs).complete = .ok bytes →
        ∀ rest, decodeList (bytes ++ rest) = (.ok pairs, rest)) ∧
    ∀ bytes pairs rest, decodeList bytes = (.ok pairs, rest) →
      (∃ middle, Varint.decode bytes = (.ok pairs.length, middle)) ∧
      (∀ p ∈ pairs, make p.typeId p.value = .ok p ∧ p.InBounds) ∧
      (∃ front, front ++ rest = bytes ∧
        ∃ again, (encodeList pairs).complete = .ok again ∧ again.length ≤ front.length ∧
          ∀ later, decodeList (again ++ later) = (.ok pairs, later)) ∧
      ∀ later, decodeList (bytes ++ later) = (.ok pairs, rest ++ later) := by
  constructor
  · intro pairs hmade
    have hvalid : ∀ p ∈ pairs, p.Valid := by
      intro p hp
      obtain ⟨t, v, hmake⟩ := hmade p hp
      exact valid_of_make hmake
    constructor
    · constructor
      · rintro ⟨bytes, hbytes⟩
        exact ((complete_encodeList_eq_ok hvalid).mp hbytes).1
      · intro hcount
        exact ⟨_, (complete_encodeList_eq_ok hvalid).mpr ⟨hcount, rfl⟩⟩
    · intro bytes hbytes rest
      obtain ⟨hcount, rfl⟩ := (complete_encodeList_eq_ok hvalid).mp hbytes
      exact decodeList_append hvalid hcount rest
  · intro bytes pairs rest h
    obtain ⟨hvalid, hagain⟩ := encodeList_of_decodeList h
    refine ⟨decode_count h, ?_, hagain, ?_⟩
    · intro p hp
      exact ⟨hvalid p hp, valid_iff_inBounds.mp (hvalid p hp)⟩
    · intro later
      exact reads_decodeList.mpr ((reads_decodeList.mp h).append later)

/-- Two pairs that were made are written and read back; the same two with their number and one value
in two bytes each are read as well, and written again in two bytes less. -/
theorem list_codec_exact_wide :
    let pairs : List KeyValuePair := [⟨2, .int 7⟩, ⟨0x21, .bytes [0x78, 0x79]⟩]
    let wide : Bytes := [0x40, 2, 2, 0x40, 7, 0x21, 2, 0x78, 0x79]
    (∃ bytes, (encodeList pairs).complete = .ok bytes ∧
      decodeList (bytes ++ [0xFF]) = (.ok pairs, [0xFF])) ∧
    decodeList (wide ++ [0xAA]) = (.ok pairs, [0xAA]) ∧
    (∀ p ∈ pairs, make p.typeId p.value = .ok p ∧ p.InBounds) ∧
    (∃ again, (encodeList pairs).complete = .ok again ∧ again.length ≤ wide.length ∧
      ∀ later, decodeList (again ++ later) = (.ok pairs, later)) ∧
    decodeList (wide ++ [0xAA] ++ [0xBB]) = (.ok pairs, [0xAA] ++ [0xBB]) := by
  intro pairs wide
  have hmade : ∀ p ∈ pairs, ∃ t v, make t v = .ok p := by
    intro p hp
    refine ⟨p.typeId, p.value, ?_⟩
    revert p
    decide
  obtain ⟨hcount, hback⟩ := list_codec_exact.1 pairs hmade
  obtain ⟨bytes, hbytes⟩ := hcount.mpr (by decide)
  have hread : decodeList (wide ++ [0xAA]) = (.ok pairs, [0xAA]) := by decide
  obtain ⟨-, hbounds, ⟨front, hfront, hagain⟩, hlater⟩ := list_codec_exact.2 _ _ _ hread
  obtain rfl : front = wide := List.append_cancel_right hfront
  exact ⟨⟨bytes, hbytes, hback bytes hbytes [0xFF]⟩, hread, hbounds, hagain, hlater [0xBB]⟩

end MediaOverQuic.KeyValuePair
