import Mathlib.Tactic
import MediaOverQuic.Model.KeyValuePair
import MediaOverQuic.Proofs.Wire.Varint

/-!
# Pairs read back

A pair whose type and value go together is always written, and what is written is read back as that
pair, whatever stands behind it. The same holds for a list of pairs whose number can be written.
-/
namespace MediaOverQuic.KeyValuePair

theorem make_int_eq_ok_iff {t v : Nat} {p : KeyValuePair} :
    make t (.int v) = .ok p ↔
      (t ≤ Varint.max ∧ t % 2 = 0 ∧ v ≤ Varint.max) ∧ p = ⟨t, .int v⟩ := by
  simp only [make]
  split_ifs with ht hodd hv
  · rw [false_iff]
    omega
  · rw [false_iff]
    omega
  · rw [false_iff]
    omega
  · rw [Except.ok.injEq, eq_comm]
    exact (and_iff_right ⟨by omega, by omega, by omega⟩).symm

theorem make_bytes_eq_ok_iff {t : Nat} {b : Bytes} {p : KeyValuePair} :
    make t (.bytes b) = .ok p ↔
      (t ≤ Varint.max ∧ t % 2 = 1 ∧ b.length ≤ maxLength) ∧ p = ⟨t, .bytes b⟩ := by
  simp only [make]
  split_ifs with ht heven hb
  · rw [false_iff]
    omega
  · rw [false_iff]
    omega
  · rw [false_iff]
    omega
  · rw [Except.ok.injEq, eq_comm]
    exact (and_iff_right ⟨by omega, by omega, by omega⟩).symm

/-- Whether type and value go together. -/
def Valid (p : KeyValuePair) : Prop := make p.typeId p.value = .ok p

instance (p : KeyValuePair) : Decidable p.Valid := inferInstanceAs (Decidable (_ = _))

theorem valid_int_iff (t v : Nat) :
    Valid ⟨t, .int v⟩ ↔ t ≤ Varint.max ∧ t % 2 = 0 ∧ v ≤ Varint.max :=
  make_int_eq_ok_iff.trans (and_iff_left rfl)

theorem valid_bytes_iff (t : Nat) (b : Bytes) :
    Valid ⟨t, .bytes b⟩ ↔ t ≤ Varint.max ∧ t % 2 = 1 ∧ b.length ≤ maxLength :=
  make_bytes_eq_ok_iff.trans (and_iff_left rfl)

/-- What `make` makes is valid. -/
theorem valid_of_make {t : Nat} {v : KeyValue} {p : KeyValuePair} (h : make t v = .ok p) :
    p.Valid := by
  cases v with
  | int v =>
    obtain ⟨hv, rfl⟩ := make_int_eq_ok_iff.mp h
    exact (valid_int_iff t v).mpr hv
  | bytes b =>
    obtain ⟨hb, rfl⟩ := make_bytes_eq_ok_iff.mp h
    exact (valid_bytes_iff t b).mpr hb

/-- The bytes that a valid pair is written in. -/
def wire (p : KeyValuePair) : Bytes :=
  Varint.encode p.typeId ++ match p.value with
    | .int v => Varint.encode v
    | .bytes b => Varint.encode b.length ++ b

theorem encode_of_valid {p : KeyValuePair} (h : p.Valid) : p.encode = .ofBytes p.wire := by
  obtain ⟨t, v | b⟩ := p
  · obtain ⟨ht, -, hv⟩ := (valid_int_iff t v).mp h
    simp only [encode, wire, Varint.put_of_le ht, Varint.put_of_le hv,
      Output.ofBytes_append_ofBytes]
  · obtain ⟨ht, -, hb⟩ := (valid_bytes_iff t b).mp h
    have hl : b.length ≤ Varint.max := hb.trans (by decide)
    simp only [encode, wire, Varint.put_of_le ht, Varint.put_of_le hl,
      Output.ofBytes_append_ofBytes]

theorem decode_wire_append {p : KeyValuePair} (h : p.Valid) (rest : Bytes) :
    decode (p.wire ++ rest) = (.ok p, rest) := by
  obtain ⟨t, v | b⟩ := p
  · obtain ⟨ht, he, hv⟩ := (valid_int_iff t v).mp h
    simp only [wire, List.append_assoc]
    rw [decode, Decoder.bind_of_ok (Varint.decode_encode_append t ht _), if_pos he,
      Decoder.bind_of_ok (Varint.decode_encode_append v hv rest)]
    rfl
  · obtain ⟨ht, he, hb⟩ := (valid_bytes_iff t b).mp h
    have hl : b.length ≤ Varint.max := hb.trans (by decide)
    simp only [wire, List.append_assoc]
    rw [decode, Decoder.bind_of_ok (Varint.decode_encode_append t ht _), if_neg (by omega),
      Decoder.bind_of_ok (Varint.decode_encode_append b.length hl _), if_neg (by omega),
      Decoder.bind_of_ok (Decoder.take_append b rest)]
    rfl

/-! ## Lists -/

/-- The bytes of the pairs of a list, without their number. -/
def wireAll (pairs : List KeyValuePair) : Bytes := pairs.flatMap wire

theorem concat_encode {pairs : List KeyValuePair} (h : ∀ p ∈ pairs, p.Valid) :
    Output.concat (pairs.map encode) = .ofBytes (wireAll pairs) := by
  induction pairs with
  | nil => rfl
  | cons p pairs ih =>
    obtain ⟨hp, hps⟩ := List.forall_mem_cons.mp h
    show p.encode ++ Output.concat (pairs.map encode) = _
    rw [encode_of_valid hp, ih hps, Output.ofBytes_append_ofBytes]
    rfl

/-- A list of valid pairs can be written when their number can. -/
theorem encodeList_of_valid {pairs : List KeyValuePair} (h : ∀ p ∈ pairs, p.Valid)
    (hl : pairs.length ≤ Varint.max) :
    encodeList pairs = .ofBytes (Varint.encode pairs.length ++ wireAll pairs) := by
  rw [encodeList, concat_encode h, Varint.put_of_le hl, Output.ofBytes_append_ofBytes]

theorem encodeList_of_lt {pairs : List KeyValuePair} (hl : Varint.max < pairs.length) :
    encodeList pairs = .failed (.varintTooLarge pairs.length) := by
  rw [encodeList, Varint.put_of_lt hl, Output.failed_append]

section

variable {c : Course} {p : KeyValuePair} {e : Error} {rest : Bytes}

theorem Course.next_of_ok (h : decode c.rest = (.ok p, rest)) :
    c.next = { c with read := c.read.push p, begun := c.rest :: c.begun, rest := rest } := by
  rw [next, h]

theorem Course.next_of_error (h : decode c.rest = (.error e, rest)) :
    c.next = { c with begun := c.rest :: c.begun, error? := some e, rest := rest } := by
  rw [next, h]

/-- A pair that can be read is followed by the others. -/
theorem decodeMany_succ_of_ok (hc : c.error? = none) (h : decode c.rest = (.ok p, rest))
    (count : Nat) : decodeMany (count + 1) c = decodeMany count c.next := by
  have hnext : c.next.error? = none := by rw [Course.next_of_ok h, hc]
  rw [decodeMany]
  simp only [hnext, Option.isSome_none, Bool.false_eq_true, if_false]

/-- A pair that can not be read is the last one begun. -/
theorem decodeMany_succ_of_error (h : decode c.rest = (.error e, rest)) (count : Nat) :
    decodeMany (count + 1) c = c.next := by
  have hnext : c.next.error? = some e := by rw [Course.next_of_error h]
  rw [decodeMany]
  simp only [hnext, Option.isSome_some, if_true]

end

theorem decodeList_of_count {bytes rest : Bytes} {count : Nat}
    (h : Varint.decode bytes = (.ok count, rest)) :
    decodeList bytes = (decodeCounted count rest).result := by
  show (courseOf bytes).result = _
  rw [courseOf, h]

theorem decodeList_of_error {bytes rest : Bytes} {e : Error}
    (h : Varint.decode bytes = (.error e, rest)) : decodeList bytes = (.error e, rest) := by
  show (courseOf bytes).result = _
  rw [courseOf, h]
  rfl

/-- A list that can not be read lacks its number, or one of its pairs can not be read. -/
theorem decodeList_fails_iff {bytes rest : Bytes} {e : Error} :
    decodeList bytes = (.error e, rest) ↔ Varint.decode bytes = (.error e, rest) ∨
      ∃ count middle, Varint.decode bytes = (.ok count, middle) ∧
        (decodeCounted count middle).result = (.error e, rest) := by
  rcases hcount : Varint.decode bytes with ⟨e' | count, middle⟩
  · rw [decodeList_of_error hcount]
    simp
  · rw [decodeList_of_count hcount]
    simp

theorem result_decodeMany_wireAll_append {pairs : List KeyValuePair} (h : ∀ p ∈ pairs, p.Valid)
    {c : Course} {rest : Bytes} (hc : c.error? = none) (hrest : c.rest = wireAll pairs ++ rest) :
    (decodeMany pairs.length c).result = (.ok (c.read.toList ++ pairs), rest) := by
  induction pairs generalizing c with
  | nil => simp [decodeMany, Course.result, hc, hrest, wireAll]
  | cons p pairs ih =>
    obtain ⟨hp, hps⟩ := List.forall_mem_cons.mp h
    have hd : decode c.rest = (.ok p, wireAll pairs ++ rest) := by
      rw [hrest, show wireAll (p :: pairs) ++ rest = p.wire ++ (wireAll pairs ++ rest) by
        simp [wireAll], decode_wire_append hp]
    have herror : c.next.error? = none := by rw [Course.next_of_ok hd, hc]
    have hleft : c.next.rest = wireAll pairs ++ rest := by rw [Course.next_of_ok hd]
    rw [List.length_cons, decodeMany_succ_of_ok hc hd, ih hps herror hleft, Course.next_of_ok hd]
    simp

theorem decodeList_append {pairs : List KeyValuePair} (h : ∀ p ∈ pairs, p.Valid)
    (hl : pairs.length ≤ Varint.max) (rest : Bytes) :
    decodeList (Varint.encode pairs.length ++ wireAll pairs ++ rest) = (.ok pairs, rest) := by
  rw [List.append_assoc, decodeList_of_count (Varint.decode_encode_append pairs.length hl _)]
  exact result_decodeMany_wireAll_append h rfl rfl

end MediaOverQuic.KeyValuePair
