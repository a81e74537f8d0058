import Mathlib.Tactic
import MediaOverQuic.Wire.Scan

/-!
# Numbers read back

The first byte of a written number declares how many bytes it takes, and the value of those bytes is
the number. Both readers, the one for a byte string and the one for a stream that arrives bit by
bit, follow from this one fact.
-/
namespace MediaOverQuic

/-- The first of `n + 1` bytes, and the lowest `n` bytes behind it. -/
theorem bigEndian_succ_eq_cons (n v : Nat) :
    bigEndian (n + 1) v = UInt8.ofNat (v / 256 ^ n % 256) :: bigEndian n v := by
  induction n generalizing v with
  | zero => simp [bigEndian]
  | succ n ih =>
    have hdiv : v / 256 / 256 ^ n = v / 256 ^ (n + 1) := by
      rw [Nat.div_div_eq_div_mul, Nat.pow_succ, Nat.mul_comm]
    rw [bigEndian, ih, hdiv, List.cons_append]
    rfl

/-- Reading back the lowest `n` bytes gives the number modulo `256 ^ n`. -/
theorem ofBigEndian_bigEndian (high n v : Nat) :
    ofBigEndian high (bigEndian n v) = high * 256 ^ n + v % 256 ^ n := by
  induction n generalizing v with
  | zero => simp [bigEndian, Nat.mod_one]
  | succ n ih =>
    have hb : (UInt8.ofNat (v % 256)).toNat = v % 256 := by
      simp
    rw [bigEndian, ofBigEndian_append, ih, ofBigEndian_cons, ofBigEndian_nil, hb]
    have h : v % 256 ^ (n + 1) = v % 256 + 256 * (v / 256 % 256 ^ n) := by
      rw [Nat.pow_succ, Nat.mul_comm (256 ^ n) 256]
      exact Nat.mod_mul
    rw [h, Nat.pow_succ, Nat.add_mul, Nat.mul_assoc]
    omega

theorem Decoder.take_append (front rest : Bytes) :
    take front.length (front ++ rest) = (.ok front, rest) := by
  rw [take_of_le (by simp), List.take_left, List.drop_left]

namespace Varint

/-- The numbers that fit into `n + 1` bytes besides the two bits for the width. -/
theorem two_pow_width (n : Nat) : 2 ^ (8 * (n + 1) - 2) = 64 * 256 ^ n := by
  have he : 8 * (n + 1) - 2 = 6 + 8 * n := by omega
  rw [he, Nat.pow_add, Nat.pow_mul]

theorem width_eq (v : Nat) (h : v ≤ max) :
    ∃ n, width v = n + 1 ∧ v < 64 * 256 ^ n ∧ 2 ^ tag (n + 1) = n + 1 ∧ tag (n + 1) < 4 := by
  unfold max at h
  unfold width
  split_ifs with h1 h2 h4
  · exact ⟨0, rfl, by omega, rfl, by decide⟩
  · exact ⟨1, rfl, by omega, rfl, by decide⟩
  · exact ⟨3, rfl, by omega, rfl, by decide⟩
  · exact ⟨7, rfl, by omega, rfl, by decide⟩

/-- The first byte of a number holds the two bits for the width and the number's highest six. -/
theorem toNat_first {n v : Nat} (h : v < 64 * 256 ^ n) (ht : tag (n + 1) < 4) :
    (UInt8.ofNat ((tag (n + 1) * (64 * 256 ^ n) + v) / 256 ^ n % 256)).toNat =
      tag (n + 1) * 64 + v / 256 ^ n := by
  have hp : 0 < 256 ^ n := Nat.pow_pos (by decide)
  have hhigh : v / 256 ^ n < 64 := by rwa [Nat.div_lt_iff_lt_mul hp]
  have hdiv : (tag (n + 1) * (64 * 256 ^ n) + v) / 256 ^ n = tag (n + 1) * 64 + v / 256 ^ n := by
    rw [← Nat.mul_assoc, Nat.mul_comm, Nat.mul_add_div hp]
  rw [hdiv, UInt8.toNat_ofNat']
  generalize v / 256 ^ n = high at hhigh
  omega

/-- A number written in `n + 1` bytes has a first byte, which declares how many bytes there are, and
they are worth the number. -/
theorem exists_encodeIn_eq_cons {n v : Nat} (hv : v < 64 * 256 ^ n)
    (hw : 2 ^ tag (n + 1) = n + 1) (ht : tag (n + 1) < 4) :
    ∃ first rest, encodeIn (n + 1) v = first :: rest ∧ declaredWidth first = rest.length + 1 ∧
      value (first :: rest) = v := by
  have hp : 0 < 256 ^ n := Nat.pow_pos (by decide)
  have hhigh : v / 256 ^ n < 64 := by rwa [Nat.div_lt_iff_lt_mul hp]
  have hfirst := toNat_first hv ht
  have hdeclared : (tag (n + 1) * 64 + v / 256 ^ n) / 64 = tag (n + 1) := by
    generalize v / 256 ^ n = high at hhigh
    omega
  have hkept : (tag (n + 1) * 64 + v / 256 ^ n) % 64 = v / 256 ^ n := by
    generalize v / 256 ^ n = high at hhigh
    omega
  have hlow : (tag (n + 1) * (64 * 256 ^ n) + v) % 256 ^ n = v % 256 ^ n := by
    rw [← Nat.mul_assoc, Nat.mul_comm, Nat.mul_add_mod]
  refine ⟨UInt8.ofNat ((tag (n + 1) * (64 * 256 ^ n) + v) / 256 ^ n % 256),
    bigEndian n (tag (n + 1) * (64 * 256 ^ n) + v), ?_, ?_, ?_⟩
  · rw [encodeIn, Nat.shiftLeft_eq, two_pow_width, bigEndian_succ_eq_cons]
  · rw [declaredWidth, hfirst, hdeclared, bigEndian_length, Nat.one_shiftLeft, hw]
  · rw [value, hfirst, hkept, ofBigEndian_bigEndian, hlow, Nat.div_add_mod']

theorem exists_encode_eq_cons (v : Nat) (h : v ≤ max) :
    ∃ first rest, encode v = first :: rest ∧ declaredWidth first = rest.length + 1 ∧
      value (first :: rest) = v := by
  obtain ⟨n, hn, hv, hw, ht⟩ := width_eq v h
  rw [encode, hn]
  exact exists_encodeIn_eq_cons hv hw ht

theorem encode_ne_nil (v : Nat) : encode v ≠ [] := by
  have hw : width v ≠ 0 := by
    unfold width
    split_ifs <;> decide
  intro h
  have hl := congrArg List.length h
  rw [encode, encodeIn, bigEndian_length] at hl
  exact hw hl

@[simp] theorem length_encode (v : Nat) : (encode v).length = width v := by
  rw [encode, encodeIn, bigEndian_length]

theorem width_le (v : Nat) : width v ≤ 8 := by
  unfold width
  split_ifs <;> decide

theorem put_of_le {v : Nat} (h : v ≤ max) : put v = .ofBytes (encode v) := if_pos h

theorem put_of_lt {v : Nat} (h : max < v) : put v = .failed (.varintTooLarge v) :=
  if_neg (by omega)

theorem decode_encode_append (v : Nat) (h : v ≤ max) (rest : Bytes) :
    decode (encode v ++ rest) = (.ok v, rest) := by
  obtain ⟨first, back, he, hw, hv⟩ := exists_encode_eq_cons v h
  have htake := Decoder.take_append (first :: back) rest
  rw [List.length_cons, ← hw, List.cons_append] at htake
  rw [he, List.cons_append]
  simp only [decode, htake, hv]

end Varint

namespace Scan

theorem exactly_of_le {n : Nat} {bytes : Bytes} (h : n ≤ bytes.length) :
    exactly n bytes = .ready (bytes.take n, bytes.drop n) := by
  simp [exactly, Nat.min_eq_left h]

theorem exactly_of_lt {n : Nat} {bytes : Bytes} (h : bytes.length < n) :
    exactly n bytes = .more (n - bytes.length) .earlyEnd := by
  have hne : ¬ bytes.length = n := by omega
  simp [exactly, hne, Nat.min_eq_right h.le]

theorem exactly_append (front rest : Bytes) :
    exactly front.length (front ++ rest) = .ready (front, rest) := by
  rw [exactly_of_le (by simp), List.take_left, List.drop_left]

theorem varint_encode_append (v : Nat) (h : v ≤ Varint.max) (rest : Bytes) :
    varint (Varint.encode v ++ rest) = .ready (v, rest) := by
  obtain ⟨first, back, he, hw, hv⟩ := Varint.exists_encode_eq_cons v h
  have hready := exactly_append (first :: back) rest
  rw [List.length_cons, ← hw, List.cons_append] at hready
  rw [he, List.cons_append]
  simp only [varint, hready, hv]

end Scan

end MediaOverQuic
