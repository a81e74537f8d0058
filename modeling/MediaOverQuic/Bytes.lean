/-!
# Byte strings

Everything that goes over the wire is a list of bytes. Numbers are natural numbers; `Word.max` is
the largest one that fits into the 64 bits that counters and limits are kept in.
-/
namespace MediaOverQuic

abbrev Bytes := List UInt8

/-- The `n` lowest bytes of `v`, most significant first. -/
def bigEndian : Nat → Nat → Bytes
  | 0, _ => []
  | n + 1, v => bigEndian n (v / 256) ++ [UInt8.ofNat (v % 256)]

/-- The number that `bytes` spell after `high`, most significant first. -/
def ofBigEndian (high : Nat) (bytes : Bytes) : Nat :=
  bytes.foldl (fun v b => v * 256 + b.toNat) high

@[simp] theorem bigEndian_length (n v : Nat) : (bigEndian n v).length = n := by
  induction n generalizing v with
  | zero => rfl
  | succ n ih => simp [bigEndian, ih]

@[simp] theorem ofBigEndian_nil (high : Nat) : ofBigEndian high [] = high := rfl

@[simp] theorem ofBigEndian_cons (high : Nat) (b : UInt8) (bytes : Bytes) :
    ofBigEndian high (b :: bytes) = ofBigEndian (high * 256 + b.toNat) bytes := rfl

theorem ofBigEndian_append (high : Nat) (xs ys : Bytes) :
    ofBigEndian high (xs ++ ys) = ofBigEndian (ofBigEndian high xs) ys := by
  simp [ofBigEndian, List.foldl_append]

namespace Word

/-- The largest 64-bit number. -/
def max : Nat := 0xFFFFFFFFFFFFFFFF

/-- Addition that stays at the largest 64-bit number instead of going over it. -/
def saturatingAdd (a b : Nat) : Nat := min (a + b) max

end Word

end MediaOverQuic
