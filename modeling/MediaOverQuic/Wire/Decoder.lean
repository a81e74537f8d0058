import MediaOverQuic.Bytes
import MediaOverQuic.Error

/-!
# Decoders

A decoder takes what it needs from the front of a byte string and leaves the rest. One that fails
leaves what stands behind the parts that it did read, so a reader can tell how far it came.
-/
namespace MediaOverQuic

/-- Reads an `α` from the front of a byte string. -/
def Decoder (α : Type) := Bytes → Except Error α × Bytes

namespace Decoder

def run (d : Decoder α) (bytes : Bytes) : Except Error α × Bytes := d bytes

def pure (a : α) : Decoder α := fun bytes => (.ok a, bytes)

def fail (e : Error) : Decoder α := fun bytes => (.error e, bytes)

def bind (d : Decoder α) (next : α → Decoder β) : Decoder β := fun bytes =>
  match d bytes with
  | (.ok a, rest) => next a rest
  | (.error e, rest) => (.error e, rest)

instance : Monad Decoder where
  pure := pure
  bind := bind

theorem bind_of_ok {d : Decoder α} {next : α → Decoder β} {bytes rest : Bytes} {a : α}
    (h : d bytes = (.ok a, rest)) : (d >>= next) bytes = next a rest := by
  show bind d next bytes = _
  simp [bind, h]

theorem bind_of_error {d : Decoder α} {next : α → Decoder β} {bytes rest : Bytes} {e : Error}
    (h : d bytes = (.error e, rest)) : (d >>= next) bytes = (.error e, rest) := by
  show bind d next bytes = _
  simp [bind, h]

@[simp] theorem pure_apply (a : α) (bytes : Bytes) :
    (Pure.pure a : Decoder α) bytes = (.ok a, bytes) := rfl

@[simp] theorem fail_apply (e : Error) (bytes : Bytes) :
    (fail e : Decoder α) bytes = (.error e, bytes) := rfl

/-- Takes exactly `n` bytes, and none if there are fewer. -/
def take (n : Nat) : Decoder Bytes := fun bytes =>
  let front := bytes.take n
  if front.length = n then (.ok front, bytes.drop n)
  else (.error (.unexpectedEnd n bytes.length), bytes)

theorem take_of_le {n : Nat} {bytes : Bytes} (h : n ≤ bytes.length) :
    take n bytes = (.ok (bytes.take n), bytes.drop n) := by
  simp [take, Nat.min_eq_left h]

theorem take_of_lt {n : Nat} {bytes : Bytes} (h : bytes.length < n) :
    take n bytes = (.error (.unexpectedEnd n bytes.length), bytes) := by
  have hne : ¬ min n bytes.length = n := by omega
  simp [take, hne]

/-- Takes one byte. -/
def byte : Decoder UInt8 := fun bytes =>
  match bytes with
  | b :: rest => (.ok b, rest)
  | [] => (.error (.unexpectedEnd 1 0), [])

/-- Takes all that is left. -/
def remaining : Decoder Bytes := fun bytes => (.ok bytes, [])

end Decoder

end MediaOverQuic
