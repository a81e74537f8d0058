import MediaOverQuic.Wire.Decoder
import MediaOverQuic.Wire.Output

/-!
# Variable-length integers

A number below `2 ^ 62` takes one, two, four or eight bytes. The top two bits of the first byte say
how many, the other bits are the number, most significant first. Writing takes the fewest bytes;
reading accepts any width.
-/
namespace MediaOverQuic.Varint

/-- The largest number that can be written, one below `2 ^ 62`. -/
def max : Nat := 0x3FFFFFFFFFFFFFFF

/-- The number of bytes that `v` is written in. -/
def width (v : Nat) : Nat :=
  if v < 0x40 then 1 else if v < 0x4000 then 2 else if v < 0x40000000 then 4 else 8

/-- The number of bytes that `v` is written in, if it can be written. -/
def width? (v : Nat) : Except Error Nat :=
  if v ≤ max then .ok (width v) else .error (.varintTooLarge v)

/-- The number of bytes that the first byte declares. -/
def declaredWidth (first : UInt8) : Nat := 1 <<< (first.toNat / 64)

/-- The two top bits for each width, as a number to be added in front. -/
def tag : Nat → Nat
  | 1 => 0
  | 2 => 1
  | 4 => 2
  | _ => 3

/-- `v` written in `n` bytes. -/
def encodeIn (n v : Nat) : Bytes := bigEndian n (tag n <<< (8 * n - 2) + v)

/-- `v` written in the fewest bytes. -/
def encode (v : Nat) : Bytes := encodeIn (width v) v

/-- Writes `v`, which has to be below `2 ^ 62`. -/
def put (v : Nat) : Output :=
  if v ≤ max then .ofBytes (encode v) else .failed (.varintTooLarge v)

/-- The number in exactly the bytes of one. -/
def value : Bytes → Nat
  | [] => 0
  | first :: rest => ofBigEndian (first.toNat % 64) rest

/-- Reads a number of any width, and nothing if it is cut short. -/
def decode : Decoder Nat := fun bytes =>
  match bytes with
  | [] => (.error (.unexpectedEnd 1 0), [])
  | first :: _ =>
    match Decoder.take (declaredWidth first) bytes with
    | (.ok front, rest) => (.ok (value front), rest)
    | (.error e, rest) => (.error e, rest)

end MediaOverQuic.Varint
