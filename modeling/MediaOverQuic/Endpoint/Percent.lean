import MediaOverQuic.Endpoint.Address
import MediaOverQuic.Text.Utf8

/-!
# Percent encoding

In a URI a byte may be written as a percent sign and two hexadecimal digits.
-/
namespace MediaOverQuic.Percent

/-- A byte as a percent sign and two digits. -/
def escape (b : UInt8) : List Char :=
  '%' :: (Hex.digits 2 b.toNat).toList.map Char.toUpper

/-- Escapes all characters but those that are printable ASCII and not in `reserved`. -/
def encode (reserved : List Char) (cs : List Char) : List Char :=
  cs.flatMap fun c =>
    if ' ' ≤ c ∧ c ≤ '~' ∧ c ∉ reserved then [c]
    else (String.utf8EncodeChar c).flatMap escape

/-- The bytes that a text stands for. A percent sign without two digits stands for itself. -/
def decode : List Char → Bytes
  | [] => []
  | '%' :: a :: b :: rest =>
    match hexValue? a, hexValue? b with
    | some high, some low => UInt8.ofNat (high * 16 + low) :: decode rest
    | _, _ => UInt8.ofNat '%'.toNat :: decode (a :: b :: rest)
  | c :: rest => String.utf8EncodeChar c ++ decode rest

end MediaOverQuic.Percent
