/-!
# Hexadecimal numerals

Type identifiers are named in messages as `0x` and lower-case hexadecimal digits.
-/
namespace MediaOverQuic.Hex

/-- The digits of `n` in base 16, at least `width` of them. -/
def digits (width n : Nat) : String :=
  let ds := Nat.toDigits 16 n
  String.ofList (List.replicate (width - ds.length) '0' ++ ds)

/-- The numeral of `n`. -/
def numeral (n : Nat) : String := "0x" ++ digits 1 n

end MediaOverQuic.Hex
