/-!
# Punycode

A word with characters outside ASCII written in ASCII: first its ASCII characters and a hyphen, then
for each of the others, from the lowest to the highest, how far it is from the one before. Distances
are numbers with the lowest digit first, and digits below a threshold end a number. The thresholds
adapt to the distances seen before.
-/
namespace MediaOverQuic.Punycode

/-- The value of a digit in base 36. -/
def digit? (c : Char) : Option Nat :=
  if c.isAlpha then some (c.toLower.toNat - 'a'.toNat)
  else if c.isDigit then some (c.toNat - '0'.toNat + 26)
  else none

/-- The lowest digit, in the place counted by `place`, that does not end a number. -/
def threshold (place bias : Nat) : Nat := min 26 (max 1 (place - bias))

/-- The bias for distances of the given size. -/
def biasFor (distance : Nat) : Nat :=
  if 455 < distance then 36 + biasFor (distance / 35) else 36 * distance / (distance + 38)
termination_by distance

/-- The bias after a distance, which was the first one or not, when there are `count` characters. -/
def adapt (distance count : Nat) (first : Bool) : Nat :=
  let scaled := if first then distance / 700 else distance / 2
  biasFor (scaled + scaled / count)

/-- Numbers are kept below this bound. -/
def bound : Nat := 0x100000000

/-- How far the reading of a word is. -/
structure Reading where
  word : List Char
  /-- The character inserted last. -/
  codePoint : Nat
  bias : Nat
  /-- Where the number being read started to count, and how far it has got. -/
  start : Nat
  index : Nat
  /-- What the next digit counts, and its place, in steps of 36. -/
  weight : Nat
  place : Nat
  deriving Repr

namespace Reading

/-- Reading behind the ASCII characters of a word. -/
def behind (word : List Char) : Reading := ⟨word, 128, 72, 0, 0, 1, 36⟩

/-- Whether no number was begun. -/
def isBetween (r : Reading) : Bool := r.place = 36

/-- Inserts the character that the number which has been read stands for. -/
def insert? (r : Reading) : Option Reading :=
  let count := r.word.length + 1
  let codePoint := r.codePoint + r.index / count
  let position := r.index % count
  if codePoint.isValidChar then
    some ⟨r.word.insertIdx position (Char.ofNat codePoint), codePoint,
      adapt (r.index - r.start) count (r.start = 0), position + 1, position + 1, 1, 36⟩
  else none

/-- Reads a digit. -/
def feed? (r : Reading) (c : Char) : Option Reading := do
  let digit ← digit? c
  let index := r.index + digit * r.weight
  if bound ≤ index then none
  else
    let t := threshold r.place r.bias
    let r := { r with index := index }
    if digit < t then r.insert?
    else
      let weight := r.weight * (36 - t)
      if bound ≤ weight then none
      else some { r with weight := weight, place := r.place + 36 }

end Reading

/-- The ASCII characters of a word, and the digits behind them. A hyphen in front does not count. -/
def split (cs : List Char) : List Char × List Char :=
  let digits := (cs.reverse.takeWhile (· ≠ '-')).reverse
  let ascii := cs.take (cs.length - digits.length - 1)
  if ascii = [] then ([], cs) else (ascii, digits)

/-- The word that `cs` stands for. -/
def decode (cs : List Char) : Option (List Char) := do
  let (ascii, digits) := split cs
  let r ← digits.foldlM Reading.feed? (.behind ascii)
  if r.isBetween then some r.word else none

end MediaOverQuic.Punycode
