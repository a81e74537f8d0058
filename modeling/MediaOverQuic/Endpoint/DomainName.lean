import MediaOverQuic.Text.Punycode
import MediaOverQuic.Unicode.Direction
import MediaOverQuic.Unicode.DomainCharacter
import MediaOverQuic.Unicode.Joining

/-!
# Domain names

A domain name is made of labels with dots between them. A label that starts with `xn--` stands for a
word with characters outside ASCII. Such a word has to be in its canonical form, and if letters of
the name are written from right to left, no label may be read in more than one way.
-/
namespace MediaOverQuic.DomainName

/-- What labels start with that stand for other words. -/
def marker : List Char := ['x', 'n', '-', '-']

/-- The most characters of such a label behind the marker. -/
def maxEncodedLength : Nat := 2000

/-- The most characters of the word that such a label stands for. -/
def maxWordLength : Nat := 1000

/-- Whether the word behind a marker is one that is written with it. -/
def isInternational (word : List Char) : Bool :=
  word.length ≤ maxWordLength
    && word.all (fun c => c.toNat < 0x80 || Unicode.isDomainCharacter c)
    && !word.head?.any Unicode.isMark
    && Unicode.joinersMatter [] word
    && Unicode.isComposed word

/-- The word that a label stands for. One that ends in a hyphen would have no character outside
ASCII. -/
def word? (label : List Char) : Option (List Char) :=
  if !marker.isPrefixOf label then some label
  else
    let encoded := label.drop marker.length
    if encoded = [] ∨ encoded.getLast? = some '-' ∨ maxEncodedLength < encoded.length then none
    else (Punycode.decode encoded).filter isInternational

/-- Whether a word can be read in one way only among words of both directions. -/
def isUnambiguous (word : List Char) : Bool :=
  match word.map Unicode.Direction.ofChar with
  | [] => true
  | first :: rest =>
    let inner := (rest.reverse.dropWhile (· = .nonspacing)).reverse
    match first with
    | .leftToRight =>
      inner.getLast?.all (fun d => d = .leftToRight || d = .europeanNumber)
        && .rightToLeft ∉ inner && .arabicNumber ∉ inner
    | .rightToLeft =>
      inner.getLast?.all (fun d => d ∈ [.rightToLeft, .europeanNumber, .arabicNumber])
        && .leftToRight ∉ inner && !(.europeanNumber ∈ inner && .arabicNumber ∈ inner)
    | _ => false

/-- Whether some of the words is written from right to left. -/
def isMixed (words : List (List Char)) : Bool :=
  words.any fun word =>
    word.any fun c => Unicode.Direction.ofChar c ∈ [.rightToLeft, .arabicNumber]

/-- Whether a name in lower case is one of a domain. -/
def isValid (name : List Char) : Bool :=
  match (name.splitOn '.').mapM word? with
  | none => false
  | some words => !isMixed words || words.all isUnambiguous

end MediaOverQuic.DomainName
