import MediaOverQuic.Text.Hex

/-!
# Numeric addresses

An IPv4 address is one to four numbers, in base ten, eight behind a `0` or sixteen behind `0x`; the
last one fills all bytes that are left. An IPv6 address is eight groups of hexadecimal digits, of
which `::` leaves out some that are zero and the last two may be written as an IPv4 address.
-/
namespace MediaOverQuic

/-- The value of a hexadecimal digit. -/
def hexValue? (c : Char) : Option Nat :=
  if '0' ≤ c ∧ c ≤ '9' then some (c.toNat - '0'.toNat)
  else if 'a' ≤ c ∧ c ≤ 'f' then some (c.toNat - 'a'.toNat + 10)
  else if 'A' ≤ c ∧ c ≤ 'F' then some (c.toNat - 'A'.toNat + 10)
  else none

/-- The number with the given digits, if they are digits in that base. -/
def numberIn (base : Nat) (digits : List Char) : Option Nat :=
  digits.foldlM (fun n c => do
    let d ← hexValue? c
    if d < base then some (n * base + d) else none) 0

namespace Ipv4

/-- The number that a part of an address stands for. -/
def part? : List Char → Option Nat
  | [] => none
  | '0' :: 'x' :: digits | '0' :: 'X' :: digits => numberIn 16 digits
  | '0' :: d :: digits => numberIn 8 (d :: digits)
  | digits => numberIn 10 digits

/-- The parts between the dots; a dot at the end does not count. -/
def parts (host : List Char) : List (List Char) :=
  let all := host.splitOn '.'
  if 1 < all.length ∧ all.getLast? = some [] then all.dropLast else all

/-- Whether a host is meant as an address, which its last part tells. -/
def isMeant (host : List Char) : Bool :=
  match (parts host).getLast? with
  | none | some [] => false
  | some last => last.all Char.isDigit || (part? last).isSome

/-- The address as a number. -/
def parse? (host : List Char) : Option Nat := do
  let numbers ← (parts host).mapM part?
  let front := numbers.dropLast
  let last ← numbers.getLast?
  if 3 < front.length ∨ front.any (255 < ·) ∨ 1 <<< (8 * (4 - front.length)) ≤ last then none
  else some (front.foldl (fun v n => v * 256 + n) 0 <<< (8 * (4 - front.length)) + last)

def text (address : Nat) : String :=
  String.intercalate "." ([24, 16, 8, 0].map fun shift => toString (address >>> shift % 256))

end Ipv4

namespace Ipv6

/-- The parts before and behind the first `::`. -/
def splitAtGap : List Char → List Char × Option (List Char)
  | [] => ([], none)
  | ':' :: ':' :: rest => ([], some rest)
  | c :: rest =>
    let (front, back) := splitAtGap rest
    (c :: front, back)

def group? (digits : List Char) : Option Nat :=
  if digits = [] ∨ 4 < digits.length then none else numberIn 16 digits

/-- A number up to 255 in base ten, without needless zeros. -/
def byte? (digits : List Char) : Option Nat :=
  match digits with
  | [] => none
  | '0' :: _ :: _ => none
  | _ => (numberIn 10 digits).filter (· < 256)

/-- The two groups of an IPv4 address. -/
def dotted? (cs : List Char) : Option (List Nat) := do
  match ← (cs.splitOn '.').mapM byte? with
  | [a, b, c, d] => some [a * 256 + b, c * 256 + d]
  | _ => none

/-- The groups that are written out on one side of the gap. -/
def groups? (atEnd : Bool) (cs : List Char) : Option (List Nat) :=
  if cs = [] then some []
  else do
    let all := cs.splitOn ':'
    let front ← all.dropLast.mapM group?
    let last ← all.getLast?
    if atEnd ∧ '.' ∈ last then return front ++ (← dotted? last)
    else return front ++ [← group? last]

/-- The eight groups of an address. -/
def parse? (cs : List Char) : Option (List Nat) := do
  match splitAtGap cs with
  | (all, none) =>
    let groups ← groups? true all
    if groups.length = 8 then some groups else none
  | (before, some behind) =>
    let front ← groups? false before
    let back ← groups? true behind
    if front.length + back.length < 8 then
      some (front ++ List.replicate (8 - front.length - back.length) 0 ++ back)
    else none

/-- The number of zeros in front. -/
def leadingZeros (groups : List Nat) : Nat := (groups.takeWhile (· = 0)).length

/-- Where the first of the longest runs of zeros starts, and how long it is. -/
def longestGap (groups : List Nat) : Nat × Nat :=
  (List.range groups.length).foldl (fun best start =>
    let run := leadingZeros (groups.drop start)
    if best.2 < run then (start, run) else best) (0, 0)

def groupsText (groups : List Nat) : String :=
  String.intercalate ":" (groups.map (Hex.digits 1))

/-- The address with its longest run of at least two zeros left out. -/
def text (groups : List Nat) : String :=
  let (start, run) := longestGap groups
  if run < 2 then groupsText groups
  else groupsText (groups.take start) ++ "::" ++ groupsText (groups.drop (start + run))

end Ipv6

end MediaOverQuic
