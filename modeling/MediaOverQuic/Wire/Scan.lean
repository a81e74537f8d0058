import MediaOverQuic.Attempt
import MediaOverQuic.Wire.Varint

/-!
# Reading while bytes arrive

A scan looks at the bytes that have arrived. It is either ready, with what it read and the bytes
behind that, or says how many more bytes it is sure to need, and what it means if the stream ends
instead. A reader that never takes more than a scan asks for leaves the bytes behind it untouched.
-/
namespace MediaOverQuic

inductive Demand (α : Type)
  | ready (a : α)
  | more (count : Nat) (atEnd : StreamError)
  deriving DecidableEq, Repr

def Scan (α : Type) := Bytes → Demand (α × Bytes)

namespace Scan

def pure (a : α) : Scan α := fun bytes => .ready (a, bytes)

def bind (s : Scan α) (next : α → Scan β) : Scan β := fun bytes =>
  match s bytes with
  | .ready (a, rest) => next a rest
  | .more count atEnd => .more count atEnd

instance : Monad Scan where
  pure := pure
  bind := bind

/-- Takes `n` bytes. -/
def exactly (n : Nat) : Scan Bytes := fun bytes =>
  let front := bytes.take n
  if front.length = n then .ready (front, bytes.drop n)
  else .more (n - front.length) .earlyEnd

/-- Takes a number of any width. -/
def varint : Scan Nat := fun bytes =>
  match bytes with
  | [] => .more 1 .unexpectedEnd
  | first :: _ =>
    match exactly (Varint.declaredWidth first) bytes with
    | .ready (front, rest) => .ready (Varint.value front, rest)
    | .more count atEnd => .more count atEnd

/-- Goes on behind the bytes in `got`, by reading no more than what is sure to be needed. -/
def pull (s : Scan α) (got : Bytes) (source : σ) (read : Nat → Attempt (Bytes × σ) σ) :
    Attempt (Bytes × σ) (Except StreamError α × σ) :=
  match s got with
  | .ready (a, _) => .ends (.ok a, source)
  | .more count atEnd =>
    match read count with
    | .waits => .waits
    | .goesOn (chunk, source) => .goesOn (got ++ chunk, source)
    | .ends source => .ends (.error atEnd, source)

/-- Scans a stream that holds `bytes` and ends behind them. What is cut short is used up. -/
def ofEnded (s : Scan α) (bytes : Bytes) : Except Error α × Bytes :=
  match s bytes with
  | .ready (a, rest) => (.ok a, rest)
  | .more _ atEnd => (.error (.transport atEnd), [])

/-- Scans `count` times in a row. -/
def repeatOnEnded (s : Scan α) : Nat → Bytes → List (Except Error α)
  | 0, _ => []
  | count + 1, bytes =>
    let (result, rest) := s.ofEnded bytes
    result :: repeatOnEnded s count rest

end Scan

end MediaOverQuic
