import MediaOverQuic.Wire.Varint

/-!
# Key-value pairs

A type and a value for it: even types have an integer, odd types a byte string of at most 65535
bytes. `make` refuses a value of the wrong kind or size, so what it makes can be written. A list of
pairs is written as their number and the pairs.
-/
namespace MediaOverQuic

inductive KeyValue
  | int (v : Nat)
  | bytes (b : Bytes)
  deriving DecidableEq, Repr

structure KeyValuePair where
  typeId : Nat
  value : KeyValue
  deriving DecidableEq, Repr

namespace KeyValuePair

/-- The most bytes that a value has. -/
def maxLength : Nat := 65535

/-- The pair of a type and a value, if they go together. -/
def make (typeId : Nat) (value : KeyValue) : Except Error KeyValuePair :=
  if Varint.max < typeId then .error (.varintTooLarge typeId)
  else match value with
    | .int v =>
      if typeId % 2 = 1 then .error (.keyValue (.integerForOddType typeId))
      else if Varint.max < v then .error (.varintTooLarge v)
      else .ok ⟨typeId, value⟩
    | .bytes b =>
      if typeId % 2 = 0 then .error (.keyValue (.bytesForEvenType typeId))
      else if maxLength < b.length then .error (.keyValue (.valueTooLong typeId b.length))
      else .ok ⟨typeId, value⟩

def int? (p : KeyValuePair) : Option Nat :=
  match p.value with
  | .int v => some v
  | .bytes _ => none

def bytes? (p : KeyValuePair) : Option Bytes :=
  match p.value with
  | .int _ => none
  | .bytes b => some b

def encode (p : KeyValuePair) : Output :=
  Varint.put p.typeId ++ match p.value with
    | .int v => Varint.put v
    | .bytes b => Varint.put b.length ++ .ofBytes b

/-- Reads a pair. A value that declares too many bytes is refused without looking for them. -/
def decode : Decoder KeyValuePair := do
  let typeId ← Varint.decode
  if typeId % 2 = 0 then
    let v ← Varint.decode
    return ⟨typeId, .int v⟩
  else
    let length ← Varint.decode
    if maxLength < length then
      Decoder.fail (.keyValue (.declaredTooLong typeId length))
    else
      let b ← Decoder.take length
      return ⟨typeId, .bytes b⟩

/-- Writes the number of pairs and the pairs. -/
def encodeList (pairs : List KeyValuePair) : Output :=
  Varint.put pairs.length ++ Output.concat (pairs.map encode)

/-- How many pairs to make room for in advance. A pair takes at least two bytes, so a count that is
too large for what there is does not take up memory. -/
def roomFor (count : Nat) (bytes : Bytes) : Nat := min count (bytes.length / 2)

/-- How far reading the pairs of a list has come. -/
structure Course where
  /-- How many pairs room was made for in advance. -/
  room : Nat
  read : Array KeyValuePair
  /-- What there was to read where each pair was begun, the last pair in front. -/
  begun : List Bytes
  /-- Why the last pair that was begun could not be read. -/
  error? : Option Error
  rest : Bytes

namespace Course

/-- Nothing is read yet, but there is room for some pairs. -/
def start (room : Nat) (bytes : Bytes) : Course :=
  ⟨room, .emptyWithCapacity room, [], none, bytes⟩

/-- Begins a pair and reads it. -/
def next (c : Course) : Course :=
  match decode c.rest with
  | (.ok p, rest) => { c with read := c.read.push p, begun := c.rest :: c.begun, rest := rest }
  | (.error e, rest) => { c with begun := c.rest :: c.begun, error? := some e, rest := rest }

/-- The pairs that were read, if all of them could be. -/
def result (c : Course) : Except Error (List KeyValuePair) × Bytes :=
  match c.error? with
  | none => (.ok c.read.toList, c.rest)
  | some e => (.error e, c.rest)

end Course

/-- Reads `count` more pairs, up to the first that can not be read. -/
def decodeMany : Nat → Course → Course
  | 0, c => c
  | count + 1, c =>
    let c := c.next
    if c.error?.isSome then c else decodeMany count c

/-- Reads a list of `count` pairs. -/
def decodeCounted (count : Nat) (bytes : Bytes) : Course :=
  decodeMany count (.start (roomFor count bytes) bytes)

/-- Reads a number of pairs and that many pairs. -/
def courseOf (bytes : Bytes) : Course :=
  match Varint.decode bytes with
  | (.ok count, rest) => decodeCounted count rest
  | (.error e, rest) => { Course.start 0 rest with error? := some e }

/-- Reads a list of pairs behind their number. -/
def decodeList : Decoder (List KeyValuePair) := fun bytes => (courseOf bytes).result

end KeyValuePair

end MediaOverQuic
