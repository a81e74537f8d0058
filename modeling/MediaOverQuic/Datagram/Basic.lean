import MediaOverQuic.Datagram.Kind
import MediaOverQuic.Model.Object

/-!
# Object datagrams

A complete object in one datagram: its kind, the track alias, the location, a priority and
extensions if the kind says so, and a status or the payload. The object id is always written; where
the kind has none, it is not looked at when reading, and 0. A payload goes on to the end of the
datagram.
-/
namespace MediaOverQuic

inductive DatagramBody
  | status (s : ObjectStatus)
  | payload (bytes : Bytes)
  deriving DecidableEq, Repr

structure Datagram where
  kind : DatagramKind
  trackAlias : Nat
  location : Location
  publisherPriority : Option UInt8
  extensions : Option (List KeyValuePair)
  body : DatagramBody
  deriving DecidableEq, Repr

namespace Datagram

def status? (d : Datagram) : Option ObjectStatus :=
  match d.body with
  | .status s => some s
  | .payload _ => none

def payload? (d : Datagram) : Option Bytes :=
  match d.body with
  | .status _ => none
  | .payload bytes => some bytes

def encode (d : Datagram) : Output :=
  Varint.put d.kind.id ++ Varint.put d.trackAlias ++ d.location.encode
    ++ (match d.publisherPriority with
      | some priority => .ofBytes [priority]
      | none => .empty)
    ++ (match d.extensions with
      | some pairs => KeyValuePair.encodeList pairs
      | none => .empty)
    ++ match d.body with
      | .status s => Varint.put s.value
      | .payload bytes => .ofBytes bytes

/-- Reads the kind of a datagram. -/
def decodeKind : Decoder DatagramKind := do
  let id ← Varint.decode
  match DatagramKind.ofId id with
  | .ok kind => return kind
  | .error e => Decoder.fail e

/-- Reads what stands behind the extensions. -/
def decodeBody (kind : DatagramKind) : Decoder DatagramBody :=
  if kind.status then do
    let v ← Varint.decode
    match ObjectStatus.ofWire v with
    | .ok s => return .status s
    | .error e => Decoder.fail e
  else do
    let bytes ← Decoder.remaining
    return .payload bytes

/-- Reads what `d` reads, if it is there. -/
def decodeIf (present : Bool) (d : Decoder α) : Decoder (Option α) :=
  if present then do
    let a ← d
    return some a
  else return none

def decode : Decoder Datagram := do
  let kind ← decodeKind
  let trackAlias ← Varint.decode
  let location ← Location.decode
  let publisherPriority ← decodeIf kind.priority Decoder.byte
  let extensions ← decodeIf kind.extensions KeyValuePair.decodeList
  let body ← decodeBody kind
  return {
    kind := kind
    trackAlias := trackAlias
    location := if kind.objectId then location else { location with object := 0 }
    publisherPriority := publisherPriority
    extensions := extensions
    body := body }

end Datagram

end MediaOverQuic
