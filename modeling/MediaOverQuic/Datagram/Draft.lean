import MediaOverQuic.Datagram.Basic

/-!
# Putting a datagram together

The parts of a datagram are given one after the other; each marks the kind as having it. Which parts
go together is checked at the end.
-/
namespace MediaOverQuic

/-- A part that is given for a datagram. -/
inductive DatagramPart
  | objectId (id : Nat)
  | publisherPriority (priority : UInt8)
  | extensions (pairs : List KeyValuePair)
  | endOfGroup
  | status (s : ObjectStatus)
  | payload (bytes : Bytes)
  deriving DecidableEq, Repr

/-- A datagram that is being put together. -/
structure DatagramDraft where
  kind : DatagramKind
  trackAlias : Nat
  location : Location
  publisherPriority : Option UInt8
  extensions : Option (List KeyValuePair)
  status : Option ObjectStatus
  payload : Option Bytes
  deriving DecidableEq, Repr

namespace DatagramDraft

/-- Nothing given but what every datagram has. -/
def start (trackAlias group : Nat) : DatagramDraft where
  kind := .payloadOnly
  trackAlias := trackAlias
  location := ⟨group, 0⟩
  publisherPriority := none
  extensions := none
  status := none
  payload := none

def add (d : DatagramDraft) : DatagramPart → DatagramDraft
  | .objectId id =>
    { d with
      location := { d.location with object := id }
      kind := { d.kind with objectId := true } }
  | .publisherPriority priority =>
    { d with publisherPriority := some priority, kind := { d.kind with priority := true } }
  | .extensions pairs =>
    { d with extensions := some pairs, kind := { d.kind with extensions := true } }
  | .endOfGroup => { d with kind := { d.kind with endOfGroup := true } }
  | .status s => { d with status := some s, kind := { d.kind with status := true } }
  | .payload bytes => { d with payload := some bytes }

/-- The status or the payload, of which there has to be one. -/
def body (d : DatagramDraft) : Except Error DatagramBody :=
  match d.status, d.payload with
  | some s, none => .ok (.status s)
  | none, some bytes => .ok (.payload bytes)
  | some _, some _ => .error (.violation .datagramStatusAndPayload)
  | none, none => .error (.violation .datagramWithoutBody)

/-- The datagram with the parts given so far, if they go together. -/
def finish (d : DatagramDraft) : Except Error Datagram :=
  match d.body with
  | .error e => .error e
  | .ok body =>
    if d.kind.extensions && d.kind.endOfGroup then .error (.violation .datagramExtensionsEndGroup)
    else if d.kind.status && d.kind.endOfGroup then .error (.violation .datagramStatusEndsGroup)
    else .ok {
      kind := d.kind
      trackAlias := d.trackAlias
      location := d.location
      publisherPriority := d.publisherPriority
      extensions := d.extensions
      body := body }

end DatagramDraft

namespace Datagram

/-- The datagram that the parts, given in order, make. -/
def build (trackAlias group : Nat) (parts : List DatagramPart) : Except Error Datagram :=
  (parts.foldl DatagramDraft.add (DatagramDraft.start trackAlias group)).finish

/-- The parts that an object is sent with. -/
def partsOfObject (o : Object) : List DatagramPart :=
  [.objectId o.location.object, .publisherPriority o.publisherPriority]
    ++ (if o.extensionHeaders = [] then [] else [.extensions o.extensionHeaders])
    ++ [if o.status = .normal then .payload o.payload else .status o.status]

/-- The datagram that an object is sent in. -/
def ofObject (trackAlias : Nat) (o : Object) : Except Error Datagram :=
  build trackAlias o.location.group (partsOfObject o)

end Datagram

end MediaOverQuic
