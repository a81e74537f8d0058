import MediaOverQuic.Model.KeyValuePair
import MediaOverQuic.Model.Location
import MediaOverQuic.Model.TrackName

/-!
# Objects

An object as the application sees it, however it is sent. Options are given one after the other to a
draft; `build` refuses a draft that reports a missing object and carries content nevertheless.
-/
namespace MediaOverQuic

namespace ObjectStatus

/-- The status with the given number; other numbers break the protocol. -/
def ofWire (v : Nat) : Except Error ObjectStatus :=
  match ofValue? v with
  | some s => .ok s
  | none => .error (.violation (.unknownStatus v))

end ObjectStatus

/-- How the publisher wants an object to be forwarded. -/
inductive ForwardingPreference
  | datagram
  | subgroup
  deriving DecidableEq, Repr, Inhabited

structure Object where
  location : Location
  subgroupId : Nat
  track : TrackName
  publisherPriority : UInt8
  forwardingPreference : ForwardingPreference
  status : ObjectStatus
  extensionHeaders : List KeyValuePair
  payload : Bytes
  deriving DecidableEq, Repr

namespace Object

/-- What is chosen about an object. -/
inductive Choice
  | subgroupId (id : Nat)
  | publisherPriority (priority : UInt8)
  | forwardingPreference (preference : ForwardingPreference)
  | status (status : ObjectStatus)
  | extensionHeaders (pairs : List KeyValuePair)
  | payload (bytes : Bytes)
  deriving DecidableEq, Repr

/-- The object before anything is chosen. -/
def draft (track : TrackName) (location : Location) : Object where
  location := location
  subgroupId := 0
  track := track
  publisherPriority := 128
  forwardingPreference := .subgroup
  status := .normal
  extensionHeaders := []
  payload := []

def choose (o : Object) : Choice → Object
  | .subgroupId id => { o with subgroupId := id }
  | .publisherPriority priority => { o with publisherPriority := priority }
  | .forwardingPreference preference => { o with forwardingPreference := preference }
  | .status status => { o with status := status }
  | .extensionHeaders pairs => { o with extensionHeaders := pairs }
  | .payload bytes => { o with payload := bytes }

/-- An object with a status other than normal has neither payload nor extension headers. -/
def check (o : Object) : Except Error Object :=
  if o.status = .normal then .ok o
  else if o.payload ≠ [] then .error (.violation (.payloadWithStatus o.status))
  else if o.extensionHeaders ≠ [] then .error (.violation (.extensionsWithStatus o.status))
  else .ok o

/-- The object that the choices, made in order, lead to. -/
def build (track : TrackName) (location : Location) (choices : List Choice) : Except Error Object :=
  (choices.foldl choose (draft track location)).check

end Object

end MediaOverQuic
