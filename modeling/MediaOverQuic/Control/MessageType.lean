import MediaOverQuic.Registry

/-!
# Control message types

All types that the protocol assigns to messages on the control stream. Only the setup messages,
MAX_REQUEST_ID and REQUESTS_BLOCKED have a payload that this library reads and writes.
-/
namespace MediaOverQuic

inductive MessageType
  | clientSetup
  | serverSetup
  | goaway
  | maxRequestId
  | requestsBlocked
  | requestOk
  | requestError
  | subscribe
  | subscribeOk
  | requestUpdate
  | unsubscribe
  | publish
  | publishOk
  | publishDone
  | fetch
  | fetchOk
  | fetchCancel
  | trackStatus
  | publishNamespace
  | announcedNamespace
  | publishNamespaceDone
  | namespaceDone
  | publishNamespaceCancel
  | subscribeNamespace
  deriving DecidableEq, Repr, Inhabited

namespace MessageType

def all : List MessageType :=
  [clientSetup, serverSetup, goaway, maxRequestId, requestsBlocked, requestOk, requestError,
    subscribe, subscribeOk, requestUpdate, unsubscribe, publish, publishOk, publishDone, fetch,
    fetchOk, fetchCancel, trackStatus, publishNamespace, announcedNamespace, publishNamespaceDone,
    namespaceDone, publishNamespaceCancel, subscribeNamespace]

/-- The number that goes over the wire. -/
def value : MessageType → Nat
  | clientSetup => 0x20
  | serverSetup => 0x21
  | goaway => 0x10
  | maxRequestId => 0x15
  | requestsBlocked => 0x1A
  | requestOk => 0x7
  | requestError => 0x5
  | subscribe => 0x3
  | subscribeOk => 0x4
  | requestUpdate => 0x2
  | unsubscribe => 0xA
  | publish => 0x1D
  | publishOk => 0x1E
  | publishDone => 0xB
  | fetch => 0x16
  | fetchOk => 0x18
  | fetchCancel => 0x17
  | trackStatus => 0xD
  | publishNamespace => 0x6
  | announcedNamespace => 0x8
  | publishNamespaceDone => 0x9
  | namespaceDone => 0xE
  | publishNamespaceCancel => 0xC
  | subscribeNamespace => 0x11

/-- The name that messages call the type by. -/
def name : MessageType → String
  | clientSetup => "ClientSetup"
  | serverSetup => "ServerSetup"
  | goaway => "Goaway"
  | maxRequestId => "MaxRequestId"
  | requestsBlocked => "RequestsBlocked"
  | requestOk => "RequestOk"
  | requestError => "RequestError"
  | subscribe => "Subscribe"
  | subscribeOk => "SubscribeOk"
  | requestUpdate => "RequestUpdate"
  | unsubscribe => "Unsubscribe"
  | publish => "Publish"
  | publishOk => "PublishOk"
  | publishDone => "PublishDone"
  | fetch => "Fetch"
  | fetchOk => "FetchOk"
  | fetchCancel => "FetchCancel"
  | trackStatus => "TrackStatus"
  | publishNamespace => "PublishNamespace"
  | announcedNamespace => "Namespace"
  | publishNamespaceDone => "PublishNamespaceDone"
  | namespaceDone => "NamespaceDone"
  | publishNamespaceCancel => "PublishNamespaceCancel"
  | subscribeNamespace => "SubscribeNamespace"

def ofValue (v : Nat) : Except UnknownValue MessageType :=
  lookUp "ControlMessageType" all value v

end MessageType

end MediaOverQuic
