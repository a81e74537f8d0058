import MediaOverQuic.Control.MessageType
import MediaOverQuic.Control.SetupParameter

/-!
# Control messages

What the two ends tell each other on the control stream: the setup messages of the handshake, a
higher limit for request ids, and that requests wait for one. The payload of a message has to be
used up exactly.
-/
namespace MediaOverQuic

inductive Message
  | clientSetup (params : List KeyValuePair)
  | serverSetup (params : List KeyValuePair)
  | maxRequestId (limit : Nat)
  | requestsBlocked (limit : Nat)
  deriving DecidableEq, Repr

namespace Message

def type : Message → MessageType
  | clientSetup _ => .clientSetup
  | serverSetup _ => .serverSetup
  | maxRequestId _ => .maxRequestId
  | requestsBlocked _ => .requestsBlocked

/-- The setup message of a side. -/
def setup : Role → List KeyValuePair → Message
  | .client => clientSetup
  | .server => serverSetup

def encodePayload : Message → Output
  | clientSetup params => KeyValuePair.encodeList params
  | serverSetup params => KeyValuePair.encodeList params
  | maxRequestId limit => Varint.put limit
  | requestsBlocked limit => Varint.put limit

/-- Reads the content of a message of the given type. -/
def decodeContent : MessageType → Decoder Message
  | .clientSetup => do return clientSetup (← KeyValuePair.decodeList)
  | .serverSetup => do return serverSetup (← KeyValuePair.decodeList)
  | .maxRequestId => do return maxRequestId (← Varint.decode)
  | .requestsBlocked => do return requestsBlocked (← Varint.decode)
  | t => Decoder.fail (.violation (.unsupportedMessageType t))

/-- The message with the given type and payload. -/
def decode (typeId : Nat) (payload : Bytes) : Except Error Message :=
  match MessageType.ofValue typeId with
  | .error _ => .error (.violation (.unknownMessageType typeId))
  | .ok t =>
    match decodeContent t payload with
    | (.error e, _) => .error e
    | (.ok m, []) => .ok m
    | (.ok _, rest) =>
      .error (.violation (.lengthMismatch t payload.length (payload.length - rest.length)))

end Message

end MediaOverQuic
