import MediaOverQuic.Control.MessageType
import MediaOverQuic.Model.ObjectStatus
import MediaOverQuic.ReasonPhrase
import MediaOverQuic.Role
import MediaOverQuic.TerminationCode
import MediaOverQuic.Text.Hex

/-!
# Violations of the protocol

`Violation` has one constructor for each rule that a peer or an application can break, with what the
explanation mentions. `code` is the termination code that the rule calls for, `text` its wording.
`KeyValueFault` does the same for key-value pairs, whose faults have a code of their own.
-/
namespace MediaOverQuic

/-- What is wrong with a key-value pair. -/
inductive KeyValueFault
  | integerForOddType (typeId : Nat)
  | bytesForEvenType (typeId : Nat)
  | valueTooLong (typeId length : Nat)
  | declaredTooLong (typeId length : Nat)
  | other (explanation : String)
  deriving DecidableEq, Repr

namespace KeyValueFault

def text : KeyValueFault → String
  | integerForOddType t => "odd type " ++ Hex.numeral t ++ " with an integer value"
  | bytesForEvenType t => "even type " ++ Hex.numeral t ++ " with a byte string value"
  | valueTooLong t n => "value of type " ++ Hex.numeral t ++ " is " ++ toString n ++ " bytes long"
  | declaredTooLong t n =>
    "value of type " ++ Hex.numeral t ++ " declares " ++ toString n ++ " bytes"
  | other explanation => explanation

def phrase (f : KeyValueFault) : ReasonPhrase := ReasonPhrase.truncating f.text

end KeyValueFault

/-- A rule that was broken. -/
inductive Violation
  | reasonTooLong (length : Nat)
  | namespaceFieldCount (fields : Nat)
  | emptyTrackName
  | trackNameTooLong (length : Nat)
  | unknownStatus (value : Nat)
  | payloadWithStatus (status : ObjectStatus)
  | extensionsWithStatus (status : ObjectStatus)
  | datagramTypeOutOfRange (id : Nat)
  | datagramTypeReserved (id : Nat)
  | datagramTypeStatusEndsGroup (id : Nat)
  | datagramStatusAndPayload
  | datagramWithoutBody
  | datagramExtensionsEndGroup
  | datagramStatusEndsGroup
  | unknownMessageType (id : Nat)
  | unsupportedMessageType (type : MessageType)
  | lengthMismatch (type : MessageType) (declared decoded : Nat)
  | frameTooLong (length limit : Nat)
  | messageTooLong (type : MessageType) (length limit : Nat)
  | limitNotRaised (value limit : Nat)
  | requestIdOutOfTurn (expected got : Nat)
  | requestIdBeyondLimit (id limit : Nat)
  | tokenCacheOverflow (size limit used : Nat)
  | tooManyStreams (limit : Nat)
  | pathOrAuthorityOnOverlay
  | pathOrAuthorityInServerSetup
  | pathFromServer
  | authorityFromServer
  | notTheSetup (sender : Role) (type : MessageType)
  | setupAfterHandshake (type : MessageType)
  | other (code : TerminationCode) (explanation : String)
  deriving DecidableEq, Repr

namespace Violation

/-- The code to end a session with when this rule is broken. -/
def code : Violation → TerminationCode
  | requestIdOutOfTurn .. => .invalidRequestId
  | requestIdBeyondLimit .. => .tooManyRequests
  | tokenCacheOverflow .. => .authTokenCacheOverflow
  | pathFromServer => .invalidPath
  | authorityFromServer => .invalidAuthority
  | other code _ => code
  | _ => .protocolViolation

/-- The name of the setup message that `sender` sends. -/
def setupName : Role → String
  | .client => "CLIENT_SETUP"
  | .server => "SERVER_SETUP"

def text : Violation → String
  | reasonTooLong n => "reason phrase is " ++ toString n ++ " bytes long, maximum is 1024"
  | namespaceFieldCount n =>
    "track namespace has " ++ toString n ++ " fields, must be between 1 and 32"
  | emptyTrackName => "track name must not be empty"
  | trackNameTooLong n => "full track name is " ++ toString n ++ " bytes long, maximum is 4096"
  | unknownStatus v => "invalid object status " ++ Hex.numeral v
  | payloadWithStatus s => "object with status " ++ s.name ++ " must have an empty payload"
  | extensionsWithStatus s => "object with status " ++ s.name ++ " must not have extension headers"
  | datagramTypeOutOfRange id => "object datagram type " ++ Hex.numeral id ++ " is out of range"
  | datagramTypeReserved id => "object datagram type " ++ Hex.numeral id ++ " sets the reserved bit"
  | datagramTypeStatusEndsGroup id =>
    "object datagram type " ++ Hex.numeral id ++ " combines status and end of group"
  | datagramStatusAndPayload => "object datagram has both status and payload"
  | datagramWithoutBody => "object datagram has neither status nor payload"
  | datagramExtensionsEndGroup => "object datagram can not have both extensions and end of group"
  | datagramStatusEndsGroup => "object datagram can not have both status and end of group"
  | unknownMessageType id => "unknown control message type " ++ Hex.numeral id
  | unsupportedMessageType t => "unsupported control message type " ++ t.name
  | lengthMismatch t declared decoded =>
    "control message length mismatch for " ++ t.name ++ ": declared " ++ toString declared
      ++ ", decoded " ++ toString decoded
  | frameTooLong n limit =>
    "control message length " ++ toString n ++ " exceeds maximum of " ++ toString limit
  | messageTooLong t n limit =>
    t.name ++ " is " ++ toString n ++ " bytes long, maximum is " ++ toString limit
  | limitNotRaised v limit =>
    "MAX_REQUEST_ID " ++ toString v ++ " does not increase the current limit " ++ toString limit
  | requestIdOutOfTurn expected got =>
    "expected request id " ++ toString expected ++ ", got " ++ toString got
  | requestIdBeyondLimit id limit =>
    "request id " ++ toString id ++ " exceeds the limit " ++ toString limit
  | tokenCacheOverflow size limit used =>
    "caching " ++ toString size ++ " more token bytes exceeds the peer's limit of "
      ++ toString limit ++ " (" ++ toString used ++ " in use)"
  | tooManyStreams n => "no more than " ++ toString n ++ " bidirectional streams allowed"
  | pathOrAuthorityOnOverlay => "PATH and AUTHORITY must be omitted on an overlay transport"
  | pathOrAuthorityInServerSetup => "PATH and AUTHORITY must not be sent in SERVER_SETUP"
  | pathFromServer => "server sent PATH in SERVER_SETUP"
  | authorityFromServer => "server sent AUTHORITY in SERVER_SETUP"
  | notTheSetup sender t => "expected " ++ setupName sender ++ ", got " ++ t.name
  | setupAfterHandshake t => "unexpected " ++ t.name ++ " after the handshake"
  | other _ explanation => explanation

def phrase (v : Violation) : ReasonPhrase := ReasonPhrase.truncating v.text

end Violation

end MediaOverQuic
