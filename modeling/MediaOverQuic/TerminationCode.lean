import MediaOverQuic.Registry

/-!
# Termination codes

The code that a session is ended with tells the peer why. It is sent as the error code of closing
the connection.
-/
namespace MediaOverQuic

inductive TerminationCode
  | noError
  | internalError
  | unauthorized
  | protocolViolation
  | invalidRequestId
  | duplicateTrackAlias
  | keyValueFormattingError
  | tooManyRequests
  | invalidPath
  | malformedPath
  | goawayTimeout
  | controlMessageTimeout
  | dataStreamTimeout
  | authTokenCacheOverflow
  | duplicateAuthTokenAlias
  | versionNegotiationFailed
  | malformedAuthToken
  | unknownAuthTokenAlias
  | expiredAuthToken
  | invalidAuthority
  | malformedAuthority
  deriving DecidableEq, Repr, Inhabited

namespace TerminationCode

def all : List TerminationCode :=
  [noError, internalError, unauthorized, protocolViolation, invalidRequestId, duplicateTrackAlias,
    keyValueFormattingError, tooManyRequests, invalidPath, malformedPath, goawayTimeout,
    controlMessageTimeout, dataStreamTimeout, authTokenCacheOverflow, duplicateAuthTokenAlias,
    versionNegotiationFailed, malformedAuthToken, unknownAuthTokenAlias, expiredAuthToken,
    invalidAuthority, malformedAuthority]

/-- The number that goes over the wire. -/
def value : TerminationCode → Nat
  | noError => 0x0
  | internalError => 0x1
  | unauthorized => 0x2
  | protocolViolation => 0x3
  | invalidRequestId => 0x4
  | duplicateTrackAlias => 0x5
  | keyValueFormattingError => 0x6
  | tooManyRequests => 0x7
  | invalidPath => 0x8
  | malformedPath => 0x9
  | goawayTimeout => 0x10
  | controlMessageTimeout => 0x11
  | dataStreamTimeout => 0x12
  | authTokenCacheOverflow => 0x13
  | duplicateAuthTokenAlias => 0x14
  | versionNegotiationFailed => 0x15
  | malformedAuthToken => 0x16
  | unknownAuthTokenAlias => 0x17
  | expiredAuthToken => 0x18
  | invalidAuthority => 0x19
  | malformedAuthority => 0x1A

/-- The name that messages call the code by. -/
def name : TerminationCode → String
  | noError => "NoError"
  | internalError => "InternalError"
  | unauthorized => "Unauthorized"
  | protocolViolation => "ProtocolViolation"
  | invalidRequestId => "InvalidRequestId"
  | duplicateTrackAlias => "DuplicateTrackAlias"
  | keyValueFormattingError => "KeyValueFormattingError"
  | tooManyRequests => "TooManyRequests"
  | invalidPath => "InvalidPath"
  | malformedPath => "MalformedPath"
  | goawayTimeout => "GoawayTimeout"
  | controlMessageTimeout => "ControlMessageTimeout"
  | dataStreamTimeout => "DataStreamTimeout"
  | authTokenCacheOverflow => "AuthTokenCacheOverflow"
  | duplicateAuthTokenAlias => "DuplicateAuthTokenAlias"
  | versionNegotiationFailed => "VersionNegotiationFailed"
  | malformedAuthToken => "MalformedAuthToken"
  | unknownAuthTokenAlias => "UnknownAuthTokenAlias"
  | expiredAuthToken => "ExpiredAuthToken"
  | invalidAuthority => "InvalidAuthority"
  | malformedAuthority => "MalformedAuthority"

def ofValue (v : Nat) : Except UnknownValue TerminationCode :=
  lookUp "TerminationCode" all value v

end TerminationCode

end MediaOverQuic
