import MediaOverQuic.Control.Message
import MediaOverQuic.Role
import MediaOverQuic.Text.Utf8

/-!
# Session state

What the two ends agreed on, as one of them sees it: names from the setup parameters, the numbering
of requests, and the accounts of the token caches. Request ids go up in steps of two from the role's
first one, and each direction stays below the limit that the receiving end set.
-/
namespace MediaOverQuic

structure SessionState where
  role : Role
  peerImplementation : String
  /-- What the client asked for, which is the same on both ends. -/
  path : String
  authority : String
  /-- The id of the next request sent, and the limit that the peer set for these. -/
  nextOutgoing : Nat
  maxOutgoing : Nat
  /-- The limit set for the peer's requests, and the id that its next one must have. -/
  maxIncoming : Nat
  nextIncoming : Nat
  peerTokenCacheSize : Nat
  localTokenCacheSize : Nat
  /-- How much of the peer's token cache is in use. -/
  usedAtPeer : Nat
  deriving DecidableEq, Repr

namespace SessionState

/-- The state before any parameters are known. -/
def start (role : Role) (maxIncoming localTokenCacheSize : Nat) : SessionState where
  role := role
  peerImplementation := ""
  path := ""
  authority := ""
  nextOutgoing := role.firstRequestId
  maxOutgoing := 0
  maxIncoming := maxIncoming
  nextIncoming := role.peer.firstRequestId
  peerTokenCacheSize := 0
  localTokenCacheSize := localTokenCacheSize
  usedAtPeer := 0

/-- The text of a byte string parameter. -/
def textOf (p : KeyValuePair) : String := Utf8.decodeLossy (p.bytes?.getD [])

/-- Takes over a parameter that this end sends. -/
def applyLocal (s : SessionState) (p : KeyValuePair) : SessionState :=
  match SetupParameter.ofId? p.typeId with
  | some .path => { s with path := textOf p }
  | some .authority => { s with authority := textOf p }
  | some .maxRequestId => { s with maxIncoming := p.int?.getD s.maxIncoming }
  | some .maxAuthTokenCacheSize =>
    { s with localTokenCacheSize := p.int?.getD s.localTokenCacheSize }
  | some .authToken | some .implementation | none => s

/-- Takes over a parameter that the peer sent. -/
def applyPeer (s : SessionState) (p : KeyValuePair) : SessionState :=
  match SetupParameter.ofId? p.typeId with
  | some .implementation => { s with peerImplementation := textOf p }
  | some .path => { s with path := textOf p }
  | some .authority => { s with authority := textOf p }
  | some .maxRequestId => { s with maxOutgoing := p.int?.getD s.maxOutgoing }
  | some .maxAuthTokenCacheSize =>
    { s with peerTokenCacheSize := p.int?.getD s.peerTokenCacheSize }
  | some .authToken | none => s

/-- Takes over the parameters that this end sends. -/
def applyAllLocal (s : SessionState) (params : List KeyValuePair) : SessionState :=
  params.foldl applyLocal s

/-- Takes over the parameters that the peer sent. -/
def applyAllPeer (s : SessionState) (params : List KeyValuePair) : SessionState :=
  params.foldl applyPeer s

/-- Takes the id for a new request, unless the peer's limit is reached. -/
def allocate (s : SessionState) : Option Nat × SessionState :=
  if s.nextOutgoing < s.maxOutgoing then
    (some s.nextOutgoing, { s with nextOutgoing := s.nextOutgoing + 2 })
  else (none, s)

/-- Takes over a limit from the peer, which has to be higher than the one before. -/
def raiseOutgoing (s : SessionState) (limit : Nat) : Except Error SessionState :=
  if limit ≤ s.maxOutgoing then .error (.violation (.limitNotRaised limit s.maxOutgoing))
  else .ok { s with maxOutgoing := limit }

/-- Registers a request of the peer. -/
def acceptIncoming (s : SessionState) (id : Nat) : Except Error SessionState :=
  if id ≠ s.nextIncoming then .error (.violation (.requestIdOutOfTurn s.nextIncoming id))
  else if s.maxIncoming ≤ id then .error (.violation (.requestIdBeyondLimit id s.maxIncoming))
  else .ok { s with nextIncoming := s.nextIncoming + 2 }

/-- Raises the limit for the peer's requests. The peer has to be told if that changed anything. -/
def grant (s : SessionState) (limit : Nat) : Option Message × SessionState :=
  if limit ≤ s.maxIncoming then (none, s)
  else (some (.maxRequestId limit), { s with maxIncoming := limit })

/-- Accounts for `size` bytes that the peer is asked to keep. -/
def reserveTokens (s : SessionState) (size : Nat) : Except Error SessionState :=
  let used := Word.saturatingAdd s.usedAtPeer size
  if s.peerTokenCacheSize < used then
    .error (.violation (.tokenCacheOverflow size s.peerTokenCacheSize s.usedAtPeer))
  else .ok { s with usedAtPeer := used }

def releaseTokens (s : SessionState) (size : Nat) : SessionState :=
  { s with usedAtPeer := s.usedAtPeer - size }

/-- Applies a message that came after the handshake. -/
def handle (s : SessionState) : Message → Except Error SessionState
  | .maxRequestId limit => s.raiseOutgoing limit
  | .requestsBlocked _ => .ok s
  | m => .error (.violation (.setupAfterHandshake m.type))

end SessionState

end MediaOverQuic
