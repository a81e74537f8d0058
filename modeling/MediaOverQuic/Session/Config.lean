import MediaOverQuic.Error

/-!
# Session configuration

The limits that one end sets itself and its peer, and how long it is willing to wait.
-/
namespace MediaOverQuic

structure Config where
  /-- The limit for the peer's request ids, told to the peer unless the parameters name one. -/
  maxIncomingRequestId : Nat
  /-- How many bytes of tokens are kept for the peer. -/
  localTokenCacheSize : Nat
  openStreamTimeout : Duration
  /-- How long a server waits for the control stream. -/
  controlStreamTimeout : Duration
  /-- How long sending a message or waiting for the peer's setup message may take. -/
  controlMessageTimeout : Duration
  maxControlMessageLength : Nat
  /-- How many accepted connections may wait for a handler. -/
  connectionQueueSize : Nat
  deriving DecidableEq, Repr

namespace Config

def standard : Config where
  maxIncomingRequestId := 1000
  localTokenCacheSize := 0
  openStreamTimeout := .ofMillis 10000
  controlStreamTimeout := .ofMillis 10000
  controlMessageTimeout := .ofMillis 10000
  maxControlMessageLength := 65535
  connectionQueueSize := 100

instance : Inhabited Config := ⟨standard⟩

/-- The most bytes that the payload of a control message may have. -/
def maxMessageLength : Nat := 65535

/-- Why a configuration can not be used, if so. -/
def fault? (c : Config) : Option String :=
  if maxMessageLength < c.maxControlMessageLength then
    some "control messages can not be longer than 65535 bytes"
  else if c.maxControlMessageLength = 0 then some "max control message length must be positive"
  else if c.connectionQueueSize = 0 then some "connection queue size must be positive"
  else if c.openStreamTimeout.nanos = 0 ∨ c.controlStreamTimeout.nanos = 0
      ∨ c.controlMessageTimeout.nanos = 0 then
    some "timeouts must be positive"
  else none

/-- Refuses a configuration that can not be used. -/
def check (c : Config) : Except Failure Unit :=
  match c.fault? with
  | some text => .error (Failure.plain text)
  | none => .ok ()

end Config

end MediaOverQuic
