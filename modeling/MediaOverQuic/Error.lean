import MediaOverQuic.Duration
import MediaOverQuic.Violation

/-!
# Errors

`Error` is what can go wrong while speaking the protocol. A `Failure` is how such an error, or one
of another kind, reaches the application: as a chain of layers, from what was being done down to
what has caused it. `Failure.termination` says how to end a session after it. The first error of the
protocol on the way down decides the code, and what all layers say is told to the peer.
-/
namespace MediaOverQuic

/-- What a byte stream reports. -/
inductive StreamError
  /-- The stream ended where the first byte of a number was to be read. -/
  | unexpectedEnd
  /-- The stream ended within a number or a payload. -/
  | earlyEnd
  /-- The other end is gone. -/
  | brokenPipe
  /-- An earlier frame is incomplete, so what follows it would be taken for its rest. -/
  | incompleteFrame
  /-- Anything else, with what it came from. -/
  | foreign (explanation : String) (sources : List String)
  deriving DecidableEq, Repr

namespace StreamError

/-- An error that came from nothing else. -/
def other (explanation : String) : StreamError := foreign explanation []

def text : StreamError → String
  | unexpectedEnd => "unexpected end of file"
  | earlyEnd => "early eof"
  | brokenPipe => "broken pipe"
  | incompleteFrame => "control stream has an incomplete frame from an earlier write"
  | foreign explanation _ => explanation

/-- The texts of what the error came from, the nearest first. -/
def sources : StreamError → List String
  | foreign _ sources => sources
  | unexpectedEnd | earlyEnd | brokenPipe | incompleteFrame => []

end StreamError

/-- What can go wrong while speaking the protocol. -/
inductive Error
  | unexpectedEnd (needed remaining : Nat)
  | varintTooLarge (value : Nat)
  | keyValue (fault : KeyValueFault)
  | violation (rule : Violation)
  | transport (cause : StreamError)
  | timeout (after : Duration)
  deriving DecidableEq, Repr

namespace Error

def message : Error → String
  | unexpectedEnd needed remaining =>
    "unexpected end of input: " ++ toString needed ++ " bytes needed, " ++ toString remaining
      ++ " remaining"
  | varintTooLarge v => "value " ++ toString v ++ " exceeds the maximum varint value"
  | keyValue fault => "key-value formatting error: " ++ fault.phrase.text
  | violation rule => "protocol violation (" ++ rule.code.name ++ "): " ++ rule.phrase.text
  | transport cause => "transport error: " ++ cause.text
  | timeout after => "timed out after " ++ after.text

/-- The code to end a session with when this error ends it. Malformed input is a violation of the
protocol. -/
def code : Error → TerminationCode
  | unexpectedEnd .. => .protocolViolation
  | varintTooLarge _ => .protocolViolation
  | keyValue _ => .keyValueFormattingError
  | violation rule => rule.code
  | transport _ => .internalError
  | timeout _ => .controlMessageTimeout

def isViolation : Error → Bool
  | violation _ => true
  | _ => false

/-- The texts of what this error came from, the nearest first. -/
def sources : Error → List String
  | transport cause => cause.text :: cause.sources
  | unexpectedEnd .. | varintTooLarge _ | keyValue _ | violation _ | timeout _ => []

end Error

/-- The phrase `text`, refused if it is too long. -/
def ReasonPhrase.ofText (text : String) : Except Error ReasonPhrase :=
  match ReasonPhrase.ofText? text with
  | some p => .ok p
  | none => .error (.violation (.reasonTooLong (utf8Length text.toList)))

/-- A part of a failure that has a text of its own. -/
inductive Layer
  /-- What was being done, or an error that is not about the protocol. -/
  | told (text : String)
  | protocol (e : Error)
  deriving DecidableEq, Repr

namespace Layer

def text : Layer → String
  | told text => text
  | protocol e => e.message

def error? : Layer → Option Error
  | told _ => none
  | protocol e => some e

end Layer

/-- What has gone wrong, layer by layer: each one came from the one below it. -/
structure Failure where
  outermost : Layer
  beneath : List Layer
  deriving DecidableEq, Repr

namespace Failure

/-- The layers of a failure, from the outermost one down. -/
def layers (f : Failure) : List Layer := f.outermost :: f.beneath

def ofError (e : Error) : Failure := ⟨.protocol e, e.sources.map .told⟩

def plain (text : String) : Failure := ⟨.told text, []⟩

/-- The failure seen from the activity `what`. -/
def within (what : String) (f : Failure) : Failure := ⟨.told what, f.layers⟩

/-- The first error of the protocol on the way down. -/
def firstError? : List Layer → Option Error
  | [] => none
  | layer :: below =>
    match layer.error? with
    | some e => some e
    | none => firstError? below

def error? (f : Failure) : Option Error := firstError? f.layers

/-- What all layers say. -/
def message (f : Failure) : String := String.intercalate ": " (f.layers.map Layer.text)

/-- The code of the outermost error of the protocol; without one it is an internal error. -/
def code (f : Failure) : TerminationCode :=
  match f.error? with
  | some e => e.code
  | none => .internalError

/-- How to end a session after the failure. -/
def termination (f : Failure) : TerminationCode × ReasonPhrase :=
  (f.code, ReasonPhrase.truncating f.message)

end Failure

/-- A failing result, seen from the activity `what`. -/
def during (what : String) : Except Failure α → Except Failure α
  | .ok a => .ok a
  | .error f => .error (f.within what)

/-- The result of an operation that fails with errors of the protocol. -/
def failing : Except Error α → Except Failure α
  | .ok a => .ok a
  | .error e => .error (Failure.ofError e)

end MediaOverQuic
