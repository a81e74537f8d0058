import MediaOverQuic.Control.Message
import MediaOverQuic.Wire.Scan

/-!
# Frames

On the control stream a message is its type, the length of its payload, and the payload. Both ends
cap the length. A frame is taken from the stream as a whole, whatever is in it, so the next one
starts behind it; only a length above the cap stops reading at the header.
-/
namespace MediaOverQuic.Frame

/-- The frame of a message, whose payload may have `limit` bytes. -/
def encode (limit : Nat) (m : Message) : Except Error Bytes :=
  match m.encodePayload.complete with
  | .error e => .error e
  | .ok payload =>
    if limit < payload.length then
      .error (.violation (.messageTooLong m.type payload.length limit))
    else
      (Varint.put m.type.value ++ Varint.put payload.length ++ .ofBytes payload).complete

/-- Reads a frame, whose payload may have `limit` bytes. -/
def scan (limit : Nat) : Scan (Except Error Message) := do
  let typeId ← Scan.varint
  let length ← Scan.varint
  if limit < length then
    return .error (.violation (.frameTooLong length limit))
  else
    let payload ← Scan.exactly length
    return Message.decode typeId payload

end MediaOverQuic.Frame
