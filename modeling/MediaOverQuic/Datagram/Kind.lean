import MediaOverQuic.Error

/-!
# Kinds of object datagrams

The number in front of a datagram says by its bits which parts the datagram has: 0x01 extensions,
0x02 the end of its group, 0x04 no object id, 0x08 no priority, 0x20 a status instead of a payload.
Bit 0x10 is reserved, and a status never ends a group.
-/
namespace MediaOverQuic

/-- Which parts a datagram has. -/
structure DatagramKind where
  extensions : Bool
  endOfGroup : Bool
  objectId : Bool
  priority : Bool
  status : Bool
  deriving DecidableEq, Repr

namespace DatagramKind

/-- A payload and nothing else. -/
def payloadOnly : DatagramKind := ⟨false, false, false, false, false⟩

/-- The number of the kind. -/
def id (k : DatagramKind) : Nat :=
  k.extensions.toNat + 2 * k.endOfGroup.toNat + 4 * (!k.objectId).toNat
    + 8 * (!k.priority).toNat + 32 * k.status.toNat

/-- The kind whose bits `n` has. -/
def ofBits (n : Nat) : DatagramKind :=
  ⟨n.testBit 0, n.testBit 1, !n.testBit 2, !n.testBit 3, n.testBit 5⟩

def maxId : Nat := 0x3F

/-- The kind with the number `n`. -/
def ofId (n : Nat) : Except Error DatagramKind :=
  if maxId < n then .error (.violation (.datagramTypeOutOfRange n))
  else if n.testBit 4 then .error (.violation (.datagramTypeReserved n))
  else if n.testBit 5 && n.testBit 1 then .error (.violation (.datagramTypeStatusEndsGroup n))
  else .ok (ofBits n)

/-- The way a kind is shown in logs. -/
def text (k : DatagramKind) : String :=
  "DatagramType\x7b0x" ++ Hex.digits 2 k.id ++ "\x7d"

@[simp] theorem ofBits_id (k : DatagramKind) : ofBits k.id = k := by
  cases k with
  | mk a b c d e => cases a <;> cases b <;> cases c <;> cases d <;> cases e <;> rfl

end DatagramKind

end MediaOverQuic
