import MediaOverQuic.Wire.Varint

/-!
# Locations

The position of an object in its track: the group, and the place in the group. Locations are ordered
by group first.
-/
namespace MediaOverQuic

structure Location where
  group : Nat
  object : Nat
  deriving DecidableEq, Repr, Inhabited

namespace Location

def compare (a b : Location) : Ordering :=
  (Ord.compare a.group b.group).then (Ord.compare a.object b.object)

/-- Puts the earlier locations first. -/
def sort (locations : List Location) : List Location :=
  locations.mergeSort fun a b => (compare a b).isLE

def encode (l : Location) : Output := Varint.put l.group ++ Varint.put l.object

def decode : Decoder Location := do
  let group ← Varint.decode
  let object ← Varint.decode
  return ⟨group, object⟩

end Location

end MediaOverQuic
