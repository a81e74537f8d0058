import MediaOverQuic.Bytes
import MediaOverQuic.Error
import MediaOverQuic.Text.Utf8

/-!
# Track names

A track is identified by a namespace of 1 to 32 fields and a name that is not empty, of at most 4096
bytes together. As a text they are written one behind the other with slashes in between.
-/
namespace MediaOverQuic

structure TrackName where
  namespaceFields : List Bytes
  name : Bytes
  deriving DecidableEq, Repr

namespace TrackName

def maxFields : Nat := 32

def maxLength : Nat := 4096

/-- The number of bytes of all fields and the name. -/
def totalLength (t : TrackName) : Nat :=
  t.name.length + t.namespaceFields.flatten.length

/-- The name with the given parts, if it keeps to the limits. -/
def make (namespaceFields : List Bytes) (name : Bytes) : Except Error TrackName :=
  if namespaceFields.length < 1 ∨ maxFields < namespaceFields.length then
    .error (.violation (.namespaceFieldCount namespaceFields.length))
  else if name = [] then .error (.violation .emptyTrackName)
  else
    let t : TrackName := ⟨namespaceFields, name⟩
    if maxLength < t.totalLength then .error (.violation (.trackNameTooLong t.totalLength))
    else .ok t

/-- The parts of a text between its slashes. -/
def parts (text : String) : List (List Char) := text.toList.splitOn '/'

/-- Reads `field/field/.../name`. -/
def parse (text : String) : Except Error TrackName :=
  let fields := (parts text).map fun part => Utf8.encode (String.ofList part)
  make fields.dropLast (fields.getLast?.getD [])

/-- Writes `field/field/.../name`. -/
def text (t : TrackName) : String :=
  String.intercalate "/" ((t.namespaceFields ++ [t.name]).map Utf8.decodeLossy)

end TrackName

end MediaOverQuic
