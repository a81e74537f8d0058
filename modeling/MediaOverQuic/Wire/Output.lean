import MediaOverQuic.Bytes
import MediaOverQuic.Error

/-!
# Encoded output

Encoding appends bytes to a buffer until it is done or meets a value that can not be written. What
was appended before that stays.
-/
namespace MediaOverQuic

/-- The bytes that were written, and why writing stopped early. -/
structure Output where
  written : Bytes
  failure : Option Error
  deriving DecidableEq, Repr

namespace Output

def empty : Output := ⟨[], none⟩

def ofBytes (bytes : Bytes) : Output := ⟨bytes, none⟩

def failed (e : Error) : Output := ⟨[], some e⟩

/-- Writes `a`, and `b` behind it unless `a` failed. -/
def append (a b : Output) : Output :=
  match a.failure with
  | none => ⟨a.written ++ b.written, b.failure⟩
  | some _ => a

instance : Append Output := ⟨append⟩

/-- Writes a list of outputs one behind the other. -/
def concat (outputs : List Output) : Output := outputs.foldr append empty

/-- The bytes of an output that is complete. -/
def complete (o : Output) : Except Error Bytes :=
  match o.failure with
  | none => .ok o.written
  | some e => .error e

@[simp] theorem ofBytes_append_ofBytes (xs ys : Bytes) :
    ofBytes xs ++ ofBytes ys = ofBytes (xs ++ ys) := rfl

@[simp] theorem ofBytes_append_failed (xs : Bytes) (e : Error) :
    ofBytes xs ++ failed e = ⟨xs, some e⟩ := by
  show append _ _ = _
  simp [append, ofBytes, failed]

@[simp] theorem failed_append (e : Error) (o : Output) : failed e ++ o = failed e := rfl

@[simp] theorem complete_ofBytes (xs : Bytes) : (ofBytes xs).complete = .ok xs := rfl

@[simp] theorem complete_failed (e : Error) : (failed e).complete = .error e := rfl

end Output

end MediaOverQuic
