import MediaOverQuic.Attempt
import MediaOverQuic.Bytes
import MediaOverQuic.Error

/-!
# Pipes

One direction of a stream: up to 65536 bytes that were written and not read yet. Writing takes what
fits and waits for room for the rest. A pipe is closed by its writer or by its reader going away;
what it holds can still be read, nothing more can be written.
-/
namespace MediaOverQuic

/-- How many bytes a pipe holds. -/
def Pipe.capacity : Nat := 65536

structure Pipe where
  buffer : Bytes
  closed : Bool
  length_le : buffer.length ≤ Pipe.capacity
  deriving DecidableEq, Repr

namespace Pipe

def fresh : Pipe := ⟨[], false, Nat.zero_le _⟩

def room (p : Pipe) : Nat := capacity - p.buffer.length

def close (p : Pipe) : Pipe := { p with closed := true }

@[simp] theorem buffer_close (p : Pipe) : p.close.buffer = p.buffer := rfl

/-- Puts in as much of `data` as there is room for. -/
def fill (p : Pipe) (data : Bytes) : Pipe where
  buffer := p.buffer ++ data.take p.room
  closed := p.closed
  length_le := by
    have h := p.length_le
    simp only [room, List.length_append, List.length_take]
    omega

/-- Takes out up to `count` bytes. -/
def skip (p : Pipe) (count : Nat) : Pipe where
  buffer := p.buffer.drop count
  closed := p.closed
  length_le := by
    have h := p.length_le
    simp only [List.length_drop]
    omega

/-- Takes everything out. -/
def drain (p : Pipe) : Pipe := { p with buffer := [], length_le := Nat.zero_le _ }

/-- What is put in and what is left over is what there was to put in. -/
theorem buffer_fill_append_drop (p : Pipe) (data : Bytes) :
    (p.fill data).buffer ++ data.drop p.room = p.buffer ++ data := by
  rw [fill, List.append_assoc, List.take_append_drop]

theorem take_append_buffer_skip (p : Pipe) (count : Nat) :
    p.buffer.take count ++ (p.skip count).buffer = p.buffer :=
  List.take_append_drop count p.buffer

/-- Writes as much of `data` as there is room for. -/
def write (p : Pipe) (data : Bytes) : Attempt (Bytes × Pipe) (Except StreamError Unit × Pipe) :=
  if data = [] then .ends (.ok (), p)
  else if p.closed then .ends (.error .brokenPipe, p)
  else if p.room = 0 then .waits
  else .goesOn (data.drop p.room, p.fill data)

/-- Reads up to `count` bytes of what is there, or ends behind the last one. -/
def read (p : Pipe) (count : Nat) : Attempt (Bytes × Pipe) Pipe :=
  match p.buffer with
  | [] => if p.closed then .ends p else .waits
  | bytes => .goesOn (bytes.take count, p.skip count)

end Pipe

end MediaOverQuic
