/-!
# Reason phrases

The explanation that goes with a code is at most 1024 bytes of UTF-8. A text that is longer is cut
down to its longest beginning of whole characters that is short enough.
-/
namespace MediaOverQuic

/-- The number of bytes that characters take. -/
def utf8Length (cs : List Char) : Nat := cs.foldr (fun c n => c.utf8Size + n) 0

@[simp] theorem utf8Length_nil : utf8Length [] = 0 := rfl

@[simp] theorem utf8Length_cons (c : Char) (cs : List Char) :
    utf8Length (c :: cs) = c.utf8Size + utf8Length cs := rfl

/-- The longest beginning of `cs` that takes at most `room` bytes. -/
def cutTo : Nat → List Char → List Char
  | _, [] => []
  | room, c :: cs => if c.utf8Size ≤ room then c :: cutTo (room - c.utf8Size) cs else []

theorem utf8Length_cutTo (room : Nat) (cs : List Char) : utf8Length (cutTo room cs) ≤ room := by
  induction cs generalizing room with
  | nil => simp [cutTo]
  | cons c cs ih =>
    unfold cutTo
    split
    · have := ih (room - c.utf8Size)
      simp only [utf8Length_cons]
      omega
    · simp

/-- A text of at most 1024 bytes. -/
structure ReasonPhrase where
  text : String
  utf8Length_le : utf8Length text.toList ≤ 1024

namespace ReasonPhrase

def maxLength : Nat := 1024

instance : Inhabited ReasonPhrase := ⟨⟨"", by simp⟩⟩

instance : DecidableEq ReasonPhrase := fun a b =>
  decidable_of_iff (a.text = b.text) (by cases a; cases b; simp)

instance : Repr ReasonPhrase := ⟨fun p n => reprPrec p.text n⟩

/-- The phrase without a word. -/
def empty : ReasonPhrase := ⟨"", by simp⟩

/-- The number of bytes of the phrase. -/
def length (p : ReasonPhrase) : Nat := utf8Length p.text.toList

/-- The phrase `text`, if it is short enough. -/
def ofText? (text : String) : Option ReasonPhrase :=
  if h : utf8Length text.toList ≤ 1024 then some ⟨text, h⟩ else none

/-- The longest beginning of `text` that is a phrase. -/
def truncating (text : String) : ReasonPhrase :=
  ⟨String.ofList (cutTo maxLength text.toList), by
    rw [String.toList_ofList]
    exact utf8Length_cutTo maxLength text.toList⟩

end ReasonPhrase

end MediaOverQuic
