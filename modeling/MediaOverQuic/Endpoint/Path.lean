import MediaOverQuic.Endpoint.Percent

/-!
# Paths

The segments of a path are separated by slashes. A segment that is one dot stands for nothing, one
that is two dots takes away the segment before it.
-/
namespace MediaOverQuic.Path

/-- The characters that are escaped in a path. -/
def reserved : List Char := [' ', '"', '<', '>', '`', '#', '?', '\x7b', '\x7d']

/-- The two ways of writing a dot. -/
def withoutDot : List Char → Option (List Char)
  | '.' :: rest => some rest
  | '%' :: '2' :: 'e' :: rest | '%' :: '2' :: 'E' :: rest => some rest
  | _ => none

def isDot (segment : List Char) : Bool := withoutDot segment = some []

def isDoubleDot (segment : List Char) : Bool :=
  ((withoutDot segment).bind withoutDot) = some []

/-- A letter with a colon or a bar names a drive, which two dots do not take away. -/
def isDrive : List Char → Bool
  | [letter, mark] => letter.isAlpha && (mark = ':' || mark = '|')
  | _ => false

/-- The segments without the last one. -/
def parent : List (List Char) → List (List Char)
  | [] => []
  | last :: front => if isDrive last then last :: front else front

/-- Goes through the segments to come, with those that are kept, the last one first. -/
def normalise (kept : List (List Char)) : List (List Char) → List (List Char)
  | [] => kept.reverse
  | segment :: rest =>
    let atEnd := if rest = [] then [[]] else []
    if isDoubleDot segment then normalise (atEnd ++ parent kept) rest
    else if isDot segment then normalise (atEnd ++ kept) rest
    else normalise (Percent.encode reserved segment :: kept) rest

/-- The text of the path with the given segments. -/
def text (segments : List (List Char)) : String :=
  String.ofList ((normalise [] segments).flatMap ('/' :: ·))

end MediaOverQuic.Path
