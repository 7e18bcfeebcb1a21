/-!
# Paths

A path is a text in which `/` separates segments.  It can be looked at in two ways: as its raw
text, which joining works on, and as its components, which say where it leads.

* `Path.join` — a path below another: an absolute path replaces it, and a separator is put
  between the two where there is none.
* `Path.segments` — the parts between separators, empty ones included.
* `Path.components` — what the segments mean: empty segments and `.` mean nothing, except for
  a `.` at the very start.
* `Path.fileName?` — the name that a path ends in.
* `Path.leadsTo` — whether a path leads to an entry of a directory.
-/

namespace UidPolicy

namespace Path

def isAbsolute (path : String) : Bool := path.toList.head? == some '/'

def endsInSeparator (path : String) : Bool := path.toList.getLast? == some '/'

/-- The path `below`, as seen from `base`.  An absolute path is where it is, wherever it is seen
from. -/
def join (base below : String) : String :=
  if isAbsolute below then below
  else if base.isEmpty || endsInSeparator base then base ++ below
  else base ++ "/" ++ below

/-- The parts of a text between separators, empty ones included; there is at least one. -/
def segments : List Char → List (List Char)
  | [] => [[]]
  | c :: rest =>
    if c = '/' then [] :: segments rest
    else
      match segments rest with
      | [] => [[c]]
      | segment :: more => (c :: segment) :: more

/-- What a segment of a path means.  Two paths with the same components lead to the same place,
however they are written. -/
inductive Component where
  | root
  | current
  | parent
  /-- An entry of the directory. -/
  | normal (name : List Char)
  deriving DecidableEq, Repr, Inhabited

/-- The component of a segment that is not at the start of a path. -/
def component? : List Char → Option Component
  | [] => none
  | ['.'] => none
  | ['.', '.'] => some .parent
  | name => some (.normal name)

/-- The component that a path starts with, if its first segment stands for one that it would
not be elsewhere. -/
def leading? : List (List Char) → Option Component
  | [] :: _ :: _ => some .root
  | ['.'] :: _ => some .current
  | _ => none

/-- The components of a path. -/
def components (path : String) : List Component :=
  let parts := segments path.toList
  -- only the first segment can stand for the root, and only there does a dot stand for something
  (leading? parts).toList ++ parts.filterMap component?

/-- The name that a path ends in; the root, `.` and `..` are no names, so a path may have none. -/
def fileName? (path : String) : Option String :=
  match (components path).getLast? with
  | some (.normal name) => some (String.ofList name)
  | _ => none

/-- Whether a path leads to an entry of a directory.  A separator or a `.` behind the last name asks
for a directory, so the path has to end in the name of the entry itself. -/
def leadsTo (path directory entry : String) : Bool :=
  (segments path.toList).getLast? == some entry.toList &&
    components path == components directory ++ [.normal entry.toList]

/-! ## Segments -/

@[simp] theorem segments_nil : segments [] = [[]] := rfl

@[simp] theorem segments_separator (rest : List Char) :
    segments ('/' :: rest) = [] :: segments rest := by
  simp [segments]

theorem segments_ne_nil (text : List Char) : segments text ≠ [] := by
  cases text with
  | nil => simp [segments]
  | cons c rest =>
    rw [segments]
    split
    · simp
    · split <;> simp

end Path

end UidPolicy
