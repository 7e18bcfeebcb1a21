/-!
# Characters of a document

* `Yaml.isAllowed` — the characters that may stand in a document.
* `Yaml.source?` — the characters of a document, every line end written as one line feed.
* `Yaml.Mark` — a place in them.
* `Yaml.Cursor` — a place and what follows it.

Besides the line feed, the line separator and the paragraph separator end a line; they are
kept as they are.  A byte order mark is a character like any other: it has a column, and what
follows it does not stand at the start of its line.
-/

namespace UidPolicy

namespace Yaml

/-- Whether a character may stand in a document. -/
def isAllowed (c : Char) : Bool :=
  let n := c.toNat
  n = 0x09 || n = 0x0a || n = 0x0d || n = 0x85 || (0x20 ≤ n && n ≤ 0x7e)
    || (0xa0 ≤ n && n ≤ 0xfffd) || 0x10000 ≤ n

def byteOrderMark : Char := '\uFEFF'

/-- Writes every line end as one line feed. -/
def unifyBreaks : List Char → List Char
  | [] => []
  | '\r' :: '\n' :: rest => '\n' :: unifyBreaks rest
  | '\r' :: rest => '\n' :: unifyBreaks rest
  | c :: rest => (if c = '\u0085' then '\n' else c) :: unifyBreaks rest

/-- The characters of a document, if all of them are allowed. -/
def source? (text : String) : Option (List Char) :=
  if text.toList.all isAllowed then some (unifyBreaks text.toList) else none

def isBreak (c : Char) : Bool := c = '\n' || c = '\u2028' || c = '\u2029'

def isBlank (c : Char) : Bool := c = ' ' || c = '\t'

def isSpace (c : Char) : Bool := isBlank c || isBreak c

/-- Whether a text starts with the end of a word, which may be the end of the text. -/
def endsWord : List Char → Bool
  | [] => true
  | c :: _ => isSpace c

/-- Whether a character can stand in a name: ASCII letters and digits, hyphen, underscore. -/
def isNameChar (c : Char) : Bool := c.isAlphanum || c = '_' || c = '-'

/-- A place in a document; lines and columns count from zero. -/
structure Mark where
  index : Nat := 0
  line : Nat := 0
  column : Nat := 0
  deriving DecidableEq, Repr, Inhabited

def Mark.after (m : Mark) (c : Char) : Mark :=
  if isBreak c then ⟨m.index + 1, m.line + 1, 0⟩ else ⟨m.index + 1, m.line, m.column + 1⟩

structure Cursor where
  mark : Mark
  rest : List Char
  deriving Repr, Inhabited

/-- The longest run of characters of a class that a text starts with, and what follows it. -/
def span (p : Char → Bool) (m : Mark) : List Char → List Char × Cursor
  | [] => ([], ⟨m, []⟩)
  | c :: rest =>
    if p c then
      let (run, after) := span p (m.after c) rest
      (c :: run, after)
    else ([], ⟨m, c :: rest⟩)

namespace Cursor

def skip (at_ : Cursor) : Cursor :=
  match at_.rest with
  | [] => at_
  | c :: rest => ⟨at_.mark.after c, rest⟩

def skipMany : Nat → Cursor → Cursor
  | 0, at_ => at_
  | n + 1, at_ => skipMany n at_.skip

def take (p : Char → Bool) (at_ : Cursor) : List Char × Cursor := span p at_.mark at_.rest

/-- The cursor after the longest run of characters of a class. -/
def skipWhile (p : Char → Bool) (at_ : Cursor) : Cursor := (at_.take p).2

def startsWith (c : Char) (at_ : Cursor) : Bool := at_.rest.head? == some c

/-- Whether three characters in a row stand at the start of a line, and end a word there. -/
def isMarker (c : Char) (at_ : Cursor) : Bool :=
  at_.mark.column = 0 &&
    match at_.rest with
    | a :: b :: d :: rest => a = c && b = c && d = c && endsWord rest
    | _ => false

/-- Whether a line that starts or ends a document stands here. -/
def isDocumentMarker (at_ : Cursor) : Bool := at_.isMarker '-' || at_.isMarker '.'

/-- The cursor after a comment, if one stands here. -/
def skipComment (at_ : Cursor) : Cursor :=
  if at_.startsWith '#' then at_.skipWhile fun c => !isBreak c else at_

/-- The cursor after the blanks and the comment at the end of a line, and after the line end;
nothing else may stand there. -/
def skipLineEnd? (at_ : Cursor) : Option Cursor :=
  let at_ := (at_.skipWhile isBlank).skipComment
  match at_.rest with
  | [] => some at_
  | c :: _ => if isBreak c then some at_.skip else none

end Cursor

end Yaml

end UidPolicy
