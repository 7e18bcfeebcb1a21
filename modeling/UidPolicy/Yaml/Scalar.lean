import UidPolicy.Text.Digits
import UidPolicy.Yaml.Source

/-!
# Scalars

The four ways of writing a text value.

* `Yaml.Gap` — what lies between two pieces of a text, and `Gap.text` what it stands for:
  blanks stand for themselves, one line end stands for a blank, and of several line ends the
  first one stands for nothing.
* `Yaml.plain?` — a text without quotes, over several lines or not.
* `Yaml.quoted?` — a text in single or double quotes.
* `Yaml.block?` — the lines below an indicator, kept or folded.

Each answers the text and the cursor after it.
-/

namespace UidPolicy

namespace Yaml

inductive Style where
  | plain | singleQuoted | doubleQuoted | literal | folded
  deriving DecidableEq, Repr, Inhabited

/-- What lies between two pieces of a text: blanks, or line ends.  One line end is read as a blank,
and each further one stands for itself. -/
structure Gap where
  blanks : List Char := []
  /-- Whether there is a line end. -/
  broken : Bool := false
  /-- The first line end; none where it is escaped. -/
  first : List Char := []
  /-- The line ends after the first. -/
  more : List Char := []
  deriving DecidableEq, Repr, Inhabited

namespace Gap

def isEmpty (g : Gap) : Bool := g.blanks.isEmpty && !g.broken

/-- The gap with one more character, a blank or a line end.  Blanks around a line end are
dropped. -/
def push (g : Gap) (c : Char) : Gap :=
  if isBreak c then
    if g.broken then { g with more := g.more ++ [c] }
    else { blanks := [], broken := true, first := [c], more := [] }
  else if g.broken then g
  else { g with blanks := g.blanks ++ [c] }

/-- The gap of an escaped line end. -/
def escaped : Gap := { broken := true }

def text (g : Gap) : List Char :=
  if g.broken then
    if g.first = ['\n'] then (if g.more.isEmpty then [' '] else g.more)
    else g.first ++ g.more
  else g.blanks

end Gap

/-! ## Plain text -/

/-- The indicators that end a plain text between brackets. -/
def isFlowIndicator (c : Char) : Bool :=
  c = ',' || c = '[' || c = ']' || c = '{' || c = '}'

/-- A piece of text, what was read of it, and whether a line ended after it. -/
structure PlainText where
  text : List Char
  after : Cursor
  broken : Bool
  deriving Repr, Inhabited

/-- Reads a plain text.  `flow` says whether it stands between brackets, `indent` is the
column that its lines have to reach, `done` is what was read, in reverse. -/
def plain? (flow : Bool) (indent : Int) (done : List Char) (gap : Gap) (m : Mark) :
    List Char → Option PlainText
  | [] => some ⟨done.reverse, ⟨m, []⟩, gap.broken⟩
  | c :: rest =>
    let stop : Option PlainText := some ⟨done.reverse, ⟨m, c :: rest⟩, gap.broken⟩
    if isSpace c then
      if c = '\t' && gap.broken && (m.column : Int) < indent then none
      else plain? flow indent done (gap.push c) (m.after c) rest
    else if !gap.isEmpty
        && (!flow && (m.column : Int) < indent || c = '#'
          || Cursor.isDocumentMarker ⟨m, c :: rest⟩) then stop
    else if flow && c = ':' && rest.head?.any (fun d => d = '?' || isFlowIndicator d) then none
    else if c = ':' && endsWord rest then stop
    else if flow && isFlowIndicator c then stop
    else plain? flow indent (c :: (gap.text.reverse ++ done)) {} (m.after c) rest

/-! ## Quoted text -/

/-- What an escape letter stands for, or how many hexadecimal digits follow it. -/
inductive Escape where
  | char (c : Char)
  | digits (count : Nat)
  deriving DecidableEq, Repr, Inhabited

def escape? : Char → Option Escape
  | '0' => some (.char '\x00')
  | 'a' => some (.char '\x07')
  | 'b' => some (.char '\x08')
  | 't' => some (.char '\t')
  | '\t' => some (.char '\t')
  | 'n' => some (.char '\n')
  | 'v' => some (.char '\x0b')
  | 'f' => some (.char '\x0c')
  | 'r' => some (.char '\r')
  | 'e' => some (.char '\x1b')
  | ' ' => some (.char ' ')
  | '"' => some (.char '"')
  | '/' => some (.char '/')
  | '\\' => some (.char '\\')
  | 'N' => some (.char '\u0085')
  | '_' => some (.char '\u00a0')
  | 'L' => some (.char '\u2028')
  | 'P' => some (.char '\u2029')
  | 'x' => some (.digits 2)
  | 'u' => some (.digits 4)
  | 'U' => some (.digits 8)
  | _ => none

/-- The hexadecimal digits of an escape that are still to come, and the value so far. -/
structure OpenEscape where
  left : Nat
  value : Nat
  deriving DecidableEq, Repr, Inhabited

/-- Reads the text after an opening quote, up to the closing one.  `done` is what was read, in
reverse. -/
def quoted? (single : Bool) (done : List Char) (gap : Gap) (hex : Option OpenEscape) (m : Mark) :
    List Char → Option (List Char × Cursor)
  | [] => none
  | c :: rest =>
    match hex with
    | some e =>
      match hexDigit? c with
      | none => none
      | some d =>
        let value := 16 * e.value + d
        if e.left ≤ 1 then
          match charOfNumber? value with
          | none => none
          | some x => quoted? single (x :: done) {} none (m.after c) rest
        else quoted? single done {} (some ⟨e.left - 1, value⟩) (m.after c) rest
    | none =>
      if isSpace c then quoted? single done (gap.push c) none (m.after c) rest
      else if Cursor.isDocumentMarker ⟨m, c :: rest⟩ then none
      else
        let done := gap.text.reverse ++ done
        if single then
          if c = '\'' then
            match rest with
            | '\'' :: more => quoted? single ('\'' :: done) {} none ((m.after c).after c) more
            | _ => some (done.reverse, ⟨m.after c, rest⟩)
          else quoted? single (c :: done) {} none (m.after c) rest
        else if c = '"' then some (done.reverse, ⟨m.after c, rest⟩)
        else if c = '\\' then
          match rest with
          | [] => none
          | e :: more =>
            let m := (m.after c).after e
            if isBreak e then quoted? single done .escaped none m more
            else
              match escape? e with
              | none => none
              | some (.char x) => quoted? single (x :: done) {} none m more
              | some (.digits count) => quoted? single done {} (some ⟨count, 0⟩) m more
        else quoted? single (c :: done) {} none (m.after c) rest

/-! ## Blocks of lines -/

/-- What becomes of the line ends after the last line. -/
inductive Chomp where
  | strip | clip | keep
  deriving DecidableEq, Repr, Inhabited

/-- What follows the indicator of a block. -/
structure BlockHeader where
  chomp : Chomp := .clip
  /-- The indentation of the lines, where it is given. -/
  indent : Nat := 0
  after : Cursor
  deriving Repr, Inhabited

def chomp? : Char → Option Chomp
  | '+' => some .keep
  | '-' => some .strip
  | _ => none

/-- Reads a sign and a digit in either order, both of which may be missing; the digit is not
zero. -/
def blockHeader? (at_ : Cursor) : Option BlockHeader :=
  let digit? (c : Char) : Option Nat := if c.isDigit then some (c.toNat - '0'.toNat) else none
  match at_.rest with
  | [] => some { after := at_ }
  | a :: rest =>
    match chomp? a with
    | some chomp =>
      match rest.head?.bind digit? with
      | some 0 => none
      | some n => some ⟨chomp, n, at_.skip.skip⟩
      | none => some ⟨chomp, 0, at_.skip⟩
    | none =>
      match digit? a with
      | some 0 => none
      | some n =>
        match rest.head?.bind chomp? with
        | some chomp => some ⟨chomp, n, at_.skip.skip⟩
        | none => some ⟨.clip, n, at_.skip⟩
      | none => some { after := at_ }

/-- The empty lines before a line of a block. -/
structure EmptyLines where
  breaks : List Char
  /-- The widest indentation among them and of the line that follows. -/
  widest : Nat
  after : Cursor
  deriving Repr, Inhabited

/-- Reads empty lines, and the indentation of the line that follows.  `indent` is zero where
it is not known; a tab may not stand in an indentation. -/
def emptyLines? (indent : Nat) (breaks : List Char) (widest : Nat) (m : Mark) :
    List Char → Option EmptyLines
  | [] => some ⟨breaks.reverse, max widest m.column, ⟨m, []⟩⟩
  | c :: rest =>
    let inIndent := indent = 0 || m.column < indent
    if inIndent && c = ' ' then emptyLines? indent breaks widest (m.after c) rest
    else
      let widest := max widest m.column
      if inIndent && c = '\t' then none
      else if isBreak c then emptyLines? indent (c :: breaks) widest (m.after c) rest
      else some ⟨breaks.reverse, widest, ⟨m, c :: rest⟩⟩

/-- The lines of a block that have been read. -/
structure BlockLines where
  text : List Char
  lastBreak : List Char
  empties : List Char
  after : Cursor
  deriving Repr, Inhabited

/-- What stands between a line of a folded block and the next: as for a plain text, except
that lines which start with a blank keep the line ends around them. -/
def foldedGap (lastBreak empties : List Char) (afterBlank beforeBlank : Bool) : List Char :=
  if lastBreak = ['\n'] && !afterBlank && !beforeBlank then
    (if empties.isEmpty then [' '] else empties)
  else lastBreak ++ empties

/-- Reads lines as long as they reach the indentation.  `fuel` bounds their number. -/
def blockLines? (folded : Bool) (indent : Nat) (afterBlank : Bool) :
    (fuel : Nat) → BlockLines → Option BlockLines
  | 0, b => some b
  | fuel + 1, b =>
    match b.after.rest with
    | [] => some b
    | c :: _ =>
      if b.after.mark.column ≠ indent then some b
      else
        let beforeBlank := isBlank c
        let gap :=
          if folded then foldedGap b.lastBreak b.empties afterBlank beforeBlank
          else b.lastBreak ++ b.empties
        let (line, atEnd) := b.after.take fun c => !isBreak c
        let lastBreak := atEnd.rest.take 1
        let next := atEnd.skip
        match emptyLines? indent [] 0 next.mark next.rest with
        | none => none
        | some e =>
          blockLines? folded indent beforeBlank fuel
            ⟨b.text ++ gap ++ line, lastBreak, e.breaks, e.after⟩

/-- Reads a block after its indicator.  `parent` is the indentation of what it stands in. -/
def block? (folded : Bool) (parent : Int) (at_ : Cursor) : Option (List Char × Cursor) := do
  let header ← blockHeader? at_
  let start ← header.after.skipLineEnd?
  let given := if header.indent = 0 then 0 else (max parent 0).toNat + header.indent
  let empties ← emptyLines? given [] 0 start.mark start.rest
  let indent :=
    if given ≠ 0 then given else max (max empties.widest (parent + 1).toNat) 1
  let lines ← blockLines? folded indent false (empties.after.rest.length + 1)
    ⟨[], [], empties.breaks, empties.after⟩
  let tail :=
    match header.chomp with
    | .strip => []
    | .clip => lines.lastBreak
    | .keep => lines.lastBreak ++ lines.empties
  pure (lines.text ++ tail, lines.after)

end Yaml

end UidPolicy
