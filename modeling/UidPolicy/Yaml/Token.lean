import UidPolicy.Yaml.Scalar

/-!
# Tokens

What the characters of a document are made of.  Indentation is turned into tokens that open
and close blocks.

* `Yaml.TagName` — what a tag is called; `Yaml.tagName?` reads it from the characters of a tag.
* `Yaml.Token` — the tokens.
* `Yaml.Lexer` — what has been read so far: the tokens, the open indentations, and the places
  where a key could have started.
* `Yaml.Lexer.next?` — reads one more token.
* `Yaml.tokens?` — the tokens of a document.

A key is recognised by the colon after it, so its place is remembered and the tokens for it
are put there afterwards.  A place is forgotten at the end of its line, and after 1024
characters.
-/

namespace UidPolicy

namespace Yaml

/-- The name of a tag: bytes, which need not be the bytes of a text. -/
abbrev TagName : Type := List UInt8

/-- The name that consists of the bytes of a text. -/
def TagName.ofText (text : String) : TagName := text.toUTF8.toList

/-- The name of the tag that is an exclamation mark alone. -/
def TagName.mark : TagName := ['!'.toUInt8]

inductive Token where
  | versionDirective (major minor : Nat)
  | tagDirective (handle : String) (base : TagName)
  | documentStart
  | documentEnd
  | blockSequenceStart
  | blockMappingStart
  | blockEnd
  | flowSequenceStart
  | flowSequenceEnd
  | flowMappingStart
  | flowMappingEnd
  | blockEntry
  | flowEntry
  | key
  | value
  | alias (name : String)
  | anchor (name : String)
  | tag (handle : String) (suffix : TagName)
  | scalar (style : Style) (text : String)
  deriving DecidableEq, Repr, Inhabited

/-- A place where a key could have started.  Only a colon tells that there was one, and by then the
tokens of the key have been read: so the places are remembered, and the token of the key is put in
afterwards. -/
structure KeyPlace where
  /-- Whether a key has to stand there. -/
  required : Bool
  /-- The number of tokens before it. -/
  index : Nat
  mark : Mark
  deriving DecidableEq, Repr, Inhabited

structure Lexer where
  at_ : Cursor
  tokens : List Token := []
  /-- The column of the innermost block. -/
  indent : Int := -1
  /-- The columns of the blocks around it, the nearest first. -/
  outer : List Int := []
  /-- The place where a key could have started, for the innermost brackets. -/
  keyPlace : Option KeyPlace := none
  /-- The same for the brackets around them, the nearest first. -/
  outerKeyPlaces : List (Option KeyPlace) := []
  /-- Whether a key can start here. -/
  keyAllowed : Bool := true
  deriving Inhabited

namespace Lexer

def flowLevel (x : Lexer) : Nat := x.outerKeyPlaces.length

def inFlow (x : Lexer) : Bool := x.flowLevel != 0

def column (x : Lexer) : Nat := x.at_.mark.column

def push (t : Token) (x : Lexer) : Lexer := { x with tokens := t :: x.tokens }

/-- One more token, after the first `index` ones. -/
def insert (index : Nat) (t : Token) (x : Lexer) : Lexer :=
  -- the tokens are kept in reverse, so the place is counted from the other end
  let behind := x.tokens.length - index
  { x with tokens := x.tokens.take behind ++ t :: x.tokens.drop behind }

def skip (n : Nat) (x : Lexer) : Lexer := { x with at_ := x.at_.skipMany n }

/-- Whether a place is too far back for a key: a key stands on one line and has a bounded length. -/
def isStale (now : Mark) (k : KeyPlace) : Bool :=
  k.mark.line < now.line || k.mark.index + 1024 < now.index

/-- Forgets a place that is too far back; a required key may not be missing. -/
def freshPlace? (now : Mark) : Option KeyPlace → Option (Option KeyPlace)
  | none => some none
  | some k => if isStale now k then (if k.required then none else some none) else some (some k)

/-- Forgets the places that are too far back. -/
def dropStale? (x : Lexer) : Option Lexer := do
  let keyPlace ← freshPlace? x.at_.mark x.keyPlace
  let outerKeyPlaces ← x.outerKeyPlaces.mapM (freshPlace? x.at_.mark)
  pure { x with keyPlace, outerKeyPlaces }

/-- Forgets the place of the innermost brackets. -/
def dropKeyPlace? (x : Lexer) : Option Lexer :=
  if x.keyPlace.any (·.required) then none else some { x with keyPlace := none }

/-- Remembers this place, if a key can start here. -/
def saveKeyPlace? (x : Lexer) : Option Lexer :=
  if x.keyAllowed then do
    let x ← x.dropKeyPlace?
    -- whatever starts at the column of a block mapping has to be a key of it
    let required := !x.inFlow && x.indent = (x.column : Int)
    pure { x with keyPlace := some ⟨required, x.tokens.length, x.at_.mark⟩ }
  else some x

/-- Whether the next key may start here. -/
def allowKey (allowed : Bool) (x : Lexer) : Lexer := { x with keyAllowed := allowed }

/-- Opens a block at a column, if it is further right than the innermost one. -/
def openBlock (column : Nat) (index : Nat) (t : Token) (x : Lexer) : Lexer :=
  if x.inFlow then x
  else if x.indent < (column : Int) then
    { x with indent := column, outer := x.indent :: x.outer }.insert index t
  else x

/-- Closes the blocks that are further right than a column. -/
def closeBlocks (column : Int) (outer : List Int) (x : Lexer) : Lexer :=
  match outer with
  | [] => x
  | up :: more =>
    if column < x.indent then
      closeBlocks column more ({ x with indent := up, outer := more }.push .blockEnd)
    else x

/-- Closes the blocks that are further right than a column, except between brackets. -/
def close (column : Int) (x : Lexer) : Lexer :=
  if x.inFlow then x else closeBlocks column x.outer x

/-- Past blanks, comments and line ends.  A tab does not stand where a key could start, except
between brackets.  `fuel` bounds the number of lines. -/
def skipToToken : (fuel : Nat) → Lexer → Lexer
  | 0, x => x
  | fuel + 1, x =>
    let at_ := if x.column = 0 && x.at_.startsWith byteOrderMark then x.at_.skip else x.at_
    -- tabs would make the column of a key a matter of taste
    let tabs := x.inFlow || !x.keyAllowed
    let at_ := (at_.skipWhile fun c => c = ' ' || (tabs && c = '\t')).skipComment
    let x := { x with at_ }
    match at_.rest with
    | [] => x
    | c :: _ =>
      -- at the start of a line a key can start, except between brackets
      if isBreak c then
        skipToToken fuel { x with at_ := at_.skip, keyAllowed := x.keyAllowed || !x.inFlow }
      else x

/-! ## Directives, names and tags -/

/-- A number of at most nine digits. -/
def versionNumber? (at_ : Cursor) : Option (Nat × Cursor) :=
  let (digits, after) := at_.take Char.isDigit
  if digits.isEmpty || digits.length > 9 then none
  else some (digits.foldl (fun n c => 10 * n + (c.toNat - '0'.toNat)) 0, after)

/-- The handle of a tag: an exclamation mark, or a name between two of them.  In a directive
nothing else will do. -/
def tagHandle? (directive : Bool) (at_ : Cursor) : Option (List Char × Cursor) :=
  if !at_.startsWith '!' then none
  else
    let (name, after) := at_.skip.take isNameChar
    if after.startsWith '!' then some ('!' :: name ++ ['!'], after.skip)
    else if directive && !name.isEmpty then none
    else some ('!' :: name, after)

/-- The characters of a tag; some only inside angle brackets and directives. -/
def isTagChar (wide : Bool) (c : Char) : Bool :=
  isNameChar c || ";/?:@&=+$.%!~*'()".toList.contains c || (wide && ",[]".toList.contains c)

/-- How many bytes follow the first byte of a character. -/
def followers? (lead : UInt8) : Option Nat :=
  if lead < 0x80 then some 0
  else if lead < 0xc0 then none
  else if lead < 0xe0 then some 1
  else if lead < 0xf0 then some 2
  else if lead < 0xf8 then some 3
  else none

/-- The bytes of a tag: a percent sign and two hexadecimal digits are one byte.  A byte that
begins a character needs as many more as it announces, all of them written in this way; what
character they make does not matter.  `owed` is how many are still to come. -/
def tagBytes? (owed : Nat) : List Char → Option (List UInt8)
  | [] => if owed = 0 then some [] else none
  | '%' :: a :: b :: rest => do
    let high ← hexDigit? a
    let low ← hexDigit? b
    let byte := UInt8.ofNat (16 * high + low)
    let owed ←
      if owed = 0 then followers? byte
      else if 0x80 ≤ byte && byte < 0xc0 then some (owed - 1)
      else none
    let bytes ← tagBytes? owed rest
    pure (byte :: bytes)
  | '%' :: _ => none
  | c :: rest =>
    if owed = 0 then (tagBytes? 0 rest).map ((String.singleton c).toUTF8.toList ++ ·) else none

/-- The name of a tag ends before the first null byte. -/
def tagName? (chars : List Char) : Option TagName :=
  (tagBytes? 0 chars).map fun bytes => bytes.takeWhile fun byte => byte != 0

/-- A name after an indicator, and what may follow it. -/
def name? (at_ : Cursor) : Option (String × Cursor) :=
  let (name, after) := at_.take isNameChar
  let ends := endsWord after.rest
    || after.rest.head?.any fun c => "?:,]\x7d%@\x60".toList.contains c
  if name.isEmpty || !ends then none else some (String.ofList name, after)

def tag? (inFlow : Bool) (at_ : Cursor) : Option (Token × Cursor) := do
  let (token, after) ←
    if at_.skip.startsWith '<' then do
      let (chars, after) := at_.skip.skip.take (isTagChar true)
      if chars.isEmpty || !after.startsWith '>' then none
      let suffix ← tagName? chars
      pure (Token.tag "" suffix, after.skip)
    else do
      let (handle, after) ← tagHandle? false at_
      let (chars, after) := after.take (isTagChar false)
      if handle.length > 1 && handle.getLast? = some '!' then
        if chars.isEmpty then none
        let suffix ← tagName? chars
        pure (Token.tag (String.ofList handle) suffix, after)
      else
        let suffix ← tagName? (handle.drop 1 ++ chars)
        pure (if suffix.isEmpty then Token.tag "" TagName.mark else Token.tag "!" suffix, after)
  if endsWord after.rest || (inFlow && after.startsWith ',') then some (token, after) else none

/-- The rest of a directive that gives a version. -/
def version? (at_ : Cursor) : Option (Token × Cursor) := do
  let (major, at_) ← versionNumber? (at_.skipWhile isBlank)
  if !at_.startsWith '.' then none
  let (minor, at_) ← versionNumber? at_.skip
  pure (.versionDirective major minor, at_)

/-- The rest of a directive that gives a tag handle. -/
def tagDirective? (at_ : Cursor) : Option (Token × Cursor) := do
  let (handle, at_) ← tagHandle? true (at_.skipWhile isBlank)
  if !at_.rest.head?.any isBlank then none
  let (chars, at_) := (at_.skipWhile isBlank).take (isTagChar true)
  if chars.isEmpty || !endsWord at_.rest then none
  let base ← tagName? chars
  pure (.tagDirective (String.ofList handle) base, at_)

/-- A directive, up to the end of its line. -/
def directive? (at_ : Cursor) : Option (Token × Cursor) := do
  let (name, at_) := at_.skip.take isNameChar
  if name.isEmpty || !endsWord at_.rest then none
  let (token, at_) ←
    if name = "YAML".toList then version? at_
    else if name = "TAG".toList then tagDirective? at_
    else none
  let at_ ← at_.skipLineEnd?
  pure (token, at_)

/-! ## One more token -/

/-- A token of a line of its own. -/
def markerLine? (read : Cursor → Option (Token × Cursor)) (x : Lexer) : Option Lexer := do
  let x ← (x.close (-1)).dropKeyPlace?
  let (t, at_) ← read x.at_
  pure ({ x with at_ }.push t |>.allowKey false)

def openFlow? (t : Token) (x : Lexer) : Option Lexer := do
  let x ← x.saveKeyPlace?
  pure ({ x with keyPlace := none, outerKeyPlaces := x.keyPlace :: x.outerKeyPlaces }
    |>.allowKey true |>.skip 1 |>.push t)

def closeFlow? (t : Token) (x : Lexer) : Option Lexer := do
  let x ← x.dropKeyPlace?
  let x :=
    match x.outerKeyPlaces with
    | [] => x
    | up :: more => { x with keyPlace := up, outerKeyPlaces := more }
  pure (x |>.allowKey false |>.skip 1 |>.push t)

def flowEntry? (x : Lexer) : Option Lexer := do
  let x ← x.dropKeyPlace?
  pure (x |>.allowKey true |>.skip 1 |>.push .flowEntry)

def blockEntry? (x : Lexer) : Option Lexer := do
  if !x.inFlow && !x.keyAllowed then none
  -- a list may begin in the column of its key, so it opens a block only further right
  let x ← (x.openBlock x.column x.tokens.length .blockSequenceStart).dropKeyPlace?
  pure (x |>.allowKey true |>.skip 1 |>.push .blockEntry)

def key? (x : Lexer) : Option Lexer := do
  if !x.inFlow && !x.keyAllowed then none
  let x ← (x.openBlock x.column x.tokens.length .blockMappingStart).dropKeyPlace?
  pure (x |>.allowKey (!x.inFlow) |>.skip 1 |>.push .key)

/-- A colon before a value.  What stands before it is its key, if it can be. -/
def value? (x : Lexer) : Option Lexer :=
  match x.keyPlace with
  | some k =>
    -- The key has been read already, so its tokens go in front of it.
    let x := { x with keyPlace := none }.insert k.index .key
    let x := x.openBlock k.mark.column k.index .blockMappingStart
    some (x |>.allowKey false |>.skip 1 |>.push .value)
  | none =>
    if !x.inFlow && !x.keyAllowed then none
    else
      let x := x.openBlock x.column x.tokens.length .blockMappingStart
      some (x |>.allowKey (!x.inFlow) |>.skip 1 |>.push .value)

/-- A token that a key can start with. -/
def inKey? (read : Cursor → Option (Token × Cursor)) (x : Lexer) : Option Lexer := do
  let x ← x.saveKeyPlace?
  let (t, at_) ← read x.at_
  pure ({ x with at_ }.push t |>.allowKey false)

def quotedText? (single : Bool) (at_ : Cursor) : Option (Token × Cursor) := do
  let start := at_.skip
  let (text, at_) ← quoted? single [] {} none start.mark start.rest
  pure (.scalar (if single then .singleQuoted else .doubleQuoted) (String.ofList text), at_)

def blockText? (folded : Bool) (x : Lexer) : Option Lexer := do
  let x ← x.dropKeyPlace?
  let (text, at_) ← block? folded x.indent x.at_.skip
  pure ({ x with at_ }.push (.scalar (if folded then .folded else .literal) (String.ofList text))
    |>.allowKey true)

/-- A plain text.  A key can start after it if a line ended there. -/
def plainText? (x : Lexer) : Option Lexer := do
  let x ← x.saveKeyPlace?
  let p ← plain? x.inFlow (x.indent + 1) [] {} x.at_.mark x.at_.rest
  pure ({ x with at_ := p.after }.push (.scalar .plain (String.ofList p.text))
    |>.allowKey p.broken)

/-- A name after an indicator. -/
def named? (make : String → Token) (at_ : Cursor) : Option (Token × Cursor) := do
  let (name, at_) ← name? at_.skip
  pure (make name, at_)

/-- The characters that no plain text starts with. -/
def isIndicator (c : Char) : Bool := "-?:,[]\x7b\x7d#&*!|>'\"%@\x60".toList.contains c

/-- Whether a plain text can start with a character before others.  A dash, a question mark or
a colon can, where it is not an indicator. -/
def startsPlain (inFlow : Bool) (c : Char) (rest : List Char) : Bool :=
  !(isSpace c || isIndicator c)
    || (c = '-' && !rest.head?.any isBlank)
    || (!inFlow && (c = '?' || c = ':') && !endsWord rest)

def finish? (x : Lexer) : Option Lexer := (x.close (-1)).dropKeyPlace?

/-- Reads the token that starts with a character. -/
def token? (x : Lexer) (c : Char) (rest : List Char) : Option Lexer :=
  let ends := endsWord rest
  -- What stands at the start of a line only.
  if x.column = 0 && c = '%' then x.markerLine? directive?
  else if x.at_.isMarker '-' then x.markerLine? fun at_ => some (.documentStart, at_.skipMany 3)
  else if x.at_.isMarker '.' then x.markerLine? fun at_ => some (.documentEnd, at_.skipMany 3)
  -- Brackets and what separates items and entries.
  else if c = '[' then x.openFlow? .flowSequenceStart
  else if c = '{' then x.openFlow? .flowMappingStart
  else if c = ']' then x.closeFlow? .flowSequenceEnd
  else if c = '}' then x.closeFlow? .flowMappingEnd
  else if c = ',' then x.flowEntry?
  else if c = '-' && ends then x.blockEntry?
  else if c = '?' && (x.inFlow || ends) then x.key?
  else if c = ':' && (x.inFlow || ends) then x.value?
  -- What a node starts with.
  else if c = '*' then x.inKey? (named? .alias)
  else if c = '&' then x.inKey? (named? .anchor)
  else if c = '!' then x.inKey? (tag? x.inFlow)
  else if c = '|' && !x.inFlow then x.blockText? false
  else if c = '>' && !x.inFlow then x.blockText? true
  else if c = '\'' then x.inKey? (quotedText? true)
  else if c = '"' then x.inKey? (quotedText? false)
  else if startsPlain x.inFlow c rest then x.plainText?
  else none

/-- Reads one more token, and says whether there may be another one. -/
def next? (x : Lexer) : Option (Lexer × Bool) := do
  let x ← (skipToToken (x.at_.rest.length + 1) x).dropStale?
  -- a line further left ends the blocks that were open
  let x := x.close x.column
  match x.at_.rest with
  | [] => do
    let x ← x.finish?
    pure (x, false)
  | c :: rest => do
    let x ← x.token? c rest
    pure (x, true)

/-- Reads every token.  `fuel` bounds their number. -/
def run? : (fuel : Nat) → Lexer → Option Lexer
  | 0, _ => none
  | fuel + 1, x => do
    let (x, more) ← x.next?
    if more then run? fuel x else pure x

end Lexer

/-- The tokens of a document. -/
def tokens? (text : String) : Option (List Token) := do
  let chars ← source? text
  let x ← Lexer.run? (chars.length + 1) { at_ := ⟨{}, chars⟩ }
  pure x.tokens.reverse

end Yaml

end UidPolicy
