import UidPolicy.Pattern.Basic
import UidPolicy.Text.Characters
import UidPolicy.Text.Digits

/-!
# Reading patterns

* `Pattern.Modes` — how the characters of a pattern are understood; groups like `(?U)` change
  it up to the end of the group around them.
* `Pattern.Reading` — the rules of the grammar, as readers that consume characters.
* `Pattern.parse?` — reads a pattern.

There are no tables of words, blanks, digits and letter cases beyond ASCII.  So escapes like
`\d` and `\b`, and matching without regard to case, are refused unless the pattern is limited to
ASCII by `(?-u)`; and in that mode a class may not reach beyond ASCII.  Repetition counts in
braces are refused always: a pattern stands in braces itself, so that it has no closing one.
-/

namespace UidPolicy

namespace Pattern

/-- How the characters of a pattern are understood. -/
structure Modes where
  /-- Whether upper and lower case are the same. -/
  caseless : Bool := false
  /-- Whether classes are of ASCII characters only. -/
  ascii : Bool := false
  /-- Whether repetitions are as short as can be unless marked. -/
  lazy : Bool := false
  /-- Whether blanks and comments are skipped. -/
  spaced : Bool := false
  deriving DecidableEq, Repr, Inhabited

structure Source where
  rest : List Char
  modes : Modes := {}
  groups : Nat := 0
  names : List (List Char) := []
  deriving Inhabited

/-- A rule of the grammar. -/
abbrev Reading (α : Type) : Type := StateT Source Option α

/-- One character or what an escape stands for. -/
inductive Atom where
  /-- A character; `byte` says whether it was written as one byte. -/
  | char (c : Char) (byte : Bool)
  | any
  | here (a : Assertion)
  | chars (c : CharClass)
  deriving DecidableEq, Repr, Inhabited

/-- How two classes are combined. -/
abbrev Combination : Type := CharClass → CharClass → CharClass

/-- A text without the blanks and comments before it.  A comment lasts to the end of its line. -/
def dropSpace (inComment : Bool) : List Char → List Char
  | [] => []
  | c :: rest =>
    if inComment then dropSpace (c != '\n') rest
    else if isWhiteSpace c then dropSpace false rest
    else if c = '#' then dropSpace true rest
    else c :: rest

namespace Reading

def rest : Reading (List Char) := do
  return (← get).rest

def modes : Reading Modes := do
  return (← get).modes

def next : Reading Char := do
  match ← rest with
  | [] => failure
  | c :: more => do
    modify fun s => { s with rest := more }
    return c

/-- Consumes some characters if they come next, and says whether they did. -/
def accept (word : String) : Reading Bool := do
  if word.toList.isPrefixOf (← rest) then
    modify fun s => { s with rest := s.rest.drop word.length }
    return true
  else return false

/-- Past blanks and comments, if they are to be skipped. -/
def skipSpace : Reading Unit :=
  modify fun s => if s.modes.spaced then { s with rest := dropSpace false s.rest } else s

def guardAscii (c : Char) : Reading Unit := do
  if (← modes).ascii && 0x7f < c.toNat then failure

/-- Refuses what needs the cases of letters beyond ASCII. -/
def unlessCaseless : Reading Unit := do
  let m ← modes
  if m.caseless && !m.ascii then failure

/-! ## Escapes -/

/-- The value of some more hexadecimal digits. -/
def hexNumber : (digits value : Nat) → Reading Nat
  | 0, value => do
    skipSpace
    return value
  | digits + 1, value => do
    skipSpace
    match hexDigit? (← next) with
    | some digit => hexNumber digits (16 * value + digit)
    | none => failure

/-- The character that a number stands for. -/
def numbered (digits : Nat) : Reading Atom := do
  match charOfNumber? (← hexNumber digits 0) with
  | some c => return .char c (digits = 2)
  | none => failure

/-- Something that there is for ASCII only. -/
def asciiOnly (a : Atom) : Reading Atom := do
  if (← modes).ascii then return a else failure

/-- What follows a backslash. -/
def escape : Reading Atom := do
  let c ← next
  match c with
  | 'x' => numbered 2
  | 'u' => numbered 4
  | 'U' => numbered 8
  | 'a' => return .char '\x07' false
  | 'f' => return .char '\x0c' false
  | 't' => return .char '\t' false
  | 'n' => return .char '\n' false
  | 'r' => return .char '\r' false
  | 'v' => return .char '\x0b' false
  | 'A' => return .here .start
  | 'z' => return .here .stop
  | 'b' => asciiOnly (.here .wordEdge)
  | 'B' => asciiOnly (.here .noWordEdge)
  | '<' => asciiOnly (.here .wordStart)
  | '>' => asciiOnly (.here .wordEnd)
  | 'd' => asciiOnly (.chars .digit)
  | 's' => asciiOnly (.chars .space)
  | 'w' => asciiOnly (.chars .word)
  | _ => if c.toNat ≤ 0x7f && !c.isAlphanum then return .char c false else failure

/-! ## Classes -/

/-- The class of some items, with the letters in the other case if cases are the same. -/
def folded (c : CharClass) : Reading CharClass := do
  if (← modes).caseless then return .caseless c else return c

/-- A class or, where `negated`, its complement. -/
def signed (negated : Bool) (c : CharClass) : Reading CharClass := do
  if !negated then return c
  else if (← modes).ascii then failure
  else return .compl c

/-- A character in brackets or what an escape stands for there. -/
def classAtom : Reading Atom := do
  let c ← next
  if c = '\\' then escape else return .char c false

def classChar (a : Atom) : Reading Char := do
  match a with
  | .char c _ => do
    guardAscii c
    return c
  | _ => failure

/-- What comes after the hyphen that is next; one comment sign counts as a blank. -/
def afterHyphen : Reading (Option Char) := do
  let behind := (← rest).drop 1
  if (← modes).spaced then
    match behind.dropWhile isWhiteSpace with
    | '#' :: more => return (more.dropWhile isWhiteSpace).head?
    | more => return more.head?
  else return behind.head?

/-- A character, a range of characters, or what an escape stands for. -/
def classItem : Reading CharClass := do
  let first ← classAtom
  skipSpace
  let behind ← afterHyphen
  if (← rest).head? = some '-' && behind ≠ some ']' && behind ≠ some '-' then
    let _ ← next
    skipSpace
    let lo ← classChar first
    let hi ← classChar (← classAtom)
    if lo ≤ hi then return .range lo hi else failure
  else
    match first with
    | .chars c => return c
    | _ => return .char (← classChar first)

/-- A named class between brackets and colons, if one comes next. -/
def namedClass? : Reading (Option CharClass) := do
  match ← rest with
  | '[' :: ':' :: more => do
    let negated := more.head? = some '^'
    let more := if negated then more.drop 1 else more
    let name := more.takeWhile (· != ':')
    match CharClass.named? (String.ofList name), more.dropWhile (· != ':') with
    | some c, ':' :: ']' :: behind => do
      modify fun s => { s with rest := behind }
      return some (← signed negated c)
    | _, _ => return none
  | _ => return none

/-- The sign of a combination of classes, if one comes next. -/
def combination? : Reading (Option Combination) := do
  if ← accept "&&" then return some .inter
  else if ← accept "--" then return some .diff
  else if ← accept "~~" then return some .symmDiff
  else return none

/-- The classes on both sides of a sign, combined. -/
def combine (before : Option (Combination × CharClass)) (c : CharClass) : Reading CharClass := do
  match before with
  | none => return c
  | some (op, a) => return op (← folded a) (← folded c)

/-- Hyphens at the start of a class stand for themselves. -/
def hyphens : (fuel : Nat) → CharClass → Reading CharClass
  | 0, c => pure c
  | fuel + 1, c => do
    if ← accept "-" then
      skipSpace
      hyphens fuel (.union c (.char '-'))
    else return c

mutual

/-- A class after its opening bracket.  `fuel` bounds the length. -/
def bracket (fuel : Nat) : Reading CharClass := do
  match fuel with
  | 0 => failure
  | fuel + 1 =>
    skipSpace
    let negated ← accept "^"
    skipSpace
    let first ← hyphens (← rest).length .none
    -- A closing bracket that comes first stands for itself.
    let first ←
      if first = .none then
        if ← accept "]" then pure (CharClass.char ']') else pure .none
      else pure first
    if first ≠ .none then unlessCaseless
    let c ← folded (← classItems fuel first none)
    signed negated c

/-- The items of a class up to its closing bracket. -/
def classItems (fuel : Nat) (sofar : CharClass) (before : Option (Combination × CharClass)) :
    Reading CharClass := do
  match fuel with
  | 0 => failure
  | fuel + 1 =>
    skipSpace
    match ← namedClass? with
    | some c => do
      unlessCaseless
      classItems fuel (.union sofar c) before
    | none =>
      if ← accept "[" then
        let inner ← bracket fuel
        classItems fuel (.union sofar inner) before
      else if ← accept "]" then combine before sofar
      else
        match ← combination? with
        | some op => do
          let left ← combine before sofar
          classItems fuel .none (some (op, left))
        | none => do
          unlessCaseless
          let item ← classItem
          classItems fuel (.union sofar item) before

end

/-! ## Groups and sequences -/

/-- The name of a group: a letter or an underscore, and then also numerals, dots and brackets.
Each name may stand once. -/
def groupName : Reading Unit := do
  let s ← get
  let name := s.rest.takeWhile (· != '>')
  let starts (c : Char) : Bool := c = '_' || isLetter c
  let continues (c : Char) : Bool :=
    c = '_' || c = '.' || c = '[' || c = ']' || isAlphanumeric c
  match name, s.rest.dropWhile (· != '>') with
  | c :: more, _ :: behind =>
    if starts c && more.all continues && !s.names.contains name then
      set { s with rest := behind, names := name :: s.names }
    else failure
  | _, _ => failure

/-- Letters that change modes, up to a colon or a closing parenthesis; a hyphen before them
turns modes off.  Each sign stands once, and the hyphen not at the end. -/
def modeLetters : (fuel : Nat) → (seen : List Char) → Modes → Reading (List Char × Modes × Char)
  | 0, _, _ => failure
  | fuel + 1, seen, m => do
    let c ← next
    let on := !seen.contains '-'
    if c = ':' || c = ')' then
      if seen.head? = some '-' then failure
      return (seen, m, c)
    if seen.contains c then failure
    match c with
    | 'i' => modeLetters fuel (c :: seen) { m with caseless := on }
    | 'u' => modeLetters fuel (c :: seen) { m with ascii := !on }
    | 'U' => modeLetters fuel (c :: seen) { m with lazy := on }
    | 'x' => modeLetters fuel (c :: seen) { m with spaced := on }
    -- No line ends stand in the texts that are matched.
    | '-' | 's' | 'm' | 'R' => modeLetters fuel (c :: seen) m
    | _ => failure

def newGroup : Reading Nat :=
  modifyGet fun s => (s.groups, { s with groups := s.groups + 1 })

/-- What the opening of a group leads to. -/
inductive Opening where
  /-- A group with a number of its own. -/
  | numbered (number : Nat)
  /-- Parentheses that only hold a pattern together. -/
  | plain
  /-- No content at all: only the modes change. -/
  | modes
  deriving DecidableEq, Repr, Inhabited

/-- What follows the opening parenthesis of a group, up to its content. -/
def opening : Reading Opening := do
  skipSpace
  let looksAround ← ["?=", "?!", "?<=", "?<!"].anyM accept
  if looksAround then failure
  let isNamed ← ["?P<", "?<"].anyM accept
  if isNamed then
    groupName
    return .numbered (← newGroup)
  else if ← accept "?" then
    let (seen, m, stop) ← modeLetters ((← rest).length + 1) [] (← modes)
    modify fun s => { s with modes := m }
    if stop = ':' then return .plain
    else if seen.isEmpty then failure
    else return .modes
  else return .numbered (← newGroup)

def ofAtom (a : Atom) : Reading Pattern := do
  match a with
  | .any => if (← modes).ascii then failure else return Pattern.any
  | .here a => return .here a
  | .chars c => return .one c
  | .char c byte => do
    let m ← modes
    if byte then guardAscii c
    if !m.caseless then return .one (.char c)
    else if m.ascii then return .one (.caseless (.char c))
    else failure

/-- The repetition of a pattern, after its sign.  A question mark behind it changes what is
preferred. -/
def repetition (count : Count) (p : Pattern) : Reading Pattern := do
  let marked ← accept "?"
  return repeated count p (marked == (← modes).lazy)

/-- The sequence of some pieces, the last one first; a change of modes is no pattern. -/
def sequence (done : List (Option Pattern)) : Pattern := chain (done.reverse.filterMap id)

/-- A pattern up to the end or to a closing parenthesis.  `before` are the alternatives that have
been read and `done` the pieces of the next one, both with the last one first.  `fuel` bounds the
length. -/
def body (fuel : Nat) (before : List Pattern) (done : List (Option Pattern)) :
    Reading Pattern := do
  match fuel with
  | 0 => failure
  | fuel + 1 =>
    let onward (p : Pattern) : Reading Pattern := body fuel before (some p :: done)
    let repeatLast (count : Count) : Reading Pattern := do
      match done with
      | some p :: more => do
        let p ← repetition count p
        body fuel before (some p :: more)
      | _ => failure
    skipSpace
    match ← rest with
    | [] => return choice (sequence done :: before).reverse
    | ')' :: _ => return choice (sequence done :: before).reverse
    | _ =>
      match ← next with
      | '|' => body fuel (sequence done :: before) []
      | '(' => do
        let outside ← modes
        let start ← opening
        if start = .modes then body fuel before (none :: done)
        else
          let p ← body fuel [] []
          if !(← accept ")") then failure
          modify fun s => { s with modes := outside }
          match start with
          | .numbered number => onward (.group number p)
          | _ => onward p
      | '[' => do
        let chars ← bracket fuel
        onward (.one chars)
      | '?' => repeatLast .atMostOnce
      | '*' => repeatLast .anyNumber
      | '+' => repeatLast .atLeastOnce
      | '{' => failure
      | '\\' => do
        let a ← escape
        onward (← ofAtom a)
      | '.' => do
        onward (← ofAtom .any)
      | '^' => onward (.here .start)
      | '$' => onward (.here .stop)
      | c => do
        onward (← ofAtom (.char c false))

end Reading

def parse? (text : List Char) : Option Pattern := do
  let (p, s) ← (Reading.body (2 * text.length + 2) [] []).run { rest := text }
  if s.rest.isEmpty then some p else none

end Pattern

end UidPolicy
