/-!
# Patterns

What patterns are made of, and how they are put together.  What a pattern in brackets stands for
is a class of characters: characters and ranges of them, combined as sets.

* `CharClass` — the classes.
* `CharClass.contains` — whether a character is in a class.
* `CharClass.named?` — the classes that have names; all of them are of ASCII characters.
* `Assertion` — what a place in a text can be asked for.
* `Pattern` — the patterns.
* `Pattern.isNullable` — whether a pattern can match nothing; `Pattern.isWeightless` — whether
  it can match nothing else.
* `Pattern.chain`, `Pattern.choice`, `Pattern.repeated` — sequences, alternatives and repetitions
  in their simplest form.

Alternatives that start with the same pieces have these pieces in common: `n.*t|n.*s` is
`n.*(?:t|s)`.  This decides which of several matches is preferred, for the common start has the
say then, and not the order of the alternatives.
-/

namespace UidPolicy

/-! ## Classes of characters -/

inductive CharClass where
  /-- No character at all. -/
  | none
  /-- The characters from one to another one, both included. -/
  | range (lo hi : Char)
  | union (a b : CharClass)
  | inter (a b : CharClass)
  /-- The first class without the second one. -/
  | diff (a b : CharClass)
  /-- What is in one of two classes but not in both. -/
  | symmDiff (a b : CharClass)
  | compl (a : CharClass)
  /-- A class together with its letters in the other case. -/
  | caseless (a : CharClass)
  deriving DecidableEq, Repr, Inhabited

namespace CharClass

/-- An ASCII letter in the other case; other characters stay. -/
def swapCase (c : Char) : Char := if c.isLower then c.toUpper else c.toLower

def contains : CharClass → Char → Bool
  | none, _ => false
  | range lo hi, c => decide (lo ≤ c) && decide (c ≤ hi)
  | union a b, c => a.contains c || b.contains c
  | inter a b, c => a.contains c && b.contains c
  | diff a b, c => a.contains c && !b.contains c
  | symmDiff a b, c => a.contains c != b.contains c
  | compl a, c => !a.contains c
  | caseless a, c => a.contains c || a.contains (swapCase c)

def char (c : Char) : CharClass := range c c

def all (classes : List CharClass) : CharClass := classes.foldr union none

def digit : CharClass := range '0' '9'

def alpha : CharClass := union (range 'A' 'Z') (range 'a' 'z')

/-- What words consist of: ASCII letters, digits and the underscore. -/
def word : CharClass := all [digit, alpha, char '_']

def space : CharClass := union (range '\t' '\x0d') (char ' ')

def named? : String → Option CharClass
  | "alnum" => some (union digit alpha)
  | "alpha" => some alpha
  | "ascii" => some (range '\x00' '\x7f')
  | "blank" => some (union (char '\t') (char ' '))
  | "cntrl" => some (union (range '\x00' '\x1f') (char '\x7f'))
  | "digit" => some digit
  | "graph" => some (range '!' '~')
  | "lower" => some (range 'a' 'z')
  | "print" => some (range ' ' '~')
  | "punct" => some (all [range '!' '/', range ':' '@', range '[' '\x60', range '\x7b' '~'])
  | "space" => some space
  | "upper" => some (range 'A' 'Z')
  | "word" => some word
  | "xdigit" => some (all [digit, range 'A' 'F', range 'a' 'f'])
  | _ => Option.none

end CharClass

/-! ## Patterns of classes -/

/-- What a place in a text must be. -/
inductive Assertion where
  /-- The start of the text. -/
  | start
  /-- The end of the text. -/
  | stop
  | wordEdge
  | noWordEdge
  | wordStart
  | wordEnd
  deriving DecidableEq, Repr, Inhabited

/-- A pattern.  Groups are told apart because their number shows in how patterns are compared,
though nothing asks what a group has matched. -/
inductive Pattern where
  /-- Nothing, at every place. -/
  | empty
  /-- One character of a class. -/
  | one (chars : CharClass)
  /-- Nothing, at some places. -/
  | here (a : Assertion)
  | seq (p q : Pattern)
  /-- One or the other, rather the first one. -/
  | alt (p q : Pattern)
  /-- At most once; `greedy` says whether rather once than not. -/
  | optional (p : Pattern) (greedy : Bool)
  /-- Any number of times; `greedy` says whether rather more often than not. -/
  | star (p : Pattern) (greedy : Bool)
  /-- The same, but at least once. -/
  | plus (p : Pattern) (greedy : Bool)
  /-- A group; no two groups of a pattern have the same number. -/
  | group (number : Nat) (p : Pattern)
  deriving DecidableEq, Repr, Inhabited

namespace Pattern

def any : Pattern := one (.compl .none)

/-- Whether a pattern can match nothing.  In a repetition such a pattern has to be kept from going
round at one place for ever. -/
def isNullable : Pattern → Bool
  | empty => true
  | one _ => false
  | here _ => true
  | seq p q => p.isNullable && q.isNullable
  | alt p q => p.isNullable || q.isNullable
  | optional _ _ => true
  | star _ _ => true
  | plus p _ => p.isNullable
  | group _ p => p.isNullable

/-- Whether a pattern has no character to match.  To repeat such a pattern is to say it once. -/
def isWeightless : Pattern → Bool
  | empty => true
  | one _ => false
  | here _ => true
  | seq p q => p.isWeightless && q.isWeightless
  | alt p q => p.isWeightless && q.isWeightless
  | optional p _ => p.isWeightless
  | star p _ => p.isWeightless
  | plus p _ => p.isWeightless
  | group _ p => p.isWeightless

def size : Pattern → Nat
  | empty | one _ | here _ => 1
  | seq p q | alt p q => p.size + q.size + 1
  | optional p _ | star p _ | plus p _ | group _ p => p.size + 1

/-! ## Sequences and alternatives -/

/-- The pieces of a sequence; any other pattern is one piece. -/
def pieces : Pattern → List Pattern
  | seq p q => p.pieces ++ q.pieces
  | p => [p]

/-- The alternatives of a choice; any other pattern is one alternative. -/
def alternatives : Pattern → List Pattern
  | alt p q => p.alternatives ++ q.alternatives
  | p => [p]

/-- A sequence of pieces. -/
def ofPieces : List Pattern → Pattern
  | [] => empty
  | [p] => p
  | p :: rest => seq p (ofPieces rest)

/-- A choice between alternatives, the preferred ones first. -/
def ofAlternatives : List Pattern → Pattern
  | [] => empty
  | [p] => p
  | p :: rest => alt p (ofAlternatives rest)

/-- The sequence of some patterns: sequences in it are taken apart, and empty patterns left
out. -/
def chain (ps : List Pattern) : Pattern :=
  ofPieces ((ps.flatMap pieces).filter (· ≠ empty))

/-- Whether a pattern is one given character. -/
def isChar : Pattern → Bool
  | one (.range lo hi) => lo = hi
  | _ => false

/-- Whether a pattern is a sequence that is more than a word. -/
def isComposed (p : Pattern) : Bool :=
  decide (2 ≤ p.pieces.length) && !p.pieces.all isChar

/-- The pieces that two sequences start with in common. -/
def commonStart : List Pattern → List Pattern → List Pattern
  | p :: ps, q :: qs => if p = q then p :: commonStart ps qs else []
  | _, _ => []

/-- The choice between some patterns: choices in it are taken apart, and what all alternatives
start with is put in front of them. -/
def choice (ps : List Pattern) : Pattern :=
  let alts := ps.flatMap alternatives
  match alts.map pieces with
  | first :: second :: more =>
    let common := (second :: more).foldl commonStart first
    if alts.all isComposed && !common.isEmpty then
      let rests := (first :: second :: more).map fun own => chain (own.drop common.length)
      chain (common ++ [ofAlternatives (rests.flatMap alternatives)])
    else ofAlternatives alts
  | _ => ofAlternatives alts

/-- How often a pattern is repeated. -/
inductive Count where
  | atMostOnce | anyNumber | atLeastOnce
  deriving DecidableEq, Repr, Inhabited

/-- The repetition of a pattern; one without weight is not repeated. -/
def repeated (count : Count) (p : Pattern) (greedy : Bool) : Pattern :=
  match count with
  | .atMostOnce => optional p greedy
  | .anyNumber => if p.isWeightless then optional p greedy else star p greedy
  | .atLeastOnce => if p.isWeightless then p else plus p greedy

end Pattern

end UidPolicy
