import UidPolicy.Pattern.Basic

/-!
# Matching

A pattern is matched against a text from left to right by threads, the preferred one first.  A
thread is what remains to be matched.  Where a thread comes to what an earlier one has come to
at the same place, it ends; and where one is finished, all after it end.

* `Place` — a place in a text: the characters before and after it.
* `Thread`, `Thread.unfold`, `Thread.consume` — what remains to be matched, without and with the
  next character.
* `Pattern.spread` — all threads at a place.
* `Pattern.reachesEnd` — whether the first match in a text reaches its end.

The first match is the one that starts furthest left, and of these the one that the pattern
prefers.
-/

namespace UidPolicy

/-- A place in a text. -/
structure Place where
  before : Option Char
  after : Option Char
  deriving DecidableEq, Repr, Inhabited

namespace Place

/-- Whether a character of a word is there, if any character is. -/
def isWord (c : Option Char) : Bool := c.any CharClass.word.contains

/-- Whether a place is what it must be. -/
def holds (at_ : Place) : Assertion → Bool
  | .start => at_.before.isNone
  | .stop => at_.after.isNone
  | .wordEdge => isWord at_.before != isWord at_.after
  | .noWordEdge => isWord at_.before == isWord at_.after
  | .wordStart => !isWord at_.before && isWord at_.after
  | .wordEnd => isWord at_.before && !isWord at_.after

end Place

inductive Frame where
  | run (p : Pattern)
  /-- More repetitions of a pattern, after one of them. -/
  | again (p : Pattern) (greedy : Bool)
  deriving DecidableEq, Repr, Inhabited

/-- What remains to be matched, one part after the other.  Threads are kept in the order of
preference, which decides between the ways in which a pattern matches. -/
abbrev Thread : Type := List Frame

namespace Thread

/-- Two ways to go on: with a repetition, or past it. -/
def prefer (greedy : Bool) (more past : Thread) : List Thread :=
  if greedy then [more, past] else [past, more]

/-- The ways to go on at a place without a character, the preferred one first. -/
def unfold (at_ : Place) : Thread → List Thread
  | [] => []
  | .again p greedy :: past => prefer greedy (.run p :: .again p greedy :: past) past
  | .run p :: past =>
    match p with
    | .empty => [past]
    | .one _ => []
    | .here a => if at_.holds a then [past] else []
    | .seq p q => [.run p :: .run q :: past]
    | .alt p q => [.run p :: past, .run q :: past]
    | .optional p greedy => prefer greedy (.run p :: past) past
    | .star p greedy =>
      -- A repetition of nothing does not come back to where it can be skipped.
      let next : Frame := if p.isNullable then .again p greedy else .run (.star p greedy)
      prefer greedy (.run p :: next :: past) past
    | .plus p greedy => [.run p :: .again p greedy :: past]
    | .group _ p => [.run p :: past]

/-- What remains after the next character, if the thread goes on with one like it. -/
def consume? (c : Char) : Thread → Option Thread
  | .run (.one chars) :: past => if chars.contains c then some past else none
  | _ => none

end Thread

namespace Pattern

/-- All threads that some threads come to at a place, the preferred one first.  `seen` are those
that have been found, in reverse, and `fuel` bounds how many ways are followed. -/
def spread (at_ : Place) : (fuel : Nat) → (open_ seen : List Thread) → List Thread
  | 0, _, seen => seen.reverse
  | _ + 1, [], seen => seen.reverse
  | fuel + 1, t :: rest, seen =>
    -- a thread that has been found was preferred, so its second coming changes nothing
    if seen.contains t then spread at_ fuel rest seen
    else spread at_ fuel (t.unfold at_ ++ rest) (t :: seen)

/-- Whether a thread is finished at the end of the text.  `threads` are those that come from the
characters before; `searching` says whether a match can still start. -/
def finishes (p : Pattern) (searching : Bool) (before : Option Char) (threads : List Thread) :
    List Char → Bool
  | [] => (all none).contains []
  | c :: rest =>
    let threads := all (some c)
    -- A match has been found once a thread is finished; a preferred one may still be longer.
    let alive := threads.takeWhile fun t => !t.isEmpty
    -- matches that start later are worse than any that has ended
    finishes p (searching && !threads.contains []) (some c)
      (alive.filterMap (Thread.consume? c)) rest
where
  /-- All threads at the place before a character. -/
  all (after : Option Char) : List Thread :=
    let open_ := if searching then threads ++ [[.run p]] else threads
    -- Every part of the pattern is come to in two ways at most, and goes on in two.
    spread ⟨before, after⟩ (open_.length + 4 * p.size + 3) open_ []

/-- Whether the first match in a text reaches its end.  Other matches do not count, even if they
would reach further. -/
def reachesEnd (p : Pattern) (text : List Char) : Bool := p.finishes true none [] text

end Pattern

end UidPolicy
