import UidPolicy.Log.Event
import UidPolicy.Pattern.Match
import UidPolicy.Pattern.Read
import UidPolicy.Text.Digits

/-!
# Log filters

A filter is a list of directives, separated by commas.  A directive names a level and, if it
likes, the events that the level is for: by the start of the target, by the span that they
happen in, by a field that they have.

* `Limit` — how verbose an event may be.
* `ValueTest`, `FieldTest` — what a field must be: its value is tested by a pattern.
* `Directive`, `Directive.parse?` — one directive and its grammar.
* `Filter`, `Filter.parse?`, `Filter.ofLimit` — a whole filter; without directives it lets
  nothing through.
* `Span` — a stretch of the program's run with a name and fields of its own.
* `Filter.shows` — whether a span is shown; `Filter.lets` — whether an event is let through.
* `byteCount`, `slice?` — the parts of a directive are cut out of it by byte offsets; there is
  none if an offset lies within a character.

Directives about a span or a field decide while such a span lasts.  Of the others, the most
specific one about an event decides.  Of two directives for the same, the later one stands.
-/

namespace UidPolicy

/-! ## Parts of a text by byte offsets -/

def byteCount : List Char → Nat
  | [] => 0
  | c :: rest => c.utf8Size + byteCount rest

def fromByte? (offset : Nat) : List Char → Option (List Char)
  | [] => if offset = 0 then some [] else none
  | c :: rest =>
    if offset = 0 then some (c :: rest)
    else if c.utf8Size ≤ offset then fromByte? (offset - c.utf8Size) rest
    else none

def upToByte? (offset : Nat) : List Char → Option (List Char)
  | [] => if offset = 0 then some [] else none
  | c :: rest =>
    if offset = 0 then some []
    else if c.utf8Size ≤ offset then (upToByte? (offset - c.utf8Size) rest).map (c :: ·)
    else none

/-- The part of a text between two byte offsets, if both fall between characters.  Filters are cut
by bytes, so an offset may fall into the middle of one, and then there is no part. -/
def slice? (start stop : Nat) (text : List Char) : Option (List Char) :=
  (fromByte? start text).bind (upToByte? (stop - start))

/-! ## Limits and directives -/

namespace Log

/-- The most verbose level that is let through, or nothing at all. -/
abbrev Limit := Option Level

namespace Limit

/-- The number of levels that a limit lets through. -/
def rank (limit : Limit) : Nat := (limit.map Level.rank).getD 0

def lets (limit : Limit) (level : Level) : Bool := decide (level.rank ≤ rank limit)

def max (a b : Limit) : Limit := if rank a < rank b then b else a

/-- The limit of a number from 0, for nothing, to 5. -/
def ofNumber? : Nat → Option Limit
  | 0 => some none
  | 1 => some (some .error)
  | 2 => some (some .warn)
  | 3 => some (some .info)
  | 4 => some (some .debug)
  | 5 => some (some .trace)
  | _ => none

/-- The limit of a word in lower case. -/
def ofWord? (word : String) : Option Limit :=
  if word = "off" then some none
  else (Level.all.find? fun level => level.word == word).map some

/-- The limit of a number or a word, whatever the case of its ASCII letters. -/
def parse? (text : List Char) : Option Limit :=
  -- a number is tried first, and none beyond five is a level
  match (Decimal.unsigned? text).bind ofNumber? with
  | some limit => some limit
  | none => ofWord? (String.ofList (text.map Char.toLower))

end Limit

/-! ## Directives -/

/-- What the value of a field must be. -/
structure ValueTest where
  text : String
  /-- The pattern that a text must match up to its end.  A truth value or a number is not a
  pattern, and no text is equal to it. -/
  pattern : Option Pattern
  deriving DecidableEq, Repr, Inhabited

namespace ValueTest

/-- Reads a test of a value: a truth value, a number or a pattern. -/
def parse? (text : List Char) : Option ValueTest :=
  if text = "true".toList || text = "false".toList || Decimal.isReal text then
    some ⟨String.ofList text, none⟩
  else (Pattern.parse? text).map fun p => ⟨String.ofList text, some p⟩

/-- Whether a text passes the test. -/
def accepts (t : ValueTest) (value : String) : Bool :=
  t.pattern.any fun p => p.reachesEnd value.toList

end ValueTest

/-- A field that a span or an event must have, and its value if that matters. -/
structure FieldTest where
  name : String
  value : Option ValueTest
  deriving DecidableEq, Repr, Inhabited

/-- Reads a field test: a name and, after an equals sign, a test of the value.  What follows
another equals sign does not matter. -/
def FieldTest.parse? (text : List Char) : Option FieldTest :=
  let name := String.ofList (text.takeWhile (· != '='))
  match text.dropWhile (· != '=') with
  | [] => some ⟨name, none⟩
  | _ :: value =>
    (ValueTest.parse? (value.takeWhile (· != '='))).map fun test => ⟨name, some test⟩

/-- A level and what it is for. -/
structure Directive where
  /-- What targets must start with. -/
  target : Option String
  /-- The name of the span. -/
  span : Option String
  field : Option FieldTest
  limit : Limit
  deriving DecidableEq, Repr, Inhabited

namespace Directive

/-- Whether a directive can start with a character: a letter, a numeral or one of `-`, `:`,
`_`. -/
def isStart (c : Char) : Bool := isAlphanumeric c || c = '-' || c = ':' || c = '_'

/-- The level that a directive ends with; without one, everything. -/
def limit? (text : List Char) : Option Limit :=
  if text.isEmpty then some (some .trace) else Limit.parse? text

/-- What follows the brackets: nothing, or an equals sign and a level.  `offset` is where it
starts in the whole text. -/
def limitAfterBrackets? (whole : List Char) (offset : Nat) : List Char → Option Limit
  | [] => some (some .trace)
  | '=' :: _ => (fromByte? (offset + 1) whole).bind limit?
  | _ => none

/-- What follows an opening bracket: the name of a span, a field test in braces, or both. -/
def brackets? (whole : List Char) (target : Option String) (offset : Nat)
    (text : List Char) : Option Directive := do
  let inName (c : Char) : Bool := c != ']' && c != '\x7b'
  let inTest (c : Char) : Bool := c != '\x7d'
  let nameEnd := offset + byteCount (text.takeWhile inName)
  let name ← slice? offset nameEnd whole
  match text.dropWhile inName with
  | [] => none
  | ']' :: after =>
    let limit ← limitAfterBrackets? whole (nameEnd + 1) after
    pure ⟨target, some (String.ofList name), none, limit⟩
  | _ :: rest =>
    let testEnd := nameEnd + 1 + byteCount (rest.takeWhile inTest)
    let test ← slice? (nameEnd + 1) testEnd whole
    match rest.dropWhile inTest with
    | _ :: ']' :: after =>
      if test.isEmpty then none
      let field ← FieldTest.parse? test
      let limit ← limitAfterBrackets? whole (testEnd + 2) after
      let span := if name.isEmpty then none else some (String.ofList name)
      pure ⟨target, span, some field, limit⟩
    | _ => none

/-- Reads a directive: a level alone, a target alone, or a target, a bracketed part or both
with a level after an equals sign.

Blanks around a directive are skipped, and offsets are counted from the first character behind
them; but the parts are cut out of the whole text, so that blanks before a directive shift its
parts, and blanks behind it belong to a part that reaches to the end. -/
def parse? (whole : List Char) : Option Directive :=
  let text := trimBlanks whole
  match text with
  | [] => none
  | c :: rest =>
    -- Without a target the directive starts with its bracketed part.
    if c = '[' then brackets? whole none 1 rest
    else if isStart c then do
      let inTarget (c : Char) : Bool := c != '=' && c != '['
      let offset := byteCount (text.takeWhile inTarget)
      match text.dropWhile inTarget with
      | [] =>
        match Limit.parse? whole with
        | some limit => some ⟨none, none, none, limit⟩
        | none => some ⟨some (String.ofList whole), none, none, some .trace⟩
      | mark :: after =>
        let target ← slice? 0 offset whole
        let target := String.ofList target
        if mark = '=' then
          let limit ← (fromByte? (offset + 1) whole).bind limit?
          pure ⟨some target, none, none, limit⟩
        else brackets? whole (some target) (offset + 1) after
    else none

def isAboutSpans (d : Directive) : Bool := d.span.isSome || d.field.isSome

/-- Whether a directive also decides about events by itself. -/
def isAboutEvents (d : Directive) : Bool :=
  d.span.isNone && (d.field.all fun test => test.value.isNone)

def hasSubject (d e : Directive) : Bool :=
  decide (d.target = e.target) && decide (d.span = e.span) && decide (d.field = e.field)

/-- Whether the target is one that the directive is for. -/
def coversTarget (d : Directive) (target : String) : Bool :=
  d.target.all fun start => start.toList.isPrefixOf target.toList

/-- Whether one directive is more specific than another one for the same target, by the target
first and by the field then. -/
def isMoreSpecific (d e : Directive) : Bool :=
  -- a directive without a target is less specific than one for the empty target
  let size (d : Directive) : Nat := (d.target.map fun t => t.length + 1).getD 0
  let fieldName (d : Directive) : String := (d.field.map (·.name)).getD ""
  decide (size e < size d) ||
    size d == size e && (e.field.isNone && d.field.isSome ||
      e.field.isSome && d.field.isSome && decide (fieldName e < fieldName d))

end Directive

/-! ## Filters -/

/-- A list of directives, in the order in which they are written. -/
structure Filter where
  directives : List Directive
  deriving DecidableEq, Repr, Inhabited

structure Span where
  name : String
  level : Level
  component : Component
  fields : List (String × String)
  deriving DecidableEq, Repr, Inhabited

namespace Filter

/-- The filter that lets a level and everything graver through. -/
def ofLimit (limit : Limit) : Filter := ⟨[⟨none, none, none, limit⟩]⟩

/-- The parts of a text between commas. -/
def parts : List Char → List (List Char)
  | [] => [[]]
  | c :: rest =>
    if c = ',' then [] :: parts rest
    else
      match parts rest with
      | [] => [[c]]
      | part :: more => (c :: part) :: more

/-- Reads a filter; empty parts mean nothing. -/
def parse? (text : String) : Option Filter := do
  let directives ← ((parts text.toList).filter fun part => !part.isEmpty).mapM Directive.parse?
  pure ⟨directives⟩

/-- The most specific one of some directives; of equally specific ones, the last.  Whether its level
is the more verbose one has no part in it. -/
def mostSpecific? (directives : List Directive) : Option Directive :=
  directives.foldl
    (fun best d =>
      -- a later directive stays unless the one before it is strictly more specific
      match best with
      | some b => if b.isMoreSpecific d then some b else some d
      | none => some d)
    none

/-- Whether the directives about events let an event with a target, a level and some fields
through. -/
def letsByTarget (f : Filter) (target : String) (level : Level)
    (hasField : String → Bool) : Bool :=
  let about := f.directives.filter fun d =>
    d.isAboutEvents && d.coversTarget target && d.field.all fun test => hasField test.name
  match mostSpecific? about with
  | some d => Limit.lets d.limit level
  | none => false

/-- The most verbose limit of any directive. -/
def highest (f : Filter) : Limit := f.directives.foldl (fun l d => Limit.max l d.limit) none

def aboutSpan (f : Filter) (s : Span) : List Directive :=
  f.directives.filter fun d =>
    d.isAboutSpans && d.coversTarget s.component.target && d.span.all (fun name => name == s.name)
      && d.field.all fun test => s.fields.any fun field => field.1 == test.name

/-- Whether a span is shown.  A directive about the span shows it, unless its level is beyond
every directive; one about the value of a field might be about any span. -/
def shows (f : Filter) (s : Span) : Bool :=
  (!(f.aboutSpan s).isEmpty || f.letsByTarget s.component.target s.level fun _ => true) &&
    -- a value can be changed while the span lasts, so a test of one may still come to hold
    (Limit.lets f.highest s.level ||
      f.directives.any fun d => d.field.any fun test => test.value.isSome)

/-- The directives that no later one replaces: one that is for the same subject takes the place of
an earlier one. -/
def standing : List Directive → List Directive
  | [] => []
  | d :: rest => if rest.any d.hasSubject then standing rest else d :: standing rest

/-- Whether a span has a field as it must be. -/
def hasField (s : Span) (test : FieldTest) : Bool :=
  s.fields.any fun field => field.1 == test.name && test.value.all fun value =>
    value.accepts field.2

/-- What is let through because of a span that lasts. -/
def limitWithin (f : Filter) (s : Span) : Limit :=
  -- a directive counts here only with the values that the span has now
  (standing (f.aboutSpan s)).foldl
    (fun limit d => if d.field.all (hasField s) then Limit.max limit d.limit else limit) none

/-- Whether an event is let through that happens within a span. -/
def lets (f : Filter) (s : Span) (e : Event) : Bool :=
  f.shows s && Limit.lets (f.limitWithin s) e.level ||
    -- every event has a message, whatever its fields are
    f.letsByTarget e.component.target e.level fun name =>
      name == "message" || e.fields.any fun field => field.1 == name

end Filter

end Log

end UidPolicy
