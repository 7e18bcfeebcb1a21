import UidPolicy.Cli.Grammar
import UidPolicy.Config.Basic

/-!
# Reading a command line

The words are read from left to right.  A word is the next command word, an option, the value
of the option before it, or an operand; after `--` every word is an operand.

* `Cli.Scan` — what has been read at one place of the command tree.
* `Cli.Scan.settle` — reads the value that is still open; it stays unread until the next
  option or operand, or the end.
* `Cli.read` — reads the words at a place and below it.
* `Cli.Invocation` — what a command line asks for, and `Cli.parse` its reader.
-/

namespace UidPolicy

namespace Cli

/-- Where a value belongs: to an option, or to an operand by its place.  Both are filled alike, and
only at the end does it matter which is which. -/
inductive Slot where
  | option (opt : Opt)
  | operand (index : Nat)
  deriving DecidableEq, Repr, Inhabited

/-- Values that have been read, by slot, in order. -/
abbrev Given := List (Slot × List Value)

namespace Given

def values (given : Given) (slot : Slot) : List Value :=
  (given.filter fun e => e.1 = slot).flatMap (·.2)

def has (given : Given) (slot : Slot) : Bool := given.any fun e => e.1 = slot

end Given

/-- Texts that have been seen for a slot and not been read.  They are read when the next slot is
opened, since the words of a list come one by one. -/
structure Open where
  slot : Slot
  texts : List String
  deriving DecidableEq, Repr, Inhabited

/-- What has been read at one place of the command tree.  A word is understood by this alone, never
by what comes after it. -/
structure Scan where
  level : Level
  given : Given := []
  /-- The slot that is still open. -/
  unread : Option Open := none
  /-- Whether the next word is the value of an option. -/
  expectsValue : Bool := false
  /-- The operand that the next word is for. -/
  nextOperand : Nat := 0
  /-- Whether every word is an operand from here on. -/
  literal : Bool := false
  deriving Inhabited

namespace Scan

/-- What the values of a slot have to be. -/
def kind? (s : Scan) : Slot → Option ValueKind
  | .option opt => opt.kind?
  | .operand i => s.level.operands[i]?.map (·.kind)

/-- Fills a slot.  An option is filled once, and with a value; a second one is an error even if it
says the same. -/
def fill (s : Scan) (slot : Slot) (texts : List String) : Except UsageError Scan := do
  if let .option _ := slot then
    if texts.isEmpty then throw .invalidValue
    if s.given.has slot then throw .argumentConflict
  match s.kind? slot with
  | none => throw .unknownArgument
  | some kind => do
    -- the texts are read only now, so an error of the place comes before one of a text
    let values ← texts.mapM kind.read
    pure { s with given := s.given ++ [(slot, values)] }

def settle (s : Scan) : Except UsageError Scan :=
  match s.unread with
  | none => .ok s
  | some o => { s with unread := none }.fill o.slot o.texts

def raise (s : Scan) (opt : Opt) : Except UsageError Scan := do
  let s ← s.settle
  match opt with
  | .help => throw .helpRequested
  | .version => throw .versionRequested
  | _ =>
    if s.given.has (.option opt) then throw .argumentConflict
    pure { s with given := s.given ++ [(.option opt, [])], expectsValue := false }

/-- An option with the value that is attached to it, if one is. -/
def option (s : Scan) (opt : Opt) (attached : Option String) : Except UsageError Scan := do
  let s ← s.settle
  match attached with
  | some text => do
    let s ← s.fill (.option opt) [text]
    pure { s with expectsValue := false }
  | none => pure { s with unread := some ⟨.option opt, []⟩, expectsValue := true }

/-- A word that starts with two dashes: an option word, and a value after `=`. -/
def long (s : Scan) (body : List Char) : Except UsageError Scan :=
  let word := body.takeWhile (· != '=')
  let value? : Option String :=
    match body.dropWhile (· != '=') with
    | [] => none
    | _ :: value => some (String.ofList value)
  match s.level.options.find? fun o => o.long.toList = word with
  | none => .error .unknownArgument
  | some opt =>
    match opt.kind?, value? with
    | some _, value? => s.option opt value?
    | none, none => s.raise opt
    | none, some _ => .error .tooManyValues

/-- A word that starts with one dash: letters of flags, and then the letter of an option with
the rest of the word as its value, after `=` or not. -/
def short (s : Scan) : List Char → Except UsageError Scan
  | [] => .ok s
  | letter :: rest =>
    match s.level.options.find? fun o => o.short? = some letter with
    | none => .error .unknownArgument
    | some opt =>
      match opt.kind? with
      | none => do
        let s ← s.raise opt
        s.short rest
      | some _ =>
        match rest with
        | [] => s.option opt none
        | '=' :: value => s.option opt (some (String.ofList value))
        | value => s.option opt (some (String.ofList value))

def value (s : Scan) (text : String) : Scan :=
  { s with
    unread := s.unread.map fun o => { o with texts := o.texts ++ [text] }
    expectsValue := false }

/-- The error of a word that there is no operand for. -/
def noOperand (s : Scan) (word : String) : UsageError :=
  match s.level with
  | .leaf _ => .unknownArgument
  | .group .. => if s.literal && s.level.knows word then .unknownArgument else .invalidSubcommand

/-- A word that is an operand.  The words of a list are read together. -/
def operand (s : Scan) (word : String) : Except UsageError Scan :=
  match s.level.operands[s.nextOperand]? with
  | none => .error (s.noOperand word)
  | some o => do
    let slot := Slot.operand s.nextOperand
    -- a further word of a list does not open a new operand
    if o.isList && s.unread.any (·.slot = slot) then pure (s.value word)
    else
      let s ← s.settle
      pure { s with
        unread := some ⟨slot, [word]⟩
        expectsValue := false
        nextOperand := if o.isList then s.nextOperand else s.nextOperand + 1 }

/-- A word that is no command word. -/
def word (s : Scan) (text : String) : Except UsageError Scan :=
  if s.literal then s.operand text
  else
    match text.toList with
    -- two dashes alone end the options; a single dash is a word like any other
    | ['-', '-'] => .ok { s with literal := true }
    | '-' :: '-' :: body => s.long body
    | '-' :: c :: rest => s.short (c :: rest)
    | _ => if s.expectsValue then .ok (s.value text) else s.operand text

/-- Whether the next word can be a command word. -/
def allowsCommand (s : Scan) : Bool := !s.literal && !s.expectsValue

end Scan

/-- The text that was given to a slot last. -/
def Given.text? (given : Given) (slot : Slot) : Option String :=
  match (given.values slot).getLast? with
  | some (.text s) => some s
  | _ => none

/-- A command, and what was given at each place on the way to it, outermost first.  An option may be
given at any of the places, so all of them are kept until the end. -/
structure Reading where
  command : Command
  given : List Given
  deriving Repr, Inhabited

/-- The end of the words.  A command whose operands are not all there asks for nothing, and a group
that no word follows neither. -/
def finish (s : Scan) : Except UsageError Reading := do
  let s ← s.settle
  match s.level with
  | .leaf leaf =>
    let operands := (List.range leaf.operands.length).map fun i => s.given.values (.operand i)
    match leaf.command? (s.given.has (.option .metered)) (s.given.text? (.option .iface))
        operands with
    | some command => pure ⟨command, [s.given]⟩
    | none => throw .missingRequiredArgument
  | .group .. => throw (if s.given.isEmpty then .nothingGiven else .missingSubcommand)

/-- Reads the words at a place and below it.  What is still open at a place is read after all
that is below it. -/
def read (s : Scan) : List String → Except UsageError Reading
  | [] => finish s
  | word :: rest =>
    match if s.allowsCommand then s.level.child? word else none with
    | some next => do
      let below ← read { level := next } rest
      let s ← s.settle
      pure { below with given := s.given :: below.given }
    | none =>
      if s.allowsCommand && s.level.knows word then
        .error (if s.level.hasUsage rest then .helpRequested else .invalidSubcommand)
      else do
        let s ← s.word word
        read s rest

/-- What a command line asks for. -/
structure Invocation where
  config : String
  logLevel : Option Log.Level
  logFormat : Option Log.Format
  output : OutputFormat
  command : Command
  deriving DecidableEq, Repr, Inhabited

namespace Reading

def values (r : Reading) (opt : Opt) : List Value :=
  r.given.flatMap fun g => g.values (.option opt)

/-- What a reading asks for.  An option that is given at several places counts as given at the
innermost. -/
def invocation (r : Reading) : Invocation where
  config :=
    match (r.values .config).getLast? with
    | some (.text path) => path
    | _ => Config.defaultPath
  logLevel :=
    match (r.values .logLevel).getLast? with
    | some (.logLevel level) => some level
    | _ => none
  logFormat :=
    match (r.values .logFormat).getLast? with
    | some (.logFormat format) => some format
    | _ => none
  output :=
    match (r.values .output).getLast? with
    | some (.output format) => format
    | _ => .text
  command := r.command

end Reading

/-- Reads a command line, without the name of the program. -/
def parse (words : List String) : Except UsageError Invocation := do
  let r ← read { level := grammar } words
  pure r.invocation

end Cli

end UidPolicy
