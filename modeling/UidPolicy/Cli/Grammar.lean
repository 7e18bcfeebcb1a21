import UidPolicy.Cli.Value

/-!
# The words of the command line

* `Cli.Opt` — the options, and what each takes.
* `Cli.Leaf` — the commands, `Leaf.operands` the arguments that each takes in order, and
  `Leaf.command?` the command that a list of arguments makes.
* `Cli.Level` — the tree of command words, and `Cli.grammar` the tree of this program.
-/

namespace UidPolicy

namespace Cli

inductive Opt where
  | config | logLevel | logFormat | output | metered | iface | help | version
  deriving DecidableEq, Repr, Inhabited

namespace Opt

/-- The word of an option, without its dashes. -/
def long : Opt → String
  | config => "config"
  | logLevel => "log-level"
  | logFormat => "log-format"
  | output => "output"
  | metered => "metered"
  | iface => "iface"
  | help => "help"
  | version => "version"

/-- The letter of an option. -/
def short? : Opt → Option Char
  | config => some 'c'
  | logLevel => some 'l'
  | output => some 'o'
  | help => some 'h'
  | version => some 'V'
  | logFormat | metered | iface => none

/-- What the value of an option has to be; a flag takes none. -/
def kind? : Opt → Option ValueKind
  | config => some .text
  | logLevel => some .logLevel
  | logFormat => some .logFormat
  | output => some .output
  | iface => some .text
  | metered | help | version => none

end Opt

inductive Leaf where
  | version | init | blocked | sizes
  | ruleAdd | ruleRemove | ruleSet | ruleGet
  | chainReplace | chainEnable | chainDisable | chainStatus | chainList
  | lockdownAdd | lockdownRemove
  | ifaceAdd | ifaceRemove
  | statsSwap | statsActive
  | permSet | permGet
  | discardSet | discardRemove | discardGet
  | dataSaverOn | dataSaverOff | dataSaverStatus
  deriving DecidableEq, Repr, Inhabited

/-- An argument without an option word. -/
structure Operand where
  kind : ValueKind
  /-- Whether it takes all the words that are left. -/
  isList : Bool := false
  deriving DecidableEq, Repr, Inhabited

namespace Leaf

def operands : Leaf → List Operand
  | version | init | sizes | chainStatus | statsSwap | statsActive
  | dataSaverOn | dataSaverOff | dataSaverStatus => []
  | blocked | lockdownAdd | lockdownRemove | permGet => [⟨.uid, false⟩]
  | ruleAdd | ruleRemove | ruleGet => [⟨.chain, false⟩, ⟨.uid, false⟩]
  | ruleSet => [⟨.chain, false⟩, ⟨.uid, false⟩, ⟨.verdict, false⟩]
  | chainReplace => [⟨.chain, false⟩, ⟨.uid, true⟩]
  | chainEnable | chainDisable | chainList => [⟨.chain, false⟩]
  | ifaceAdd | ifaceRemove => [⟨.uid, true⟩]
  | permSet => [⟨.mask, false⟩, ⟨.uid, true⟩]
  | discardSet => [⟨.address, false⟩, ⟨.text, false⟩]
  | discardRemove | discardGet => [⟨.address, false⟩]

/-- The options that only this command has. -/
def ownOptions : Leaf → List Opt
  | blocked => [.metered]
  | ifaceAdd => [.iface]
  | _ => []

/-- The command that values make, given those of each operand in order; a command whose
operands are not all there is none.  Only a replacement may list no ids. -/
def command? (metered : Bool) (iface : Option String) :
    Leaf → List (List Value) → Option Command
  | version, [] => some .version
  | init, [] => some .init
  | sizes, [] => some .sizes
  | chainStatus, [] => some .chainStatus
  | statsSwap, [] => some .statsSwap
  | statsActive, [] => some .statsActive
  | dataSaverOn, [] => some .dataSaverOn
  | dataSaverOff, [] => some .dataSaverOff
  | dataSaverStatus, [] => some .dataSaverStatus
  | blocked, [[.uid u]] => some (.blocked u metered)
  | lockdownAdd, [[.uid u]] => some (.lockdownAdd u)
  | lockdownRemove, [[.uid u]] => some (.lockdownRemove u)
  | permGet, [[.uid u]] => some (.permGet u)
  | ruleAdd, [[.chain c], [.uid u]] => some (.ruleAdd c u)
  | ruleRemove, [[.chain c], [.uid u]] => some (.ruleRemove c u)
  | ruleGet, [[.chain c], [.uid u]] => some (.ruleGet c u)
  | ruleSet, [[.chain c], [.uid u], [.verdict v]] => some (.ruleSet c u v)
  | chainReplace, [[.chain c], uids] => some (.chainReplace c (Value.uids uids))
  | chainEnable, [[.chain c]] => some (.chainEnable c)
  | chainDisable, [[.chain c]] => some (.chainDisable c)
  | chainList, [[.chain c]] => some (.chainList c)
  | ifaceAdd, [uid :: uids] => some (.ifaceAdd iface (Value.uids (uid :: uids)))
  | ifaceRemove, [uid :: uids] => some (.ifaceRemove (Value.uids (uid :: uids)))
  | permSet, [[.mask m], uid :: uids] => some (.permSet m (Value.uids (uid :: uids)))
  | discardSet, [[.address a], [.text name]] => some (.discardSet a name)
  | discardRemove, [[.address a]] => some (.discardRemove a)
  | discardGet, [[.address a]] => some (.discardGet a)
  | _, _ => none

end Leaf

/-- A place in the tree of command words. -/
inductive Level where
  | leaf (leaf : Leaf)
  /-- A word that another word has to follow. -/
  | group (options : List Opt) (children : List (String × Level))
  deriving Inhabited

namespace Level

/-- The word that asks for the usage text of what follows; every group has it. -/
def helpWord : String := "help"

def options : Level → List Opt
  | leaf l => l.ownOptions ++ [.output, .help]
  | group options _ => options ++ [.output, .help]

def operands : Level → List Operand
  | leaf l => l.operands
  | group .. => []

def child? (word : String) : Level → Option Level
  | leaf _ => none
  | group _ children => (children.find? fun e => e.1 = word).map (·.2)

/-- Whether a word leads on from a place, to another place or to the usage text. -/
def knows (word : String) : Level → Bool
  | leaf _ => false
  | g@(group ..) => word = helpWord || (g.child? word).isSome

/-- Whether the usage text of some words exists: every word leads on, and nothing follows the
word for the usage text. -/
def hasUsage : Level → List String → Bool
  | _, [] => true
  | level, word :: rest =>
    match level.child? word with
    | some next => hasUsage next rest
    | none => level.knows word && rest.isEmpty

end Level

/-- The command words of this program. -/
def grammar : Level :=
  .group [.config, .logLevel, .logFormat, .version]
    [("version", .leaf .version),
     ("init", .leaf .init),
     ("rule", .group []
       [("add", .leaf .ruleAdd), ("remove", .leaf .ruleRemove), ("set", .leaf .ruleSet),
        ("get", .leaf .ruleGet)]),
     ("chain", .group []
       [("replace", .leaf .chainReplace), ("enable", .leaf .chainEnable),
        ("disable", .leaf .chainDisable), ("status", .leaf .chainStatus),
        ("list", .leaf .chainList)]),
     ("lockdown", .group [] [("add", .leaf .lockdownAdd), ("remove", .leaf .lockdownRemove)]),
     ("iface", .group [] [("add", .leaf .ifaceAdd), ("remove", .leaf .ifaceRemove)]),
     ("stats", .group [] [("swap", .leaf .statsSwap), ("active", .leaf .statsActive)]),
     ("perm", .group [] [("set", .leaf .permSet), ("get", .leaf .permGet)]),
     ("discard", .group []
       [("set", .leaf .discardSet), ("remove", .leaf .discardRemove),
        ("get", .leaf .discardGet)]),
     ("data-saver", .group []
       [("on", .leaf .dataSaverOn), ("off", .leaf .dataSaverOff),
        ("status", .leaf .dataSaverStatus)]),
     ("blocked", .leaf .blocked),
     ("sizes", .leaf .sizes)]

end Cli

end UidPolicy
