import UidPolicy.Chain
import UidPolicy.Ip
import UidPolicy.Rule
import UidPolicy.Uid

/-!
# Commands

* `Command` — what the command line can ask for.
* `Command.isReadOnly` — whether a command only reads the maps.
* `OutputFormat` — text lines or JSON documents.
* `Argument` — one part of a command.
* `Command.outline` — the words that name a command, then its arguments in the order in which
  the command line takes them.
-/

namespace UidPolicy

/-- What the command line can ask for, with arguments that have been read already. -/
inductive Command where
  | version
  | init
  | ruleAdd (chain : Chain) (uid : Uid)
  | ruleRemove (chain : Chain) (uid : Uid)
  | ruleSet (chain : Chain) (uid : Uid) (verdict : Verdict)
  | ruleGet (chain : Chain) (uid : Uid)
  | chainReplace (chain : Chain) (uids : List Uid)
  | chainEnable (chain : Chain)
  | chainDisable (chain : Chain)
  | chainStatus
  | chainList (chain : Chain)
  | lockdownAdd (uid : Uid)
  | lockdownRemove (uid : Uid)
  | ifaceAdd (iface : Option String) (uids : List Uid)
  | ifaceRemove (uids : List Uid)
  | statsSwap
  | statsActive
  | permSet (mask : UInt8) (uids : List Uid)
  | permGet (uid : Uid)
  | discardSet (addr : IpAddress) (iface : String)
  | discardRemove (addr : IpAddress)
  | discardGet (addr : IpAddress)
  | dataSaverOn
  | dataSaverOff
  | dataSaverStatus
  | blocked (uid : Uid) (metered : Bool)
  | sizes
  deriving DecidableEq, Repr, Inhabited

/-- Whether a command only reads the maps.  It decides how the maps are opened, so a command that is
classified wrongly fails, and does not write. -/
def Command.isReadOnly : Command → Bool
  | version | blocked .. | sizes | ruleGet .. | chainStatus | chainList _ | statsActive
  | permGet _ | discardGet _ | dataSaverStatus => true
  | init | ruleAdd .. | ruleRemove .. | ruleSet .. | chainReplace .. | chainEnable _
  | chainDisable _ | lockdownAdd _ | lockdownRemove _ | ifaceAdd .. | ifaceRemove _ | statsSwap
  | permSet .. | discardSet .. | discardRemove _ | dataSaverOn | dataSaverOff => false

/-- How a command shows its result. -/
inductive OutputFormat where
  /-- Plain lines. -/
  | text
  /-- JSON documents. -/
  | json
  deriving DecidableEq, Repr, Inhabited

def OutputFormat.word : OutputFormat → String
  | text => "text"
  | json => "json"

/-! ## Outlines -/

/-- One part of a command. -/
inductive Argument where
  | word (text : String)
  /-- An argument that may be left out. -/
  | optional (text : Option String)
  | number (n : Nat)
  | uids (uids : List Uid)
  | flag (on : Bool)
  deriving DecidableEq, Repr, Inhabited

namespace Argument

/-- The argument that names a chain. -/
def chain (c : Chain) : Argument := word c.serialized

def uid (u : Uid) : Argument := number u.toNat

def address (a : IpAddress) : Argument := word a.render

end Argument

namespace Command

open Argument

/-- The words that name a command, then its arguments. -/
def outline : Command → List Argument
  | version => [word "version"]
  | init => [word "init"]
  | ruleAdd c u => [word "rule", word "add", chain c, uid u]
  | ruleRemove c u => [word "rule", word "remove", chain c, uid u]
  | ruleSet c u v => [word "rule", word "set", chain c, uid u, word v.word]
  | ruleGet c u => [word "rule", word "get", chain c, uid u]
  | chainReplace c us => [word "chain", word "replace", chain c, uids us]
  | chainEnable c => [word "chain", word "enable", chain c]
  | chainDisable c => [word "chain", word "disable", chain c]
  | chainStatus => [word "chain", word "status"]
  | chainList c => [word "chain", word "list", chain c]
  | lockdownAdd u => [word "lockdown", word "add", uid u]
  | lockdownRemove u => [word "lockdown", word "remove", uid u]
  | ifaceAdd i us => [word "iface", word "add", optional i, uids us]
  | ifaceRemove us => [word "iface", word "remove", uids us]
  | statsSwap => [word "stats", word "swap"]
  | statsActive => [word "stats", word "active"]
  | permSet mask us => [word "perm", word "set", number mask.toNat, uids us]
  | permGet u => [word "perm", word "get", uid u]
  | discardSet a i => [word "discard", word "set", address a, word i]
  | discardRemove a => [word "discard", word "remove", address a]
  | discardGet a => [word "discard", word "get", address a]
  | dataSaverOn => [word "data-saver", word "on"]
  | dataSaverOff => [word "data-saver", word "off"]
  | dataSaverStatus => [word "data-saver", word "status"]
  | blocked u metered => [word "blocked", uid u, flag metered]
  | sizes => [word "sizes"]

end Command

end UidPolicy
