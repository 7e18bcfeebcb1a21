import UidPolicy.Fault
import UidPolicy.MatchSet
import UidPolicy.Text.Digits

/-!
# Firewall chains

A chain is a named list of user ids.  An *allow-list* chain blocks the ids that are not on
it, a *deny-list* chain blocks those that are.  Membership is one bit of the rule word of an
id.

* `Chain` — the twelve chains, in the order of their numbers.
* `Chain.id`, `Chain.name`, `Chain.serialized` — the number, the name in text, the name in
  structured output.
* `Chain.bit` — the match that membership stands for.
* `Chain.isAllowList` — the polarity.
* `Chain.parse` — a chain by number or by name.
-/

namespace UidPolicy

inductive Chain where
  | dozable | standby | powersave | restricted | lowPowerStandby | background
  | oemDeny1 | oemDeny2 | oemDeny3
  | meteredAllow | meteredDenyUser | meteredDenyAdmin
  deriving DecidableEq, Repr, Inhabited

namespace Chain

/-- Every chain, in the order of their numbers. -/
def all : List Chain :=
  [dozable, standby, powersave, restricted, lowPowerStandby, background,
   oemDeny1, oemDeny2, oemDeny3, meteredAllow, meteredDenyUser, meteredDenyAdmin]

def id : Chain → Int
  | dozable => 1
  | standby => 2
  | powersave => 3
  | restricted => 4
  | lowPowerStandby => 5
  | background => 6
  | oemDeny1 => 7
  | oemDeny2 => 8
  | oemDeny3 => 9
  | meteredAllow => 10
  | meteredDenyUser => 11
  | meteredDenyAdmin => 12

/-- The match that membership of a chain stands for.  The chains have no storage of their own: who
is on a chain is read off the rule words. -/
def bit : Chain → MatchSet
  | dozable => .dozable
  | standby => .standby
  | powersave => .powersave
  | restricted => .restricted
  | lowPowerStandby => .lowPowerStandby
  | background => .background
  | oemDeny1 => .oemDeny1
  | oemDeny2 => .oemDeny2
  | oemDeny3 => .oemDeny3
  | meteredAllow => .happyBox
  | meteredDenyUser => .penaltyBoxUser
  | meteredDenyAdmin => .penaltyBoxAdmin

/-- Whether a chain blocks the ids that are *not* on it.  The polarity is fixed, and so it decides
what membership and the lack of it mean. -/
def isAllowList : Chain → Bool
  | dozable | powersave | restricted | lowPowerStandby | background | meteredAllow => true
  | standby | oemDeny1 | oemDeny2 | oemDeny3 | meteredDenyUser | meteredDenyAdmin => false

/-- The name of a chain in text, which `parse` reads. -/
def name : Chain → String
  | dozable => "dozable"
  | standby => "standby"
  | powersave => "powersave"
  | restricted => "restricted"
  | lowPowerStandby => "low_power_standby"
  | background => "background"
  | oemDeny1 => "oem_deny_1"
  | oemDeny2 => "oem_deny_2"
  | oemDeny3 => "oem_deny_3"
  | meteredAllow => "metered_allow"
  | meteredDenyUser => "metered_deny_user"
  | meteredDenyAdmin => "metered_deny_admin"

/-- The name of a chain in structured output, where the digits of the OEM chains stand without an
underscore. `parse` does not read this form of them. -/
def serialized : Chain → String
  | oemDeny1 => "oem_deny1"
  | oemDeny2 => "oem_deny2"
  | oemDeny3 => "oem_deny3"
  | c => c.name

/-- The chain of a number.  Numbers are signed, since that is how they are passed in; none below one
is that of a chain. -/
def ofId (id : Int) : Except RuleError Chain :=
  match all.find? fun c => c.id = id with
  | some c => .ok c
  | none => .error (.unknownChain id)

/-- A written chain name in the form of `Chain.name`: a hyphen counts as an underscore and
the case of ASCII letters does not count. -/
def normalizeName (text : List Char) : List Char :=
  text.map fun c => if c = '-' then '_' else c.toLower

/-- A chain by its number, or else by its name.  A text that is a number in the range of
32-bit integers is never a name. -/
def parse (text : String) : Except RuleError Chain :=
  match Decimal.within? (-0x80000000) 0x7fffffff text.toList with
  | some id => ofId id
  | none =>
    match all.find? fun c => c.name.toList = normalizeName text.toList with
    | some c => .ok c
    | none => .error (.unknownChainName text)

theorem mem_all (c : Chain) : c ∈ all := by cases c <;> decide

end Chain

end UidPolicy
