import UidPolicy.Chain
import UidPolicy.Uid

/-!
# Blocked reasons

Why traffic of a user id would be dropped.

* `BlockedReasons` — a set of reasons as a word; the upper half holds the reasons that count
  on metered networks only.
* `Chain.reason?` — the reason that a chain gives, if it gives one.
* `blockedReasons` — the reasons for one id under the enabled chains, its rule word and the
  data saver switch.  System ids have none.
* `BlockedReasons.isBlocked` — whether a set of reasons blocks on a network.
-/

namespace UidPolicy

/-- A set of reasons, one bit each; bits without a name are kept.  The word is the one that callers
of the program know, so its two halves mean different things. -/
structure BlockedReasons where
  bits : UInt32
  deriving DecidableEq, Repr, Inhabited

namespace BlockedReasons

def empty : BlockedReasons := ⟨0⟩

def batterySaver : BlockedReasons := ⟨0x1⟩

def doze : BlockedReasons := ⟨0x2⟩

def appStandby : BlockedReasons := ⟨0x4⟩

def restrictedMode : BlockedReasons := ⟨0x8⟩

def lowPowerStandby : BlockedReasons := ⟨0x20⟩

def appBackground : BlockedReasons := ⟨0x40⟩

def oemDeny : BlockedReasons := ⟨0x80⟩

def meteredDataSaver : BlockedReasons := ⟨0x10000⟩

def meteredUserRestricted : BlockedReasons := ⟨0x20000⟩

def meteredAdminDisabled : BlockedReasons := ⟨0x40000⟩

/-- The reasons that have a name, lowest bit first. -/
def named : List (String × BlockedReasons) :=
  [("BATTERY_SAVER", batterySaver), ("DOZE", doze), ("APP_STANDBY", appStandby),
   ("RESTRICTED_MODE", restrictedMode), ("LOW_POWER_STANDBY", lowPowerStandby),
   ("APP_BACKGROUND", appBackground), ("OEM_DENY", oemDeny),
   ("METERED_DATA_SAVER", meteredDataSaver),
   ("METERED_USER_RESTRICTED", meteredUserRestricted),
   ("METERED_ADMIN_DISABLED", meteredAdminDisabled)]

/-- The half of the word that counts on metered networks only.  It is a mask and not a list of
reasons, so it covers bits without a name as well. -/
def meteredMask : UInt32 := 0xffff0000

def union (a b : BlockedReasons) : BlockedReasons := ⟨a.bits ||| b.bits⟩

instance : Union BlockedReasons := ⟨union⟩

def contains (a b : BlockedReasons) : Bool := a.bits &&& b.bits == b.bits

def isEmpty (a : BlockedReasons) : Bool := a.bits == 0

def metered (a : BlockedReasons) : BlockedReasons := ⟨a.bits &&& meteredMask⟩

def unmetered (a : BlockedReasons) : BlockedReasons := ⟨a.bits &&& ~~~meteredMask⟩

def names (a : BlockedReasons) : List String :=
  (named.filter fun e => a.contains e.2).map (·.1)

/-- Whether a set of reasons blocks traffic: any reason does on a metered network, and the
reasons of the lower half do on every network. -/
def isBlocked (a : BlockedReasons) (onMetered : Bool) : Bool :=
  !(if onMetered then a else a.unmetered).isEmpty

@[simp] theorem bits_union (a b : BlockedReasons) : (a ∪ b).bits = a.bits ||| b.bits := rfl

end BlockedReasons

/-- The reason that an enabled chain gives for blocking an id; the metered chains give theirs
whether enabled or not, and are not in this table. -/
def Chain.reason? : Chain → Option BlockedReasons
  | dozable => some .doze
  | standby => some .appStandby
  | powersave => some .batterySaver
  | restricted => some .restrictedMode
  | lowPowerStandby => some .lowPowerStandby
  | background => some .appBackground
  | oemDeny1 | oemDeny2 | oemDeny3 => some .oemDeny
  | meteredAllow | meteredDenyUser | meteredDenyAdmin => none

/-- Whether a chain blocks an id with this rule word: membership blocks on a deny-list, and
its absence on an allow-list. -/
def Chain.blocks (c : Chain) (rule : MatchSet) : Bool :=
  c.isAllowList != rule.contains c.bit

/-- The reason that one chain contributes for a rule word, given the enabled chains.  A chain that
is not enabled contributes nothing, whatever the record says. -/
def Chain.contribution (enabled rule : MatchSet) (c : Chain) : BlockedReasons :=
  match c.reason? with
  | some reason => if enabled.contains c.bit && c.blocks rule then reason else .empty
  | none => .empty

/-- Why traffic of an id would be dropped, from the enabled chains, its rule word and the
data saver switch.  System ids are never blocked. -/
def blockedReasons (uid : Uid) (enabled rule : MatchSet) (dataSaver : Bool) :
    BlockedReasons :=
  if Uid.isSystem uid then .empty
  else
    let chains := Chain.all.foldl (fun acc c => acc ∪ c.contribution enabled rule) .empty
    let user :=
      if rule.contains .penaltyBoxUser then BlockedReasons.meteredUserRestricted else .empty
    let admin :=
      if rule.contains .penaltyBoxAdmin then BlockedReasons.meteredAdminDisabled else .empty
    let saver :=
      if dataSaver && !rule.contains .happyBox then BlockedReasons.meteredDataSaver else .empty
    chains ∪ user ∪ admin ∪ saver

end UidPolicy
