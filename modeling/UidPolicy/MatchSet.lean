/-!
# Match words

The rule word of a user id is a set of *matches*, one bit each.  A word may hold bits that
have no name; they are kept.

* `MatchSet` — a set of matches as a word.
* `MatchSet.contains`, `∪`, `\` — the set operations.
* `MatchSet.names` — the names of the known matches of a set, lowest bit first.
-/

namespace UidPolicy

/-- A set of matches, one bit each.  The word is shared with the kernel program, so bits without a
name are kept as they are. -/
structure MatchSet where
  bits : UInt64
  deriving DecidableEq, Repr, Inhabited

namespace MatchSet

def empty : MatchSet := ⟨0⟩

/-- Traffic on metered networks is allowed although data saver is on. -/
def happyBox : MatchSet := ⟨0x1⟩

/-- The user has denied traffic on metered networks. -/
def penaltyBoxUser : MatchSet := ⟨0x2⟩

def dozable : MatchSet := ⟨0x4⟩

def standby : MatchSet := ⟨0x8⟩

def powersave : MatchSet := ⟨0x10⟩

def restricted : MatchSet := ⟨0x20⟩

def lowPowerStandby : MatchSet := ⟨0x40⟩

/-- Traffic is received on one interface only.  The interface itself is kept beside the word, in the
record. -/
def iif : MatchSet := ⟨0x80⟩

/-- Traffic outside the VPN is dropped. -/
def lockdownVpn : MatchSet := ⟨0x100⟩

def oemDeny1 : MatchSet := ⟨0x200⟩

def oemDeny2 : MatchSet := ⟨0x400⟩

def oemDeny3 : MatchSet := ⟨0x800⟩

def background : MatchSet := ⟨0x1000⟩

/-- The administrator has denied traffic on metered networks. -/
def penaltyBoxAdmin : MatchSet := ⟨0x2000⟩

/-- The matches that have a name, lowest bit first. -/
def named : List (String × MatchSet) :=
  [("HAPPY_BOX", happyBox), ("PENALTY_BOX_USER", penaltyBoxUser), ("DOZABLE", dozable),
   ("STANDBY", standby), ("POWERSAVE", powersave), ("RESTRICTED", restricted),
   ("LOW_POWER_STANDBY", lowPowerStandby), ("IIF", iif), ("LOCKDOWN_VPN", lockdownVpn),
   ("OEM_DENY_1", oemDeny1), ("OEM_DENY_2", oemDeny2), ("OEM_DENY_3", oemDeny3),
   ("BACKGROUND", background), ("PENALTY_BOX_ADMIN", penaltyBoxAdmin)]

def union (a b : MatchSet) : MatchSet := ⟨a.bits ||| b.bits⟩

def diff (a b : MatchSet) : MatchSet := ⟨a.bits &&& ~~~b.bits⟩

instance : Union MatchSet := ⟨union⟩

instance : SDiff MatchSet := ⟨diff⟩

/-- Whether every match of the second set is in the first.  For a single match this is whether the
set has it. -/
def contains (a b : MatchSet) : Bool := a.bits &&& b.bits == b.bits

/-- Whether the word is zero: no bit at all, known or not.  An unknown bit keeps a record from being
deleted. -/
def isEmpty (a : MatchSet) : Bool := a.bits == 0

def all : MatchSet := named.foldl (fun a e => a ∪ e.2) empty

def names (a : MatchSet) : List String :=
  (named.filter fun e => a.contains e.2).map (·.1)

@[simp] theorem bits_union (a b : MatchSet) : (a ∪ b).bits = a.bits ||| b.bits := rfl

@[simp] theorem bits_diff (a b : MatchSet) : (a \ b).bits = a.bits &&& ~~~b.bits := rfl

@[simp] theorem bits_empty : empty.bits = 0 := rfl

end MatchSet

end UidPolicy
