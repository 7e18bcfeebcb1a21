import UidPolicy.Chain
import UidPolicy.Control.Backing
import UidPolicy.Rule
import UidPolicy.Text.Quoted

/-!
# Firewall rules

The rule records of user ids.  A record that a removal leaves empty is deleted; an id without
a record has the default verdict of every chain.

* `Firewall.record` — the record of an id.
* `Firewall.addRule`, `removeRule` — set and clear matches of one id.
* `Firewall.replaceChain` — makes a list of ids the exact holders of a chain's bit.
* `Firewall.setUidRule`, `getUidRule` — a verdict, through the polarity of the chain.
* `Firewall.uidsWithRule`, `uidsAllowed`, `uidsDenied` — the holders of a chain's bit.
* `Firewall.setLockdown`, `addInterfaceRules`, `removeInterfaceRules` — the matches that are
  no chain's.
* `Firewall.clear` — removes every record.

Each read-modify-write happens under one lock; a batch takes it once.
-/

namespace UidPolicy

namespace Firewall

variable {W : Type}

/-- The record of an id, if it has one.  No lock is needed to read a single key. -/
def record (b : Backing W) (uid : Uid) : Op W (Option OwnerRecord) := do
  let entry ← b.uidOwner.get uid
  pure (entry.map OwnerRecord.ofEntry)

/-- Sets matches of an id; the lock is held.  Whoever has no record yet is given one. -/
def addLocked (b : Backing W) (added : MatchSet) (iif : UInt32) (uid : Uid) : Op W Unit := do
  let current ← record b uid
  let updated := (current.getD .empty).withMatch added iif
  -- the padding of what was stored is not carried over: the entry is made anew from the record
  b.uidOwner.put uid updated.toEntry
  Act.emit ⟨.debug, .firewall, "uid rule added",
    [("uid", .number uid.toNat), ("matches", .text (Quoted.list added.names)),
     ("iif", .number updated.iif.toNat)]⟩

/-- Clears matches of an id; the lock is held.  A record left without matches is deleted, and an id
without a record is not found, whatever is to be cleared. -/
def removeLocked (b : Backing W) (cleared : MatchSet) (uid : Uid) : Op W Unit := do
  match ← record b uid with
  | none => Act.fail (RuleError.noEntry uid).toFault
  | some current =>
    let updated := current.withoutMatch cleared
    -- an empty entry would say no more than none, and would take up a place
    if updated.isEmpty then
      let _ ← b.uidOwner.delete uid
    else
      b.uidOwner.put uid updated.toEntry
    Act.emit ⟨.debug, .firewall, "uid rule removed",
      [("uid", .number uid.toNat), ("matches", .text (Quoted.list cleared.names))]⟩

/-- Sets matches of an id.  An index other than zero needs the interface match alone, and anything
else is refused before the lock is taken. -/
def addRule (b : Backing W) (uid : Uid) (added : MatchSet) (iif : UInt32) : Op W Unit := do
  Act.ofExcept ((OwnerRecord.validateAdd added iif).mapError RuleError.toFault)
  b.acquire .uidOwner
  addLocked b added iif uid

/-- Clears matches of an id.  An id without a record is not found. -/
def removeRule (b : Backing W) (uid : Uid) (cleared : MatchSet) : Op W Unit := do
  b.acquire .uidOwner
  removeLocked b cleared uid

/-! ## Chains -/

/-- Reports a failed part of a replacement. -/
def replaceFailure (chain : Chain) (message : String) (uid : Uid) (e : Fault) : Log.Event :=
  ⟨.error, .firewall, message,
    [("uid", .number uid.toNat), ("chain", .text chain.name), ("error", .text e.message)]⟩

/-- Makes `uids` the exact holders of a chain's bit.  The ids that hold it and are not listed
lose it first.  A failure for one id is reported and does not stop the rest. -/
def replaceChain (b : Backing W) (chain : Chain) (uids : List Uid) : Op W BatchOutcome := do
  b.acquire .uidOwner
  -- the walk is over before anything is written, so no write can send it back
  let walk ← b.uidOwner.entries
  let stale := staleUids (walk.map fun e => (e.1, (OwnerRecord.ofEntry e.2).rule)) chain.bit uids
  -- On a full map the removals make room for the additions.
  let removed ← Batch.run (removeLocked b chain.bit)
    (replaceFailure chain "replace_chain: failed to remove rule") stale .empty
  let outcome ← Batch.run (addLocked b chain.bit 0)
    (replaceFailure chain "replace_chain: failed to add rule") uids removed
  Act.emit ⟨.info, .firewall, "firewall chain replaced",
    [("chain", .text chain.name), ("uids", .number uids.length),
     ("failed", .number outcome.failed.length)]⟩
  pure outcome

/-- Whether a verdict on a chain is expressed by the bit being set: to let through on an allow-list
and to block on a deny-list. -/
def setsBit (chain : Chain) : Verdict → Bool
  | .allow => chain.isAllowList
  | .deny => !chain.isAllowList

/-- Applies a verdict, through the polarity of the chain.  To give an id the default verdict is to
remove its bit, so it fails for an id without a record. -/
def setUidRule (b : Backing W) (chain : Chain) (uid : Uid) (verdict : Verdict) : Op W Unit :=
  if setsBit chain verdict then addRule b uid chain.bit 0 else removeRule b uid chain.bit

/-- The verdict of a chain on an id.  An id without a record has the default of the chain. -/
def getUidRule (b : Backing W) (chain : Chain) (uid : Uid) : Op W Verdict := do
  let current ← record b uid
  let hasBit := current.any fun r => r.rule.contains chain.bit
  -- an id without a record has no bit, which on either kind of list is the default
  pure (if chain.isAllowList == hasBit then .allow else .deny)

/-- The members of a list, ascending and each once.  This is how a walk, which has neither order nor
bounds on repetitions, becomes a list to be shown. -/
def ascending (uids : List Uid) : List Uid :=
  (SortedMap.ofList (uids.map fun u => (u, ()))).keys

/-- The ids whose record carries a chain's bit, ascending. -/
def uidsWithRule (b : Backing W) (chain : Chain) : Op W (List Uid) := do
  b.acquire .uidOwner
  let walk ← b.uidOwner.entries
  pure (ascending
    ((walk.filter fun e => (OwnerRecord.ofEntry e.2).rule.contains chain.bit).map (·.1)))

/-- The ids that an allow-list chain lets through.  On a deny-list these would be all others, which
cannot be listed. -/
def uidsAllowed (b : Backing W) (chain : Chain) : Op W (List Uid) :=
  if chain.isAllowList then uidsWithRule b chain
  else Act.fail (RuleError.wrongPolarity chain.name "allow-list").toFault

/-- The ids that a deny-list chain blocks.  On an allow-list these would be all others, which cannot
be listed. -/
def uidsDenied (b : Backing W) (chain : Chain) : Op W (List Uid) :=
  if chain.isAllowList then Act.fail (RuleError.wrongPolarity chain.name "deny-list").toFault
  else uidsWithRule b chain

/-! ## Matches that are no chain's -/

/-- Adds or removes the lockdown match of an id. -/
def setLockdown (b : Backing W) (uid : Uid) (add : Bool) : Op W Unit :=
  if add then addRule b uid .lockdownVpn 0 else removeRule b uid .lockdownVpn

/-- The index of an interface that has to exist. -/
def interfaceIndex (b : Backing W) (name : String) : Op W UInt32 := do
  match ← b.indexOf name with
  | some index => pure index
  | none => Act.fail (.notFound s!"interface {name}")

/-- The index that an interface restriction stores: zero, any interface, without a name. -/
def restrictionIndex (b : Backing W) : Option String → Op W UInt32
  | none => pure 0
  | some name => interfaceIndex b name

/-- Restricts ids to receive on one interface, or on any.  An unknown name fails before
anything is written. -/
def addInterfaceRules (b : Backing W) (name : Option String) (uids : List Uid) :
    Op W BatchOutcome := do
  -- The name is looked up before the lock is taken.
  let index ← restrictionIndex b name
  b.acquire .uidOwner
  let outcome ← Batch.run (addLocked b .iif index)
    (fun uid e => ⟨.error, .firewall, "failed to add interface rule",
      [("uid", .number uid.toNat), ("interface", .text (Quoted.optional name)),
       ("error", .text e.message)]⟩) uids .empty
  Act.emit ⟨.info, .firewall, "interface rules added",
    [("interface", .text (Quoted.optional name)), ("ifindex", .number index.toNat),
     ("uids", .number uids.length)]⟩
  pure outcome

/-- Drops the interface restriction of ids.  Ids without a record are reported as failed; those that
have one but no restriction are not. -/
def removeInterfaceRules (b : Backing W) (uids : List Uid) : Op W BatchOutcome := do
  b.acquire .uidOwner
  let outcome ← Batch.run (removeLocked b .iif)
    (fun uid e => ⟨.error, .firewall, "failed to remove interface rule",
      [("uid", .number uid.toNat), ("error", .text e.message)]⟩) uids .empty
  Act.emit ⟨.info, .firewall, "interface rules removed", [("uids", .number uids.length)]⟩
  pure outcome

/-- Removes every record. -/
def clear (b : Backing W) : Op W Unit := do
  b.acquire .uidOwner
  b.uidOwner.clear

end Firewall

end UidPolicy
