import UidPolicy.Control.Backing
import UidPolicy.Control.Firewall
import UidPolicy.Uid

/-!
# Stored permissions and discard rules

The permissions of applications, by application id: every user of a device shares them.

* `Permissions.set`, `setAll` — store a mask for one id, or for each of a list.
* `Permissions.get` — the permissions of an id; nothing stored, and a failed read, mean the
  default.

The ingress discard rules, by address.

* `IngressDiscard.set`, `remove`, `get` — the rule of an address.
* `IngressDiscard.clear` — removes every rule.
-/

namespace UidPolicy

/-! ## Permissions -/

namespace Permissions

variable {W : Type}

/-- Stores a mask for the application of an id, or removes its entry; the lock is held.  That there
was no entry to remove is reported and is no failure. -/
def setLocked (b : Backing W) (mask : UInt8) (uid : Uid) : Op W Unit := do
  let app := uid.appId
  if Permission.clearsEntry mask then
    let existed ← b.uidPermission.delete app
    Act.emit ⟨.debug, .permissions, "permission entry cleared",
      [("uid", .number uid.toNat), ("app_id", .number app.toNat), ("existed", .flag existed)]⟩
  else
    b.uidPermission.put app mask
    Act.emit ⟨.debug, .permissions, "permission set",
      [("uid", .number uid.toNat), ("app_id", .number app.toNat), ("mask", .number mask.toNat)]⟩

/-- Stores a mask for the application of an id, or removes its entry. -/
def set (b : Backing W) (uid : Uid) (mask : UInt8) : Op W Unit := do
  b.acquire .permission
  setLocked b mask uid

/-- Stores a mask for each of a list of ids.  Ids of one application write the same entry, once for
each of them. -/
def setAll (b : Backing W) (mask : UInt8) (uids : List Uid) : Op W BatchOutcome := do
  b.acquire .permission
  let outcome ← Batch.run (setLocked b mask)
    (fun uid e => ⟨.error, .permissions, "failed to set permission",
      [("uid", .number uid.toNat), ("mask", .number mask.toNat), ("error", .text e.message)]⟩)
    uids .empty
  Act.emit ⟨.info, .permissions, "permissions updated",
    [("mask", .number mask.toNat), ("uids", .number uids.length),
     ("failed", .number outcome.failed.length)]⟩
  pure outcome

/-- The permissions of an id.  This never fails: where the entry cannot be read, the failure is
reported and the default is the answer. -/
def get (b : Backing W) (uid : Uid) : Op W Permission := do
  let app := uid.appId
  -- whoever asks has to go on in either case, so a failure is no reason to answer nothing
  match ← (b.uidPermission.get app).attempt with
  | .ok (some mask) => pure ⟨mask⟩
  | .ok none => pure .default
  | .error e => do
    Act.emit ⟨.error, .permissions, "failed to read permission, using default",
      [("uid", .number uid.toNat), ("app_id", .number app.toNat), ("error", .text e.message)]⟩
    pure .default

end Permissions

/-! ## Ingress discard rules -/

namespace IngressDiscard

variable {W : Type}

/-- Drops traffic to an address unless it comes in on an interface.  The name of the interface is
looked up before the lock is taken, and only its index is stored. -/
def set (b : Backing W) (addr : IpAddress) (iface : String) : Op W Unit := do
  let index ← Firewall.interfaceIndex b iface
  -- an unknown name is refused for that, also where the lock is poisoned
  b.acquire .ingressDiscard
  b.ingressDiscard.put addr.discardKey (.single index)
  Act.emit ⟨.info, .ingress, "ingress discard rule set",
    [("addr", .text addr.render), ("iface", .text iface), ("ifindex", .number index.toNat)]⟩

/-- Removes the rule of an address; it need not have one. -/
def remove (b : Backing W) (addr : IpAddress) : Op W Unit := do
  b.acquire .ingressDiscard
  let existed ← b.ingressDiscard.delete addr.discardKey
  Act.emit ⟨.info, .ingress, "ingress discard rule removed",
    [("addr", .text addr.render), ("existed", .flag existed)]⟩

def get (b : Backing W) (addr : IpAddress) : Op W (Option DiscardRule) :=
  b.ingressDiscard.get addr.discardKey

/-- Removes every rule. -/
def clear (b : Backing W) : Op W Unit := do
  b.acquire .ingressDiscard
  b.ingressDiscard.clear

end IngressDiscard

end UidPolicy
