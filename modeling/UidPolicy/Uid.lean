/-!
# User ids

Each user of a device has a range of user ids, and the same application has the same place in
every range.  So what is kept about an application, for all of its users alike, is kept under its
place; what is kept about one of its users, under the id.

* `Uid` — a user id.
* `Uid.appId` — the place of a user id in its range.
* `Uid.isSystem` — ids of system services are never restricted.
* `BatchOutcome` — how many of a list of ids an operation was applied to, and which failed.
* `Permission` — a set of permissions as a byte; bits without a name are kept.
* `Permission.default` — what an application has when nothing is stored for it.
* `Permission.clearsEntry` — the masks for which an entry is removed instead of stored.
* `TagEntry` — the owner of a tagged socket.  Sockets are known by their cookies.
-/

namespace UidPolicy

abbrev Uid := UInt32

namespace Uid

/-- The number of user ids of one user. -/
def perUserRange : Uid := 100000

/-- The first place in a range that belongs to an application. -/
def firstApplication : Uid := 10000

/-- The place of a user id in the range of its user.  Applications have the same place in every
range, which is why it stands for the application. -/
def appId (uid : Uid) : Uid := uid % perUserRange

/-- Whether a user id belongs to a system service.  It goes by the place in the range, so every user
of the device has system ids. -/
def isSystem (uid : Uid) : Bool := appId uid < firstApplication

end Uid

/-- What became of a list of user ids.  An id that is listed twice has two turns, and counts or
fails at each of them. -/
structure BatchOutcome where
  /-- The number of ids that the operation was applied to. -/
  applied : Nat
  /-- The ids that it failed for, in order. -/
  failed : List Uid
  deriving DecidableEq, Repr, Inhabited

namespace BatchOutcome

def empty : BatchOutcome := ⟨0, []⟩

/-- The outcome with one more id. -/
def record (o : BatchOutcome) (uid : Uid) (ok : Bool) : BatchOutcome :=
  if ok then { o with applied := o.applied + 1 } else { o with failed := o.failed ++ [uid] }

def isComplete (o : BatchOutcome) : Bool := o.failed.isEmpty

@[simp] theorem record_true (o : BatchOutcome) (uid : Uid) :
    o.record uid true = { o with applied := o.applied + 1 } := rfl

@[simp] theorem record_false (o : BatchOutcome) (uid : Uid) :
    o.record uid false = { o with failed := o.failed ++ [uid] } := rfl

end BatchOutcome

/-! ## Permissions of applications -/

/-- A set of permissions, one bit each; bits without a name are kept. -/
structure Permission where
  bits : UInt8
  deriving DecidableEq, Repr, Inhabited

namespace Permission

def noneMask : UInt8 := 0

def internet : Permission := ⟨4⟩

def updateDeviceStats : Permission := ⟨8⟩

/-- The mask that stands for an uninstalled application. -/
def uninstalledMask : UInt8 := 0xff

/-- What an application has when nothing is stored for it.  So an entry that says no more than this
need not be stored. -/
def default : Permission := internet

/-- The permissions that have a name, lowest bit first. -/
def named : List (String × Permission) :=
  [("INTERNET", internet), ("UPDATE_DEVICE_STATS", updateDeviceStats)]

def contains (a b : Permission) : Bool := a.bits &&& b.bits == b.bits

def names (a : Permission) : List String :=
  (named.filter fun e => a.contains e.2).map (·.1)

/-- Whether a mask removes the entry instead of being stored: the mask of an uninstalled
application does, and so does one without a permission beyond the default. -/
def clearsEntry (mask : UInt8) : Bool :=
  mask == uninstalledMask || mask &&& ~~~internet.bits == 0

end Permission

/-! ## Owners of tagged sockets -/

/-- The owner of a tagged socket. -/
structure TagEntry where
  uid : Uid
  tag : UInt32
  deriving DecidableEq, Repr, Inhabited

end UidPolicy
