import UidPolicy.Fault

/-!
# How a map is opened

* `Access` — which operations a handle permits; `Access.checkRead` and `checkWrite` are the
  checks that come before every operation.
* `Sharing` — how a handle coordinates with the writers of other processes.
* `LockKind` — the lock on a map's byte that a way of sharing takes.
-/

namespace UidPolicy

/-- Which operations a handle permits.  It is checked by the program before every call, so that a
handle permits no more than it was opened for. -/
inductive Access where
  | readOnly | writeOnly | readWrite
  deriving DecidableEq, Repr, Inhabited

namespace Access

def all : List Access := [readOnly, writeOnly, readWrite]

def name : Access → String
  | readOnly => "ReadOnly"
  | writeOnly => "WriteOnly"
  | readWrite => "ReadWrite"

def canRead : Access → Bool
  | readOnly | readWrite => true
  | writeOnly => false

def canWrite : Access → Bool
  | writeOnly | readWrite => true
  | readOnly => false

/-- Refuses a read that is not permitted.  The message names the operation and the map, not who
asked. -/
def checkRead (access : Access) (operation map : String) : Except Fault Unit :=
  if access.canRead then .ok () else .error (.unsupported s!"{operation} on write-only map {map}")

/-- Refuses a write that is not permitted. -/
def checkWrite (access : Access) (operation map : String) : Except Fault Unit :=
  if access.canWrite then .ok () else .error (.unsupported s!"{operation} on read-only map {map}")

end Access

/-- How a handle coordinates with the writers of other processes.  It is up to them to do the same:
a lock keeps nobody out who does not ask for one. -/
inductive Sharing where
  /-- The only writer; opening fails at once while another handle holds the lock. -/
  | single
  /-- The only writer; opening waits for the lock. -/
  | singleWait
  /-- Keeps single writers out. -/
  | shared
  /-- Takes no lock. -/
  | lockless
  deriving DecidableEq, Repr, Inhabited

/-- A lock on the byte of a map: any number of owners may read, or one may write. -/
inductive LockKind where
  | read | write
  deriving DecidableEq, Repr, Inhabited

/-- Whether two locks of different owners exclude each other. -/
def LockKind.conflicts : LockKind → LockKind → Bool
  | read, read => false
  | _, _ => true

namespace Sharing

def all : List Sharing := [single, singleWait, shared, lockless]

def name : Sharing → String
  | single => "Single"
  | singleWait => "SingleWait"
  | shared => "Shared"
  | lockless => "Lockless"

/-- The lock that a way of sharing takes.  Both ways of being the only writer take the same one;
they differ in what is done when it is held. -/
def lock? : Sharing → Option LockKind
  | single | singleWait => some .write
  | shared => some .read
  | lockless => none

end Sharing

end UidPolicy
