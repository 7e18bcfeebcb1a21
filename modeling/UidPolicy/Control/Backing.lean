import UidPolicy.Act
import UidPolicy.Ip
import UidPolicy.Rule
import UidPolicy.Uid

/-!
# What the controllers work on

* `Lock` — the locks that the controllers take, one per map or configuration key.
* `Backing W` — the six maps, the kernel barrier, the interface table and the locks, as
  operations on worlds `W`.  Every controller is written once, over any backing.
* `Backing.acquire` — takes a lock; a poisoned lock is a fault.
* `Batch.run` — applies an operation to each id of a list; a failure is reported and counted,
  and does not stop the batch.
-/

namespace UidPolicy

/-- The locks that the controllers take, one for each map that is written or, in the configuration
map, for each key.  They exclude threads of the program; other processes are kept out when a map is
opened. -/
inductive Lock where
  | uidOwner | permission | ingressDiscard | dataSaver | chainSwitch | statsSelector
  deriving DecidableEq, Repr, Inhabited

def Lock.all : List Lock :=
  [uidOwner, permission, ingressDiscard, dataSaver, chainSwitch, statsSelector]

def Lock.name : Lock → String
  | uidOwner => "uid_owner_lock"
  | permission => "permission_lock"
  | ingressDiscard => "ingress_discard_lock"
  | dataSaver => "data_saver_lock"
  | chainSwitch => "uid_rules_config_lock"
  | statsSelector => "stats_selector_lock"

/-- What the controllers work on.  They are written once over any such record, and so the program
over opened maps and its description over maps in memory are the same code. -/
structure Backing (W : Type) where
  /-- The chain-enable word and the statistics selector, under one key each. -/
  configuration : Table W UInt32 UInt32
  uidOwner : Table W Uid OwnerEntry
  /-- The permissions by application id. -/
  uidPermission : Table W Uid UInt8
  cookieTag : Table W UInt64 TagEntry
  dataSaver : Table W UInt32 UInt8
  ingressDiscard : Table W DiscardKey DiscardRule
  /-- Waits until no reader that started earlier is left in the packet path. -/
  barrier : Op W Unit
  /-- The index of an interface, if there is one of that name. -/
  indexOf : String → Op W (Option UInt32)
  /-- The name of an interface. -/
  nameOf : UInt32 → Op W (Option String)
  /-- The locks whose holder died while holding them.  A lock stays poisoned, so this does not
  depend on the world. -/
  poisoned : Lock → Bool

namespace Backing

variable {W : Type}

/-- Takes a lock.  What a poisoned lock protects may be half-written, so to take one is a fault.
There is nothing to release: an operation holds its lock to its end. -/
def acquire (b : Backing W) (lock : Lock) : Op W Unit :=
  if b.poisoned lock then
    Act.fail (.resource s!"{lock.name} poisoned" Errno.notRecoverable)
  else pure ()

def poison (b : Backing W) (lock : Lock) : Backing W :=
  { b with poisoned := fun l => l = lock || b.poisoned l }

@[simp] theorem acquire_of_poisoned {b : Backing W} {lock : Lock} (h : b.poisoned lock = true) :
    b.acquire lock = Act.fail (.resource s!"{lock.name} poisoned" Errno.notRecoverable) := by
  simp [acquire, h]

@[simp] theorem acquire_of_not_poisoned {b : Backing W} {lock : Lock}
    (h : b.poisoned lock = false) : b.acquire lock = pure () := by
  simp [acquire, h]

end Backing

/-! ## Batches -/

/-- Applies an operation to each id of a list, in order, continuing an outcome.  A failure is
reported and counted, and does not stop the batch. -/
def Batch.run {W : Type} (step : Uid → Op W Unit) (report : Uid → Fault → Log.Event) :
    List Uid → BatchOutcome → Op W BatchOutcome
  | [], o => pure o
  | uid :: rest, o => do
    -- the next id has its turn in the world that this one leaves, whether or not it fails
    match ← (step uid).attempt with
    | .ok () => Batch.run step report rest (o.record uid true)
    | .error e => do
      Act.emit (report uid e)
      Batch.run step report rest (o.record uid false)

end UidPolicy
