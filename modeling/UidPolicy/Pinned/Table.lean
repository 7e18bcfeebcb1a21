import UidPolicy.Act
import UidPolicy.Pinned.Handle

/-!
# Opened maps as tables

* `CallFailure.errno` — the number by which a failed call on a map is reported.
* `Handle.hashTable` — an opened hash map: an absent key is no failure.
* `Handle.arrayTable` — an opened array: every index below its length has a value, and nothing
  can be removed.

Every operation first asks the access mode of the handle.
-/

namespace UidPolicy

inductive CallFailure where
  | noKey
  /-- The index is not below the length of the array. -/
  | outOfBounds
  /-- The map has no element to give. -/
  | noElement
  /-- The system call fails, with a number if the system gives one. -/
  | call (errno : Option Errno)
  deriving DecidableEq, Repr, Inhabited

/-- The number by which a failure is reported. -/
def CallFailure.errno : CallFailure → Errno
  | noKey => Errno.noEntry
  | outOfBounds => Errno.tooBig
  | noElement => Errno.inputOutput
  | call errno => errno.getD Errno.inputOutput

namespace Handle

/-- The fault of an operation whose system call fails. -/
def callFault (h : Handle) (operation : String) (failure : CallFailure) : Fault :=
  .resource s!"{operation} {h.name}" failure.errno

def checkRead (h : Handle) (operation : String) : Op Kernel Unit :=
  Act.ofExcept (h.access.checkRead operation h.name)

def checkWrite (h : Handle) (operation : String) : Op Kernel Unit :=
  Act.ofExcept (h.access.checkWrite operation h.name)

/-- A call whose failure is the failure of the operation, with the number that the system gave. -/
def calling {α : Type} (h : Handle) (operation : String) (x : Kernel.Call α) : Op Kernel α :=
  x.mapError fun errno => h.callFault operation (.call (some errno))

/-- A call that finds no entry answers `absent`.  Whatever else it fails with is a failure of the
operation. -/
def orAbsent {α β : Type} (h : Handle) (operation : String) (absent : β) (found : α → β)
    (x : Kernel.Call α) : Op Kernel β := do
  match ← x.attempt with
  | .ok a => pure (found a)
  | .error errno =>
    if errno = Errno.noEntry then pure absent
    else Act.fail (h.callFault operation (.call (some errno)))

/-! ## Hash maps -/

section Hash

variable {K V : Type} [Stored K] [Stored V]

def hashGet (h : Handle) (key : K) : Op Kernel (Option V) := do
  h.checkRead "get"
  h.orAbsent "get" none (fun b => some (Stored.decode b))
    (Kernel.lookup h.map (Stored.encode key))

def hashPut (h : Handle) (key : K) (value : V) : Op Kernel Unit := do
  h.checkWrite "put"
  -- on a full map this may be refused for a new key, and is reported as it is
  h.calling "put" (Kernel.update h.map (Stored.encode key) (Stored.encode value))

def hashDelete (h : Handle) (key : K) : Op Kernel Bool := do
  h.checkWrite "delete"
  h.orAbsent "delete" false (fun _ => true) (Kernel.delete h.map (Stored.encode key))

/-- The keys of a walk.  They are collected before any of them is handed out, so that what is done
with them does not send the walk back. -/
def hashKeys (h : Handle) : Op Kernel (List K) := do
  h.checkRead "keys"
  let keys ← h.calling "iterate" (Kernel.walk h.map)
  Act.emit ⟨.debug, .pinnedHash, "enumerated keys",
    [("map", .text h.name), ("count", .number keys.length)]⟩
  -- every key has the length of the map's keys, so none is lost in reading it
  pure (keys.map Stored.decode)

variable (K V)

/-- An opened hash map as a table, each operation with its own check of the access. -/
def hashTable (h : Handle) : Table Kernel K V := ⟨h.hashGet, h.hashPut, h.hashDelete, h.hashKeys⟩

end Hash

/-! ## Arrays -/

section Array

variable {V : Type} [Stored V]

/-- The value of a slot; beyond the length there is none, and then the kernel is not asked. -/
def arrayGet (h : Handle) (index : UInt32) : Op Kernel (Option V) := do
  h.checkRead "get"
  if index.toNat < h.capacity then
    let value ← h.calling "get" (Kernel.lookup h.map (Stored.encode index))
    pure (some (Stored.decode value))
  else pure none

def arrayPut (h : Handle) (index : UInt32) (value : V) : Op Kernel Unit := do
  h.checkWrite "put"
  if index.toNat < h.capacity then
    h.calling "put" (Kernel.update h.map (Stored.encode index) (Stored.encode value))
  -- an index beyond the length is refused here, with the number that the kernel would give
  else Act.fail (h.callFault "put" .outOfBounds)

/-- A slot cannot be removed.  The program says so itself, whatever the access is, and asks nothing
of the kernel. -/
def arrayDelete (h : Handle) (_ : UInt32) : Op Kernel Bool :=
  Act.fail (.unsupported s!"delete on array map {h.name}")

/-- Every slot, in order.  They are counted from the length that was read when the map was opened,
without a call. -/
def arrayKeys (h : Handle) : Op Kernel (List UInt32) := do
  h.checkRead "keys"
  Act.emit ⟨.debug, .pinnedArray, "enumerated slots",
    [("map", .text h.name), ("count", .number h.capacity)]⟩
  pure ((List.range h.capacity).map UInt32.ofNat)

variable (V)

/-- An opened array as a table.  Its keys are the indexes. -/
def arrayTable (h : Handle) : Table Kernel UInt32 V :=
  ⟨h.arrayGet, h.arrayPut, h.arrayDelete, h.arrayKeys⟩

end Array

end Handle

end UidPolicy
