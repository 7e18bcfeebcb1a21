import UidPolicy.Act
import UidPolicy.SortedMap

/-!
# Stores in memory

A map in memory whose failures can be chosen: the abstract map that the controllers are
described against.

* `Store K V` — the content and the chosen failures.
* `Store.visible?` — the value that a read would see.
* `Store.table` — the four operations.

A *vanished* key is still walked over and still counted, but reads find nothing, as if another
process had removed it in between; a successful write to the key ends that.  The walk over the
keys is any function of the stored keys.
-/

namespace UidPolicy

/-- A map in memory with chosen failures.  The failures are part of the map, so that an operation
meets them as it meets the content, and no operation changes them but by ending a disappearance. -/
structure Store (K V : Type) [Ranked K] where
  content : SortedMap K V
  /-- Keys that reads no longer find. -/
  vanished : K → Bool
  /-- Keys whose writes fail. -/
  failing : K → Bool
  /-- The number that every write fails with. -/
  writeErrno : Option Errno
  /-- The number that every read fails with. -/
  readErrno : Option Errno
  /-- How a walk lists the stored keys: any function of them, so that a walk may repeat keys and may
  leave some out. -/
  walk : List K → List K

namespace Store

variable {K V : Type} [Ranked K] [DecidableEq K]

/-- The store without entries and without failures. -/
def empty : Store K V where
  content := ∅
  vanished _ := false
  failing _ := false
  writeErrno := none
  readErrno := none
  walk := id

/-- The value that a read sees, when reads do not fail. -/
def visible? (s : Store K V) (k : K) : Option V :=
  if s.vanished k then none else s.content.get? k

/-- Why a write to a key fails, if it does.  The number of all writes comes before that of
the key. -/
def writeFault? (s : Store K V) (k : K) : Option Fault :=
  -- the number of all writes is looked at first, so it hides the one of a single key
  match s.writeErrno with
  | some errno => some (.resource "in-memory map write" errno)
  | none =>
    if s.failing k then some (.resource "in-memory map write" Errno.inputOutput) else none

/-- The store after a write to a key: it is no longer vanished. -/
def touched (s : Store K V) (k : K) (content : SortedMap K V) : Store K V :=
  { s with content := content, vanished := fun k' => if k' = k then false else s.vanished k' }

/-- Reads a key.  A failure of all reads comes before everything else. -/
def get (k : K) : Op (Store K V) (Option V) := fun s =>
  match s.readErrno with
  | some errno => ⟨.error (.resource "in-memory map read" errno), s, []⟩
  | none => ⟨.ok (s.visible? k), s, []⟩

def put (k : K) (v : V) : Op (Store K V) Unit := fun s =>
  match s.writeFault? k with
  | some e => ⟨.error e, s, []⟩
  | none => ⟨.ok (), s.touched k (s.content.insert k v), []⟩

/-- Removes a key; answers whether it was stored, vanished or not.  The key is not vanished any more
afterwards, as there is nothing left to vanish. -/
def delete (k : K) : Op (Store K V) Bool := fun s =>
  match s.writeFault? k with
  | some e => ⟨.error e, s, []⟩
  -- a vanished key is stored still, and is answered as one that was there
  | none => ⟨.ok (s.content.contains k), s.touched k (s.content.erase k), []⟩

def keys : Op (Store K V) (List K) := Act.read fun s => s.walk s.content.keys

/-- The four operations, as a table on its own world. -/
def table : Table (Store K V) K V := ⟨get, put, delete, keys⟩

/-! ## Choosing failures -/

/-- Reads no longer find a key. -/
def vanish (s : Store K V) (k : K) : Store K V :=
  { s with vanished := fun k' => k' = k || s.vanished k' }

/-- Writes to a key fail. -/
def failWritesFor (s : Store K V) (k : K) : Store K V :=
  { s with failing := fun k' => k' = k || s.failing k' }

/-- A walk lists every key twice, one whole walk after the other. -/
def walkTwice (s : Store K V) : Store K V :=
  { s with walk := fun ks => ks ++ ks }

end Store

end UidPolicy
