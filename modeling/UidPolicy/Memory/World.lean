import UidPolicy.Control.Backing
import UidPolicy.Memory.Store

/-!
# The maps in memory

* `Part` — a part of a world that can be read and replaced.
* `Act.zoom` — an operation on a part of a world, as an operation on the whole.
* `Memory.World` — the six maps and the number of barrier calls.
* `Memory.Host` — the interfaces and the failure of the barrier, which do not change.
* `Memory.backing` — the controllers' view of such a world.
-/

namespace UidPolicy

/-- A part of a world that can be read and replaced.  The three laws are those of a field of a
record, where they hold by definition. -/
structure Part (W S : Type) where
  get : W → S
  set : S → W → W
  get_set : ∀ s w, get (set s w) = s := by intros; rfl
  set_get : ∀ w, set (get w) w = w := by intros; rfl
  /-- The last replacement counts. -/
  set_set : ∀ s t w, set s (set t w) = set s w := by intros; rfl

/-- An operation on a part of a world, as an operation on the whole.  The rest of the world is
neither read nor changed. -/
def Act.zoom {ε W S α : Type} (p : Part W S) (x : Act ε S α) : Act ε W α := fun w =>
  let o := x (p.get w)
  ⟨o.result, p.set o.world w, o.events⟩

/-- The operations on a map that is a part of a world. -/
def Table.zoom {W S K V : Type} (p : Part W S) (t : Table S K V) : Table W K V where
  get k := (t.get k).zoom p
  put k v := (t.put k v).zoom p
  delete k := (t.delete k).zoom p
  keys := t.keys.zoom p

namespace Memory

/-- The six maps and the number of barrier calls.  Two worlds are equal only if the failures that
are chosen for their maps are. -/
structure World where
  configuration : Store UInt32 UInt32
  uidOwner : Store Uid OwnerEntry
  uidPermission : Store Uid UInt8
  cookieTag : Store UInt64 TagEntry
  dataSaver : Store UInt32 UInt8
  ingressDiscard : Store DiscardKey DiscardRule
  barrierCalls : Nat

def World.empty : World := ⟨.empty, .empty, .empty, .empty, .empty, .empty, 0⟩

namespace World

/-! ## The maps as parts -/

def configurationPart : Part World (Store UInt32 UInt32) :=
  { get := World.configuration, set := fun s w => { w with configuration := s } }

def uidOwnerPart : Part World (Store Uid OwnerEntry) :=
  { get := World.uidOwner, set := fun s w => { w with uidOwner := s } }

def uidPermissionPart : Part World (Store Uid UInt8) :=
  { get := World.uidPermission, set := fun s w => { w with uidPermission := s } }

def cookieTagPart : Part World (Store UInt64 TagEntry) :=
  { get := World.cookieTag, set := fun s w => { w with cookieTag := s } }

def dataSaverPart : Part World (Store UInt32 UInt8) :=
  { get := World.dataSaver, set := fun s w => { w with dataSaver := s } }

def ingressDiscardPart : Part World (Store DiscardKey DiscardRule) :=
  { get := World.ingressDiscard, set := fun s w => { w with ingressDiscard := s } }

end World

/-- What the maps do not hold: the interfaces, and the number that the barrier fails with. -/
structure Host where
  interfaces : List (String × UInt32)
  barrierErrno : Option Errno
  deriving Repr, Inhabited

def Host.indexOf (h : Host) (name : String) : Option UInt32 :=
  (h.interfaces.reverse.find? fun e => e.1 == name).map (·.2)

/-- The name of an interface.  Where several names were listed for an index, the first one that
still has it counts. -/
def Host.nameOf (h : Host) (index : UInt32) : Option String :=
  (h.interfaces.find? fun e => e.2 == index && h.indexOf e.1 == some index).map (·.1)

/-- The barrier counts its calls, and then fails if the host says so. -/
def barrier (h : Host) : Op World Unit := fun w =>
  let w := { w with barrierCalls := w.barrierCalls + 1 }
  match h.barrierErrno with
  | some errno => ⟨.error (.resource "synchronize_kernel_rcu" errno), w, []⟩
  | none => ⟨.ok (), w, []⟩

/-- The controllers' view of the maps in memory. -/
def backing (h : Host) : Backing World where
  configuration := Store.table.zoom World.configurationPart
  uidOwner := Store.table.zoom World.uidOwnerPart
  uidPermission := Store.table.zoom World.uidPermissionPart
  cookieTag := Store.table.zoom World.cookieTagPart
  dataSaver := Store.table.zoom World.dataSaverPart
  ingressDiscard := Store.table.zoom World.ingressDiscardPart
  barrier := barrier h
  indexOf name := pure (h.indexOf name)
  nameOf index := pure (h.nameOf index)
  poisoned _ := false

end Memory

end UidPolicy
