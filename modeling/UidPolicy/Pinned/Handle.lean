import UidPolicy.Kernel.Call
import UidPolicy.Path

/-!
# Opening pinned maps

A map is opened by the path of its pin.  Opening takes the lock that the way of sharing asks
for, and then checks that the map is what it is to be used as.

* `OpenError` — why a map cannot be opened; `OpenError.chain` is its text and its causes.
* `Handle` — an opened map.
* `Pinned.openMap` — opens a map of whatever kind and sizes.
* `Pinned.openHash`, `Pinned.openArray` — open a map that has to be of one kind and to hold
  certain types.
* `Kernel.close` — gives up the lock of a handle.

An opening that fails leaves no lock behind: what it took is given up by `Act.cleaningUp`.
-/

namespace UidPolicy

/-- Changes the world if an operation fails, and leaves its answer alone either way.  This is how an
owner is dropped on the way out. -/
def Act.cleaningUp {ε W α : Type} (f : W → W) (x : Act ε W α) : Act ε W α := fun w =>
  let o := x w
  match o.result with
  | .ok _ => o
  | .error _ => { o with world := f o.world }

/-- Why a map cannot be opened.  Two of these are about locks, and all others about the path or
about what was found there. -/
inductive OpenError where
  /-- The path holds a NUL character, which no pin can. -/
  | pathWithNul (path : String)
  | noPin (path : String)
  /-- The map does not tell what it is, so it cannot be opened. -/
  | noInfo (path : String)
  /-- The open map does not tell its number. -/
  | noNumber (map : String) (errno : Errno)
  | held (map : String) (id : UInt32) (sharing : Sharing)
  /-- Another owner's lock has to be waited for. -/
  | waits (map : String)
  /-- The number of the map's kind stands for nothing. -/
  | unknownKind (map : String) (kind : MapKind)
  /-- The map is not of the kind that is asked for. -/
  | wrongKind (map shape : String) (kind : MapKind)
  | wrongKeySize (map shape : String) (size actual : Nat)
  | wrongValueSize (map shape : String) (size actual : Nat)
  deriving DecidableEq, Repr, Inhabited

/-- The text of the error and of what caused it, outermost first. -/
def OpenError.chain : OpenError → List String
  | pathWithNul path =>
    [s!"failed to open pinned map {path}: map `None` requested pinning. pinning failed"]
  | noPin path => [s!"failed to open pinned map {path}: `BPF_OBJ_GET` failed"]
  | noInfo path => [s!"failed to open pinned map {path}: `bpf_obj_get_info_by_fd` failed"]
  | noNumber map errno =>
    [s!"failed to read info of map {map}", "`bpf_obj_get_info_by_fd` failed", errno.message]
  | held map id sharing =>
    [s!"failed to lock map {map}",
     s!"map {id} is held by another writer ({sharing.name}): EAGAIN: Try again"]
  | waits map => [s!"waiting for the lock of map {map}"]
  | unknownKind map kind => [s!"invalid map type for {map}: invalid map type {kind}"]
  | wrongKind map shape kind =>
    [s!"map {map} is not {shape} of the expected shape: invalid map type {kind}"]
  | wrongKeySize map shape size actual =>
    [s!"map {map} is not {shape} of the expected shape: " ++
      s!"invalid key size {size}, expected {actual}"]
  | wrongValueSize map shape size actual =>
    [s!"map {map} is not {shape} of the expected shape: " ++
      s!"invalid value size {size}, expected {actual}"]

/-- An opened map.  It goes on referring to its map when the pin is removed, and it keeps its lock
until it is closed. -/
structure Handle where
  map : MapRef
  /-- The name in messages: the last component of the path. -/
  name : String
  access : Access
  /-- Who holds the lock of this handle, if it has one. -/
  owner : Owner
  /-- The capacity of the map. -/
  capacity : Nat
  deriving DecidableEq, Repr, Inhabited

namespace Kernel

/-- Closes a handle: its lock is given up.  Every handle is an owner of its own, so no other lock
goes with it. -/
def close (k : Kernel) (h : Handle) : Kernel := k.release h.owner

end Kernel

namespace Pinned

/-- An opening. -/
abbrev Opening (α : Type) : Type := Act OpenError Kernel α

/-- The name of a pin in messages; a path without a last component stands for itself. -/
def nameOf (path : String) : String := (Path.fileName? path).getD path

/-- The map at a path.  It is asked twice what it is: when it is opened, and for its number. -/
def locate (path : String) : Opening MapRef := do
  if path.toList.contains '\x00' then Act.fail (.pathWithNul path)
  else
    match ← Act.read fun k => k.pins path with
    | none => Act.fail (.noPin path)
    | some map => do
      (Kernel.enter map .openPin none).mapError fun _ => .noPin path
      (Kernel.enter map .info none).mapError fun _ => .noInfo path
      (Kernel.enter map .info none).mapError fun errno => .noNumber (nameOf path) errno
      pure map

/-- What is locked of the map with a number: the one byte whose offset is the number.  The opened
maps of a machine share one file, so that different maps need different bytes. -/
def lockedRange (id : UInt32) : ByteRange := ⟨id.toNat, 1⟩

/-- Takes the lock on the map with a number for a new owner; a way of sharing without a lock takes
none. -/
def lock (id : UInt32) (name : String) (sharing : Sharing) : Opening Owner := fun k =>
  match sharing.lock? with
  | none => ⟨.ok (.handle k.nextOwner), { k with nextOwner := k.nextOwner + 1 }, []⟩
  | some kind =>
    match k.acquire? .handle (lockedRange id) kind with
    | some k' => ⟨.ok (.handle k.nextOwner), k', []⟩
    | none =>
      -- to wait is no answer: whoever waits asks again later
      if sharing = .singleWait then ⟨.error (.waits name), k, []⟩
      else ⟨.error (.held name id sharing), k, []⟩

def checkKnown (name : String) (shape : Shape) : Except OpenError Unit :=
  if MapKind.isKnown shape.kind then .ok () else .error (.unknownKind name shape.kind)

/-- Opens a map of whatever kind and sizes.  The lock is taken as soon as the number of the map is
known, before it is looked at what the map is. -/
def openMap (path : String) (access : Access) (sharing : Sharing) : Opening Handle := do
  let map ← locate path
  let name := nameOf path
  let found ← Act.read fun k => k.maps map
  let owner ← lock found.id name sharing
  -- From here on a failure has to give up the lock.
  (Act.ofExcept (checkKnown name found.shape)).cleaningUp (·.release owner)
  Act.emit ⟨.info, .pinnedHash, "pinned map opened",
    [("map", .text name), ("map_id", .number found.id.toNat), ("access", .text access.name),
     ("writer", .text sharing.name)]⟩
  pure ⟨map, name, access, owner, found.shape.capacity⟩

/-- What a map has to be.  The sizes are those of the stored forms of its types, so that bytes are
never read as something that they are not. -/
structure Expected where
  words : String
  kinds : List MapKind
  keySize : Nat
  valueSize : Nat
  deriving DecidableEq, Repr, Inhabited

/-- Refuses a map that is not what it has to be.  Only the first of the differences is told, in this
order. -/
def Expected.check (e : Expected) (name : String) (shape : Shape) : Except OpenError Unit :=
  if !e.kinds.contains shape.kind then .error (.wrongKind name e.words shape.kind)
  else if e.keySize ≠ shape.keySize then
    .error (.wrongKeySize name e.words e.keySize shape.keySize)
  else if e.valueSize ≠ shape.valueSize then
    .error (.wrongValueSize name e.words e.valueSize shape.valueSize)
  else .ok ()

/-- Opens a map that has to be what is expected.  A map that is something else is closed again. -/
def openAs (e : Expected) (path : String) (access : Access) (sharing : Sharing) :
    Opening Handle := do
  let h ← openMap path access sharing
  let shape ← Act.read fun k => (k.maps h.map).shape
  -- the map may be anybody's, so its types are checked before a byte of it is read
  (Act.ofExcept (e.check h.name shape)).cleaningUp (·.close h)
  pure h

def expectedHash (K V : Type) [Stored K] [Stored V] : Expected :=
  ⟨"a hash map", [.hash, .lruHash], Stored.size K, Stored.size V⟩

def expectedArray (V : Type) [Stored V] : Expected :=
  ⟨"an array", [.array], Stored.size UInt32, Stored.size V⟩

def openHash (K V : Type) [Stored K] [Stored V] (path : String) (access : Access)
    (sharing : Sharing) : Opening Handle :=
  openAs (expectedHash K V) path access sharing

def openArray (V : Type) [Stored V] (path : String) (access : Access) (sharing : Sharing) :
    Opening Handle :=
  openAs (expectedArray V) path access sharing

end Pinned

end UidPolicy
