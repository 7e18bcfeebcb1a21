import UidPolicy.Kernel.Map
import UidPolicy.Path
import UidPolicy.Pinned.Mode

/-!
# The machine

What the program finds on the machine that it runs on: the maps of the kernel with their pins and
locks, the network interfaces, and what other processes do to them.

* `Interference` — what happens at a system call besides the call itself.
* `ByteRange` — a part of a file; `overlaps_iff` says when two of them share a byte.
* `Owner`, `HeldLock` — who holds a lock on which bytes.  Every opened map and every holder of
  another process is an owner of its own.
* `Kernel` — the machine.
* `Kernel.acquire?`, `Kernel.release` — locks; a lock is granted when no lock of another owner
  on overlapping bytes excludes it.
-/

namespace UidPolicy

inductive MapCall where
  | openPin | info | lookup | update | delete | next
  deriving DecidableEq, Repr, Inhabited

/-- What happens at a system call besides the call itself.  Besides that a call is refused, it is
only the removal of a key, because that is what sends a walk back. -/
inductive Effect where
  | nothing
  | refuse (errno : Errno)
  | remove (key : Bytes)
  deriving DecidableEq, Inhabited

/-- One of the maps of a machine.  Two maps are told apart by it, whatever they hold and whatever
number the kernel has given to them. -/
abbrev MapRef := Nat

/-- Something that happens at certain system calls.  It is part of the machine, so that what is
proved of every machine is proved whatever happens. -/
structure Interference where
  map : MapRef
  call : MapCall
  /-- The key of the calls, or any key. -/
  key : Option Bytes
  effect : Effect
  deriving DecidableEq, Inhabited

namespace Interference

/-- Whether this is about a system call. -/
def concerns (i : Interference) (map : MapRef) (call : MapCall) (key : Option Bytes) : Bool :=
  decide (i.map = map) && decide (i.call = call) && (i.key.isNone || decide (i.key = key))

/-- What happens at a system call, and what is left for later calls: the first one that is
about the call decides.  A refusal goes on; a removal happens once and is gone then, so that
the next one about such calls decides. -/
def strike (map : MapRef) (call : MapCall) (key : Option Bytes) :
    List Interference → Effect × List Interference
  | [] => (.nothing, [])
  | i :: rest =>
    if i.concerns map call key then
      match i.effect with
      | .remove gone => (.remove gone, rest)
      | effect => (effect, i :: rest)
    else
      let later := strike map call key rest
      (later.1, i :: later.2)

end Interference

/-- Who holds a lock.  Locks belong to what was opened and not to the process, so two handles of one
process exclude each other like those of two. -/
inductive Owner where
  /-- A map that this library opened. -/
  | handle (number : Nat)
  | process (number : Nat)
  deriving DecidableEq, Repr, Inhabited

/-- Some bytes of a file, from an offset on.  A range of length zero reaches to the end of the
file, however long it gets. -/
structure ByteRange where
  start : Nat
  length : Nat
  deriving DecidableEq, Repr, Inhabited

namespace ByteRange

/-- Whether a byte lies in the range. -/
def contains (r : ByteRange) (byte : Nat) : Bool :=
  decide (r.start ≤ byte) && (decide (r.length = 0) || decide (byte < r.start + r.length))

/-- Whether two ranges overlap: then one of them starts within the other. -/
def overlaps (r s : ByteRange) : Bool := r.contains s.start || s.contains r.start

theorem overlaps_iff {r s : ByteRange} :
    r.overlaps s = true ↔ ∃ byte, r.contains byte = true ∧ s.contains byte = true := by
  simp only [overlaps, contains, Bool.or_eq_true, Bool.and_eq_true, decide_eq_true_eq]
  constructor
  · rintro (h | h)
    · exact ⟨s.start, h, by omega⟩
    · exact ⟨r.start, by omega, h⟩
  · rintro ⟨byte, hr, hs⟩
    omega

theorem contains_single {n byte : Nat} : (ByteRange.mk n 1).contains byte = true ↔ byte = n := by
  simp only [contains, Bool.or_eq_true, Bool.and_eq_true, decide_eq_true_eq]
  omega

theorem overlaps_single {m n : Nat} :
    (ByteRange.mk m 1).overlaps ⟨n, 1⟩ = true ↔ m = n := by
  simp only [overlaps, contains, Bool.or_eq_true, Bool.and_eq_true, decide_eq_true_eq]
  omega

end ByteRange

/-- A lock on some bytes.  Opened maps have no files of their own: the kernel backs all of them by
one, and it is the bytes of this one that are locked. -/
structure HeldLock where
  owner : Owner
  range : ByteRange
  kind : LockKind
  deriving DecidableEq, Repr, Inhabited

/-- The machine.  Opened maps, other processes and the network interfaces are all that an operation
on pinned maps can meet. -/
structure Kernel where
  /-- The map that a path leads to, if it leads to a pin.  A map may have several pins, in any
  directories.  How a path is looked up is up to the machine: it has its own links and mounts, and
  a relative path starts wherever the program was started. -/
  pins : String → Option MapRef
  maps : MapRef → KMap
  interference : List Interference
  locks : List HeldLock
  /-- Owners are numbered in order. -/
  nextOwner : Nat
  /-- The network interfaces, if the machine tells. -/
  interfaces : Option (List (String × UInt32))
  /-- The number that opening a key socket fails with. -/
  socketErrno : Option Errno
  /-- How often a key socket was asked for. -/
  sockets : Nat

namespace Kernel

/-- The pins of the six maps in a directory.  Empty segments of a path and `.` lead nowhere else,
but a pin is no directory, so a path to it ends in its name. -/
def pinsIn (directory : String) (place : MapName → MapRef) (path : String) : Option MapRef :=
  (MapName.all.find? fun name => Path.leadsTo path directory name.pin).map place

/-- A machine with the usual maps in the usual directory, numbered from eleven on, and nothing
else. -/
def fresh : Kernel where
  pins := pinsIn "/sys/fs/bpf/netd_shared" MapName.place
  maps map := .new (.ofNat (map + 11)) (MapName.all[map]?.elim default MapName.shape) .ascending
  interference := []
  locks := []
  nextOwner := 0
  interfaces := some []
  socketErrno := none
  sockets := 0

instance : Inhabited Kernel := ⟨fresh⟩

/-! ## Maps -/

/-- Changes one map.  Where its pins are is not stored with it, so that no change of a map moves
it. -/
def updateMap (k : Kernel) (map : MapRef) (f : KMap → KMap) : Kernel :=
  { k with maps := fun other => if other = map then f (k.maps other) else k.maps other }

@[simp] theorem maps_updateMap_self (k : Kernel) (map : MapRef) (f : KMap → KMap) :
    (k.updateMap map f).maps map = f (k.maps map) := by
  simp [updateMap]

theorem maps_updateMap_of_ne (k : Kernel) {map other : MapRef} (f : KMap → KMap)
    (h : other ≠ map) : (k.updateMap map f).maps other = k.maps other := by
  simp [updateMap, h]

def put (k : Kernel) (map : MapRef) (key value : Bytes) : Kernel :=
  k.updateMap map (·.withContent (·.insert key value))

def remove (k : Kernel) (map : MapRef) (key : Bytes) : Kernel :=
  k.updateMap map (·.withContent (·.erase key))

/-- Removes the pins of a map; the map itself stays for whoever has it open. -/
def unpin (k : Kernel) (map : MapRef) : Kernel :=
  { k with pins := fun path => (k.pins path).filter (· ≠ map) }

/-! ## Locks -/

/-- Whether a lock that an owner asks for is excluded by the locks that others hold: by one that is
of a conflicting kind and shares a byte with it. -/
def isExcluded (k : Kernel) (owner : Owner) (range : ByteRange) (kind : LockKind) : Bool :=
  -- an owner's own locks never stand in its way
  k.locks.any fun held =>
    decide (held.owner ≠ owner) && held.range.overlaps range && held.kind.conflicts kind

/-- The machine after a new owner, made of a fresh number, has taken a lock; none if another
owner's lock excludes it. -/
def acquire? (k : Kernel) (owner : Nat → Owner) (range : ByteRange) (kind : LockKind) :
    Option Kernel :=
  if k.isExcluded (owner k.nextOwner) range kind then none
  else some { k with
    locks := ⟨owner k.nextOwner, range, kind⟩ :: k.locks
    nextOwner := k.nextOwner + 1 }

/-- The machine after an owner has given up its locks, all of them at once. -/
def release (k : Kernel) (owner : Owner) : Kernel :=
  { k with locks := k.locks.filter fun held => decide (held.owner ≠ owner) }

/-- The machine after every other process has given up its locks on some bytes. -/
def releaseOthers (k : Kernel) (range : ByteRange) : Kernel :=
  { k with locks := k.locks.filter fun held =>
      -- handles of this library keep theirs: only other processes are told to go
      match held.owner with
      | .process _ => decide (held.range ≠ range)
      | .handle _ => true }

theorem mem_locks_release {k : Kernel} {owner : Owner} {held : HeldLock} :
    held ∈ (k.release owner).locks ↔ held ∈ k.locks ∧ held.owner ≠ owner := by
  simp [release]

end Kernel

end UidPolicy
