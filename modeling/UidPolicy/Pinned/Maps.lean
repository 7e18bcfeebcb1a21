import UidPolicy.Config.Basic
import UidPolicy.Control.Backing
import UidPolicy.Pinned.Table

/-!
# The pinned maps together

* `PinnedMaps` — handles on the six maps.
* `PinnedMaps.openAll` — opens the six maps of one directory, one after the other.  The map of
  tagged sockets is written by others as well and never locked.
* `PinnedMaps.openFor` — the same, as a command of the program does.
* `PinnedMaps.backing` — what the controllers work on.

An opening that fails at some map closes those that it has opened.
-/

namespace UidPolicy

structure PinnedMaps where
  configuration : Handle
  uidOwner : Handle
  uidPermission : Handle
  cookieTag : Handle
  dataSaver : Handle
  ingressDiscard : Handle
  deriving DecidableEq, Repr, Inhabited

namespace Pinned

/-- Closes a handle if what follows fails.  What follows may itself hold more of them, so that they
are closed in the reverse order. -/
def holding {α : Type} (h : Handle) (x : Opening α) : Opening α :=
  x.cleaningUp (·.close h)

end Pinned

namespace PinnedMaps

def handles (m : PinnedMaps) : List Handle :=
  [m.configuration, m.uidOwner, m.uidPermission, m.cookieTag, m.dataSaver, m.ingressDiscard]

open Pinned in
/-- Opens the six maps of a directory.  The map of the tagged sockets is written by other programs
all the time, so no lock is taken on it. -/
def openAll (root : String) (access : Access) (sharing : Sharing) : Opening PinnedMaps := do
  let path (map : MapName) : String := Path.join root map.pin
  let configuration ← openArray UInt32 (path .configuration) access sharing
  holding configuration do
  let uidOwner ← openHash Uid OwnerEntry (path .uidOwner) access sharing
  holding uidOwner do
  let uidPermission ← openHash Uid UInt8 (path .uidPermission) access sharing
  holding uidPermission do
  let cookieTag ← openHash UInt64 TagEntry (path .cookieTag) access .lockless
  holding cookieTag do
  let dataSaver ← openArray UInt8 (path .dataSaver) access sharing
  holding dataSaver do
  let ingressDiscard ← openHash DiscardKey DiscardRule (path .ingressDiscard) access sharing
  Act.emit ⟨.info, .loader, "netd maps opened",
    [("pin_root", .text root), ("access", .text access.name), ("writer", .text sharing.name)]⟩
  pure ⟨configuration, uidOwner, uidPermission, cookieTag, dataSaver, ingressDiscard⟩

def close (m : PinnedMaps) (k : Kernel) : Kernel := m.handles.foldl Kernel.close k

structure Error where
  root : String
  cause : OpenError
  deriving DecidableEq, Repr, Inhabited

def Error.chain (e : Error) : List String :=
  s!"opening maps under {e.root}" :: e.cause.chain

/-- Opens the configured maps for a command, read-only and without locks if it only reads.  The
failure names the directory. -/
def openFor (config : Config) (readOnly : Bool) : Act Error Kernel PinnedMaps := do
  let (access, sharing) := config.modes readOnly
  let root := config.pinRoot
  let maps ← (openAll root access sharing).mapError fun cause => ⟨root, cause⟩
  Act.emit ⟨.info, .startup, "pinned maps opened",
    [("pin_root", .text root), ("access", .text access.name), ("writer", .text sharing.name)]⟩
  pure maps

end PinnedMaps

namespace Kernel

/-- Waits until no reader that started earlier is left in the packet path. -/
def barrier : Op Kernel Unit := do
  openSocket.mapError fun errno => .resource "open AF_KEY socket" errno
  Act.emit ⟨.debug, .barrier, "kernel rcu barrier completed", []⟩

/-- Why a name has no index, as log fields show it. -/
def noInterfaceText (name : String) : String :=
  if name.toList.contains '\x00' then "EINVAL: Invalid argument" else "ENODEV: No such device"

/-- The index of the interface with a name; zero is no index, and a NUL character is in no
name. -/
def interface? (k : Kernel) (name : String) : Option UInt32 :=
  if name.toList.contains '\x00' then none
  else ((k.interfaces.getD []).find? fun e => e.1 == name).map (·.2) |>.filter (· != 0)

/-- The index of an interface. -/
def indexOf (name : String) : Op Kernel (Option UInt32) := do
  match ← Act.read (·.interface? name) with
  | some index => pure (some index)
  | none => do
    Act.emit ⟨.debug, .interfaces, "interface not found",
      [("interface", .text name), ("errno", .text (noInterfaceText name))]⟩
    pure none

/-- The name of the interface with an index.  A listing ends before the first entry whose index
is zero. -/
def nameOf (index : UInt32) : Op Kernel (Option String) :=
  Act.read fun k =>
    let listed := (k.interfaces.getD []).takeWhile fun e => e.2 != 0
    (listed.find? fun e => e.2 == index).map (·.1)

end Kernel

namespace PinnedMaps

/-- What the controllers work on.  No lock of the program is poisoned at its start. -/
def backing (m : PinnedMaps) : Backing Kernel where
  configuration := m.configuration.arrayTable UInt32
  uidOwner := m.uidOwner.hashTable Uid OwnerEntry
  uidPermission := m.uidPermission.hashTable Uid UInt8
  cookieTag := m.cookieTag.hashTable UInt64 TagEntry
  dataSaver := m.dataSaver.arrayTable UInt8
  ingressDiscard := m.ingressDiscard.hashTable DiscardKey DiscardRule
  barrier := Kernel.barrier
  indexOf := Kernel.indexOf
  nameOf := Kernel.nameOf
  poisoned _ := false

end PinnedMaps

end UidPolicy
