import UidPolicy.Act
import UidPolicy.Kernel.Machine

/-!
# System calls

The calls of the program on the maps of the kernel.  What interferes with a call happens
before it.

* `Kernel.enter` — what happens at a call besides the call itself.
* `Kernel.lookup`, `update`, `delete`, `next` — the calls on one key.
* `Kernel.walk` — all keys, by one call after the other, in the order of the map.  A walk whose
  current key is removed starts again, so it may repeat keys.
* `Kernel.openSocket` — a key socket, closed at once.
-/

namespace UidPolicy

namespace Kernel

/-- A system call. -/
abbrev Call (α : Type) : Type := Act Errno Kernel α

/-- What happens at a call besides the call itself.  It comes first, as another process can only get
in between two calls, and a refused call has done nothing. -/
def enter (map : MapRef) (call : MapCall) (key : Option Bytes) : Call Unit := fun k =>
  let (effect, left) := Interference.strike map call key k.interference
  let k := { k with interference := left }
  -- what has struck is used up; the rest waits for the calls that it is for
  match effect with
  | .nothing => ⟨.ok (), k, []⟩
  | .refuse errno => ⟨.error errno, k, []⟩
  | .remove gone => ⟨.ok (), k.remove map gone, []⟩

theorem run_enter {k : Kernel} (h : k.interference = []) (map : MapRef) (call : MapCall)
    (key : Option Bytes) : (enter map call key).run k = ⟨.ok (), k, []⟩ := by
  show enter map call key k = _
  cases k
  simp only at h
  subst h
  rfl

/-- The value of a key.  It is an error here that there is none. -/
def lookup (map : MapRef) (key : Bytes) : Call Bytes := do
  enter map .lookup (some key)
  let m ← Act.read fun k => k.maps map
  match m.content.get? key with
  | some value => pure value
  | none => Act.fail Errno.noEntry

/-- Sets the value of a key, if there is room.  A full map still takes a new value for a key that it
holds. -/
def update (map : MapRef) (key value : Bytes) : Call Unit := do
  enter map .update (some key)
  let m ← Act.read fun k => k.maps map
  if m.hasRoom key then Act.modify (·.put map key value) else Act.fail Errno.tooBig

/-- Removes a key that is there; an array keeps its slots.  It is an error here that the key is not
there, which the operations above take for an answer. -/
def delete (map : MapRef) (key : Bytes) : Call Unit := do
  enter map .delete (some key)
  let m ← Act.read fun k => k.maps map
  if m.shape.kind = .array then Act.fail Errno.invalid
  else if m.content.contains key then Act.modify (·.remove map key)
  else Act.fail Errno.noEntry

/-- The key after a given one; `KMap.next?` says which one that is when the given one is gone. -/
def next (map : MapRef) (previous : Option Bytes) : Call Bytes := do
  enter map .next previous
  let m ← Act.read fun k => k.maps map
  -- after the last key there is none: that is how a walk learns that it is over
  match m.next? previous with
  | some key => pure key
  | none => Act.fail Errno.noEntry

/-- Walks on from a key for a bounded number of calls; the call that finds no entry ends the
walk. -/
def walkFrom (map : MapRef) : Nat → Option Bytes → Call (List Bytes)
  | 0, _ => pure []
  | calls + 1, previous => do
    match ← (next map previous).attempt with
    | .ok key => do
      let rest ← walkFrom map calls (some key)
      pure (key :: rest)
    -- There is no key after the last one.
    | .error errno => if errno = Errno.noEntry then pure [] else Act.fail errno

/-- A number of calls that no walk exceeds.  Only a removal on the way can send a walk back or
change the order of the keys, there are at most as many of them as there is interference left, and
between two of them a walk goes on through one order, in which every key has one place. -/
def walkBound (k : Kernel) (map : MapRef) : Nat :=
  (k.interference.length + 1) * ((k.maps map).content.size + 1)

/-- All keys of a map. -/
def walk (map : MapRef) : Call (List Bytes) := do
  let bound ← Act.read fun k => k.walkBound map
  walkFrom map bound none

/-- Opens a key socket and closes it, which waits until no reader that started earlier is left
in the packet path. -/
def openSocket : Call Unit := do
  Act.modify fun k => { k with sockets := k.sockets + 1 }
  -- the attempt counts, also if the socket is refused
  match ← Act.read (·.socketErrno) with
  | some errno => Act.fail errno
  | none => pure ()

end Kernel

end UidPolicy
