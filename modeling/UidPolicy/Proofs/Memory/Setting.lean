import UidPolicy.Proofs.Controllers

/-!
# Whatever an operation may meet

How an operation on the maps in memory goes depends on more than their content: on the failures
that are chosen for each map, on the locks, on the interfaces and on the barrier.

- `Store.Faults`, `Store.under`: the chosen failures of a map and its walk, apart from what it
  holds. `Store.Faults.Readable`: reads find whatever is stored.
- `Memory.Setting`: the interfaces, the poisoned locks, and how a call of the barrier ends. The
  end may depend on the world that the barrier is called in, so that it tells when it is called.
- `Memory.Setting.backing`: the maps in memory in a setting. The maps themselves are those of
  `Memory.backing`.
- `Memory.Setting.orderly`: reads and failed writes change nothing, in every setting.
-/

namespace UidPolicy

/-! ## Failures of one map -/

/-- The chosen failures of a map, and its walk. They are not part of what is stored, and so can be
chosen anew for every turn. -/
structure Store.Faults (K : Type) where
  vanished : K → Bool
  failing : K → Bool
  writeErrno : Option Errno
  readErrno : Option Errno
  walk : List K → List K

/-- No failures; the walk lists every key once. -/
def Store.Faults.none {K : Type} : Store.Faults K where
  vanished _ := false
  failing _ := false
  writeErrno := Option.none
  readErrno := Option.none
  walk := id

/-- Reads neither fail nor miss an entry. -/
def Store.Faults.Readable {K : Type} (f : Store.Faults K) : Prop :=
  f.readErrno = .none ∧ ∀ k, f.vanished k = false

/-- A walk lists exactly the stored keys, in any order and with any repetitions. -/
def Store.Faults.WalkExact {K : Type} (f : Store.Faults K) : Prop := ∀ ks k, k ∈ f.walk ks ↔ k ∈ ks

/-- The map with the same content, and with other failures. -/
def Store.under {K V : Type} [Ranked K] (s : Store K V) (f : Store.Faults K) : Store K V where
  content := s.content
  vanished := f.vanished
  failing := f.failing
  writeErrno := f.writeErrno
  readErrno := f.readErrno
  walk := f.walk

theorem Store.visible?_under {K V : Type} [Ranked K] (s : Store K V) {f : Store.Faults K}
    (hf : f.Readable) (k : K) : (s.under f).visible? k = s.content.get? k :=
  if_neg (Bool.eq_false_iff.1 (hf.2 k))

namespace Memory

/-! ## Settings -/

/-- What an operation meets besides the six maps: the interfaces of the host, the locks that are
poisoned, and the barrier. -/
structure Setting where
  -- these three may change from one turn of a run to the next, and the maps do not know of them
  interfaces : List (String × UInt32)
  poisoned : Lock → Bool
  /-- How a call of the barrier ends, by the world that it is called in. It may well fail the first
  time and not the next. -/
  barrier : World → Except Fault Unit

namespace Setting

/-- The interfaces of a setting, as a host's. -/
def host (s : Setting) : Host := ⟨s.interfaces, none⟩

/-- The barrier counts its calls, however they end. The count is read by nothing that runs, only by
what is proved about the swap. -/
def countedBarrier (s : Setting) : Op World Unit := fun w =>
  ⟨s.barrier w, { w with barrierCalls := w.barrierCalls + 1 }, []⟩

/-- The controllers' view of the maps in memory, in a setting. -/
def backing (s : Setting) : Backing World :=
  { Memory.backing s.host with barrier := s.countedBarrier, poisoned := s.poisoned }

/-- The setting of a host: no lock is poisoned. -/
def ofHost (h : Host) : Setting where
  interfaces := h.interfaces
  poisoned _ := false
  barrier _ := match h.barrierErrno with
    | some errno => .error (.resource "synchronize_kernel_rcu" errno)
    | none => .ok ()

/-- The setting with one more poisoned lock. -/
def poison (s : Setting) (lock : Lock) : Setting :=
  { s with poisoned := fun l => l = lock || s.poisoned l }

theorem configuration_backing (s : Setting) :
    s.backing.configuration = Store.table.zoom World.configurationPart := rfl

theorem uidOwner_backing (s : Setting) :
    s.backing.uidOwner = Store.table.zoom World.uidOwnerPart := rfl

theorem orderly (s : Setting) : s.backing.Orderly where
  configuration := Store.orderly_table.zoom _
  uidOwner := Store.orderly_table.zoom _
  uidPermission := Store.orderly_table.zoom _
  cookieTag := Store.orderly_table.zoom _
  dataSaver := Store.orderly_table.zoom _
  ingressDiscard := Store.orderly_table.zoom _
  indexOf _ := .pure _
  nameOf _ := .pure _

end Setting

end Memory

end UidPolicy
