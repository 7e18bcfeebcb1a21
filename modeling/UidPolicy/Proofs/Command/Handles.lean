import Mathlib.Logic.Relation
import UidPolicy.Pinned.Maps
import UidPolicy.Proofs.Command.Audit
import UidPolicy.Proofs.Pinned.Calls

/-!
# What opened maps grant

Handles that are opened with an access grant the calls that the access permits: none of them is
refused, and reads leave the machine to other processes.

- `Kernel.meddling`: what other processes do at the system calls of the program. Without
  interference it is nothing (`Kernel.eq_of_meddling`).
- `Handle.tame_…`: the operations of a handle.
- `PinnedMaps.grants_backing`: the six maps together.

That an array has no slots to remove is the one reason for `unsupported` that is not about the
access of a handle, and such calls are never permitted.
-/

namespace UidPolicy

namespace Kernel

/-- What other processes do at system calls. It is all that may happen to the machine while a
program only reads, and it is not bounded otherwise. -/
def meddling : Scope Kernel where
  allows := Relation.ReflTransGen fun k k' =>
    ∃ map call key, k' = ((enter map call key).run k).world
  refl _ := .refl
  trans := .trans

theorem eq_of_meddling {k k' : Kernel} (hquiet : k.interference = [])
    (h : meddling.allows k k') : k' = k := by
  induction h with
  | refl => rfl
  | tail _ hstep ih =>
    obtain ⟨map, call, key, rfl⟩ := hstep
    rw [ih, run_enter hquiet]

theorem within_meddling_enter (map : MapRef) (call : MapCall) (key : Option Bytes) :
    (enter map call key).Within meddling := fun _ => .single ⟨map, call, key, rfl⟩

theorem within_meddling_lookup (map : MapRef) (key : Bytes) :
    (lookup map key).Within meddling := by
  refine (within_meddling_enter _ _ _).bind fun _ => ?_
  refine ((Act.Still.read _).within _).bind fun m => Act.Still.within ?_ _
  cases m.content.get? key with
  | some value => exact .pure value
  | none => exact .fail _

theorem within_meddling_next (map : MapRef) (previous : Option Bytes) :
    (next map previous).Within meddling := by
  refine (within_meddling_enter _ _ _).bind fun _ => ?_
  refine ((Act.Still.read _).within _).bind fun m => Act.Still.within ?_ _
  cases m.next? previous with
  | some key => exact .pure key
  | none => exact .fail _

theorem within_meddling_walk (map : MapRef) : (walk map).Within meddling := by
  have hfrom : ∀ (calls : Nat) (previous : Option Bytes),
      (walkFrom map calls previous).Within meddling := by
    intro calls
    induction calls with
    | zero => exact fun _ => (Act.Still.pure []).within _
    | succ calls ih =>
      intro previous
      refine (within_meddling_next map previous).attempt.bind fun answer => ?_
      cases answer with
      | ok key => exact (ih (some key)).bind fun _ => (Act.Still.pure _).within _
      | error errno =>
        -- the end of the walk, or a refusal
        dsimp only
        split
        · exact (Act.Still.pure []).within _
        · exact (Act.Still.fail errno).within _
  exact ((Act.Still.read _).within _).bind fun bound => hfrom bound none

end Kernel

namespace Handle

variable {h : Handle} {S : Scope Kernel}

theorem supported_callFault (operation : String) (failure : CallFailure) :
    (h.callFault operation failure).Supported := nofun

theorem tame_calling {α : Type} {x : Kernel.Call α} (hx : x.Within S) (operation : String) :
    (h.calling operation x).Tame S where
  failsWith := .mapError (P := fun _ => True) (fun _ _ _ => trivial) fun _ _ =>
    supported_callFault _ _
  within := hx.mapError _

theorem tame_orAbsent {α β : Type} {x : Kernel.Call α} (hx : x.Within S) (operation : String)
    (absent : β) (found : α → β) : (h.orAbsent operation absent found x).Tame S := by
  have hturn : (x.attempt : Op Kernel _).Tame S :=
    ⟨(Act.Answering.attempt x).failsWith _, hx.attempt⟩
  refine hturn.bind fun answer => ?_
  cases answer with
  | ok a => exact .pure (found a)
  | error errno =>
    dsimp only
    split
    · exact .pure absent
    · exact .fail (supported_callFault _ _)

/-! ## Reading -/

section Reading

variable (hread : h.access.canRead = true)

include hread

theorem tame_hashGet {K V : Type} [Stored K] [Stored V] (key : K) :
    (h.hashGet key : Op Kernel (Option V)).Tame Kernel.meddling := by
  rw [hashGet, checkRead_eq hread, pure_bind]
  exact tame_orAbsent (Kernel.within_meddling_lookup _ _) _ _ _

theorem tame_hashKeys {K : Type} [Stored K] :
    (h.hashKeys : Op Kernel (List K)).Tame Kernel.meddling := by
  rw [hashKeys, checkRead_eq hread, pure_bind]
  exact (tame_calling (Kernel.within_meddling_walk _) _).bind fun _ =>
    (Act.Tame.emit _).bind fun _ => .pure _

theorem tame_arrayGet {V : Type} [Stored V] (index : UInt32) :
    (h.arrayGet index : Op Kernel (Option V)).Tame Kernel.meddling := by
  rw [arrayGet, checkRead_eq hread, pure_bind]
  split
  · exact (tame_calling (Kernel.within_meddling_lookup _ _) _).bind fun _ => .pure _
  · exact .pure none

theorem tame_arrayKeys : h.arrayKeys.Tame Kernel.meddling := by
  rw [arrayKeys, checkRead_eq hread, pure_bind]
  exact (Act.Tame.emit _).bind fun _ => .pure _

end Reading

/-! ## Writing -/

section Writing

variable (hwrite : h.access.canWrite = true)

include hwrite

theorem tame_hashPut {K V : Type} [Stored K] [Stored V] (key : K) (value : V) :
    (h.hashPut key value).Tame .anything := by
  rw [hashPut, checkWrite_eq hwrite, pure_bind]
  exact tame_calling (fun _ => trivial) _

theorem tame_hashDelete {K : Type} [Stored K] (key : K) : (h.hashDelete key).Tame .anything := by
  rw [hashDelete, checkWrite_eq hwrite, pure_bind]
  exact tame_orAbsent (fun _ => trivial) _ _ _

/-- An index out of bounds is refused, but not as unsupported. -/
theorem tame_arrayPut {V : Type} [Stored V] (index : UInt32) (value : V) :
    (h.arrayPut index value).Tame .anything := by
  rw [arrayPut, checkWrite_eq hwrite, pure_bind]
  split
  · exact tame_calling (fun _ => trivial) _
  · exact .fail (supported_callFault _ _)

end Writing

end Handle

/-! ## The maps together -/

/-- What a program with an access may do to the machine: if it cannot write, the machine is changed
by others only. -/
def Access.scope (access : Access) : Scope Kernel :=
  if access.canWrite then .anything else Kernel.meddling

namespace Act.Tame

variable {α : Type} {x : Op Kernel α} {access : Access}

theorem scope_of_reading (hx : x.Tame Kernel.meddling) : x.Tame access.scope := by
  refine ⟨hx.failsWith, ?_⟩
  unfold Access.scope
  split
  · exact fun _ => trivial
  · exact hx.within

theorem scope_of_writing (hwrite : access.canWrite = true) (hx : x.Tame .anything) :
    x.Tame access.scope := by
  rw [Access.scope, if_pos hwrite]
  exact hx

end Act.Tame

/-- What an access permits on one map is tame; `removes` says whether keys can be removed. An array
grants everything else that a hash map does. -/
structure Table.Grants {K V : Type} (t : Table Kernel K V) (access : Access) (removes : Bool) :
    Prop where
  get : access.canRead = true → ∀ k, (t.get k).Tame access.scope
  keys : access.canRead = true → t.keys.Tame access.scope
  put : access.canWrite = true → ∀ k v, (t.put k v).Tame access.scope
  delete : access.canWrite = true → removes = true → ∀ k, (t.delete k).Tame access.scope

theorem Handle.grants_hashTable {K V : Type} [Stored K] [Stored V] (h : Handle) :
    (h.hashTable K V).Grants h.access true where
  get hread k := (tame_hashGet hread k).scope_of_reading
  keys hread := (tame_hashKeys hread).scope_of_reading
  put hwrite k v := .scope_of_writing hwrite (tame_hashPut hwrite k v)
  delete hwrite _ k := .scope_of_writing hwrite (tame_hashDelete hwrite k)

theorem Handle.grants_arrayTable {V : Type} [Stored V] (h : Handle) :
    (h.arrayTable V).Grants h.access false where
  get hread k := (tame_arrayGet hread k).scope_of_reading
  keys hread := (tame_arrayKeys hread).scope_of_reading
  put hwrite k v := .scope_of_writing hwrite (tame_arrayPut hwrite k v)
  delete _ hremoves := nomatch hremoves

namespace Kernel

theorem tame_barrier : barrier.Tame .anything := by
  have hsocket : (openSocket.mapError fun errno =>
      Fault.resource "open AF_KEY socket" errno).Tame .anything :=
    ⟨.mapError (P := fun _ => True) (fun _ _ _ => trivial) fun _ _ => nofun, fun _ => trivial⟩
  exact hsocket.bind fun _ => .emit _

theorem tame_indexOf (name : String) : (indexOf name).Tame meddling := by
  refine (Act.Tame.read _).bind fun index => ?_
  cases index with
  | some index => exact .pure (some index)
  | none => exact (Act.Tame.emit _).bind fun _ => .pure none

end Kernel

namespace PinnedMaps

variable {m : PinnedMaps} {access : Access} (haccess : ∀ h ∈ m.handles, h.access = access)

include haccess

/-- The configuration and the data saver flag are arrays, and the others hash maps. -/
theorem grants_table (map : MapName) :
    (m.backing.table map).Grants access (map.shape.kind != .array) := by
  simp only [handles, List.forall_mem_cons] at haccess
  obtain ⟨hconfiguration, huidOwner, huidPermission, hcookieTag, hdataSaver, hingressDiscard, -⟩ :=
    haccess
  cases map with
  | configuration => exact hconfiguration ▸ m.configuration.grants_arrayTable
  | uidOwner => exact huidOwner ▸ m.uidOwner.grants_hashTable
  | uidPermission => exact huidPermission ▸ m.uidPermission.grants_hashTable
  | cookieTag => exact hcookieTag ▸ m.cookieTag.grants_hashTable
  | dataSaver => exact hdataSaver ▸ m.dataSaver.grants_arrayTable
  | ingressDiscard => exact hingressDiscard ▸ m.ingressDiscard.grants_hashTable

/-- **Maps that are opened with an access grant what it permits.** -/
theorem grants_backing : m.backing.Grants access access.scope := by
  intro α c hpermits
  -- what is permitted is what the handles check, call by call
  cases c with
  | get map key => exact (grants_table haccess map).get hpermits key
  | put map key value => exact (grants_table haccess map).put hpermits key value
  | delete map key =>
    obtain ⟨hwrite, hremoves⟩ := Bool.and_eq_true_iff.1 hpermits
    exact (grants_table haccess map).delete hwrite hremoves key
  | keys map => exact (grants_table haccess map).keys hpermits
  | barrier => exact .scope_of_writing hpermits Kernel.tame_barrier
  | indexOf name => exact (Kernel.tame_indexOf name).scope_of_reading
  | nameOf index => exact (Act.Tame.read _).scope_of_reading

end PinnedMaps

end UidPolicy
