import UidPolicy.Proofs.Dependence
import UidPolicy.Proofs.Pinned.Calls

/-!
# What is stored

Machines may differ in nothing but what is stored in their maps, and a write can tell little of
that.

- `Kernel.emptied`: the machine with nothing stored. `Kernel.SameButStored`: two machines are the
  same once emptied.
- `Kernel.respects_enter`: what other processes do at a call does not depend on what is stored.
- `Kernel.respects_update`, `respects_delete`: a write tells whether there is room, and a removal
  whether there was a key. `Handle.respects_calling` and `respects_orAbsent` carry this to the
  operations of a handle.
-/

namespace UidPolicy

namespace Kernel

/-- The machine with nothing stored in its maps, as if nothing had ever been written to them: how
often a map was written shows in the order of its keys only. -/
def emptied (k : Kernel) : Kernel :=
  { k with maps := fun map => { k.maps map with content := ∅, writes := 0 } }

/-- The machines differ in nothing but what is stored: a process that may only write cannot tell
them apart, but for the answers that say whether a key was there. -/
def SameButStored (k k' : Kernel) : Prop := k.emptied = k'.emptied

theorem emptied_updateMap (k : Kernel) (map : MapRef)
    (f : SortedMap Bytes Bytes → SortedMap Bytes Bytes) :
    (k.updateMap map (·.withContent f)).emptied = k.emptied := by
  have hmaps : (k.updateMap map (·.withContent f)).emptied.maps = k.emptied.maps := by
    funext other
    show { (k.updateMap map (·.withContent f)).maps other with content := ∅, writes := 0 }
      = { k.maps other with content := ∅, writes := 0 }
    -- a write shows in the content and in the count of writes, and both are emptied
    by_cases hother : other = map
    · rw [hother, maps_updateMap_self]
      rfl
    · rw [maps_updateMap_of_ne k _ hother]
  show { k with maps := (k.updateMap map (·.withContent f)).emptied.maps } = k.emptied
  rw [hmaps]
  rfl

namespace SameButStored

variable {k k' : Kernel}

theorem interference_eq (h : SameButStored k k') : k.interference = k'.interference := by
  have hview : k.emptied.interference = k'.emptied.interference := congrArg interference h
  exact hview

theorem shape_eq (h : SameButStored k k') (map : MapRef) :
    (k.maps map).shape = (k'.maps map).shape := by
  have hview : (k.emptied.maps map).shape = (k'.emptied.maps map).shape :=
    congrArg (fun k : Kernel => (k.maps map).shape) h
  exact hview

/-- Whatever is stored on either side, the machines are the same otherwise. -/
theorem updateMap (h : SameButStored k k') (map : MapRef)
    (f f' : SortedMap Bytes Bytes → SortedMap Bytes Bytes) :
    SameButStored (k.updateMap map (·.withContent f)) (k'.updateMap map (·.withContent f')) :=
  (k.emptied_updateMap map f).trans (h.trans (k'.emptied_updateMap map f').symm)

theorem withInterference (h : SameButStored k k') (left : List Interference) :
    SameButStored { k with interference := left } { k' with interference := left } := by
  have hview : { k.emptied with interference := left } = { k'.emptied with interference := left } :=
    congrArg (fun k : Kernel => { k with interference := left }) h
  exact hview

end SameButStored

/-- What happens at a call besides the call itself does not depend on what is stored. -/
theorem respects_enter (map : MapRef) (call : MapCall) (key : Option Bytes) :
    (enter map call key).Respects SameButStored := by
  intro k k' hsame
  show (enter map call key k).result = (enter map call key k').result ∧
    SameButStored (enter map call key k).world (enter map call key k').world
  unfold enter
  rw [hsame.interference_eq]
  rcases Interference.strike map call key k'.interference with ⟨effect, left⟩
  have hleft := hsame.withInterference left
  -- another process may remove a key, whether or not there is one on either side
  cases effect with
  | nothing => exact ⟨rfl, hleft⟩
  | refuse errno => exact ⟨rfl, hleft⟩
  | remove gone => exact ⟨rfl, hleft.updateMap map _ _⟩

/-- To write to a map under a condition on it: what is stored decides between two answers. -/
theorem respects_write (map : MapRef) (condition : KMap → Bool)
    (f : SortedMap Bytes Bytes → SortedMap Bytes Bytes) (errno : Errno) :
    (do
      let m ← Act.read fun k => k.maps map
      if condition m then Act.modify (·.updateMap map (·.withContent f))
      else Act.fail errno : Call Unit).RespectsUpTo SameButStored
        fun r => r = .ok () ∨ r = .error errno := by
  -- either branch changes at most what is stored
  have hends : ∀ (k : Kernel) (holds : Bool),
      let o := (if holds then Act.modify (·.updateMap map (·.withContent f))
        else Act.fail errno : Call Unit).run k
      (o.result = .ok () ∨ o.result = .error errno) ∧ o.world.emptied = k.emptied := by
    intro k holds
    cases holds with
    | true => exact ⟨.inl rfl, k.emptied_updateMap map f⟩
    | false => exact ⟨.inr rfl, rfl⟩
  intro k k' hsame
  obtain ⟨htelling, hemptied⟩ := hends k (condition (k.maps map))
  obtain ⟨htelling', hemptied'⟩ := hends k' (condition (k'.maps map))
  rw [Act.run_bind_ok (Act.run_read _ k), Act.run_bind_ok (Act.run_read _ k')]
  exact ⟨.inr ⟨htelling, htelling'⟩, hemptied.trans (hsame.trans hemptied'.symm)⟩

/-- A value is set, or there is no room for it. -/
theorem respects_update (map : MapRef) (key value : Bytes) :
    (update map key value).RespectsUpTo SameButStored
      fun r => r = .ok () ∨ r = .error Errno.tooBig :=
  .after (respects_enter map .update (some key)) fun _ =>
    respects_write map (·.hasRoom key) (·.insert key value) Errno.tooBig

/-- A key is removed, or it was not there; on an array it does not come to that. -/
theorem respects_delete (map : MapRef) (key : Bytes) :
    (delete map key).RespectsUpTo SameButStored
      fun r => r = .ok () ∨ r = .error Errno.noEntry := by
  refine .after (respects_enter map .delete (some key)) fun _ k k' hsame => ?_
  rw [Act.run_bind_ok (Act.run_read _ k), Act.run_bind_ok (Act.run_read _ k')]
  -- the shapes are the same, so both maps are arrays or neither is
  by_cases hkind : (k.maps map).shape.kind = .array
  · have hkind' : (k'.maps map).shape.kind = .array := by rwa [← hsame.shape_eq map]
    rw [if_pos hkind, if_pos hkind']
    exact ⟨.inl rfl, hsame⟩
  · have hkind' : ¬(k'.maps map).shape.kind = .array := by rwa [← hsame.shape_eq map]
    rw [if_neg hkind, if_neg hkind']
    exact respects_write map (·.content.contains key) (·.erase key) Errno.noEntry k k' hsame

end Kernel

namespace Handle

variable {h : Handle}

theorem respects_calling {α : Type} {x : Kernel.Call α} {operation : String} {errno : Errno}
    {a : α} (hx : x.RespectsUpTo Kernel.SameButStored fun r => r = .ok a ∨ r = .error errno) :
    (h.calling operation x).RespectsUpTo Kernel.SameButStored fun r =>
      r = .ok a ∨ r = .error (.resource s!"{operation} {h.name}" errno) := by
  refine hx.mapError ?_
  rintro r (rfl | rfl)
  · exact .inl rfl
  · exact .inr rfl

theorem respects_orAbsent {α β : Type} {x : Kernel.Call α} {operation : String} {absent : β}
    {found : α → β} {a : α}
    (hx : x.RespectsUpTo Kernel.SameButStored fun r => r = .ok a ∨ r = .error Errno.noEntry) :
    (h.orAbsent operation absent found x).RespectsUpTo Kernel.SameButStored fun r =>
      r = .ok (found a) ∨ r = .ok absent := by
  refine hx.renamed (h.run_orAbsent operation absent found x) ?_
  rintro r (rfl | rfl)
  · exact .inl rfl
  · exact .inr rfl

end Handle

end UidPolicy
