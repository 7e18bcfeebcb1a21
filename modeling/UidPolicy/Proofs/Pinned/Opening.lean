import UidPolicy.Pinned.Maps
import UidPolicy.Proofs.Path
import UidPolicy.Proofs.Scope

/-!
# One opening

What opening a pinned map does to the locks of the machine, and what it does not let them do.

- `Kernel.register`, `Kernel.atlas`: the locks of a machine, and where its maps are. An opening
  adds at most its own lock to the one and leaves the other as it was.
- `Wish`: a map that is to be opened, and how.
- `Wish.Granted`, `Wish.Denied`: the two ends of an opening. One that is granted takes its lock
  for an owner of its own, and no lock that is held excludes it; one that is denied leaves the
  locks as they were. `Wish.opening_cases` is the inversion of an opening.
- `Act.Unaffected`: the answer is the same on a machine where nothing is locked. An opening
  without a lock is of this kind (`Wish.unaffected_opening`).
-/

namespace UidPolicy

/-! ## Pins -/

namespace MapName

theorem separator_not_mem_pin (name : MapName) : '/' ∉ name.pin.toList := by
  cases name <;> decide

theorem component?_pin (name : MapName) :
    Path.component? name.pin.toList = some (.normal name.pin.toList) := by
  cases name <;> rfl

theorem isAbsolute_pin (name : MapName) : Path.isAbsolute name.pin = false := by
  cases name <;> decide

end MapName

/-! ## Cleaning up -/

namespace Act

variable {ε W α : Type} {x : Act ε W α} {w : W}

theorem run_cleaningUp_ok {a : α} (f : W → W) (h : (x.run w).result = .ok a) :
    (x.cleaningUp f).run w = x.run w := by
  have h : (x w).result = .ok a := h
  show Act.cleaningUp f x w = x w
  rw [Act.cleaningUp, h]

theorem run_cleaningUp_error {e : ε} (f : W → W) (h : (x.run w).result = .error e) :
    (x.cleaningUp f).run w = ⟨.error e, f (x.run w).world, (x.run w).events⟩ := by
  have h : (x w).result = .error e := h
  show Act.cleaningUp f x w = ⟨.error e, f (x w).world, (x w).events⟩
  rw [Act.cleaningUp, h]

theorem result_cleaningUp (f : W → W) : ((x.cleaningUp f).run w).result = (x.run w).result := by
  cases h : (x.run w).result with
  | ok a => rw [run_cleaningUp_ok f h, h]
  | error e => rw [run_cleaningUp_error f h]

theorem Answering.cleaningUp (hx : x.Answering) (f : W → W) : x.cleaningUp f = x := by
  ext w
  obtain ⟨a, ha⟩ := hx w
  exact run_cleaningUp_ok f ha

end Act

/-! ## The locks of the machine -/

namespace Kernel

/-- The locks that are held, and the number of the next owner: all that an opening itself changes of
a machine. -/
def register (k : Kernel) : List HeldLock × Nat := (k.locks, k.nextOwner)

/-- Which paths lead to which maps, and how the maps are numbered. Neither an opening nor anything
that meets it changes this, so that the byte which is locked is known beforehand. -/
def atlas (k : Kernel) : (String → Option MapRef) × (MapRef → UInt32) :=
  (k.pins, fun map => (k.maps map).id)

theorem pins_eq {k k' : Kernel} (h : k'.atlas = k.atlas) : k'.pins = k.pins := congrArg Prod.fst h

theorem id_eq {k k' : Kernel} (h : k'.atlas = k.atlas) (map : MapRef) :
    (k'.maps map).id = (k.maps map).id :=
  congrFun (congrArg Prod.snd h) map

/-- Who excludes whom is read off the locks. -/
theorem isExcluded_congr {k k' : Kernel} (hlocks : k'.locks = k.locks) (owner : Owner)
    (range : ByteRange) (kind : LockKind) :
    k'.isExcluded owner range kind = k.isExcluded owner range kind := by
  rw [isExcluded, hlocks, isExcluded]

theorem atlas_remove (k : Kernel) (map : MapRef) (key : Bytes) :
    (k.remove map key).atlas = k.atlas := by
  refine Prod.ext rfl (funext fun other => ?_)
  show (((k.updateMap map _).maps other)).id = (k.maps other).id
  by_cases hother : other = map
  · rw [hother, maps_updateMap_self]
    rfl
  · rw [maps_updateMap_of_ne k _ hother]

/-- The same machine, with nothing locked. An opening that takes no lock is compared with the one on
this machine. -/
def unlocked (k : Kernel) : Kernel := { k with locks := [] }

/-- Numbers that are still to be given out own no lock. So whatever a new owner has when it gives up
its lock is what it has taken itself. -/
def Numbered (k : Kernel) : Prop :=
  ∀ held ∈ k.locks, ∀ n, held.owner = .handle n → n < k.nextOwner

end Kernel

/-- The lock that an owner takes by a way of sharing on the map with a number: one byte, at the
offset of the number. -/
def Sharing.lockBy (sharing : Sharing) (owner : Owner) (id : UInt32) : Option HeldLock :=
  sharing.lock?.map fun kind => ⟨owner, Pinned.lockedRange id, kind⟩

theorem Sharing.owner_of_lockBy {sharing : Sharing} {owner : Owner} {id : UInt32}
    {held : HeldLock} (h : sharing.lockBy owner id = some held) : held.owner = owner := by
  obtain ⟨kind, -, rfl⟩ := Option.map_eq_some_iff.1 h
  rfl

/-- What a new owner gives up is what it has taken: nothing else has its number. -/
theorem Kernel.locks_release_next {k k' : Kernel} (hk : k.Numbered) {taken : Option HeldLock}
    (htaken : ∀ held, taken = some held → held.owner = .handle k.nextOwner)
    (hlocks : k'.locks = taken.toList ++ k.locks) :
    (k'.release (.handle k.nextOwner)).locks = k.locks := by
  show k'.locks.filter _ = _
  -- the owner is new: what it has taken is all its own, and nothing that was held before is
  rw [hlocks, List.filter_append, List.filter_eq_nil_iff.2, List.nil_append,
    List.filter_eq_self]
  · intro held hheld
    have hother : held.owner ≠ .handle k.nextOwner := fun howner =>
      Nat.lt_irrefl _ (hk held hheld _ howner)
    exact decide_eq_true hother
  · intro held hheld
    rw [htaken held (Option.mem_toList.1 hheld)]
    simp

/-- An opening fails because of another owner's lock: it is refused if it does not wait, and else
the client is left waiting. -/
def OpenError.IsLock : OpenError → Prop
  | held .. | waits .. => True
  | _ => False

/-- What a system call meets concerns neither the locks nor where the maps are: at most a key is
removed from one of them. -/
theorem Kernel.within_enter (map : MapRef) (call : MapCall) (key : Option Bytes) :
    (enter map call key).Within (.keeping fun k => (k.register, k.atlas)) := by
  intro k
  show ((enter map call key k).world.register, (enter map call key k).world.atlas)
    = (k.register, k.atlas)
  unfold enter
  -- the effects of others: none, an error, or the loss of one key
  split
  next effect left _ =>
    cases effect with
    | nothing | refuse errno => rfl
    | remove gone => exact Prod.ext rfl (atlas_remove { k with interference := left } map gone)

namespace Pinned

theorem within_locate (path : String) :
    (locate path).Within (.keeping fun k => (k.register, k.atlas)) := by
  have henter : ∀ (map : MapRef) (call : MapCall) (f : Errno → OpenError),
      ((Kernel.enter map call none).mapError f).Within (.keeping fun k => (k.register, k.atlas)) :=
    fun map call f => (Kernel.within_enter map call none).mapError f
  unfold locate
  split
  · exact (Act.Still.fail _).within _
  · refine ((Act.Still.read _).within _).bind fun found => ?_
    cases found with
    | none => exact (Act.Still.fail _).within _
    | some map =>
      refine (henter map .openPin _).bind fun _ => (henter map .info _).bind fun _ => ?_
      exact (henter map .info _).bind fun _ => (Act.Still.pure map).within _

/-- Where a path leads to a map, it is the one that is pinned there. -/
theorem pins_of_locate {path : String} {k : Kernel} {map : MapRef}
    (h : ((locate path).run k).result = .ok map) : k.pins path = some map := by
  unfold locate at h
  split at h
  · cases h
  · rw [Act.run_bind_ok (Act.run_read _ k)] at h
    cases hmap : k.pins path with
    | none =>
      rw [hmap] at h
      cases h
    | some found =>
      rw [hmap] at h
      obtain ⟨_, -, h⟩ := Act.of_run_bind_ok h
      obtain ⟨_, -, h⟩ := Act.of_run_bind_ok h
      obtain ⟨_, -, h⟩ := Act.of_run_bind_ok h
      cases h
      rfl

theorem failsWith_locate (path : String) : (locate path).FailsWith fun e => ¬e.IsLock := by
  have hcall : ∀ (map : MapRef) (call : MapCall) (f : Errno → OpenError),
      (∀ errno, ¬(f errno).IsLock) →
      ((Kernel.enter map call none).mapError f).FailsWith fun e => ¬e.IsLock :=
    fun map call f hf => Act.FailsWith.mapError (P := fun _ => True) (fun _ _ _ => trivial)
      fun errno _ => hf errno
  unfold locate
  split
  · exact .fail nofun
  · refine .bind ((Act.Answering.read _).failsWith _) fun found => ?_
    cases found with
    | none => exact .fail nofun
    | some map =>
      refine .bind (hcall map .openPin _ fun _ => nofun) fun _ => ?_
      refine .bind (hcall map .info _ fun _ => nofun) fun _ => ?_
      exact .bind (hcall map .info _ fun _ => nofun) fun _ => (Act.Answering.pure map).failsWith _

/-- The lock is granted to an owner with a new number, or one that is held excludes it. -/
theorem lock_cases (id : UInt32) (name : String) (sharing : Sharing) (k : Kernel) :
    (∃ k', (lock id name sharing).run k = ⟨.ok (.handle k.nextOwner), k', []⟩ ∧
        (∀ kind, sharing.lock? = some kind →
          k.isExcluded (.handle k.nextOwner) (lockedRange id) kind = false) ∧
        k'.register = ((sharing.lockBy (.handle k.nextOwner) id).toList ++ k.locks,
          k.nextOwner + 1) ∧ k'.maps = k.maps ∧ k'.pins = k.pins) ∨
      ∃ e kind, (lock id name sharing).run k = ⟨.error e, k, []⟩ ∧ sharing.lock? = some kind ∧
        k.isExcluded (.handle k.nextOwner) (lockedRange id) kind = true := by
  show (∃ k', lock id name sharing k = _ ∧ _) ∨ ∃ e kind, lock id name sharing k = _ ∧ _
  unfold lock Sharing.lockBy
  -- three ends: no lock is wanted, another owner has the byte, or the byte is free
  cases hkind : sharing.lock? with
  | none => exact .inl ⟨_, rfl, nofun, rfl, rfl, rfl⟩
  | some kind =>
    cases hfree : k.isExcluded (.handle k.nextOwner) (lockedRange id) kind with
    | true =>
      have hnone : k.acquire? .handle (lockedRange id) kind = none := by
        rw [Kernel.acquire?, if_pos hfree]
      simp only [hnone]
      split
      · exact .inr ⟨_, kind, rfl, rfl, hfree⟩
      · exact .inr ⟨_, kind, rfl, rfl, hfree⟩
    | false =>
      have hsome : k.acquire? .handle (lockedRange id) kind = some { k with
          locks := ⟨.handle k.nextOwner, lockedRange id, kind⟩ :: k.locks
          nextOwner := k.nextOwner + 1 } := by
        rw [Kernel.acquire?, if_neg (by rw [hfree]; nofun)]
      simp only [hsome]
      refine .inl ⟨_, rfl, ?_, rfl, rfl, rfl⟩
      rintro _ ⟨⟩
      exact hfree

end Pinned

/-! ## Openings -/

/-- A map that is to be opened, and how. It is what one opening depends on besides the machine, so a
row of openings is a list of these. -/
structure Wish where
  expected : Pinned.Expected
  path : String
  access : Access
  sharing : Sharing

namespace Wish

/-- Opens the map. -/
def opening (w : Wish) : Pinned.Opening Handle :=
  Pinned.openAs w.expected w.path w.access w.sharing

/-- The handle is what was wished for, and its lock is the one that was added: no other lock has
come or gone, and the map is where the path led. -/
structure Granted (w : Wish) (k k' : Kernel) (h : Handle) : Prop where
  owner : h.owner = .handle k.nextOwner
  access : h.access = w.access
  /-- The map is the one that is pinned at the path. -/
  map : k.pins w.path = some h.map
  /-- No lock that is held excludes the one that is taken: this is what keeps two only writers apart
  later on. -/
  free : ∀ kind, w.sharing.lock? = some kind →
    k.isExcluded h.owner (Pinned.lockedRange (k.maps h.map).id) kind = false
  register : k'.register
    = ((w.sharing.lockBy h.owner (k.maps h.map).id).toList ++ k.locks, k.nextOwner + 1)
  atlas : k'.atlas = k.atlas
  /-- The handle knows how many keys the map has room for, since it has read the sizes of the
  map. -/
  capacity : h.capacity = (k'.maps h.map).shape.capacity

/-- Nothing was opened, and no lock is left behind, whichever step failed. -/
structure Denied (w : Wish) (k k' : Kernel) (e : OpenError) : Prop where
  /-- What was taken on the way is given up by its owner, who is new and so gives up nothing
  else. -/
  locks : k.Numbered → k'.locks = k.locks
  nextOwner : k.nextOwner ≤ k'.nextOwner
  atlas : k'.atlas = k.atlas
  /-- It was because of a lock only if there is one that excludes the one that is asked for: a
  client is not kept out for nothing. -/
  lock : e.IsLock → ∃ map kind, k.pins w.path = some map ∧ w.sharing.lock? = some kind ∧
    k.isExcluded (.handle k.nextOwner) (Pinned.lockedRange (k.maps map).id) kind = true

section

variable {w : Wish} {k k' k'' : Kernel} {h : Handle}

theorem Denied.not_isLock {e : OpenError} (hdenied : w.Denied k k' e)
    (hnone : w.sharing.lock? = none) : ¬e.IsLock := by
  intro hlock
  obtain ⟨map, kind, -, hkind, -⟩ := hdenied.lock hlock
  rw [hnone] at hkind
  cases hkind

/-- What is granted is judged by the locks, the numbers and the places of the maps, and by nothing
else of the machine that it was asked of. -/
theorem Granted.of_same (hregister : k''.register = k.register) (hatlas : k''.atlas = k.atlas)
    (hgranted : w.Granted k'' k' h) : w.Granted k k' h where
  owner := hgranted.owner.trans (congrArg Owner.handle (congrArg Prod.snd hregister))
  access := hgranted.access
  map := (congrFun (Kernel.pins_eq hatlas) w.path).symm.trans hgranted.map
  free kind hkind := by
    rw [← Kernel.id_eq hatlas, ← Kernel.isExcluded_congr (congrArg Prod.fst hregister)]
    exact hgranted.free kind hkind
  register := by
    have hlocks : k''.locks = k.locks := congrArg Prod.fst hregister
    have hnext : k''.nextOwner = k.nextOwner := congrArg Prod.snd hregister
    rw [hgranted.register, Kernel.id_eq hatlas, hlocks, hnext]
  atlas := hgranted.atlas.trans hatlas
  capacity := hgranted.capacity

/-- The same of what is denied. -/
theorem Denied.of_same {e : OpenError} (hregister : k''.register = k.register)
    (hatlas : k''.atlas = k.atlas) (hdenied : w.Denied k'' k' e) : w.Denied k k' e where
  locks hk := by
    have hlocks : k''.locks = k.locks := congrArg Prod.fst hregister
    have hnext : k''.nextOwner = k.nextOwner := congrArg Prod.snd hregister
    refine (hdenied.locks fun held hheld n hn => ?_).trans hlocks
    rw [hnext]
    exact hk held (hlocks ▸ hheld) n hn
  nextOwner := Nat.le_trans (Nat.le_of_eq (congrArg Prod.snd hregister).symm) hdenied.nextOwner
  atlas := hdenied.atlas.trans hatlas
  lock hlock := by
    obtain ⟨map, kind, hmap, hkind, hexcluded⟩ := hdenied.lock hlock
    have hnext : k''.nextOwner = k.nextOwner := congrArg Prod.snd hregister
    refine ⟨map, kind, (congrFun (Kernel.pins_eq hatlas) w.path).symm.trans hmap, hkind, ?_⟩
    rw [← Kernel.id_eq hatlas, ← hnext, ← Kernel.isExcluded_congr (congrArg Prod.fst hregister)]
    exact hexcluded

theorem Granted.numbered (hgranted : w.Granted k k' h)
    (hk : k.Numbered) : k'.Numbered := by
  have hlocks : k'.locks = _ := congrArg Prod.fst hgranted.register
  have hnext : k'.nextOwner = k.nextOwner + 1 := congrArg Prod.snd hgranted.register
  intro held hheld n hn
  rw [hlocks, List.mem_append, Option.mem_toList] at hheld
  rcases hheld with hnew | hold
  · have howner := (Sharing.owner_of_lockBy hnew).trans hgranted.owner
    rw [hn] at howner
    cases howner
    omega
  · have := hk held hold n hn
    omega

/-- The handle gives up what it has taken, and the locks are again those before it was opened. -/
theorem Granted.locks_close (hgranted : w.Granted k k' h)
    (hk : k.Numbered) (hlocks : k''.locks = k'.locks) : (k''.close h).locks = k.locks := by
  have hregister : k'.locks = _ := congrArg Prod.fst hgranted.register
  show (k''.release h.owner).locks = k.locks
  rw [hgranted.owner]
  refine Kernel.locks_release_next hk (fun held hheld => ?_) (hlocks.trans hregister)
  exact (Sharing.owner_of_lockBy hheld).trans hgranted.owner

end

section Cases

open Pinned

theorem not_isLock_checkKnown {name : String} {shape : Shape} {e : OpenError}
    (h : checkKnown name shape = .error e) : ¬e.IsLock := by
  rw [checkKnown] at h
  split at h
  · cases h
  · cases h
    nofun

theorem not_isLock_check {expected : Expected} {name : String} {shape : Shape} {e : OpenError}
    (h : expected.check name shape = .error e) : ¬e.IsLock := by
  unfold Expected.check at h
  split at h
  · cases h
    nofun
  · split at h
    · cases h
      nofun
    · split at h
      · cases h
        nofun
      · cases h

variable (w : Wish) {k : Kernel}

/-- A check that comes after the lock is taken passes, or what was taken is given up. -/
theorem cleaningUp_cases {ε W : Type} (r : Except ε Unit) (f : W → W) (w : W) :
    (r = .ok () ∧ ((Act.ofExcept r).cleaningUp f).run w = ⟨.ok (), w, []⟩) ∨
      ∃ e, r = .error e ∧ ((Act.ofExcept r).cleaningUp f).run w = ⟨.error e, f w, []⟩ := by
  cases r with
  | ok a => exact .inl ⟨rfl, rfl⟩
  | error e => exact .inr ⟨e, rfl, rfl⟩

/-- What opening a map does once the map is found: its lock is taken and its kind is looked at.
Where the kind is not known the new owner gives up its lock again. -/
theorem openMap_cases_of_located {k₁ : Kernel} {map : MapRef} {log : List Log.Event}
    (hlocate : (locate w.path).run k = ⟨.ok map, k₁, log⟩) (hmap : k₁.pins w.path = some map) :
    (∃ h, ((openMap w.path w.access w.sharing).run k).result = .ok h ∧
        w.Granted k₁ ((openMap w.path w.access w.sharing).run k).world h) ∨
      ∃ e, ((openMap w.path w.access w.sharing).run k).result = .error e ∧
        w.Denied k₁ ((openMap w.path w.access w.sharing).run k).world e := by
  unfold openMap
  rw [Act.run_bind_ok hlocate, Act.run_bind_ok (Act.run_read _ k₁)]
  rcases lock_cases (k₁.maps map).id (nameOf w.path) w.sharing k₁ with
    ⟨k₂, hlock, hfree, hregister, hmaps, hpins⟩ | ⟨e, kind, hlock, hkind, hheld⟩
  · have hatlas : k₂.atlas = k₁.atlas := by rw [Kernel.atlas, Kernel.atlas, hmaps, hpins]
    rw [Act.run_bind_ok hlock]
    rcases cleaningUp_cases (checkKnown (nameOf w.path) (k₁.maps map).shape)
      (·.release (.handle k₁.nextOwner)) k₂ with ⟨-, hcheck⟩ | ⟨e, hunknown, hcheck⟩
    · rw [Act.run_bind_ok hcheck]
      refine .inl ⟨_, rfl, rfl, rfl, hmap, hfree, hregister, hatlas, ?_⟩
      show (k₁.maps map).shape.capacity = (k₂.maps map).shape.capacity
      rw [hmaps]
    · rw [Act.run_bind_error hcheck]
      refine .inr ⟨e, rfl, fun hk => ?_, ?_, hatlas,
        fun h => absurd h (not_isLock_checkKnown hunknown)⟩
      · exact Kernel.locks_release_next hk (fun _ => Sharing.owner_of_lockBy)
          (congrArg Prod.fst hregister)
      · show k₁.nextOwner ≤ k₂.nextOwner
        have hnext : k₂.nextOwner = k₁.nextOwner + 1 := congrArg Prod.snd hregister
        omega
  -- refused: a lock that is held covers the byte
  · rw [Act.run_bind_error hlock]
    exact .inr ⟨e, rfl, fun _ => rfl, Nat.le_refl _, rfl, fun _ => ⟨map, kind, hmap, hkind, hheld⟩⟩

/-- Opening a map of whatever kind and sizes: it is granted what it wished for, or denied. To find
the map takes no lock and moves no map, so it may be judged by the machine before or behind that. -/
theorem openMap_cases (k : Kernel) :
    (∃ h, ((openMap w.path w.access w.sharing).run k).result = .ok h ∧
        w.Granted k ((openMap w.path w.access w.sharing).run k).world h) ∨
      ∃ e, ((openMap w.path w.access w.sharing).run k).result = .error e ∧
        w.Denied k ((openMap w.path w.access w.sharing).run k).world e := by
  have hkept := within_locate w.path k
  have hfails := failsWith_locate w.path k
  have hmap : ∀ map, ((locate w.path).run k).result = .ok map → k.pins w.path = some map :=
    fun _ => pins_of_locate
  rcases hlocate : (locate w.path).run k with ⟨e | map, k₁, log⟩
  · rw [hlocate] at hkept hfails
    unfold openMap
    rw [Act.run_bind_error hlocate]
    have hdenied : w.Denied k₁ k₁ e :=
      ⟨fun _ => rfl, Nat.le_refl _, rfl, fun h => absurd h (hfails e rfl)⟩
    exact .inr ⟨e, rfl, hdenied.of_same (congrArg Prod.fst hkept) (congrArg Prod.snd hkept)⟩
  · rw [hlocate] at hkept hmap
    have hatlas : k₁.atlas = k.atlas := congrArg Prod.snd hkept
    have hfound : k₁.pins w.path = some map := by rw [Kernel.pins_eq hatlas, hmap map rfl]
    refine (openMap_cases_of_located w hlocate hfound).imp ?_ ?_
    · exact fun ⟨h, hresult, hgranted⟩ =>
        ⟨h, hresult, hgranted.of_same (congrArg Prod.fst hkept) hatlas⟩
    · exact fun ⟨e, hresult, hdenied⟩ =>
        ⟨e, hresult, hdenied.of_same (congrArg Prod.fst hkept) hatlas⟩

/-- **Opening a map takes its lock or leaves none**, and the map that is opened is what was
expected. -/
theorem opening_cases (k : Kernel) :
    (∃ h, (w.opening.run k).result = .ok h ∧ w.Granted k (w.opening.run k).world h ∧
        w.expected.check h.name ((w.opening.run k).world.maps h.map).shape = .ok ()) ∨
      ∃ e, (w.opening.run k).result = .error e ∧ w.Denied k (w.opening.run k).world e := by
  unfold opening openAs
  rcases openMap_cases w k with ⟨h, hresult, hgranted⟩ | ⟨e, hresult, hdenied⟩
  · rw [Act.run_bind_of_ok hresult, Act.run_bind_ok (Act.run_read _ _)]
    rcases cleaningUp_cases
      (w.expected.check h.name
        ((((openMap w.path w.access w.sharing).run k).world.maps h.map).shape))
      (·.close h) ((openMap w.path w.access w.sharing).run k).world with
      ⟨hright, hcheck⟩ | ⟨e, hwrong, hcheck⟩
    · rw [Act.run_bind_ok hcheck]
      exact .inl ⟨h, rfl, hgranted, hright⟩
    -- the map is not what was expected, so it is closed again
    · rw [Act.run_bind_error hcheck]
      refine .inr ⟨e, rfl, fun hk => hgranted.locks_close hk rfl, ?_, hgranted.atlas,
        fun hlock => absurd hlock (not_isLock_check hwrong)⟩
      show k.nextOwner ≤ ((openMap w.path w.access w.sharing).run k).world.nextOwner
      have hnext : ((openMap w.path w.access w.sharing).run k).world.nextOwner
          = k.nextOwner + 1 := congrArg Prod.snd hgranted.register
      omega
  · rw [Act.run_bind_of_error hresult]
    exact .inr ⟨e, rfl, hdenied⟩

/-- What is known of a handle that an opening answers with. -/
theorem granted_of_opening {h : Handle} (hopened : (w.opening.run k).result = .ok h) :
    w.Granted k (w.opening.run k).world h ∧
      w.expected.check h.name ((w.opening.run k).world.maps h.map).shape = .ok () := by
  rcases w.opening_cases k with ⟨h', hresult, hgranted, hcheck⟩ | ⟨e, hresult, -⟩
  · obtain rfl : h' = h := Except.ok.inj (hresult.symm.trans hopened)
    exact ⟨hgranted, hcheck⟩
  · cases hresult.symm.trans hopened

theorem access_of_opening {h : Handle} (hopened : (w.opening.run k).result = .ok h) :
    h.access = w.access :=
  (w.granted_of_opening hopened).1.access

end Cases

end Wish

/-! ## Openings that no lock affects -/

/-- The operation does on a machine where nothing is locked what it does on any other: it asks for
no lock, so none can be in its way. -/
def Act.Unaffected {ε α : Type} (x : Act ε Kernel α) : Prop :=
  ∀ k, x.run k.unlocked = ⟨(x.run k).result, (x.run k).world.unlocked, (x.run k).events⟩

namespace Act.Unaffected

variable {ε ε' α β : Type}

theorem pure (a : α) : (Pure.pure a : Act ε Kernel α).Unaffected := fun _ => rfl

theorem fail (e : ε) : (Act.fail e : Act ε Kernel α).Unaffected := fun _ => rfl

theorem emit (e : Log.Event) : (Act.emit e : Act ε Kernel Unit).Unaffected := fun _ => rfl

theorem ofExcept (r : Except ε α) : (Act.ofExcept r : Act ε Kernel α).Unaffected := by
  cases r with
  | ok a => exact pure a
  | error e => exact fail e

theorem read {f : Kernel → α} (hf : ∀ k, f k.unlocked = f k) :
    (Act.read f : Act ε Kernel α).Unaffected := by
  intro k
  rw [run_read, run_read, hf]

theorem bind {x : Act ε Kernel α} {f : α → Act ε Kernel β} (hx : x.Unaffected)
    (hf : ∀ a, (f a).Unaffected) : (x >>= f).Unaffected := by
  intro k
  have hx := hx k
  rcases hrun : x.run k with ⟨e | a, k', log⟩
  · rw [hrun] at hx
    rw [run_bind_error hx, run_bind_error hrun]
  · rw [hrun] at hx
    rw [run_bind_ok hx, run_bind_ok hrun, hf a k']

theorem mapError {x : Act ε Kernel α} (hx : x.Unaffected) (f : ε → ε') :
    (x.mapError f).Unaffected := by
  intro k
  rw [run_mapError, run_mapError, hx k]

theorem cleaningUp {x : Act ε Kernel α} (hx : x.Unaffected) (owner : Owner) :
    (x.cleaningUp (·.release owner)).Unaffected := by
  intro k
  have hx := hx k
  have hsame : (x.run k.unlocked).result = (x.run k).result := by rw [hx]
  cases hresult : (x.run k).result with
  | ok a =>
    rw [run_cleaningUp_ok _ hresult, run_cleaningUp_ok _ (hsame.trans hresult), hx]
  | error e =>
    rw [run_cleaningUp_error _ hresult, run_cleaningUp_error _ (hsame.trans hresult), hx]
    rfl

end Act.Unaffected

theorem Kernel.unaffected_enter (map : MapRef) (call : MapCall) (key : Option Bytes) :
    (enter map call key).Unaffected := by
  intro k
  show enter map call key k.unlocked
    = ⟨(enter map call key k).result, (enter map call key k).world.unlocked,
        (enter map call key k).events⟩
  unfold enter
  -- what others do does not ask who holds a lock
  have hsame : k.unlocked.interference = k.interference := rfl
  rw [hsame]
  rcases Interference.strike map call key k.interference with ⟨effect, left⟩
  cases effect <;> rfl

namespace Pinned

theorem unaffected_locate (path : String) : (locate path).Unaffected := by
  have henter : ∀ (map : MapRef) (call : MapCall) (f : Errno → OpenError),
      ((Kernel.enter map call none).mapError f).Unaffected :=
    fun map call f => (Kernel.unaffected_enter map call none).mapError f
  unfold locate
  split
  · exact .fail _
  · refine .bind (.read fun _ => rfl) fun found => ?_
    cases found with
    | none => exact .fail _
    | some map =>
      refine (henter map .openPin _).bind fun _ => (henter map .info _).bind fun _ => ?_
      exact (henter map .info _).bind fun _ => .pure map

end Pinned

/-- **An opening without a lock is not affected by the locks that are held.** None of its steps asks
whether there are any. -/
theorem Wish.unaffected_opening {w : Wish} (h : w.sharing.lock? = none) :
    w.opening.Unaffected := by
  -- without a lock to take, the table of locks is not looked at
  have hlock : ∀ id name, (Pinned.lock id name w.sharing).Unaffected := by
    intro id name k
    show Pinned.lock id name w.sharing k.unlocked
      = ⟨(Pinned.lock id name w.sharing k).result,
          (Pinned.lock id name w.sharing k).world.unlocked,
          (Pinned.lock id name w.sharing k).events⟩
    simp only [Pinned.lock, h]
    rfl
  unfold Wish.opening Pinned.openAs Pinned.openMap
  refine .bind ?_ fun handle => .bind (.read fun _ => rfl) fun shape => ?_
  · refine (Pinned.unaffected_locate _).bind fun map => .bind (.read fun _ => rfl) fun found => ?_
    refine (hlock found.id _).bind fun owner => ?_
    exact ((Act.Unaffected.ofExcept _).cleaningUp owner).bind fun _ =>
      (Act.Unaffected.emit _).bind fun _ => .pure _
  · exact ((Act.Unaffected.ofExcept _).cleaningUp handle.owner).bind fun _ => .pure handle

end UidPolicy
