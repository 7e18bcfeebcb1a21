import UidPolicy.Pinned.Table

/-!
# Calls without interference

What the calls on a kernel map do when no other process interferes, and what the operations of a
handle make of them.

- `Kernel.run_lookup`, `run_update`, `run_update_full`, `run_delete`: the calls on one key.
- `Kernel.run_walk`: a walk visits each key once, in the order of the map. `KMap.next?_split` is
  what a single step of it does.
- `Handle.run_hashGet`, `run_arrayGet` and so on: the operations of a handle that permits
  everything.
-/

namespace UidPolicy

/-! ## Walking -/

namespace KMap

theorem nodup_walked (m : KMap) : m.walked.Nodup :=
  m.walked_perm.nodup_iff.2 m.content.nodup_keys

/-- After the last key of a part of a walk comes the first one of the rest, whatever the order of
the walk is: a key has one place in it, which says how far the walk has come. -/
theorem next?_split {m : KMap} {before rest : List Bytes} (h : m.walked = before ++ rest) :
    m.next? before.getLast? = rest.head? := by
  cases hlast : before.getLast? with
  | none =>
    rw [next?, h, List.getLast?_eq_none_iff.1 hlast]
    rfl
  | some p =>
    obtain ⟨earlier, rfl⟩ := List.getLast?_eq_some_iff.1 hlast
    -- the last key that was visited is stored, so the map goes on behind it
    have hp : p ∈ m.walked := by
      rw [h]
      exact List.mem_append_left _ (List.mem_append_right _ (List.mem_singleton.2 rfl))
    have hcontains : m.content.contains p = true :=
      SortedMap.mem_keys.1 (m.walked_perm.mem_iff.1 hp)
    -- its place is the one at which it was visited, as no key comes twice
    have hfirst : p ∉ earlier := by
      have hnodup := m.nodup_walked
      rw [h, List.append_assoc, List.nodup_append] at hnodup
      exact fun hp => hnodup.2.2 p hp p (List.mem_cons_self ..) rfl
    have hplace : m.walked.idxOf p = earlier.length := by
      rw [h, List.append_assoc, List.idxOf_append, if_neg hfirst, List.singleton_append,
        List.idxOf_cons_self, Nat.zero_add]
    rw [next?]
    simp only [hcontains, if_true]
    rw [hplace, h, List.getElem?_append_right (by simp), List.head?_eq_getElem?]
    simp

end KMap

namespace Kernel

section Calls

variable {k : Kernel} (hquiet : k.interference = []) (map : MapRef) (key : Bytes)

include hquiet

theorem run_lookup : (lookup map key).run k
    = ⟨match (k.maps map).content.get? key with
        | some value => .ok value
        | none => .error Errno.noEntry, k, []⟩ := by
  rw [lookup, Act.run_bind_ok (run_enter hquiet _ _ _), Act.run_bind_ok (Act.run_read _ k)]
  cases (k.maps map).content.get? key <;> rfl

theorem run_update (value : Bytes) (hroom : (k.maps map).hasRoom key = true) :
    (update map key value).run k = ⟨.ok (), k.put map key value, []⟩ := by
  rw [update, Act.run_bind_ok (run_enter hquiet _ _ _), Act.run_bind_ok (Act.run_read _ k),
    if_pos hroom]
  rfl

theorem run_update_full (value : Bytes) (hroom : (k.maps map).hasRoom key = false) :
    (update map key value).run k = ⟨.error Errno.tooBig, k, []⟩ := by
  rw [update, Act.run_bind_ok (run_enter hquiet _ _ _), Act.run_bind_ok (Act.run_read _ k),
    if_neg (by rw [hroom]; nofun)]
  rfl

theorem run_delete (hkind : (k.maps map).shape.kind ≠ .array) : (delete map key).run k
    = if (k.maps map).content.contains key then ⟨.ok (), k.remove map key, []⟩
      else ⟨.error Errno.noEntry, k, []⟩ := by
  rw [delete, Act.run_bind_ok (run_enter hquiet _ _ _), Act.run_bind_ok (Act.run_read _ k),
    if_neg hkind]
  split <;> rfl

theorem run_next (previous : Option Bytes) : (next map previous).run k
    = ⟨match (k.maps map).next? previous with
        | some key => .ok key
        | none => .error Errno.noEntry, k, []⟩ := by
  rw [next, Act.run_bind_ok (run_enter hquiet _ _ _), Act.run_bind_ok (Act.run_read _ k)]
  cases (k.maps map).next? previous <;> rfl

omit key in
/-- What is left of a walk, by induction on the keys that are left. The keys before them have been
visited, and since no key occurs twice the walk does not come back to them. -/
theorem run_walkFrom {before rest : List Bytes}
    (hkeys : (k.maps map).walked = before ++ rest) {calls : Nat}
    (hcalls : rest.length ≤ calls) :
    (walkFrom map calls before.getLast?).run k = ⟨.ok rest, k, []⟩ := by
  induction rest generalizing before calls with
  | nil =>
    cases calls with
    | zero => rfl
    | succ calls =>
      -- no key comes after the last one, and the walk ends
      have hnext := run_next hquiet map before.getLast?
      rw [KMap.next?_split hkeys, List.head?_nil] at hnext
      rw [walkFrom, Act.run_attempt_bind hnext]
      rfl
  | cons key rest ih =>
    cases calls with
    | zero => exact absurd hcalls (Nat.not_succ_le_zero _)
    | succ calls =>
      have hnext := run_next hquiet map before.getLast?
      rw [KMap.next?_split hkeys, List.head?_cons] at hnext
      have hkeys' : (k.maps map).walked = (before ++ [key]) ++ rest := by
        rw [hkeys, List.append_assoc]
        rfl
      have hrest := ih hkeys' (Nat.le_of_succ_le_succ hcalls)
      rw [List.getLast?_concat] at hrest
      rw [walkFrom, Act.run_attempt_bind hnext]
      show Outcome.mk ((walkFrom map calls (some key) >>= _).run k).result _ _ = _
      rw [Act.run_bind_ok hrest]
      rfl

omit key in
/-- **A walk visits each key once**, in the order of the map. Whatever the order, the next key after
one is the one that follows it there, until there is none. -/
theorem run_walk : (walk map).run k = ⟨.ok (k.maps map).walked, k, []⟩ := by
  -- the bound counts the keys, and one round more for each other process
  have hbound : (k.maps map).walked.length ≤ k.walkBound map := by
    rw [walkBound, hquiet, KMap.length_walked, SortedMap.keys, List.length_map]
    show _ ≤ (0 + 1) * ((k.maps map).content.toList.length + 1)
    omega
  have hkeys : (k.maps map).walked = [] ++ (k.maps map).walked := rfl
  have hwalk := run_walkFrom hquiet map hkeys hbound
  rw [List.getLast?_nil] at hwalk
  rw [walk, Act.run_bind_ok (Act.run_read _ k), hwalk]
  rfl

end Calls

end Kernel

/-! ## The operations of a handle -/

namespace Handle

variable {h : Handle}

theorem checkRead_eq (hread : h.access.canRead = true) (operation : String) :
    h.checkRead operation = pure () := by
  rw [checkRead, Access.checkRead, if_pos hread]
  rfl

theorem checkWrite_eq (hwrite : h.access.canWrite = true) (operation : String) :
    h.checkWrite operation = pure () := by
  rw [checkWrite, Access.checkWrite, if_pos hwrite]
  rfl

section OrAbsent

variable {α β : Type}

/-- What the answer of a call becomes where it is no failure that there is no entry: every other
errno is reported, with the operation and the map. -/
def absentOr (h : Handle) (operation : String) (absent : β) (found : α → β) :
    Except Errno α → Except Fault β
  | .ok a => .ok (found a)
  | .error errno =>
    if errno = Errno.noEntry then .ok absent
    else .error (h.callFault operation (.call (some errno)))

theorem run_orAbsent (h : Handle) (operation : String) (absent : β) (found : α → β)
    (x : Kernel.Call α) (k : Kernel) : (h.orAbsent operation absent found x).run k
      = ⟨h.absentOr operation absent found (x.run k).result, (x.run k).world,
          (x.run k).events⟩ := by
  rcases hcall : x.run k with ⟨r, k', log⟩
  rw [orAbsent, Act.run_attempt_bind hcall]
  -- three ends, one for each branch of the answer
  cases r with
  | ok a => exact congrArg (Outcome.mk _ _) (List.append_nil log)
  | error errno =>
    dsimp only
    rw [absentOr]
    split
    · exact congrArg (Outcome.mk _ _) (List.append_nil log)
    · exact congrArg (Outcome.mk _ _) (List.append_nil log)

variable {x : Kernel.Call α} {k k' : Kernel} {log : List Log.Event} {operation : String}
  {absent : β} {found : α → β}

theorem run_orAbsent_found {a : α} (hx : x.run k = ⟨.ok a, k', log⟩) :
    (h.orAbsent operation absent found x).run k = ⟨.ok (found a), k', log⟩ := by
  rw [run_orAbsent, hx]
  rfl

theorem run_orAbsent_absent (hx : x.run k = ⟨.error Errno.noEntry, k', log⟩) :
    (h.orAbsent operation absent found x).run k = ⟨.ok absent, k', log⟩ := by
  rw [run_orAbsent, hx]
  rfl

end OrAbsent

variable (haccess : h.access = .readWrite)

include haccess

theorem checkRead_readWrite (operation : String) : h.checkRead operation = pure () :=
  checkRead_eq (by rw [haccess]; rfl) operation

theorem checkWrite_readWrite (operation : String) : h.checkWrite operation = pure () :=
  checkWrite_eq (by rw [haccess]; rfl) operation

variable {k : Kernel} (hquiet : k.interference = [])

include hquiet

section Hash

variable {K V : Type} [Stored K] [Stored V]

theorem run_hashGet (key : K) : (h.hashGet key : Op Kernel (Option V)).run k
    = ⟨.ok (((k.maps h.map).content.get? (Stored.encode key)).map Stored.decode), k, []⟩ := by
  have hlookup := Kernel.run_lookup hquiet h.map (Stored.encode key)
  rw [hashGet, checkRead_readWrite haccess, pure_bind]
  cases hvalue : (k.maps h.map).content.get? (Stored.encode key) with
  | none =>
    rw [hvalue] at hlookup
    exact run_orAbsent_absent hlookup
  | some value =>
    rw [hvalue] at hlookup
    exact run_orAbsent_found hlookup

theorem run_hashPut (key : K) (value : V)
    (hroom : (k.maps h.map).hasRoom (Stored.encode key) = true) :
    (h.hashPut key value).run k
      = ⟨.ok (), k.put h.map (Stored.encode key) (Stored.encode value), []⟩ := by
  rw [hashPut, checkWrite_readWrite haccess, pure_bind, calling, Act.run_mapError,
    Kernel.run_update hquiet h.map _ _ hroom]
  rfl

theorem run_hashPut_full (key : K) (value : V)
    (hroom : (k.maps h.map).hasRoom (Stored.encode key) = false) :
    (h.hashPut key value).run k
      = ⟨.error (.resource s!"put {h.name}" Errno.tooBig), k, []⟩ := by
  rw [hashPut, checkWrite_readWrite haccess, pure_bind, calling, Act.run_mapError,
    Kernel.run_update_full hquiet h.map _ _ hroom]
  rfl

theorem run_hashDelete (key : K) (hkind : (k.maps h.map).shape.kind ≠ .array) :
    (h.hashDelete key).run k
      = if (k.maps h.map).content.contains (Stored.encode key)
        then ⟨.ok true, k.remove h.map (Stored.encode key), []⟩ else ⟨.ok false, k, []⟩ := by
  -- the call answers that there is no such entry, and the operation takes that for an answer
  have hdelete := Kernel.run_delete hquiet h.map (Stored.encode key) hkind
  rw [hashDelete, checkWrite_readWrite haccess, pure_bind]
  split
  · next hthere =>
    rw [if_pos hthere] at hdelete
    exact run_orAbsent_found hdelete
  · next hthere =>
    rw [if_neg hthere] at hdelete
    exact run_orAbsent_absent hdelete

theorem run_hashKeys : ∃ log, (h.hashKeys : Op Kernel (List K)).run k
    = ⟨.ok ((k.maps h.map).walked.map Stored.decode), k, log⟩ := by
  have hwalk : (h.calling "iterate" (Kernel.walk h.map)).run k
      = ⟨.ok (k.maps h.map).walked, k, []⟩ := by
    rw [calling, Act.run_mapError, Kernel.run_walk hquiet]
    rfl
  rw [hashKeys, checkRead_readWrite haccess, pure_bind, Act.run_bind_ok hwalk]
  exact ⟨_, rfl⟩

end Hash

section Array

variable {V : Type} [Stored V] (index : UInt32)

theorem run_arrayGet {value : Bytes} (hindex : index.toNat < h.capacity)
    (hvalue : (k.maps h.map).content.get? (Stored.encode index) = some value) :
    (h.arrayGet index : Op Kernel (Option V)).run k
      = ⟨.ok (some (Stored.decode value)), k, []⟩ := by
  have hlookup : (h.calling "get" (Kernel.lookup h.map (Stored.encode index))).run k
      = ⟨.ok value, k, []⟩ := by
    rw [calling, Act.run_mapError, Kernel.run_lookup hquiet, hvalue]
    rfl
  rw [arrayGet, checkRead_readWrite haccess, pure_bind, if_pos hindex, Act.run_bind_ok hlookup]
  rfl

omit hquiet in
theorem run_arrayGet_outside (hindex : ¬index.toNat < h.capacity) :
    (h.arrayGet index : Op Kernel (Option V)).run k = ⟨.ok none, k, []⟩ := by
  rw [arrayGet, checkRead_readWrite haccess, pure_bind, if_neg hindex]
  rfl

theorem run_arrayPut (value : V) (hindex : index.toNat < h.capacity)
    (hroom : (k.maps h.map).hasRoom (Stored.encode index) = true) :
    (h.arrayPut index value).run k
      = ⟨.ok (), k.put h.map (Stored.encode index) (Stored.encode value), []⟩ := by
  rw [arrayPut, checkWrite_readWrite haccess, pure_bind, if_pos hindex, calling,
    Act.run_mapError, Kernel.run_update hquiet h.map _ _ hroom]
  rfl

omit hquiet in
theorem run_arrayPut_outside (value : V) (hindex : ¬index.toNat < h.capacity) :
    (h.arrayPut index value).run k
      = ⟨.error (.resource s!"put {h.name}" Errno.tooBig), k, []⟩ := by
  rw [arrayPut, checkWrite_readWrite haccess, pure_bind, if_neg hindex]
  rfl

omit hquiet in
theorem run_arrayKeys : ∃ log, h.arrayKeys.run k
    = ⟨.ok ((List.range h.capacity).map UInt32.ofNat), k, log⟩ := by
  rw [arrayKeys, checkRead_readWrite haccess, pure_bind]
  exact ⟨_, rfl⟩

end Array

end Handle

end UidPolicy
