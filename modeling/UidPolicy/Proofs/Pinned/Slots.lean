import UidPolicy.Proofs.Pinned.Calls
import UidPolicy.Proofs.Table

/-!
# Opened arrays

All slots of an array have values, and none can be removed.

- `TableCall.slotReply`, `TableCall.slotsAfter`: the outcome of a call on a table of slots, and the
  slots after it.
- `Handle.OnArray`: the machine has an array under a handle. The calls on it do what its slots say
  (`OnArray.call`, `OnArray.answers`).
- `KMap.get?_zeroSlots`: a new array has zeros in all its slots.
-/

namespace UidPolicy

namespace TableCall

section Slots

variable {V : Type} (name : String) (n : Nat)

/-- The outcome of a call on a table of slots. The slots below the length all have values, and
none can be removed. -/
def slotReply (slots : UInt32 → V) : TableCall UInt32 V → Except Fault (TableReply UInt32 V)
  | get i => .ok (.value (if i.toNat < n then some (slots i) else none))
  | put i _ =>
    if i.toNat < n then .ok .done else .error (.resource s!"put {name}" Errno.tooBig)
  | delete _ => .error (.unsupported s!"delete on array map {name}")
  | keys => .ok (.keys ((List.range n).map UInt32.ofNat))
  | entries => .ok (.entries ((List.range n).map fun i => (.ofNat i, slots (.ofNat i))))
  | clear => if n = 0 then .ok .done else .error (.unsupported s!"delete on array map {name}")

/-- The slots after a call: only a write inside of the array changes any, and a slot cannot be
removed. -/
def slotsAfter (slots : UInt32 → V) : TableCall UInt32 V → UInt32 → V
  | put i value => if i.toNat < n then fun j => if j = i then value else slots j else slots
  | get _ | delete _ | keys | entries | clear => slots

/-- The outcomes of several calls on a table of slots, one after the other. -/
def slotReplies (slots : UInt32 → V) :
    List (TableCall UInt32 V) → List (Except Fault (TableReply UInt32 V))
  | [] => []
  | call :: calls =>
    call.slotReply name n slots :: slotReplies (call.slotsAfter n slots) calls

end Slots

end TableCall

/-! ## Arrays -/

theorem KMap.get?_zeroSlots {capacity valueSize : Nat} {i : UInt32} (hi : i.toNat < capacity) :
    (zeroSlots capacity valueSize).get? (Stored.encode i) = some (Bytes.zeros valueSize) := by
  -- all values that are inserted are the same, so it does not matter which insertion of an index
  -- was the last
  have hall : ∀ e ∈ (List.range capacity).map fun i =>
      (Stored.encode (UInt32.ofNat i), Bytes.zeros valueSize), e.2 = Bytes.zeros valueSize := by
    intro e he
    obtain ⟨j, -, rfl⟩ := List.mem_map.1 he
    rfl
  rw [zeroSlots, SortedMap.ofList, SortedMap.get?_foldl_insert hall, if_pos]
  rw [List.map_map]
  refine List.mem_map.2 ⟨i.toNat, List.mem_range.2 hi, ?_⟩
  exact congrArg Stored.encode (UInt32.ofNat_toNat)

namespace Handle

section Array

variable {V : Type} [Stored V]

/-- The machine has an array under the handle, with values in all its slots; nobody interferes,
and other maps are as they were. -/
structure OnArray (h : Handle) (n : Nat) (start k : Kernel) (slots : UInt32 → V) : Prop where
  quiet : k.interference = []
  kind : (k.maps h.map).shape.kind = .array
  capacity : (k.maps h.map).shape.capacity = n
  /-- The handle knows the length. -/
  length : h.capacity = n
  /-- Indexes have 32 bits. -/
  small : n ≤ UInt32.size
  slots : ∀ i : UInt32, i.toNat < n →
    ((k.maps h.map).content.get? (Stored.encode i)).map Stored.decode = some (slots i)
  others : ∀ other, other ≠ h.map → k.maps other = start.maps other

variable {h : Handle} {n : Nat} {start k : Kernel} {slots : UInt32 → V}

namespace OnArray

theorem run_get (haccess : h.access = .readWrite) (hk : h.OnArray n start k slots) (i : UInt32) :
    ((h.arrayTable V).get i).run k
      = ⟨.ok (if i.toNat < n then some (slots i) else none), k, []⟩ := by
  show (h.arrayGet i : Op Kernel (Option V)).run k = _
  split
  · next hi =>
    obtain ⟨value, hvalue, hslot⟩ := Option.map_eq_some_iff.1 (hk.slots i hi)
    rw [run_arrayGet haccess hk.quiet i (hk.length.symm ▸ hi) hvalue, hslot]
  · next hi => exact run_arrayGet_outside haccess i (hk.length.symm ▸ hi)

theorem toNat_ofNat (hk : h.OnArray n start k slots) {i : Nat} (hi : i < n) :
    (UInt32.ofNat i).toNat = i :=
  UInt32.toNat_ofNat_of_lt' (Nat.lt_of_lt_of_le hi hk.small)

/-- Reading slots in a row. -/
theorem run_readAll (haccess : h.access = .readWrite) (hk : h.OnArray n start k slots)
    {is : List Nat} (his : ∀ i ∈ is, i < n) :
    ((h.arrayTable V).readAll (is.map UInt32.ofNat)).run k
      = ⟨.ok (is.map fun i => (.ofNat i, slots (.ofNat i))), k, []⟩ := by
  induction is with
  | nil => rfl
  | cons i is ih =>
    have hi := his i (List.mem_cons_self ..)
    -- indexes are numbers below the length here; as keys they are words, and the length fits into
    -- one
    have hget := hk.run_get haccess (.ofNat i)
    rw [hk.toNat_ofNat hi, if_pos hi] at hget
    have hrest := ih fun j hj => his j (List.mem_cons_of_mem _ hj)
    rw [List.map_cons, Table.readAll, Act.run_bind_ok hget, Act.run_bind_ok hrest]
    rfl

theorem run_keys (haccess : h.access = .readWrite) (hk : h.OnArray n start k slots) :
    ∃ log, (h.arrayTable V).keys.run k = ⟨.ok ((List.range n).map UInt32.ofNat), k, log⟩ := by
  obtain ⟨log, hkeys⟩ := run_arrayKeys (k := k) haccess
  rw [hk.length] at hkeys
  exact ⟨log, hkeys⟩

theorem run_entries (haccess : h.access = .readWrite) (hk : h.OnArray n start k slots) :
    ∃ log, (h.arrayTable V).entries.run k
      = ⟨.ok ((List.range n).map fun i => (.ofNat i, slots (.ofNat i))), k, log⟩ := by
  obtain ⟨log, hkeys⟩ := hk.run_keys haccess
  rw [Table.entries, Act.run_bind_ok hkeys,
    hk.run_readAll haccess fun i hi => List.mem_range.1 hi]
  exact ⟨_, rfl⟩

/-- The first removal already fails, since a slot cannot be removed: so clearing an array changes
nothing, and an array without slots is cleared. -/
theorem run_clear (haccess : h.access = .readWrite) (hk : h.OnArray n start k slots) :
    ∃ log, (h.arrayTable V).clear.run k
      = ⟨if n = 0 then .ok () else .error (.unsupported s!"delete on array map {h.name}"),
          k, log⟩ := by
  obtain ⟨log, hkeys⟩ := hk.run_keys haccess
  rw [Table.clear, Act.run_bind_ok hkeys]
  cases n with
  | zero => exact ⟨_, rfl⟩
  | succ n =>
    rw [List.range_succ_eq_map]
    exact ⟨_, rfl⟩

/-- **One call** on an opened array does what its slots say: an index outside is answered as
missing, and a slot is set or read. -/
theorem call (haccess : h.access = .readWrite) (hk : h.OnArray n start k slots)
    (call : TableCall UInt32 V) :
    ((call.run (h.arrayTable V)).run k).result = call.slotReply h.name n slots ∧
      h.OnArray n start ((call.run (h.arrayTable V)).run k).world (call.slotsAfter n slots) := by
  cases call with
  | get i =>
    rw [TableCall.run, Act.run_map, hk.run_get haccess i]
    exact ⟨rfl, hk⟩
  | put i value =>
    rw [TableCall.run, Act.run_map, TableCall.slotReply, TableCall.slotsAfter]
    by_cases hi : i.toNat < n
    -- an array has room for an index exactly below its length, whatever is stored there
    · have hroom : (k.maps h.map).hasRoom (Stored.encode i) = true := by
        rw [KMap.hasRoom, if_pos hk.kind, hk.capacity]
        exact decide_eq_true hi
      have hput : ((h.arrayTable V).put i value).run k = _ :=
        run_arrayPut haccess hk.quiet i value (hk.length.symm ▸ hi) hroom
      rw [hput, if_pos hi, if_pos hi]
      refine ⟨rfl, hk.quiet, ?_, ?_, hk.length, hk.small, fun j hj => ?_, fun other hother => ?_⟩
      · rw [Kernel.put, Kernel.maps_updateMap_self]
        exact hk.kind
      · rw [Kernel.put, Kernel.maps_updateMap_self]
        exact hk.capacity
      · rw [Kernel.put, Kernel.maps_updateMap_self]
        show ((SortedMap.insert _ _ _).get? _).map _ = _
        rw [SortedMap.get?_insert]
        -- different indexes have different forms, so one slot is written and the others are not
        by_cases hji : j = i
        · rw [if_pos hji, if_pos (congrArg _ hji), Option.map_some, Stored.decode_encode]
        · rw [if_neg hji, if_neg fun hb => hji (Stored.encode_injective hb), hk.slots j hj]
      · rw [Kernel.put, Kernel.maps_updateMap_of_ne k _ hother, hk.others other hother]
    · have hput : ((h.arrayTable V).put i value).run k = _ :=
        run_arrayPut_outside haccess i value (hk.length.symm ▸ hi)
      rw [hput, if_neg hi, if_neg hi]
      exact ⟨rfl, hk⟩
  | delete i => exact ⟨rfl, hk⟩
  | keys =>
    obtain ⟨log, hkeys⟩ := hk.run_keys haccess
    rw [TableCall.run, Act.run_map, hkeys]
    exact ⟨rfl, hk⟩
  | entries =>
    obtain ⟨log, hentries⟩ := hk.run_entries haccess
    rw [TableCall.run, Act.run_map, hentries]
    exact ⟨rfl, hk⟩
  | clear =>
    obtain ⟨log, hclear⟩ := hk.run_clear haccess
    rw [TableCall.run, Act.run_map, hclear, TableCall.slotReply]
    refine ⟨?_, hk⟩
    split <;> rfl

/-- **Several calls** do what the slots say, by induction on them. -/
theorem answers (haccess : h.access = .readWrite) (hk : h.OnArray n start k slots)
    (calls : List (TableCall UInt32 V)) :
    ((h.arrayTable V).answers calls k).1 = TableCall.slotReplies h.name n slots calls ∧
      h.OnArray n start ((h.arrayTable V).answers calls k).2
        (calls.foldl (TableCall.slotsAfter n) slots) := by
  induction calls generalizing k slots with
  | nil => exact ⟨rfl, hk⟩
  | cons call calls ih =>
    obtain ⟨hreply, hnext⟩ := hk.call haccess call
    obtain ⟨hreplies, hlast⟩ := ih hnext
    exact ⟨congr (congrArg List.cons hreply) hreplies, hlast⟩

end OnArray

end Array

end Handle

end UidPolicy
