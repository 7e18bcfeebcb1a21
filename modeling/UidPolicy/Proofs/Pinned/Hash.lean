import UidPolicy.Proofs.Memory.Store
import UidPolicy.Proofs.Pinned.Calls
import UidPolicy.Proofs.Table

/-!
# Opened hash maps

A hash map of the kernel stores bytes, which stand for keys and values.

- `StandsFor`: the bytes that a map stores stand for a content. Insertions and removals on one
  side are insertions and removals on the other. Where the stored keys have the right length there
  is such a content, `SortedMap.decoded` (`standsFor_decoded`).
- `Store.bounded`: a map in memory with room for so many keys; without failures it models its
  content (`Store.models_bounded`).
- `Handle.OnHash`: the machine has a hash map under a handle. The handle models the content that
  the bytes stand for (`Handle.models_hashTable`).
-/

namespace UidPolicy

/-! ## Bytes and contents -/

section StandsFor

variable {K V : Type} [Ranked K] [Stored K] [Stored V]

/-- The stored bytes stand for a content: what is stored under the form of a key reads as its value,
and nothing is stored under anything else. No two keys have one form, so the content has an entry
for every stored key. -/
structure StandsFor (m : SortedMap Bytes Bytes) (c : SortedMap K V) : Prop where
  get : ∀ key : K, (m.get? (Stored.encode key)).map Stored.decode = c.get? key
  /-- Every stored key is the form of a key, so that a walk shows no bytes that could not be
  read. -/
  keys : ∀ b, (m.get? b).isSome → ∃ key : K, b = Stored.encode key

namespace StandsFor

variable {m : SortedMap Bytes Bytes} {c : SortedMap K V}

theorem empty : StandsFor (K := K) (V := V) ∅ ∅ := ⟨fun _ => rfl, nofun⟩

theorem contains (h : StandsFor m c) (key : K) :
    m.contains (Stored.encode key) = c.contains key := by
  rw [SortedMap.contains, SortedMap.contains, ← h.get key, Option.isSome_map]

theorem keys_perm (h : StandsFor m c) : (m.keys.map Stored.decode).Perm c.keys := by
  have hform : ∀ b ∈ m.keys, ∃ key : K, b = Stored.encode key :=
    fun b hb => h.keys b (SortedMap.mem_keys.1 hb)
  -- keys of different forms are different, so reading them back does not merge any
  have hnodup : (m.keys.map (Stored.decode : Bytes → K)).Nodup := by
    refine List.pairwise_map.2 (m.keys_sorted.imp_of_mem fun {a b} ha hb hlt hsame => ?_)
    obtain ⟨key, rfl⟩ := hform a ha
    obtain ⟨key', rfl⟩ := hform b hb
    rw [Stored.decode_encode, Stored.decode_encode] at hsame
    rw [hsame] at hlt
    exact Nat.lt_irrefl _ hlt
  refine (List.perm_ext_iff_of_nodup hnodup c.nodup_keys).2 fun key => ?_
  have hstored : key ∈ c.keys ↔ Stored.encode key ∈ m.keys := by
    rw [SortedMap.mem_keys, SortedMap.mem_keys, ← h.get key, Option.isSome_map]
  rw [hstored, List.mem_map]
  constructor
  · rintro ⟨b, hb, rfl⟩
    obtain ⟨key, rfl⟩ := hform b hb
    rwa [Stored.decode_encode]
  · exact fun hb => ⟨_, hb, Stored.decode_encode key⟩

theorem size_eq (h : StandsFor m c) : m.size = c.size := by
  have hlength := h.keys_perm.length_eq
  rwa [List.length_map, SortedMap.keys, SortedMap.keys, List.length_map, List.length_map]
    at hlength

variable [DecidableEq K]

theorem insert (h : StandsFor m c) (key : K) (value : V) :
    StandsFor (m.insert (Stored.encode key) (Stored.encode value)) (c.insert key value) where
  get key' := by
    rw [SortedMap.get?_insert, SortedMap.get?_insert]
    by_cases hkey : key' = key
    · rw [if_pos hkey, if_pos (congrArg _ hkey), Option.map_some, Stored.decode_encode]
    · rw [if_neg hkey, if_neg fun hb => hkey (Stored.encode_injective hb), h.get]
  keys b hb := by
    rw [SortedMap.get?_insert] at hb
    by_cases hkey : b = Stored.encode key
    · exact ⟨key, hkey⟩
    · rw [if_neg hkey] at hb
      exact h.keys b hb

theorem erase (h : StandsFor m c) (key : K) :
    StandsFor (m.erase (Stored.encode key)) (c.erase key) where
  get key' := by
    rw [SortedMap.get?_erase, SortedMap.get?_erase]
    by_cases hkey : key' = key
    · rw [if_pos hkey, if_pos (congrArg _ hkey), Option.map_none]
    · rw [if_neg hkey, if_neg fun hb => hkey (Stored.encode_injective hb), h.get]
  keys b hb := by
    rw [SortedMap.get?_erase] at hb
    by_cases hkey : b = Stored.encode key
    · exact ⟨key, hkey⟩
    · rw [if_neg hkey] at hb
      exact h.keys b hb

/-- Without a key that is not there, nothing has changed. The kernel reports such a key, and the
content is the same either way. -/
theorem erase_absent (h : StandsFor m c) {key : K} (habsent : c.contains key = false) :
    StandsFor m (c.erase key) where
  get key' := by
    rw [SortedMap.get?_erase]
    -- the kernel refuses to remove such a key; the content without it is what it was
    by_cases hkey : key' = key
    · have hnone : c.get? key = none := Option.not_isSome_iff_eq_none.1 (by
        rw [show (c.get? key).isSome = false from habsent]
        nofun)
      rw [if_pos hkey, hkey, h.get, hnone]
    · rw [if_neg hkey, h.get]
  keys := h.keys

end StandsFor

variable (K V) in
/-- The content that stored bytes stand for. It is read off the bytes, so it needs no assumption on
how they came to be stored; `standsFor_decoded` says when it is the right one. -/
def SortedMap.decoded (m : SortedMap Bytes Bytes) : SortedMap K V :=
  .tabulate (fun key => (m.get? (Stored.encode key)).map Stored.decode) (m.keys.map Stored.decode)

/-- Keys are plain data, so every stored key of the right length is the form of one. -/
theorem standsFor_decoded [DecidableEq K] {m : SortedMap Bytes Bytes}
    (hsizes : ∀ b, (m.get? b).isSome → b.size = Stored.size K) : StandsFor m (m.decoded K V) where
  get key := by
    rw [SortedMap.decoded, SortedMap.get?_tabulate]
    split
    · rfl
    · next hkey =>
      have hnone : ¬(m.get? (Stored.encode key)).isSome := fun hsome =>
        hkey (List.mem_map.2 ⟨_, SortedMap.mem_keys.2 hsome, Stored.decode_encode key⟩)
      rw [Option.not_isSome_iff_eq_none.1 hnone, Option.map_none]
  keys b hb := ⟨Stored.decode b, (Stored.encode_decode (hsizes b hb)).symm⟩

/-- There is no other content that bytes can stand for. -/
theorem StandsFor.decoded_eq [DecidableEq K] {m : SortedMap Bytes Bytes} {c : SortedMap K V}
    (h : StandsFor m c) : m.decoded K V = c := by
  refine SortedMap.ext_get? fun key => ?_
  rw [SortedMap.decoded, SortedMap.get?_tabulate, h.get]
  -- where there is no such key, neither has a value
  split
  · rfl
  · next hkey =>
    rw [h.keys_perm.mem_iff, SortedMap.mem_keys, Option.not_isSome_iff_eq_none] at hkey
    exact hkey.symm

end StandsFor

/-! ## Maps with room for so many keys -/

/-- Why a write is refused: there is no room for another key. -/
def SortedMap.fullFault {K V : Type} [Ranked K] (name : String) (capacity : Nat)
    (c : SortedMap K V) (key : K) : Option Fault :=
  if c.contains key || decide (c.size < capacity) then none
  else some (.resource s!"put {name}" Errno.tooBig)

/-- A whole world as a part of itself. -/
def Part.whole (S : Type) : Part S S where
  get := id
  set s _ := s

section Hash

variable {K V : Type} [Ranked K] [DecidableEq K]

namespace Store

/-- The operations of a map in memory that has room for so many keys. The map in memory has no bound
of its own, so this is where that of the kernel is checked. -/
def bounded (name : String) (capacity : Nat) : Table (Store K V) K V :=
  { Store.table with
    put := fun key value s =>
      match s.content.fullFault name capacity key with
      | some e => ⟨.error e, s, []⟩
      | none => Store.put key value s }

/-- A map in memory models its content, with the order of its walk: whatever permutation of the keys
it shows is the one that the content is enumerated by. -/
theorem models_bounded (name : String) (capacity : Nat) :
    (bounded name capacity : Table (Store K V) K V).Models
      (fun s c => (s.Faultless ∧ ∀ ks, (s.walk ks).Perm ks) ∧ s.content = c)
      (SortedMap.fullFault name capacity) where
  get := by
    rintro s c ⟨⟨hs, -⟩, rfl⟩ key
    have hget := run_get_zoom (Part.whole (Store K V)) key hs.reads
    -- nothing vanishes without failures, so a read sees what is stored
    have hvisible : ((Part.whole (Store K V)).get s).visible? key = s.content.get? key :=
      hs.visible?_eq key
    rw [hvisible] at hget
    exact ⟨[], hget⟩
  keys := by
    rintro s c ⟨⟨-, hwalk⟩, rfl⟩
    exact ⟨_, [], rfl, hwalk _⟩
  refused := by
    rintro s c ⟨-, rfl⟩ key value e hfull
    refine ⟨[], ?_⟩
    show (bounded name capacity).put key value s = _
    simp only [bounded, hfull]
  put := by
    rintro s c ⟨⟨hs, hwalk⟩, rfl⟩ key value hfull
    -- with room the write is that of any map in memory, which refuses nothing
    refine ⟨s.write key (some value), [], ?_, ⟨hs.write key _, hwalk⟩, rfl⟩
    show (bounded name capacity).put key value s = _
    simp only [bounded, hfull]
    exact run_put_zoom (Part.whole (Store K V)) value (hs.refuses_eq key)
  delete := by
    rintro s c ⟨⟨hs, hwalk⟩, rfl⟩ key
    refine ⟨s.write key none, [], ?_, ⟨hs.write key _, hwalk⟩, rfl⟩
    exact run_delete_zoom (Part.whole (Store K V)) (hs.refuses_eq key)

end Store

variable [Stored K] [Stored V]

namespace Handle

/-- The machine has a hash map under the handle, with a content; nobody interferes, and other
maps are as they were. -/
structure OnHash (h : Handle) (capacity : Nat) (start k : Kernel) (c : SortedMap K V) : Prop where
  quiet : k.interference = []
  kind : (k.maps h.map).shape.kind = .hash
  capacity : (k.maps h.map).shape.capacity = capacity
  content : StandsFor (k.maps h.map).content c
  others : ∀ other, other ≠ h.map → k.maps other = start.maps other

omit [DecidableEq K] in
/-- A new hash map is empty. -/
theorem onHash_new {h : Handle} {k : Kernel} {id : UInt32} {shape : Shape} {order : WalkOrder}
    (hnew : k.maps h.map = .new id shape order) (hkind : shape.kind = .hash)
    (hquiet : k.interference = []) : h.OnHash shape.capacity k k (∅ : SortedMap K V) where
  quiet := hquiet
  kind := by rw [hnew]; exact hkind
  capacity := by rw [hnew]; rfl
  content := by
    rw [hnew, KMap.new, if_neg (by rw [hkind]; decide)]
    exact .empty
  others _ _ := rfl

omit [DecidableEq K] in
theorem OnHash.hasRoom {h : Handle} {capacity : Nat} {start k : Kernel} {c : SortedMap K V}
    (hk : h.OnHash capacity start k c) (key : K) :
    (k.maps h.map).hasRoom (Stored.encode key)
      = (c.contains key || decide (c.size < capacity)) := by
  -- the map counts bytes and the content counts keys, and the two are equally many
  rw [KMap.hasRoom, if_neg (by rw [hk.kind]; decide), hk.content.contains, hk.content.size_eq,
    hk.capacity]

omit [DecidableEq K] in
/-- After a change of the bytes that a change of the content stands for. Other handles on the map
change the same bytes; none of them has a turn here. -/
theorem OnHash.updateMap {h : Handle} {capacity : Nat} {start k : Kernel} {c c' : SortedMap K V}
    (hk : h.OnHash capacity start k c) (f : SortedMap Bytes Bytes → SortedMap Bytes Bytes)
    (hcontent : StandsFor (f (k.maps h.map).content) c') :
    h.OnHash capacity start (k.updateMap h.map (·.withContent f)) c' where
  quiet := hk.quiet
  kind := by rw [Kernel.maps_updateMap_self]; exact hk.kind
  capacity := by rw [Kernel.maps_updateMap_self]; exact hk.capacity
  content := by rw [Kernel.maps_updateMap_self]; exact hcontent
  others other hother := by rw [Kernel.maps_updateMap_of_ne k _ hother, hk.others other hother]

/-- An opened hash map models the content that its bytes stand for, in every order of walk, up to
the refusal of a key for which there is no room. -/
theorem models_hashTable {h : Handle} (haccess : h.access = .readWrite) (capacity : Nat)
    (start : Kernel) :
    (h.hashTable K V).Models (h.OnHash capacity start)
      (SortedMap.fullFault h.name capacity) where
  get := by
    intro k c hk key
    have hget := run_hashGet (V := V) haccess hk.quiet key
    rw [hk.content.get key] at hget
    exact ⟨[], hget⟩
  keys := by
    intro k c hk
    obtain ⟨log, hkeys⟩ := run_hashKeys (K := K) haccess hk.quiet
    -- the order of the walk is the map's own, and the content has the same keys in any order
    have hwalked := (k.maps h.map).walked_perm.map (Stored.decode (α := K))
    exact ⟨_, log, hkeys, hwalked.trans hk.content.keys_perm⟩
  refused := by
    intro k c hk key value e hfull
    have hroom := hk.hasRoom key
    rw [SortedMap.fullFault] at hfull
    split at hfull
    · cases hfull
    · next hnone =>
      cases hfull
      rw [Bool.eq_false_iff.2 hnone] at hroom
      exact ⟨[], run_hashPut_full haccess hk.quiet key value hroom⟩
  put := by
    intro k c hk key value hfull
    have hroom := hk.hasRoom key
    rw [SortedMap.fullFault] at hfull
    split at hfull
    · next hsome =>
      rw [hsome] at hroom
      exact ⟨_, [], run_hashPut haccess hk.quiet key value hroom,
        hk.updateMap _ (hk.content.insert key value)⟩
    · cases hfull
  delete := by
    intro k c hk key
    have hdelete := run_hashDelete haccess hk.quiet key (by rw [hk.kind]; decide)
    rw [hk.content.contains] at hdelete
    cases hthere : c.contains key with
    | true =>
      rw [hthere] at hdelete
      exact ⟨_, [], hdelete, hk.updateMap _ (hk.content.erase key)⟩
    | false =>
      rw [hthere] at hdelete
      exact ⟨k, [], hdelete, { hk with content := hk.content.erase_absent hthere }⟩

end Handle

end Hash

end UidPolicy
