/-!
# Finite maps in ascending key order

The content of a map: each key at most once, entries in ascending order of their keys.

* `Ranked` — keys with a total order, given by an injective rank.
* `SortedMap` — a finite map; `toList` is its entries in ascending key order.
* `SortedMap.get?` — the view through which every operation is described: `get?_insert`,
  `get?_erase`, `get?_empty`, and `ext_get?` (two maps with the same view are the same map).
* `SortedMap.mem_keys` — a key is listed exactly when it has a value.
-/

namespace UidPolicy

/-- Keys with a total order, given by an injective rank.  Numbers compare by computation, so that
closed terms about maps can be evaluated. -/
class Ranked (K : Type) where
  /-- The position of a key in the order. -/
  rank : K → Nat
  /-- Keys of equal rank are equal. -/
  rank_injective : ∀ {a b : K}, rank a = rank b → a = b

open Ranked (rank rank_injective)

instance : Ranked Nat := ⟨id, id⟩

instance : Ranked UInt32 := ⟨UInt32.toNat, UInt32.toNat_inj.1⟩

instance : Ranked UInt64 := ⟨UInt64.toNat, UInt64.toNat_inj.1⟩

/-- A finite map, its entries in ascending key order.  The order makes equal contents equal, and
that it is there is part of the map, so that no operation has to ask for it. -/
structure SortedMap (K V : Type) [Ranked K] where
  toList : List (K × V)
  /-- Keys ascend strictly, so no key is there twice. -/
  sorted : toList.Pairwise (fun a b => rank a.1 < rank b.1)

namespace SortedMap

variable {K V : Type} [Ranked K]

/-! ## Lists of entries -/

namespace Entries

def get? (k : K) : List (K × V) → Option V
  | [] => none
  | e :: r => if rank k = rank e.1 then some e.2 else get? k r

def insert (k : K) (v : V) : List (K × V) → List (K × V)
  | [] => [(k, v)]
  | e :: r =>
    if rank k < rank e.1 then (k, v) :: e :: r
    else if rank k = rank e.1 then (k, v) :: r
    else e :: insert k v r

def erase (k : K) (l : List (K × V)) : List (K × V) :=
  l.filter fun e => rank e.1 != rank k

/-- Keys ascend strictly along the list. -/
abbrev Sorted (l : List (K × V)) : Prop :=
  l.Pairwise (fun a b => rank a.1 < rank b.1)

theorem mem_insert {k : K} {v : V} {e : K × V} {l : List (K × V)} (h : e ∈ insert k v l) :
    e = (k, v) ∨ e ∈ l := by
  induction l with
  | nil => simpa [insert] using h
  | cons d r ih =>
    rw [insert] at h
    split at h
    · simpa using h
    · split at h
      · simp only [List.mem_cons] at h ⊢
        exact h.imp_right .inr
      · simp only [List.mem_cons] at h ⊢
        rcases h with h | h
        · exact .inr (.inl h)
        · exact (ih h).imp_right .inr

theorem Sorted.insert {l : List (K × V)} (h : Sorted l) (k : K) (v : V) :
    Sorted (insert k v l) := by
  induction l with
  | nil => simp [Entries.insert]
  | cons d r ih =>
    rw [Entries.insert]
    have hd := List.pairwise_cons.1 h
    split
    · next hlt =>
      refine List.pairwise_cons.2 ⟨fun e he => ?_, h⟩
      rcases List.mem_cons.1 he with rfl | he
      · exact hlt
      · exact Nat.lt_trans hlt (hd.1 e he)
    · split
      · next heq =>
        exact List.pairwise_cons.2 ⟨fun e he => by simpa [heq] using hd.1 e he, hd.2⟩
      · refine List.pairwise_cons.2 ⟨fun e he => ?_, ih hd.2⟩
        rcases mem_insert he with rfl | he
        · show rank d.1 < rank k
          omega
        · exact hd.1 e he

theorem Sorted.erase {l : List (K × V)} (h : Sorted l) (k : K) : Sorted (erase k l) :=
  h.filter _

theorem get?_insert [DecidableEq K] (k k' : K) (v : V) (l : List (K × V)) :
    get? k' (insert k v l) = if k' = k then some v else get? k' l := by
  induction l with
  | nil =>
    by_cases h : k' = k
    · simp [insert, get?, h]
    · simp [insert, get?, h, mt rank_injective h]
  | cons d r ih =>
    rw [insert]
    by_cases h : k' = k
    · subst h
      split
      · simp [get?]
      · split
        · simp [get?]
        · next hne => simp [get?, hne, ih]
    · have hr := mt (rank_injective (a := k') (b := k)) h
      split
      · simp [get?, hr]
      · split
        · next heq =>
          have : ¬ rank k' = rank d.1 := by omega
          simp [get?, hr, this]
        · simp [get?, h, ih]

theorem get?_eq_none {k : K} {l : List (K × V)} (h : ∀ e ∈ l, rank e.1 ≠ rank k) :
    get? k l = none := by
  induction l with
  | nil => rfl
  | cons d r ih =>
    have hd := h d (.head _)
    simp only [get?, if_neg (Ne.symm hd)]
    exact ih fun e he => h e (.tail _ he)

theorem get?_erase [DecidableEq K] (k k' : K) (l : List (K × V)) :
    get? k' (erase k l) = if k' = k then none else get? k' l := by
  by_cases h : k' = k
  · subst h
    rw [if_pos rfl]
    exact get?_eq_none fun e he => by simpa using (List.mem_filter.1 he).2
  · have hr := mt (rank_injective (a := k') (b := k)) h
    rw [if_neg h]
    induction l with
    | nil => rfl
    | cons d r ih =>
      by_cases hd : rank d.1 = rank k
      · have hkd : ¬ rank k' = rank d.1 := by omega
        have : erase k (d :: r) = erase k r := by simp [erase, hd]
        rw [this, get?, if_neg hkd]
        exact ih
      · have : erase k (d :: r) = d :: erase k r := by simp [erase, hd]
        rw [this, get?, get?, ih]

theorem get?_of_mem {e : K × V} {l : List (K × V)} (hs : Sorted l) (h : e ∈ l) :
    get? e.1 l = some e.2 := by
  induction l with
  | nil => cases h
  | cons d r ih =>
    have hd := List.pairwise_cons.1 hs
    rcases List.mem_cons.1 h with rfl | h
    · simp [get?]
    · have := hd.1 e h
      rw [get?, if_neg (by omega)]
      exact ih hd.2 h

theorem mem_of_get? {k : K} {v : V} {l : List (K × V)} (h : get? k l = some v) :
    (k, v) ∈ l := by
  induction l with
  | nil => simp [get?] at h
  | cons d r ih =>
    rw [get?] at h
    split at h
    · next heq =>
      obtain ⟨a, b⟩ := d
      cases rank_injective heq
      cases h
      exact .head _
    · exact .tail _ (ih h)

theorem ext_get? {l l' : List (K × V)} (h : Sorted l) (h' : Sorted l')
    (heq : ∀ k, get? k l = get? k l') : l = l' := by
  induction l generalizing l' with
  | nil =>
    cases l' with
    | nil => rfl
    | cons d r => simpa [get?] using heq d.1
  | cons d r ih =>
    cases l' with
    | nil => simpa [get?] using heq d.1
    | cons d' r' =>
      have hd := List.pairwise_cons.1 h
      have hd' := List.pairwise_cons.1 h'
      have hmem : d ∈ d' :: r' := mem_of_get? ((heq d.1).symm.trans (get?_of_mem h (.head _)))
      have hmem' : d' ∈ d :: r := mem_of_get? ((heq d'.1).trans (get?_of_mem h' (.head _)))
      have hdd : d = d' := by
        rcases List.mem_cons.1 hmem with e | hm
        · exact e
        · rcases List.mem_cons.1 hmem' with e | hm'
          · exact e.symm
          · have := hd'.1 d hm
            have := hd.1 d' hm'
            omega
      subst hdd
      congr 1
      refine ih hd.2 hd'.2 fun k => ?_
      have hk := heq k
      rw [get?, get?] at hk
      split at hk
      · next e =>
        have hn : get? k r = none := get?_eq_none fun x hx => by have := hd.1 x hx; omega
        have hn' : get? k r' = none := get?_eq_none fun x hx => by have := hd'.1 x hx; omega
        rw [hn, hn']
      · exact hk

end Entries

/-! ## Maps -/

def empty : SortedMap K V := ⟨[], .nil⟩

instance : Inhabited (SortedMap K V) := ⟨empty⟩

instance : EmptyCollection (SortedMap K V) := ⟨empty⟩

def get? (m : SortedMap K V) (k : K) : Option V := Entries.get? k m.toList

def insert (m : SortedMap K V) (k : K) (v : V) : SortedMap K V :=
  ⟨Entries.insert k v m.toList, Entries.Sorted.insert m.sorted k v⟩

def erase (m : SortedMap K V) (k : K) : SortedMap K V :=
  ⟨Entries.erase k m.toList, Entries.Sorted.erase m.sorted k⟩

/-- The keys, ascending. -/
def keys (m : SortedMap K V) : List K := m.toList.map (·.1)

def size (m : SortedMap K V) : Nat := m.toList.length

def contains (m : SortedMap K V) (k : K) : Bool := (m.get? k).isSome

/-- The map of a list of entries; of several entries of a key, the last one counts. -/
def ofList (l : List (K × V)) : SortedMap K V :=
  l.foldl (fun m e => m.insert e.1 e.2) empty

@[simp] theorem get?_empty (k : K) : (∅ : SortedMap K V).get? k = none := rfl

@[simp] theorem keys_empty : (∅ : SortedMap K V).keys = [] := rfl

theorem get?_insert [DecidableEq K] (m : SortedMap K V) (k k' : K) (v : V) :
    (m.insert k v).get? k' = if k' = k then some v else m.get? k' :=
  Entries.get?_insert k k' v m.toList

theorem get?_erase [DecidableEq K] (m : SortedMap K V) (k k' : K) :
    (m.erase k).get? k' = if k' = k then none else m.get? k' :=
  Entries.get?_erase k k' m.toList

theorem get?_foldl_insert [DecidableEq K] {l : List (K × V)} {value : V}
    (hl : ∀ e ∈ l, e.2 = value) (m : SortedMap K V) (k : K) :
    (l.foldl (fun m e => m.insert e.1 e.2) m).get? k
      = if k ∈ l.map Prod.fst then some value else m.get? k := by
  induction l generalizing m with
  | nil => rfl
  | cons e l ih =>
    rw [List.foldl_cons, ih fun d hd => hl d (List.mem_cons_of_mem _ hd), get?_insert,
      hl e (List.mem_cons_self ..), List.map_cons]
    by_cases hk : k = e.1
    · simp only [hk, List.mem_cons_self, if_true, ite_self]
    · simp only [List.mem_cons, hk, false_or, if_false]

/-- Two maps with the same values are the same map. -/
@[ext] theorem ext_get? {m m' : SortedMap K V} (h : ∀ k, m.get? k = m'.get? k) : m = m' := by
  obtain ⟨l, hl⟩ := m
  obtain ⟨l', hl'⟩ := m'
  cases Entries.ext_get? hl hl' h
  rfl

theorem mem_toList {m : SortedMap K V} {k : K} {v : V} :
    (k, v) ∈ m.toList ↔ m.get? k = some v :=
  ⟨fun h => Entries.get?_of_mem m.sorted h, Entries.mem_of_get?⟩

/-- A key is listed exactly when it has a value. -/
theorem mem_keys {m : SortedMap K V} {k : K} : k ∈ m.keys ↔ (m.get? k).isSome := by
  simp only [keys, List.mem_map, Option.isSome_iff_exists]
  constructor
  · rintro ⟨⟨a, v⟩, h, rfl⟩
    exact ⟨v, mem_toList.1 h⟩
  · rintro ⟨v, h⟩
    exact ⟨(k, v), mem_toList.2 h, rfl⟩

theorem keys_sorted (m : SortedMap K V) : m.keys.Pairwise (fun a b => rank a < rank b) :=
  List.pairwise_map.2 m.sorted

theorem nodup_keys (m : SortedMap K V) : m.keys.Nodup := by
  refine m.keys_sorted.imp fun {a b} hlt (hsame : a = b) => ?_
  rw [hsame] at hlt
  exact Nat.lt_irrefl _ hlt

end SortedMap

end UidPolicy
