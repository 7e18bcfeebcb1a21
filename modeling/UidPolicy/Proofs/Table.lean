import Mathlib.Data.List.Forall2
import UidPolicy.Proofs.Scope

/-!
# Calls on a map

A map is used by one call after the other, and a call that fails does not end the use. What the
calls answer is compared with a finite map, the content.

- `TableCall`, `TableReply`: a call and its reply. `Agree`: two outcomes are the same, lists up to
  their order.
- `Table.answers`: the outcomes of several calls, and the world after them. They do no more than the
  four operations may do (`TableCall.within_run`, `Table.within_answers`).
- `TableCall.reply`, `TableCall.next`: the outcome of a call on a content, and the content after
  it. Which writes are refused is a parameter.
- `Table.Models`: the four operations do to the world what the content says. `Models.call`
  carries this to every call; `Models.agree` compares two maps that model one content.
-/

namespace UidPolicy

/-- A call of an operation on a map. A run of calls is a list of these, which is what two maps are
compared by. -/
inductive TableCall (K V : Type) where
  | get (key : K)
  | put (key : K) (value : V)
  | delete (key : K)
  | keys
  | entries
  | clear

/-- The reply to a call. -/
inductive TableReply (K V : Type) where
  | value (value : Option V)
  | done
  | existed (existed : Bool)
  | keys (keys : List K)
  | entries (entries : List (K × V))

namespace TableReply

variable {K V : Type}

/-- The same reply. The order of an enumeration does not matter: a hash map has none that a caller
could rely on. -/
inductive Same : TableReply K V → TableReply K V → Prop
  | refl (r : TableReply K V) : Same r r
  | keys {ks ks' : List K} : ks.Perm ks' → Same (.keys ks) (.keys ks')
  | entries {es es' : List (K × V)} : es.Perm es' → Same (.entries es) (.entries es')

/-- The same outcome. -/
inductive Agree : Except Fault (TableReply K V) → Except Fault (TableReply K V) → Prop
  | ok {r r' : TableReply K V} : r.Same r' → Agree (.ok r) (.ok r')
  | error (e : Fault) : Agree (.error e) (.error e)

theorem Same.symm {r r' : TableReply K V} (h : r.Same r') : r'.Same r := by
  cases h with
  | refl => exact .refl r
  | keys hperm => exact .keys hperm.symm
  | entries hperm => exact .entries hperm.symm

theorem Same.trans {r r' r'' : TableReply K V} (h : r.Same r') (h' : r'.Same r'') :
    r.Same r'' := by
  cases h with
  | refl => exact h'
  | keys hperm =>
    cases h' with
    | refl => exact .keys hperm
    | keys hperm' => exact .keys (hperm.trans hperm')
  | entries hperm =>
    cases h' with
    | refl => exact .entries hperm
    | entries hperm' => exact .entries (hperm.trans hperm')

theorem Agree.symm {a a' : Except Fault (TableReply K V)} (h : Agree a a') : Agree a' a := by
  cases h with
  | ok hsame => exact .ok hsame.symm
  | error e => exact .error e

theorem Agree.trans {a a' a'' : Except Fault (TableReply K V)} (h : Agree a a')
    (h' : Agree a' a'') : Agree a a'' := by
  cases h with
  | ok hsame =>
    cases h' with
    | ok hsame' => exact .ok (hsame.trans hsame')
  | error e => exact h'

end TableReply

open TableReply (Agree)

namespace TableCall

variable {W K V : Type}

/-- Makes a call. -/
def run (t : Table W K V) : TableCall K V → Op W (TableReply K V)
  | get key => .value <$> t.get key
  | put key value => (fun _ => .done) <$> t.put key value
  | delete key => .existed <$> t.delete key
  | keys => .keys <$> t.keys
  | entries => .entries <$> t.entries
  | clear => (fun _ => .done) <$> t.clear

end TableCall

/-- The outcomes of several calls, and the world after them. -/
def Table.answers {W K V : Type} (t : Table W K V) :
    List (TableCall K V) → W → List (Except Fault (TableReply K V)) × W
  | [], w => ([], w)
  | call :: calls, w =>
    let o := (call.run t).run w
    let rest := t.answers calls o.world
    (o.result :: rest.1, rest.2)

/-! ## What calls may do -/

section Within

variable {W K V : Type} {t : Table W K V} {S : Scope W}

/-- Calls do what the four operations do. -/
theorem TableCall.within_run (hget : ∀ k, (t.get k).Within S) (hput : ∀ k v, (t.put k v).Within S)
    (hdelete : ∀ k, (t.delete k).Within S) (hkeys : t.keys.Within S) (call : TableCall K V) :
    (call.run t).Within S := by
  cases call with
  | get key => exact (hget key).map _
  | put key value => exact (hput key value).map _
  | delete key => exact (hdelete key).map _
  | keys => exact hkeys.map _
  | entries => exact (hkeys.bind (Table.within_readAll hget)).map _
  | clear => exact (hkeys.bind (Table.within_deleteAll hdelete)).map _

theorem Table.within_answers (hcall : ∀ call : TableCall K V, (call.run t).Within S)
    (calls : List (TableCall K V)) (w : W) : S.allows w (t.answers calls w).2 := by
  induction calls generalizing w with
  | nil => exact S.refl w
  | cons call calls ih => exact S.trans (hcall call w) (ih _)

end Within

/-! ## Contents -/

namespace SortedMap

variable {K V : Type} [Ranked K]

theorem filterMap_keys (c : SortedMap K V) :
    c.keys.filterMap (fun k => (c.get? k).map fun v => (k, v)) = c.toList := by
  have hentries : ∀ l : List (K × V), (∀ e ∈ l, e ∈ c.toList) →
      l.filterMap ((fun k => (c.get? k).map fun v => (k, v)) ∘ Prod.fst) = l := by
    intro l hl
    induction l with
    | nil => rfl
    | cons e l ih =>
      have hget : c.get? e.1 = some e.2 := mem_toList.1 (hl e (List.mem_cons_self ..))
      rw [List.filterMap_cons_some (b := e) (by simp [hget]),
        ih fun d hd => hl d (List.mem_cons_of_mem _ hd)]
  rw [keys, List.filterMap_map]
  exact hentries c.toList fun _ => id

theorem contains_iff {c : SortedMap K V} {k : K} : c.contains k = true ↔ k ∈ c.keys :=
  mem_keys.symm

theorem keys_eq_nil_iff {c : SortedMap K V} : c.keys = [] ↔ c = ∅ := by
  constructor
  · intro hkeys
    ext1 k
    have hnone : ¬(c.get? k).isSome := by
      rw [← mem_keys, hkeys]
      exact List.not_mem_nil
    rw [get?_empty, Option.not_isSome_iff_eq_none.1 hnone]
  · rintro rfl
    exact keys_empty

theorem size_eq_length {c : SortedMap K V} {ks : List K} (hnodup : ks.Nodup)
    (hkeys : ∀ k, k ∈ ks ↔ k ∈ c.keys) : c.size = ks.length := by
  have hperm := (List.perm_ext_iff_of_nodup hnodup c.nodup_keys).2 hkeys
  rw [hperm.length_eq, keys, List.length_map, size]

/-- A value for a new key is one more entry. -/
theorem size_insert [DecidableEq K] (c : SortedMap K V) (k : K) (v : V) :
    (c.insert k v).size = if c.contains k then c.size else c.size + 1 := by
  -- sizes are compared by the keys, which are listed once each; the new key is one more unless it
  -- was there
  have hkeys : ∀ k', k' ∈ (c.insert k v).keys ↔ k' = k ∨ k' ∈ c.keys := by
    intro k'
    rw [mem_keys, mem_keys, get?_insert]
    by_cases hk : k' = k
    · simp [hk]
    · simp [hk]
  by_cases hthere : c.contains k = true
  · have hsame : ∀ k', k' ∈ c.keys ↔ k' ∈ (c.insert k v).keys := by
      intro k'
      rw [hkeys]
      exact ⟨.inr, fun h => h.elim (fun hk => hk ▸ contains_iff.1 hthere) id⟩
    rw [if_pos hthere, size_eq_length c.nodup_keys hsame, keys, List.length_map, size]
  · have hnodup : (k :: c.keys).Nodup :=
      List.nodup_cons.2 ⟨fun hk => hthere (contains_iff.2 hk), c.nodup_keys⟩
    have hone : ∀ k', k' ∈ k :: c.keys ↔ k' ∈ (c.insert k v).keys := by
      intro k'
      rw [hkeys, List.mem_cons]
    rw [if_neg hthere, size_eq_length hnodup hone, List.length_cons, keys, List.length_map, size]

/-- The content with the value, or the absence of a value, of one key set. A removal and a write are
then one thing to prove something about. -/
def assign (c : SortedMap K V) (k : K) : Option V → SortedMap K V
  | some v => c.insert k v
  | none => c.erase k

theorem get?_assign [DecidableEq K] (c : SortedMap K V) (k k' : K) (value : Option V) :
    (c.assign k value).get? k' = if k' = k then value else c.get? k' := by
  cases value with
  | none => exact get?_erase c k k'
  | some v => exact get?_insert c k k' v

/-- The content of a function, at the given keys. Where the function has no value there is no
entry. -/
def tabulate (f : K → Option V) (ks : List K) : SortedMap K V :=
  ks.foldl (fun c k => c.assign k (f k)) ∅

theorem get?_tabulate [DecidableEq K] (f : K → Option V) (ks : List K) (k : K) :
    (tabulate f ks).get? k = if k ∈ ks then f k else none := by
  -- for any content to start from, as the first step of the fold leaves the empty one
  have hfold : ∀ c : SortedMap K V, (ks.foldl (fun c k => c.assign k (f k)) c).get? k
      = if k ∈ ks then f k else c.get? k := by
    induction ks with
    | nil =>
      intro c
      rw [if_neg List.not_mem_nil]
      rfl
    | cons k' ks ih =>
      intro c
      rw [List.foldl_cons, ih, get?_assign]
      by_cases hk : k = k'
      · simp [hk]
      · simp [hk]
  exact hfold ∅

theorem get?_foldl_erase [DecidableEq K] (ks : List K) (c : SortedMap K V) (k : K) :
    (ks.foldl erase c).get? k = if k ∈ ks then none else c.get? k := by
  induction ks generalizing c with
  | nil => rw [if_neg List.not_mem_nil]; rfl
  | cons k' ks ih =>
    rw [List.foldl_cons, ih, get?_erase]
    by_cases hk : k = k'
    · simp [hk]
    · simp [hk]

theorem foldl_erase_keys [DecidableEq K] {ks : List K} {c : SortedMap K V}
    (h : ks.Perm c.keys) : ks.foldl erase c = ∅ := by
  ext1 k
  rw [get?_foldl_erase, get?_empty]
  split
  · rfl
  · next hk =>
    have hnone : ¬(c.get? k).isSome := fun hsome => hk (h.mem_iff.2 (mem_keys.2 hsome))
    exact Option.not_isSome_iff_eq_none.1 hnone

end SortedMap

namespace TableCall

variable {K V : Type} [Ranked K] (full : SortedMap K V → K → Option Fault)

/-- The outcome of a call on a content, with the entries in their own order. -/
def reply (c : SortedMap K V) : TableCall K V → Except Fault (TableReply K V)
  | get key => .ok (.value (c.get? key))
  | put key _ =>
    match full c key with
    | some e => .error e
    | none => .ok .done
  | delete key => .ok (.existed (c.contains key))
  | keys => .ok (.keys c.keys)
  | entries => .ok (.entries c.toList)
  | clear => .ok .done

/-- The content after a call. -/
def next (c : SortedMap K V) : TableCall K V → SortedMap K V
  | put key value =>
    match full c key with
    | some _ => c
    | none => c.insert key value
  | delete key => c.erase key
  | clear => ∅
  | get _ | keys | entries => c

end TableCall

namespace Table

variable {W K V : Type} [Ranked K]

/-- The four operations do what the content says. Reads leave the world as it is; a write is
refused exactly if the content is full. -/
structure Models (t : Table W K V) (R : W → SortedMap K V → Prop)
    (full : SortedMap K V → K → Option Fault) : Prop where
  get : ∀ {w c}, R w c → ∀ k, ∃ log, (t.get k).run w = ⟨.ok (c.get? k), w, log⟩
  keys : ∀ {w c}, R w c → ∃ ks log, t.keys.run w = ⟨.ok ks, w, log⟩ ∧ ks.Perm c.keys
  refused : ∀ {w c}, R w c → ∀ k v e, full c k = some e →
    ∃ log, (t.put k v).run w = ⟨.error e, w, log⟩
  put : ∀ {w c}, R w c → ∀ k v, full c k = none →
    ∃ w' log, (t.put k v).run w = ⟨.ok (), w', log⟩ ∧ R w' (c.insert k v)
  delete : ∀ {w c}, R w c → ∀ k,
    ∃ w' log, (t.delete k).run w = ⟨.ok (c.contains k), w', log⟩ ∧ R w' (c.erase k)

namespace Models

variable {t : Table W K V} {R : W → SortedMap K V → Prop}
  {full : SortedMap K V → K → Option Fault} (ht : t.Models R full)

include ht

theorem run_readAll {w : W} {c : SortedMap K V} (hR : R w c) (ks : List K) :
    ∃ log, (t.readAll ks).run w
      = ⟨.ok (ks.filterMap fun k => (c.get? k).map fun v => (k, v)), w, log⟩ := by
  induction ks with
  | nil => exact ⟨_, rfl⟩
  | cons k ks ih =>
    obtain ⟨log, hget⟩ := ht.get hR k
    obtain ⟨log', hrest⟩ := ih
    rw [readAll, Act.run_bind_ok hget, Act.run_bind_ok hrest]
    cases hk : c.get? k with
    | none => exact ⟨_, by rw [List.filterMap_cons_none (by rw [hk]; rfl)]; rfl⟩
    | some v => exact ⟨_, by rw [List.filterMap_cons_some (by rw [hk]; rfl)]; rfl⟩

theorem run_entries {w : W} {c : SortedMap K V} (hR : R w c) :
    ∃ es log, t.entries.run w = ⟨.ok es, w, log⟩ ∧ es.Perm c.toList := by
  obtain ⟨ks, log, hkeys, hperm⟩ := ht.keys hR
  obtain ⟨log', hread⟩ := ht.run_readAll hR ks
  rw [entries, Act.run_bind_ok hkeys, hread]
  refine ⟨_, _, rfl, ?_⟩
  -- the values are read one by one along the keys, in the order in which these were listed
  rw [← c.filterMap_keys]
  exact hperm.filterMap _

theorem run_deleteAll {w : W} {c : SortedMap K V} (hR : R w c) (ks : List K) :
    ∃ w' log, (t.deleteAll ks).run w = ⟨.ok (), w', log⟩ ∧ R w' (ks.foldl SortedMap.erase c) := by
  induction ks generalizing w c with
  | nil => exact ⟨w, _, rfl, hR⟩
  | cons k ks ih =>
    obtain ⟨w', log, hdelete, hR'⟩ := ht.delete hR k
    obtain ⟨w'', log', hrest, hR''⟩ := ih hR'
    rw [deleteAll, Act.run_bind_ok hdelete, hrest]
    exact ⟨w'', _, rfl, hR''⟩

theorem run_clear [DecidableEq K] {w : W} {c : SortedMap K V} (hR : R w c) :
    ∃ w' log, t.clear.run w = ⟨.ok (), w', log⟩ ∧ R w' ∅ := by
  obtain ⟨ks, log, hkeys, hperm⟩ := ht.keys hR
  obtain ⟨w', log', hdelete, hR'⟩ := ht.run_deleteAll hR ks
  -- what was listed is all that there was, so nothing is left
  rw [SortedMap.foldl_erase_keys hperm] at hR'
  rw [clear, Act.run_bind_ok hkeys, hdelete]
  exact ⟨w', _, rfl, hR'⟩

/-- **One call** does what the content says, one case for each operation; the walk is the only one
that goes beyond a single key. -/
theorem call [DecidableEq K] {w : W} {c : SortedMap K V} (hR : R w c) (call : TableCall K V) :
    Agree ((call.run t).run w).result (call.reply full c) ∧
      R ((call.run t).run w).world (call.next full c) := by
  -- the four operations by hypothesis; the two composed ones by the runs above
  cases call with
  | get key =>
    obtain ⟨log, hget⟩ := ht.get hR key
    rw [TableCall.run, Act.run_map, hget]
    exact ⟨.ok (.refl _), hR⟩
  | put key value =>
    rw [TableCall.run, Act.run_map, TableCall.reply, TableCall.next]
    cases hfull : full c key with
    | none =>
      obtain ⟨w', log, hput, hR'⟩ := ht.put hR key value hfull
      rw [hput]
      exact ⟨.ok (.refl _), hR'⟩
    | some e =>
      obtain ⟨log, hput⟩ := ht.refused hR key value e hfull
      rw [hput]
      exact ⟨.error e, hR⟩
  | delete key =>
    obtain ⟨w', log, hdelete, hR'⟩ := ht.delete hR key
    rw [TableCall.run, Act.run_map, hdelete]
    exact ⟨.ok (.refl _), hR'⟩
  | keys =>
    obtain ⟨ks, log, hkeys, hperm⟩ := ht.keys hR
    rw [TableCall.run, Act.run_map, hkeys]
    exact ⟨.ok (.keys hperm), hR⟩
  | entries =>
    obtain ⟨es, log, hentries, hperm⟩ := ht.run_entries hR
    rw [TableCall.run, Act.run_map, hentries]
    exact ⟨.ok (.entries hperm), hR⟩
  | clear =>
    obtain ⟨w', log, hclear, hR'⟩ := ht.run_clear hR
    rw [TableCall.run, Act.run_map, hclear]
    exact ⟨.ok (.refl _), hR'⟩

end Models

/-- **Two maps that model one content** answer any calls alike, and model one content again. Neither
needs to be simulated by the other: both are compared with the content. -/
theorem Models.agree [DecidableEq K] {W' : Type} {t : Table W K V} {t' : Table W' K V}
    {R : W → SortedMap K V → Prop} {R' : W' → SortedMap K V → Prop}
    {full : SortedMap K V → K → Option Fault} (ht : t.Models R full) (ht' : t'.Models R' full)
    {w : W} {w' : W'} {c : SortedMap K V} (hR : R w c) (hR' : R' w' c)
    (calls : List (TableCall K V)) :
    List.Forall₂ Agree (t.answers calls w).1 (t'.answers calls w').1 ∧
      ∃ c', R (t.answers calls w).2 c' ∧ R' (t'.answers calls w').2 c' := by
  induction calls generalizing w w' c with
  | nil => exact ⟨.nil, c, hR, hR'⟩
  | cons call calls ih =>
    obtain ⟨hreply, hnext⟩ := ht.call hR call
    obtain ⟨hreply', hnext'⟩ := ht'.call hR' call
    -- the content after the call is the same on both sides, which is what the rest starts from
    obtain ⟨hrest, hlast⟩ := ih hnext hnext'
    exact ⟨.cons (hreply.trans hreply'.symm) hrest, hlast⟩

end Table

end UidPolicy
