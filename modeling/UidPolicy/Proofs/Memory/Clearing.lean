import UidPolicy.Proofs.Memory.Store

/-!
# Clearing a store

Clearing deletes one key of the walk after the other and stops at the first that is refused.

- `Store.enumerated`: the keys of the walk. `Store.WalkExact`: they are the stored keys, in any
  order and with any repetitions.
- `Store.clearFault?`, `Store.beforeRefusal`: why a clearing fails, and the keys that it has
  deleted by then.
- `run_put_zoom_ends`, `run_clear_zoom_ends`: the two ends of a put, with the fault that decides,
  and those of a clearing: it removes all that is enumerated, or what comes before the first
  refused key.
- `Store.cell`: what is under one key, stored or vanished. `cell_write`, `cell_without`: how it
  changes. A store is determined by its cells and its chosen failures.
-/

namespace UidPolicy

namespace Store

variable {K V : Type} [Ranked K]

/-- The keys of the walk, as a clearing meets them: before anything is removed. -/
def enumerated (s : Store K V) : List K := s.walk s.content.keys

/-- A walk lists exactly the stored keys, in any order and with any repetitions. -/
def WalkExact (s : Store K V) : Prop := ∀ ks k, k ∈ s.walk ks ↔ k ∈ ks

/-- What is stored under a key, and whether it has vanished. Operations on other keys do not touch
it, which makes it the unit that worlds are compared by. -/
def cell (s : Store K V) (k : K) : Option V × Bool := (s.content.get? k, s.vanished k)

/-- Why a clearing fails, if it does: the fault of the first key that refuses its deletion. -/
def clearFault? (s : Store K V) : Option Fault := s.enumerated.findSome? s.writeFault?

/-- The keys enumerated before the first one that refuses its deletion. They are gone when the
clearing has failed, and no other key is. -/
def beforeRefusal (s : Store K V) : List K := s.enumerated.takeWhile fun k => !s.refuses k

theorem enumerated_of_empty {s : Store K V} (hwalk : s.WalkExact) (hempty : s.content = ∅) :
    s.enumerated = [] := by
  refine List.eq_nil_iff_forall_not_mem.2 fun k hk => ?_
  rw [enumerated, hempty] at hk
  exact List.not_mem_nil ((hwalk _ k).1 hk)

theorem visible?_of_cell {s s' : Store K V} {k : K} (h : s'.cell k = s.cell k) :
    s'.visible? k = s.visible? k := by
  have hstored : s'.content.get? k = s.content.get? k := congrArg Prod.fst h
  have hvanished : s'.vanished k = s.vanished k := congrArg Prod.snd h
  rw [visible?, visible?, hstored, hvanished]

section Cells

variable [DecidableEq K]

/-- A write leaves its value, and nothing vanished, under its key. -/
theorem cell_write (s : Store K V) (k k' : K) (value : Option V) :
    (s.write k value).cell k' = if k' = k then (value, false) else s.cell k' := by
  have hvanished : (s.write k value).vanished k' = if k' = k then false else s.vanished k' := rfl
  rw [cell, hvanished, get?_content_write, cell]
  by_cases h : k' = k
  · simp [h]
  · simp [h]

theorem cell_without (s : Store K V) (ks : List K) (k : K) :
    (s.without ks).cell k = if k ∈ ks then (none, false) else s.cell k := by
  induction ks generalizing s with
  | nil => rw [without, if_neg List.not_mem_nil]
  | cons k' ks ih =>
    rw [without, ih, cell_write]
    by_cases hk : k = k'
    · simp [hk]
    · simp [hk]

theorem walk_without (s : Store K V) (ks : List K) : (s.without ks).walk = s.walk := by
  induction ks generalizing s with
  | nil => rfl
  | cons k ks ih => exact ih (s.write k none)

/-- Writing what a read finds changes nothing. -/
theorem write_of_visible? {s : Store K V} {k : K} {v : V} (hseen : s.visible? k = some v) :
    s.write k (some v) = s := by
  have hstored := get?_of_visible? hseen
  have hcontent : s.content.insert k v = s.content := by
    ext1 k'
    rw [SortedMap.get?_insert]
    split
    · next hk => rw [hk, hstored]
    · rfl
  rw [write_of_seen hseen, hcontent]

theorem content_without_enumerated {s : Store K V} (hwalk : s.WalkExact) :
    (s.without s.enumerated).content = ∅ := by
  ext1 k
  have hcell := congrArg Prod.fst (cell_without s s.enumerated k)
  refine hcell.trans ?_
  split
  · rfl
  · next hk =>
    show s.content.get? k = none
    have hnotKey : k ∉ s.content.keys := fun h => hk ((hwalk _ k).2 h)
    rw [SortedMap.mem_keys] at hnotKey
    exact Option.not_isSome_iff_eq_none.1 hnotKey

end Cells

/-! ## Clearing as part of a world -/

section Zoom

variable [DecidableEq K] {W : Type} (p : Part W (Store K V)) {w : W}

/-- A write of a value is carried out, or it fails with its fault. -/
theorem run_put_zoom_ends (k : K) (v : V) :
    ((p.get w).writeFault? k = none ∧
        ((Store.table.zoom p).put k v).run w
          = ⟨.ok (), p.set ((p.get w).write k (some v)) w, []⟩) ∨
      ∃ e, (p.get w).writeFault? k = some e ∧
        ((Store.table.zoom p).put k v).run w = ⟨.error e, w, []⟩ := by
  cases hfault : (p.get w).writeFault? k with
  | some e => exact .inr ⟨e, rfl, run_put_zoom_fault p v hfault⟩
  | none =>
    have haccept : (p.get w).refuses k = false := by
      rw [refuses, hfault]
      rfl
    exact .inl ⟨rfl, run_put_zoom p v haccept⟩

/-- Removals stop at the first that is refused. -/
theorem run_deleteAll_zoom_ends (ks : List K) :
    (ks.findSome? (p.get w).writeFault? = none ∧
        ((Store.table.zoom p).deleteAll ks).run w
          = ⟨.ok (), p.set ((p.get w).without ks) w, []⟩) ∨
      ∃ e, ks.findSome? (p.get w).writeFault? = some e ∧
        ((Store.table.zoom p).deleteAll ks).run w
          = ⟨.error e, p.set ((p.get w).without (ks.takeWhile fun k => !(p.get w).refuses k)) w,
              []⟩ := by
  induction ks generalizing w with
  | nil =>
    refine .inl ⟨rfl, ?_⟩
    rw [without, p.set_get]
    rfl
  | cons k ks ih =>
    cases hfault : (p.get w).writeFault? k with
    | some e =>
      have hrefuse : (p.get w).refuses k = true := by
        rw [refuses, hfault]
        rfl
      refine .inr ⟨e, by rw [List.findSome?_cons, hfault], ?_⟩
      rw [Table.deleteAll, Act.run_bind_error (run_delete_zoom_fault p hfault),
        List.takeWhile_cons, hrefuse]
      show _ = Outcome.mk _ (p.set (p.get w) w) _
      rw [p.set_get]
    | none =>
      have haccept : (p.get w).refuses k = false := by
        rw [refuses, hfault]
        rfl
      -- the failures of the rest are those of the store before the first removal
      have hrest := ih (w := p.set ((p.get w).write k none) w)
      rw [p.get_set, p.set_set, p.set_set] at hrest
      rw [Table.deleteAll, Act.run_bind_ok (run_delete_zoom p haccept), List.findSome?_cons,
        hfault, List.takeWhile_cons, haccept]
      rcases hrest with ⟨hnone, hrun⟩ | ⟨e, hsome, hrun⟩
      · exact .inl ⟨hnone, by rw [hrun]; rfl⟩
      · exact .inr ⟨e, hsome, by rw [hrun]; rfl⟩

/-- **A clearing** removes all that is enumerated, or what comes before the first refused
key. -/
theorem run_clear_zoom_ends :
    ((p.get w).clearFault? = none ∧
        (Store.table.zoom p).clear.run w
          = ⟨.ok (), p.set ((p.get w).without (p.get w).enumerated) w, []⟩) ∨
      ∃ e, (p.get w).clearFault? = some e ∧
        (Store.table.zoom p).clear.run w
          = ⟨.error e, p.set ((p.get w).without (p.get w).beforeRefusal) w, []⟩ := by
  have hkeys : (Store.table.zoom p).keys.run w = ⟨.ok (p.get w).enumerated, w, []⟩ :=
    run_keys_zoom p
  rw [Table.clear, Act.run_bind_ok hkeys]
  rcases run_deleteAll_zoom_ends p (p.get w).enumerated (w := w) with
    ⟨hnone, hrun⟩ | ⟨e, hsome, hrun⟩
  · exact .inl ⟨hnone, by rw [hrun]; rfl⟩
  · exact .inr ⟨e, hsome, by rw [hrun]; rfl⟩

end Zoom

end Store

end UidPolicy
