import UidPolicy.Memory.World

/-!
# How a store answers

A store is described by what reads see (`Store.visible?`), by what it holds
(`Store.content`) and by which writes it refuses (`Store.refuses`).

- `Store.write`: the store after a successful write, of a value or of its absence. Its effect
  on the two views is `visible?_write` and `get?_content_write`; the chosen failures and the
  walk are unchanged.
- `Store.Written`: a store reached by writes that are not refused. Such writes leave the
  chosen failures alone, and whatever is under a key whose writes fail.
- `Store.without`: the store after removals of some keys.
- `run_get_zoom`, `run_put_zoom`, `run_delete_zoom`, `run_entries_zoom`, `run_clear_zoom`: the
  operations on a store that is a part of a world. A refused write leaves the world as it was.
- `Store.seen`: the live entries along the walk, in its order. `Store.WalkCovers`: whatever a
  read finds is on the walk.
- `Store.Faultless`: no failure is chosen and the walk lists exactly the stored keys, in any
  order and with any repetitions.
-/

namespace UidPolicy

/-! ## Operations on a part of a world -/

/-- An operation on a part, from its run on the part alone. -/
theorem Act.run_zoom {ε W S α : Type} (p : Part W S) (x : Act ε S α) (w : W) :
    (x.zoom p).run w
      = ⟨(x.run (p.get w)).result, p.set (x.run (p.get w)).world w,
          (x.run (p.get w)).events⟩ := rfl

namespace Store

variable {K V : Type} [Ranked K]

/-! ## Views -/

/-- Whether writes to a key fail. A write and a removal of a key fail together, and reads have
failures of their own. -/
def refuses (s : Store K V) (k : K) : Bool := (s.writeFault? k).isSome

/-- The live entries of some keys, in their order. A key that has vanished is left out, and one that
occurs twice is there twice. -/
def live (s : Store K V) (ks : List K) : List (K × V) :=
  ks.filterMap fun k => (s.visible? k).map fun v => (k, v)

/-- The live entries along the walk. -/
def seen (s : Store K V) : List (K × V) := s.live (s.walk s.content.keys)

theorem resource_of_writeFault? {s : Store K V} {k : K} {e : Fault}
    (h : s.writeFault? k = some e) : ∃ context errno, e = .resource context errno := by
  rw [writeFault?] at h
  cases hall : s.writeErrno with
  | some errno =>
    rw [hall] at h
    exact ⟨_, errno, (Option.some.inj h).symm⟩
  | none =>
    rw [hall] at h
    obtain ⟨-, he⟩ := Option.ite_none_right_eq_some.1 h
    exact ⟨_, _, (Option.some.inj he).symm⟩

theorem get?_of_visible? {s : Store K V} {k : K} {v : V} (h : s.visible? k = some v) :
    s.content.get? k = some v := by
  rw [visible?] at h
  split at h
  · cases h
  · exact h

/-- Every entry that reads find is on the walk. The walk may repeat keys, have any order, and
list keys whose entry has vanished. -/
def WalkCovers (s : Store K V) : Prop :=
  ∀ k, (s.visible? k).isSome = true → k ∈ s.walk s.content.keys

/-- No failure is chosen. A walk lists exactly the stored keys, in any order and with any
repetitions. -/
structure Faultless (s : Store K V) : Prop where
  reads : s.readErrno = none
  writes : s.writeErrno = none
  keys : ∀ k, s.failing k = false
  present : ∀ k, s.vanished k = false
  walks : ∀ ks k, k ∈ s.walk ks ↔ k ∈ ks

theorem Faultless.refuses_eq {s : Store K V} (h : s.Faultless) (k : K) :
    s.refuses k = false := by
  simp [refuses, writeFault?, h.writes, h.keys k]

theorem Faultless.visible?_eq {s : Store K V} (h : s.Faultless) (k : K) :
    s.visible? k = s.content.get? k := by
  simp [visible?, h.present k]

theorem Faultless.walkCovers {s : Store K V} (h : s.Faultless) : s.WalkCovers := by
  intro k hk
  rw [h.visible?_eq] at hk
  exact (h.walks _ k).2 (SortedMap.mem_keys.2 hk)

theorem faultless_empty : (empty : Store K V).Faultless where
  reads := rfl
  writes := rfl
  keys _ := rfl
  present _ := rfl
  walks _ _ := Iff.rfl

/-! ## Writes -/

variable [DecidableEq K]

/-- The store after a successful write of a value, or of its absence. Writes and removals are one
function, so that what is proved of writes need not be proved again. -/
def write (s : Store K V) (k : K) (value : Option V) : Store K V :=
  s.touched k (match value with
    | some v => s.content.insert k v
    | none => s.content.erase k)

/-- Where a read finds a value, a write changes the content only: there was nothing vanished that
it could bring back. -/
theorem write_of_seen {s : Store K V} {k : K} {v : V} (hseen : s.visible? k = some v) (v' : V) :
    s.write k (some v') = { s with content := s.content.insert k v' } := by
  have hpresent : s.vanished k = false := by
    rw [visible?] at hseen
    split at hseen
    · cases hseen
    · next h => exact Bool.eq_false_iff.2 h
  have hvanished : (fun k' => if k' = k then false else s.vanished k') = s.vanished := by
    funext k'
    split
    · next hk => rw [hk, hpresent]
    · rfl
  rw [write, touched, hvanished]

theorem get?_content_write (s : Store K V) (k k' : K) (value : Option V) :
    (s.write k value).content.get? k' = if k' = k then value else s.content.get? k' := by
  cases value with
  | none => exact SortedMap.get?_erase s.content k k'
  | some v => exact SortedMap.get?_insert s.content k k' v

/-- A write ends the vanishing of its key, so what was written is what is seen. -/
theorem visible?_write (s : Store K V) (k k' : K) (value : Option V) :
    (s.write k value).visible? k' = if k' = k then value else s.visible? k' := by
  have hv : (s.write k value).vanished k' = if k' = k then false else s.vanished k' := rfl
  rw [visible?, hv, get?_content_write, visible?]
  by_cases h : k' = k
  · simp [h]
  · simp [h]

/-- Of two writes to a key the second counts. -/
theorem write_write (s : Store K V) (k : K) (value value' : Option V) :
    (s.write k value).write k value' = s.write k value' := by
  have hcontent : ((s.write k value).write k value').content = (s.write k value').content := by
    ext1 k'
    rw [get?_content_write, get?_content_write, get?_content_write]
    by_cases hk : k' = k
    · rw [if_pos hk, if_pos hk]
    · rw [if_neg hk, if_neg hk, if_neg hk]
  -- a write makes its key seen again, so the two differ in nothing but the order of this
  have hvanished : ((s.write k value).write k value').vanished = (s.write k value').vanished := by
    funext k'
    show (if k' = k then false else if k' = k then false else s.vanished k')
      = if k' = k then false else s.vanished k'
    by_cases hk : k' = k
    · rw [if_pos hk, if_pos hk]
    · rw [if_neg hk, if_neg hk]
  show { s with
      content := ((s.write k value).write k value').content
      vanished := ((s.write k value).write k value').vanished } = s.write k value'
  rw [hcontent, hvanished]
  rfl

/-- Writes to two keys may be made in either order. -/
theorem write_comm {k j : K} (hne : k ≠ j) (s : Store K V) (value value' : Option V) :
    (s.write k value).write j value' = (s.write j value').write k value := by
  have hcontent : ((s.write k value).write j value').content
      = ((s.write j value').write k value).content := by
    ext1 i
    rw [get?_content_write, get?_content_write, get?_content_write, get?_content_write]
    by_cases hi : i = k
    · rw [if_pos hi, if_pos hi, if_neg fun hj => hne (hi.symm.trans hj)]
    · rw [if_neg hi, if_neg hi]
  -- either write makes its own key seen again
  have hvanished : ((s.write k value).write j value').vanished
      = ((s.write j value').write k value).vanished := by
    funext i
    show (if i = j then false else if i = k then false else s.vanished i)
      = if i = k then false else if i = j then false else s.vanished i
    by_cases hi : i = k
    · rw [if_pos hi, if_pos hi, ite_self]
    · rw [if_neg hi, if_neg hi]
  show { s with
      content := ((s.write k value).write j value').content
      vanished := ((s.write k value).write j value').vanished } = _
  rw [hcontent, hvanished]
  rfl

theorem visible?_write_self (s : Store K V) (k : K) (value : Option V) :
    (s.write k value).visible? k = value := by
  rw [visible?_write, if_pos rfl]

theorem visible?_write_of_ne (s : Store K V) {k k' : K} (h : k' ≠ k) (value : Option V) :
    (s.write k value).visible? k' = s.visible? k' := by
  rw [visible?_write, if_neg h]

@[simp] theorem refuses_write (s : Store K V) (k k' : K) (value : Option V) :
    (s.write k value).refuses k' = s.refuses k' := rfl

@[simp] theorem readErrno_write (s : Store K V) (k : K) (value : Option V) :
    (s.write k value).readErrno = s.readErrno := rfl

/-- A write to a store without failures leaves one. -/
theorem Faultless.write {s : Store K V} (h : s.Faultless) (k : K) (value : Option V) :
    (s.write k value).Faultless where
  reads := h.reads
  writes := h.writes
  keys := h.keys
  present k' := by
    show (if k' = k then false else s.vanished k') = false
    rw [h.present k', ite_self]
  walks := h.walks

/-- A store that comes about from another one by writes that are not refused. An operation that can
do no more than this cannot bring about whatever writes cannot. -/
inductive Written (s : Store K V) : Store K V → Prop where
  | refl : Written s s
  | write {s' : Store K V} {k : K} (value : Option V) :
      Written s s' → s'.refuses k = false → Written s (s'.write k value)

namespace Written

variable {s s' s'' : Store K V}

theorem trans (h : s.Written s') (h' : s'.Written s'') : s.Written s'' := by
  induction h' with
  | refl => exact h
  | write value _ haccept ih => exact ih.write value haccept

theorem refuses_eq (h : s.Written s') (k : K) : s'.refuses k = s.refuses k := by
  induction h with
  | refl => rfl
  | write value _ _ ih => rw [refuses_write, ih]

theorem readErrno_eq (h : s.Written s') : s'.readErrno = s.readErrno := by
  induction h with
  | refl => rfl
  | write value _ _ ih => rw [readErrno_write, ih]

theorem faultless (h : s.Written s') (hs : s.Faultless) : s'.Faultless := by
  induction h with
  | refl => exact hs
  | write value _ _ ih => exact ih.write _ value

/-- Of a store without failures writes change the content only. -/
theorem eq_of_faultless (h : s.Written s') (hs : s.Faultless) :
    s' = { s with content := s'.content } := by
  induction h with
  | refl => rfl
  | @write t k value ht _ ih =>
    have hpresent := (ht.faultless hs).present
    -- there is no key that a write could make seen again
    have hvanished : (t.write k value).vanished = t.vanished := by
      funext k'
      show (if k' = k then false else t.vanished k') = t.vanished k'
      rw [hpresent k', ite_self]
    have hwrite : t.write k value = { t with content := (t.write k value).content } := by
      show { t with
        content := (t.write k value).content
        vanished := (t.write k value).vanished } = _
      rw [hvanished]
    rw [hwrite, ih]

theorem ne_of_refuses (h : s.Written s') {k j : K} (hk : s.refuses k = true)
    (haccept : s'.refuses j = false) : k ≠ j := by
  rintro rfl
  rw [h.refuses_eq, hk] at haccept
  cases haccept

/-- What is stored under a key whose writes fail stays. -/
theorem get?_of_refuses (h : s.Written s') {k : K} (hk : s.refuses k = true) :
    s'.content.get? k = s.content.get? k := by
  induction h with
  | refl => rfl
  | write value ht haccept ih =>
    rw [get?_content_write, if_neg (ht.ne_of_refuses hk haccept), ih]

/-- What is seen under a key whose writes fail stays. -/
theorem visible?_of_refuses (h : s.Written s') {k : K} (hk : s.refuses k = true) :
    s'.visible? k = s.visible? k := by
  induction h with
  | refl => rfl
  | write value ht haccept ih =>
    rw [visible?_write_of_ne _ (ht.ne_of_refuses hk haccept), ih]

end Written

/-- The store after successful removals of some keys. -/
def without (s : Store K V) : List K → Store K V
  | [] => s
  | k :: ks => (s.write k none).without ks

theorem visible?_without (s : Store K V) (ks : List K) (k : K) :
    (s.without ks).visible? k = if k ∈ ks then none else s.visible? k := by
  induction ks generalizing s with
  | nil => rw [without, if_neg List.not_mem_nil]
  | cons k' ks ih =>
    rw [without, ih, visible?_write]
    by_cases hk : k = k'
    · simp [hk]
    · simp [hk]

/-- Without the keys of a walk that covers them, no entry is left to see. -/
theorem visible?_without_walk {s : Store K V} (h : s.WalkCovers) (k : K) :
    (s.without (s.walk s.content.keys)).visible? k = none := by
  rw [visible?_without]
  split
  · rfl
  · next hk =>
    cases hv : s.visible? k with
    | none => rfl
    | some v => exact absurd (h k (by rw [hv]; rfl)) hk

theorem written_without (s : Store K V) {ks : List K}
    (haccept : ∀ k ∈ ks, s.refuses k = false) : s.Written (s.without ks) := by
  induction ks generalizing s with
  | nil => exact .refl
  | cons k ks ih =>
    have hfirst : s.Written (s.write k none) :=
      .write none .refl (haccept k (List.mem_cons_self ..))
    exact hfirst.trans (ih (s.write k none) fun k' hk' =>
      haccept k' (List.mem_cons_of_mem _ hk'))

/-! ## The operations, as part of a world -/

section Zoom

variable {W : Type} (p : Part W (Store K V)) {w : W}

theorem run_get_zoom (k : K) (hread : (p.get w).readErrno = none) :
    ((Store.table.zoom p).get k).run w = ⟨.ok ((p.get w).visible? k), w, []⟩ := by
  show ((Store.get k).zoom p).run w = _
  have hget : (Store.get k).run (p.get w) = ⟨.ok ((p.get w).visible? k), p.get w, []⟩ := by
    show Store.get k (p.get w) = _
    rw [Store.get, hread]
  rw [Act.run_zoom, hget, p.set_get]

theorem run_get_zoom_unreadable (k : K) {errno : Errno}
    (hread : (p.get w).readErrno = some errno) :
    ((Store.table.zoom p).get k).run w
      = ⟨.error (.resource "in-memory map read" errno), w, []⟩ := by
  show ((Store.get k).zoom p).run w = _
  have hget : (Store.get k).run (p.get w)
      = ⟨.error (.resource "in-memory map read" errno), p.get w, []⟩ := by
    show Store.get k (p.get w) = _
    rw [Store.get, hread]
  rw [Act.run_zoom, hget, p.set_get]

/-- A read fails and ends the run, or what follows gets what is seen. -/
theorem get_zoom_bind_cases {α : Type} (k : K) (f : Option V → Op W α) (w : W) :
    (∃ e, ((Store.table.zoom p).get k >>= f).run w = ⟨.error e, w, []⟩) ∨
      ((Store.table.zoom p).get k >>= f).run w = (f ((p.get w).visible? k)).run w := by
  cases hread : (p.get w).readErrno with
  | some errno => exact .inl ⟨_, Act.run_bind_error (run_get_zoom_unreadable p k hread)⟩
  | none => exact .inr (Act.run_bind_ok (run_get_zoom p k hread))

theorem run_keys_zoom :
    (Store.table.zoom p).keys.run w
      = ⟨.ok ((p.get w).walk (p.get w).content.keys), w, []⟩ := by
  show (Store.keys.zoom p).run w = _
  have hkeys : Store.keys.run (p.get w)
      = ⟨.ok ((p.get w).walk (p.get w).content.keys), p.get w, []⟩ := rfl
  rw [Act.run_zoom, hkeys, p.set_get]

theorem run_put_zoom {k : K} (v : V) (haccept : (p.get w).refuses k = false) :
    ((Store.table.zoom p).put k v).run w
      = ⟨.ok (), p.set ((p.get w).write k (some v)) w, []⟩ := by
  have hfault : (p.get w).writeFault? k = none := by
    simpa [refuses] using haccept
  have hput : (Store.put k v).run (p.get w) = ⟨.ok (), (p.get w).write k (some v), []⟩ := by
    show Store.put k v (p.get w) = _
    rw [Store.put, hfault]
    rfl
  show ((Store.put k v).zoom p).run w = _
  rw [Act.run_zoom, hput]

theorem run_put_zoom_fault {k : K} (v : V) {e : Fault}
    (hfault : (p.get w).writeFault? k = some e) :
    ((Store.table.zoom p).put k v).run w = ⟨.error e, w, []⟩ := by
  have hput : (Store.put k v).run (p.get w) = ⟨.error e, p.get w, []⟩ := by
    show Store.put k v (p.get w) = _
    rw [Store.put, hfault]
  show ((Store.put k v).zoom p).run w = _
  rw [Act.run_zoom, hput, p.set_get]

theorem run_put_zoom_refused {k : K} (v : V) (hrefuse : (p.get w).refuses k = true) :
    ∃ e, ((Store.table.zoom p).put k v).run w = ⟨.error e, w, []⟩ := by
  obtain ⟨e, hfault⟩ := Option.isSome_iff_exists.1 hrefuse
  exact ⟨e, run_put_zoom_fault p v hfault⟩

theorem run_delete_zoom {k : K} (haccept : (p.get w).refuses k = false) :
    ((Store.table.zoom p).delete k).run w
      = ⟨.ok ((p.get w).content.contains k), p.set ((p.get w).write k none) w, []⟩ := by
  have hfault : (p.get w).writeFault? k = none := by
    simpa [refuses] using haccept
  have hdelete : (Store.delete k).run (p.get w)
      = ⟨.ok ((p.get w).content.contains k), (p.get w).write k none, []⟩ := by
    show Store.delete k (p.get w) = _
    rw [Store.delete, hfault]
    rfl
  show ((Store.delete k).zoom p).run w = _
  rw [Act.run_zoom, hdelete]

theorem run_delete_zoom_fault {k : K} {e : Fault}
    (hfault : (p.get w).writeFault? k = some e) :
    ((Store.table.zoom p).delete k).run w = ⟨.error e, w, []⟩ := by
  have hdelete : (Store.delete k).run (p.get w) = ⟨.error e, p.get w, []⟩ := by
    show Store.delete k (p.get w) = _
    rw [Store.delete, hfault]
  show ((Store.delete k).zoom p).run w = _
  rw [Act.run_zoom, hdelete, p.set_get]

theorem run_delete_zoom_refused {k : K} (hrefuse : (p.get w).refuses k = true) :
    ∃ e, ((Store.table.zoom p).delete k).run w = ⟨.error e, w, []⟩ := by
  obtain ⟨e, hfault⟩ := Option.isSome_iff_exists.1 hrefuse
  exact ⟨e, run_delete_zoom_fault p hfault⟩

/-- A write of a value fails and changes nothing, or it is stored. -/
theorem put_zoom_cases (k : K) (v : V) (w : W) :
    (∃ e, ((Store.table.zoom p).put k v).run w = ⟨.error e, w, []⟩) ∨
      ((Store.table.zoom p).put k v).run w
        = ⟨.ok (), p.set ((p.get w).write k (some v)) w, []⟩ := by
  cases hrefuse : (p.get w).refuses k with
  | true => exact .inl (run_put_zoom_refused p v hrefuse)
  | false => exact .inr (run_put_zoom p v hrefuse)

/-- A removal fails and changes nothing, or it is carried out. -/
theorem delete_zoom_cases (k : K) (w : W) :
    (∃ e, ((Store.table.zoom p).delete k).run w = ⟨.error e, w, []⟩) ∨
      ((Store.table.zoom p).delete k).run w
        = ⟨.ok ((p.get w).content.contains k), p.set ((p.get w).write k none) w, []⟩ := by
  cases hrefuse : (p.get w).refuses k with
  | true => exact .inl (run_delete_zoom_refused p hrefuse)
  | false => exact .inr (run_delete_zoom p hrefuse)

/-- Writing a value is a write that is not refused, or nothing. -/
theorem written_put_zoom (k : K) (v : V) (w : W) :
    (p.get w).Written (p.get (((Store.table.zoom p).put k v).run w).world) := by
  cases hrefuse : (p.get w).refuses k with
  | true =>
    obtain ⟨e, hput⟩ := run_put_zoom_refused p v hrefuse
    rw [hput]
    exact .refl
  | false =>
    rw [run_put_zoom p v hrefuse, p.get_set]
    exact .write (some v) .refl hrefuse

/-- So is removing one. -/
theorem written_delete_zoom (k : K) (w : W) :
    (p.get w).Written (p.get (((Store.table.zoom p).delete k).run w).world) := by
  cases hrefuse : (p.get w).refuses k with
  | true =>
    obtain ⟨e, hdelete⟩ := run_delete_zoom_refused p hrefuse
    rw [hdelete]
    exact .refl
  | false =>
    rw [run_delete_zoom p hrefuse, p.get_set]
    exact .write none .refl hrefuse

/-! ### Walks -/

theorem run_readAll_zoom (hread : (p.get w).readErrno = none) (ks : List K) :
    ((Store.table.zoom p).readAll ks).run w = ⟨.ok ((p.get w).live ks), w, []⟩ := by
  induction ks with
  | nil => rfl
  | cons k ks ih =>
    rw [Table.readAll, Act.run_bind_ok (run_get_zoom p k hread), Act.run_bind_ok ih]
    cases hv : (p.get w).visible? k with
    | none => simp [live, hv]
    | some v => simp [live, hv]

/-- With readable values, a walk answers the live entries and changes nothing. If one value cannot
be read the whole walk fails. -/
theorem run_entries_zoom (hread : (p.get w).readErrno = none) :
    (Store.table.zoom p).entries.run w = ⟨.ok (p.get w).seen, w, []⟩ := by
  rw [Table.entries, Act.run_bind_ok (run_keys_zoom p), run_readAll_zoom p hread]
  rfl

/-! ### Removals -/

/-- Removals that are not refused are all carried out. -/
theorem run_deleteAll_zoom {ks : List K} (haccept : ∀ k ∈ ks, (p.get w).refuses k = false) :
    ((Store.table.zoom p).deleteAll ks).run w
      = ⟨.ok (), p.set ((p.get w).without ks) w, []⟩ := by
  induction ks generalizing w with
  | nil =>
    rw [without, p.set_get]
    rfl
  | cons k ks ih =>
    -- a removal does not change which keys are refused
    have hrest : ∀ k' ∈ ks,
        (p.get (p.set ((p.get w).write k none) w)).refuses k' = false := by
      intro k' hk'
      rw [p.get_set, refuses_write]
      exact haccept k' (List.mem_cons_of_mem _ hk')
    rw [Table.deleteAll,
      Act.run_bind_ok (run_delete_zoom p (haccept k (List.mem_cons_self ..))), ih hrest,
      p.get_set, p.set_set]
    rfl

/-- Clearing a store that refuses nothing removes what is on the walk. -/
theorem run_clear_zoom (haccept : ∀ k, (p.get w).refuses k = false) :
    (Store.table.zoom p).clear.run w
      = ⟨.ok (), p.set ((p.get w).without ((p.get w).walk (p.get w).content.keys)) w, []⟩ := by
  rw [Table.clear, Act.run_bind_ok (run_keys_zoom p),
    run_deleteAll_zoom p fun k _ => haccept k]
  rfl

end Zoom

end Store

/-! ## The maps in memory -/

namespace Memory

theorem configuration_backing (h : Host) :
    (backing h).configuration = Store.table.zoom World.configurationPart := rfl

theorem uidOwner_backing (h : Host) :
    (backing h).uidOwner = Store.table.zoom World.uidOwnerPart := rfl

theorem dataSaver_backing (h : Host) :
    (backing h).dataSaver = Store.table.zoom World.dataSaverPart := rfl

end Memory

end UidPolicy
