import UidPolicy.Proofs.Firewall.Change
import UidPolicy.Proofs.Memory.Clearing

/-!
# The effect of a change

A change of an entry goes through and is stored, or it fails and leaves no trace. Which of the two
it does is decided by the world that it starts from, and so are the ids that a batch reports.

- `RuleChange.GoesThrough`: the entry can be read, its write is not refused, and there is something
  to work on. `RuleChange.effect`: the world after the change.
- `perform_succeeds`, `perform_fails`: the two ends of a change.
- `effect_effect`, `effect_comm_of_ne`: two changes of one entry, and of two entries.
- `cell_worldAfter`: what a batch leaves under one key, however often its id is listed.
- `mem_failures_iff`: an id is reported if its first turn fails, or if that turn leaves nothing to
  work on for a later one.
-/

namespace UidPolicy

open Memory (World)

namespace RuleChange

/-- Nothing stands in the way of the change: the entry can be read and written, and there is
something to work on. -/
def GoesThrough (ch : RuleChange) (uid : Uid) (w : World) : Prop :=
  w.uidOwner.readErrno = none ∧ w.uidOwner.refuses uid = false ∧
    ch.applies (w.uidOwner.visible? uid) = true

instance (ch : RuleChange) (uid : Uid) (w : World) : Decidable (ch.GoesThrough uid w) :=
  inferInstanceAs (Decidable (_ ∧ _ ∧ _))

/-- The world after the change: the changed entry is written, or nothing is. A function of the world
alone, so that two changes are compared without looking into operations. -/
def effect (ch : RuleChange) (uid : Uid) (w : World) : World :=
  if ch.GoesThrough uid w then
    { w with uidOwner := w.uidOwner.write uid (ch.apply (w.uidOwner.visible? uid)) }
  else w

section One

variable (h : Memory.Host) {ch ch' : RuleChange} {uid uid' : Uid} {w : World}

theorem effect_of_goesThrough (hgoes : ch.GoesThrough uid w) :
    ch.effect uid w
      = { w with uidOwner := w.uidOwner.write uid (ch.apply (w.uidOwner.visible? uid)) } :=
  if_pos hgoes

theorem effect_of_not_goesThrough (hgoes : ¬ch.GoesThrough uid w) : ch.effect uid w = w :=
  if_neg hgoes

/-! ## One change -/

theorem perform_succeeds (hgoes : ch.GoesThrough uid w) :
    ∃ log, (ch.perform (Memory.backing h) uid).run w = ⟨.ok (), ch.effect uid w, log⟩ := by
  obtain ⟨hread, haccept, happlies⟩ := hgoes
  rw [effect_of_goesThrough ⟨hread, haccept, happlies⟩]
  exact run_perform h ch uid hread haccept happlies

theorem perform_fails (hgoes : ¬ch.GoesThrough uid w) :
    ∃ e, (ch.perform (Memory.backing h) uid).run w = ⟨.error e, ch.effect uid w, []⟩ := by
  rw [effect_of_not_goesThrough hgoes]
  cases hread : w.uidOwner.readErrno with
  | some errno => exact run_perform_unreadable h ch uid hread
  | none =>
    cases hrefuse : w.uidOwner.refuses uid with
    | true => exact run_perform_refused h ch uid hread hrefuse
    | false =>
      cases happlies : ch.applies (w.uidOwner.visible? uid) with
      | false => exact ⟨_, run_perform_not_applies h ch uid hread happlies⟩
      | true => exact absurd ⟨hread, hrefuse, happlies⟩ hgoes

theorem world_perform (ch : RuleChange) (uid : Uid) (w : World) :
    ((ch.perform (Memory.backing h) uid).run w).world = ch.effect uid w := by
  by_cases hgoes : ch.GoesThrough uid w
  · obtain ⟨log, hrun⟩ := perform_succeeds h hgoes
    rw [hrun]
  · obtain ⟨e, hrun⟩ := perform_fails h hgoes
    rw [hrun]

@[simp] theorem readErrno_effect (ch : RuleChange) (uid : Uid) (w : World) :
    (ch.effect uid w).uidOwner.readErrno = w.uidOwner.readErrno := by
  rw [effect]
  split <;> rfl

@[simp] theorem refuses_effect (ch : RuleChange) (uid v : Uid) (w : World) :
    (ch.effect uid w).uidOwner.refuses v = w.uidOwner.refuses v := by
  rw [effect]
  split <;> rfl

/-- A change that goes through leaves the changed entry, and nothing vanished, under its key. -/
theorem cell_effect (ch : RuleChange) (uid v : Uid) (w : World) :
    (ch.effect uid w).uidOwner.cell v
      = if v = uid ∧ ch.GoesThrough uid w then (ch.apply (w.uidOwner.visible? uid), false)
        else w.uidOwner.cell v := by
  by_cases hgoes : ch.GoesThrough uid w
  · rw [effect_of_goesThrough hgoes]
    refine (Store.cell_write ..).trans ?_
    simp only [hgoes, and_true]
  · rw [effect_of_not_goesThrough hgoes, if_neg fun hc => hgoes hc.2]

theorem visible?_effect_of_ne (hne : uid' ≠ uid) :
    (ch.effect uid w).uidOwner.visible? uid' = w.uidOwner.visible? uid' := by
  refine Store.visible?_of_cell ?_
  rw [cell_effect, if_neg fun hc => hne hc.1]

theorem visible?_effect_self (hgoes : ch.GoesThrough uid w) :
    (ch.effect uid w).uidOwner.visible? uid = ch.apply (w.uidOwner.visible? uid) := by
  rw [effect_of_goesThrough hgoes]
  exact Store.visible?_write_self ..

/-! ## Two changes -/

theorem goesThrough_effect_of_ne (hne : uid' ≠ uid) :
    ch'.GoesThrough uid' (ch.effect uid w) ↔ ch'.GoesThrough uid' w := by
  rw [GoesThrough, GoesThrough, readErrno_effect, refuses_effect, visible?_effect_of_ne hne]

/-- After a change of the same entry only what there is to work on may have changed: failures are a
matter of the id, not of its entry. -/
theorem goesThrough_effect_self (hgoes : ch.GoesThrough uid w) :
    ch'.GoesThrough uid (ch.effect uid w) ↔
      ch'.applies (ch.apply (w.uidOwner.visible? uid)) = true := by
  obtain ⟨hread, haccept, happlies⟩ := hgoes
  rw [GoesThrough, readErrno_effect, refuses_effect,
    visible?_effect_self ⟨hread, haccept, happlies⟩]
  simp only [hread, haccept, true_and]

/-- Two changes of one entry: if either goes through at the start, both are made of it. -/
theorem effect_effect (ch ch' : RuleChange) (uid : Uid) (w : World) :
    ch'.effect uid (ch.effect uid w)
      = if ch.GoesThrough uid w ∨ ch'.GoesThrough uid w then
          { w with
            uidOwner := w.uidOwner.write uid (ch'.apply (ch.apply (w.uidOwner.visible? uid))) }
        else w := by
  by_cases hgoes : ch.GoesThrough uid w
  · rw [if_pos (.inl hgoes)]
    by_cases happlies : ch'.applies (ch.apply (w.uidOwner.visible? uid)) = true
    · rw [effect_of_goesThrough ((goesThrough_effect_self hgoes).2 happlies),
        visible?_effect_self hgoes, effect_of_goesThrough hgoes]
      exact congrArg (fun s => { w with uidOwner := s }) (Store.write_write ..)
    · -- the second finds no entry, and makes none of it
      rw [effect_of_not_goesThrough (mt (goesThrough_effect_self hgoes).1 happlies),
        effect_of_goesThrough hgoes, apply_of_not_applies (Bool.eq_false_iff.2 happlies)]
  · rw [effect_of_not_goesThrough hgoes]
    by_cases hgoes' : ch'.GoesThrough uid w
    · -- all that the first lacks is something to work on
      have happlies : ch.applies (w.uidOwner.visible? uid) = false :=
        Bool.eq_false_iff.2 fun happlies => hgoes ⟨hgoes'.1, hgoes'.2.1, happlies⟩
      rw [if_pos (.inr hgoes'), effect_of_goesThrough hgoes', apply_of_not_applies happlies]
    · rw [if_neg (not_or.2 ⟨hgoes, hgoes'⟩), effect_of_not_goesThrough hgoes']

/-- Changes of two entries may be made in either order. -/
theorem effect_comm_of_ne (ch ch' : RuleChange) (hne : uid ≠ uid') (w : World) :
    ch'.effect uid' (ch.effect uid w) = ch.effect uid (ch'.effect uid' w) := by
  have hgoes' : ch'.GoesThrough uid' (ch.effect uid w) ↔ ch'.GoesThrough uid' w :=
    goesThrough_effect_of_ne hne.symm
  have hgoes : ch.GoesThrough uid (ch'.effect uid' w) ↔ ch.GoesThrough uid w :=
    goesThrough_effect_of_ne hne
  by_cases h : ch.GoesThrough uid w
  · by_cases h' : ch'.GoesThrough uid' w
    · rw [effect_of_goesThrough (hgoes'.2 h'), effect_of_goesThrough (hgoes.2 h),
        visible?_effect_of_ne hne.symm, visible?_effect_of_ne hne, effect_of_goesThrough h,
        effect_of_goesThrough h']
      exact congrArg (fun s => { w with uidOwner := s }) (Store.write_comm hne ..)
    · rw [effect_of_not_goesThrough (mt hgoes'.1 h'), effect_of_not_goesThrough h']
  · rw [effect_of_not_goesThrough (mt hgoes.1 h), effect_of_not_goesThrough h]

end One

/-! ## A batch of one change -/

section Batch

variable (h : Memory.Host) (ch : RuleChange)

/-- **What a batch leaves under one key**: the entry of an id that it lists is changed once, if
nothing stands in the way at the start. -/
theorem cell_worldAfter (l : List Uid) (w : World) (v : Uid) :
    (Batch.worldAfter (ch.perform (Memory.backing h)) l w).uidOwner.cell v
      = if v ∈ l ∧ ch.GoesThrough v w then (ch.apply (w.uidOwner.visible? v), false)
        else w.uidOwner.cell v := by
  induction l generalizing w with
  | nil =>
    rw [if_neg fun hc => List.not_mem_nil hc.1]
    rfl
  | cons uid rest ih =>
    have hfirst := cell_effect ch uid v w
    rw [Batch.worldAfter, world_perform, ih]
    by_cases hv : v = uid
    · subst hv
      by_cases hgoes : ch.GoesThrough v w
      · -- a later turn finds the change made
        rw [if_pos ⟨rfl, hgoes⟩] at hfirst
        rw [hfirst, visible?_effect_self hgoes, apply_apply, ite_self,
          if_pos ⟨List.mem_cons_self .., hgoes⟩]
      · rw [effect_of_not_goesThrough hgoes, if_neg fun hc => hgoes hc.2,
          if_neg fun hc => hgoes hc.2]
    · rw [if_neg fun hc => hv hc.1] at hfirst
      rw [hfirst, visible?_effect_of_ne hv]
      simp only [goesThrough_effect_of_ne hv, List.mem_cons, hv, false_or]

/-- **Who is reported by a batch**: an id whose first turn fails, or an id with a later turn for
which the first leaves nothing to work on. -/
theorem mem_failures_iff (l : List Uid) (w : World) (v : Uid) :
    v ∈ Batch.failures (ch.perform (Memory.backing h)) l w ↔
      v ∈ l ∧ (¬ch.GoesThrough v w ∨
        1 < l.count v ∧ ch.applies (ch.apply (w.uidOwner.visible? v)) = false) := by
  induction l generalizing w with
  | nil => simp [Batch.failures]
  | cons uid rest ih =>
    -- the turns after the first, from the world that it leaves behind
    have hrest := ih (ch.effect uid w)
    by_cases hv : v = uid
    · subst hv
      by_cases hgoes : ch.GoesThrough v w
      · obtain ⟨log, hrun⟩ := perform_succeeds h hgoes
        rw [Batch.failures_cons_ok (by rw [hrun]), hrun, hrest, goesThrough_effect_self hgoes,
          visible?_effect_self hgoes, apply_apply]
        have hcount : 1 < (v :: rest).count v ↔ v ∈ rest := by
          rw [List.count_cons_self, Nat.lt_add_left_iff_pos, List.count_pos_iff]
        rw [hcount]
        cases ch.applies (ch.apply (w.uidOwner.visible? v)) with
        | true => simp [hgoes]
        | false => simp [hgoes]
      · obtain ⟨e, hrun⟩ := perform_fails h hgoes
        rw [Batch.failures_cons_error (by rw [hrun])]
        simp [hgoes]
    · rw [goesThrough_effect_of_ne hv, visible?_effect_of_ne hv] at hrest
      have hcount : (uid :: rest).count v = rest.count v := List.count_cons_of_ne (Ne.symm hv)
      rw [hcount, List.mem_cons, or_iff_right hv, ← hrest]
      by_cases hgoes : ch.GoesThrough uid w
      · obtain ⟨log, hrun⟩ := perform_succeeds h hgoes
        rw [Batch.failures_cons_ok (by rw [hrun]), hrun]
      · obtain ⟨e, hrun⟩ := perform_fails h hgoes
        rw [Batch.failures_cons_error (by rw [hrun]), hrun, List.mem_cons, or_iff_right hv]

end Batch

end RuleChange

end UidPolicy
