import UidPolicy.Control.Firewall
import UidPolicy.Proofs.Batch
import UidPolicy.Proofs.Memory.Store
import UidPolicy.Proofs.Rule.Change

/-!
# Changing a stored record

A change of an entry runs as a read and a write, with the lock held.

- `RuleChange.perform`: the operation of a change.
- `run_perform`: on readable maps a change that applies and is not refused stores what `apply`
  makes of what was seen. In every other case it fails and changes nothing (`perform_ends`).
- `visible?_worldAfter`: a batch of changes, seen at one id; repetitions do not matter.
- `failures_perform`: the ids that a batch reports are those whose writes fail.
-/

namespace UidPolicy

open Memory (World)

namespace RuleChange

/-- The change as an operation. The lock is held: a batch takes it once for all its turns. -/
def perform {W : Type} (b : Backing W) : RuleChange → Uid → Op W Unit
  | grant added iif => Firewall.addLocked b added iif
  | revoke cleared => Firewall.removeLocked b cleared

/-! ## One change -/

section Run

variable (h : Memory.Host) {w : World} (ch : RuleChange) (uid : Uid)

theorem run_record (hread : w.uidOwner.readErrno = none) :
    (Firewall.record (Memory.backing h) uid).run w
      = ⟨.ok ((w.uidOwner.visible? uid).map OwnerRecord.ofEntry), w, []⟩ := by
  rw [Firewall.record, Memory.uidOwner_backing,
    Act.run_bind_ok (Store.run_get_zoom World.uidOwnerPart uid hread)]
  rfl

theorem run_record_unreadable {errno : Errno} (hread : w.uidOwner.readErrno = some errno) :
    (Firewall.record (Memory.backing h) uid).run w
      = ⟨.error (.resource "in-memory map read" errno), w, []⟩ := by
  rw [Firewall.record, Memory.uidOwner_backing,
    Act.run_bind_error (Store.run_get_zoom_unreadable World.uidOwnerPart uid hread)]

/-- A change that applies and is not refused is stored. -/
theorem run_perform (hread : w.uidOwner.readErrno = none)
    (haccept : w.uidOwner.refuses uid = false)
    (happlies : ch.applies (w.uidOwner.visible? uid) = true) :
    ∃ log, (ch.perform (Memory.backing h) uid).run w
      = ⟨.ok (), { w with
          uidOwner := w.uidOwner.write uid (ch.apply (w.uidOwner.visible? uid)) }, log⟩ := by
  have hrecord := run_record h uid hread
  cases ch with
  | grant m i =>
    show ∃ log, (Firewall.addLocked (Memory.backing h) m i uid).run w = _
    rw [Firewall.addLocked, Act.run_bind_ok hrecord, Memory.uidOwner_backing]
    dsimp only
    rw [Act.run_bind_ok (Store.run_put_zoom World.uidOwnerPart _ haccept)]
    exact ⟨_, rfl⟩
  | revoke m =>
    obtain ⟨e, he⟩ := Option.isSome_iff_exists.1 happlies
    rw [he] at hrecord
    show ∃ log, (Firewall.removeLocked (Memory.backing h) m uid).run w = _
    rw [Firewall.removeLocked, Act.run_bind_ok hrecord, he, Memory.uidOwner_backing]
    -- an entry without matches is deleted, any other is written back
    by_cases hempty : ((OwnerRecord.ofEntry e).withoutMatch m).isEmpty
    · simp only [Option.map_some, apply, if_pos hempty]
      rw [Act.run_bind_ok (Store.run_delete_zoom World.uidOwnerPart haccept)]
      exact ⟨_, rfl⟩
    · simp only [Option.map_some, apply, if_neg hempty]
      rw [Act.run_bind_ok (Store.run_put_zoom World.uidOwnerPart _ haccept)]
      exact ⟨_, rfl⟩

/-- A change that applies fails with the fault of its write, and changes nothing. -/
theorem run_perform_fault {e : Fault} (hread : w.uidOwner.readErrno = none)
    (happlies : ch.applies (w.uidOwner.visible? uid) = true)
    (hfault : w.uidOwner.writeFault? uid = some e) :
    (ch.perform (Memory.backing h) uid).run w = ⟨.error e, w, []⟩ := by
  have hrecord := run_record h uid hread
  have hput : ∀ v, ((Memory.backing h).uidOwner.put uid v).run w = ⟨.error e, w, []⟩ :=
    fun v => Store.run_put_zoom_fault World.uidOwnerPart v hfault
  -- a grant always writes; a revocation writes or deletes, and both are refused alike
  cases ch with
  | grant m i =>
    show (Firewall.addLocked (Memory.backing h) m i uid).run w = _
    rw [Firewall.addLocked, Act.run_bind_ok hrecord]
    dsimp only
    rw [Act.run_bind_error (hput _)]
    rfl
  | revoke m =>
    obtain ⟨x, hx⟩ := Option.isSome_iff_exists.1 happlies
    rw [hx] at hrecord
    show (Firewall.removeLocked (Memory.backing h) m uid).run w = _
    rw [Firewall.removeLocked, Act.run_bind_ok hrecord]
    by_cases hempty : ((OwnerRecord.ofEntry x).withoutMatch m).isEmpty
    · have hdelete : ((Memory.backing h).uidOwner.delete uid).run w = ⟨.error e, w, []⟩ :=
        Store.run_delete_zoom_fault World.uidOwnerPart hfault
      simp only [Option.map_some, if_pos hempty]
      rw [Act.run_bind_error hdelete]
      rfl
    · simp only [Option.map_some, if_neg hempty]
      rw [Act.run_bind_error (hput _)]
      rfl

/-- A change that has nothing to work on finds no record, and changes nothing. -/
theorem run_perform_not_applies (hread : w.uidOwner.readErrno = none)
    (happlies : ch.applies (w.uidOwner.visible? uid) = false) :
    (ch.perform (Memory.backing h) uid).run w
      = ⟨.error (RuleError.noEntry uid).toFault, w, []⟩ := by
  cases ch with
  | grant => cases happlies
  | revoke m =>
    have hrecord := run_record h uid hread
    rw [Option.isSome_eq_false_iff.1 happlies |> Option.isNone_iff_eq_none.1] at hrecord
    show (Firewall.removeLocked (Memory.backing h) m uid).run w = _
    rw [Firewall.removeLocked, Act.run_bind_ok hrecord]
    rfl

theorem run_perform_refused (hread : w.uidOwner.readErrno = none)
    (hrefuse : w.uidOwner.refuses uid = true) :
    ∃ e, (ch.perform (Memory.backing h) uid).run w = ⟨.error e, w, []⟩ := by
  obtain ⟨e, hfault⟩ := Option.isSome_iff_exists.1 hrefuse
  cases happlies : ch.applies (w.uidOwner.visible? uid) with
  | false => exact ⟨_, run_perform_not_applies h ch uid hread happlies⟩
  | true => exact ⟨e, run_perform_fault h ch uid hread happlies hfault⟩

theorem run_perform_unreadable {errno : Errno} (hread : w.uidOwner.readErrno = some errno) :
    ∃ e, (ch.perform (Memory.backing h) uid).run w = ⟨.error e, w, []⟩ := by
  have hrecord := run_record_unreadable h uid hread
  refine ⟨.resource "in-memory map read" errno, ?_⟩
  cases ch with
  | grant m i => exact Act.run_bind_error hrecord
  | revoke m => exact Act.run_bind_error hrecord

/-- **The ways a change can end**: it fails and changes nothing, or the changed entry is
written. -/
theorem perform_ends :
    (∃ e, (ch.perform (Memory.backing h) uid).run w = ⟨.error e, w, []⟩) ∨
      w.uidOwner.refuses uid = false ∧ ch.applies (w.uidOwner.visible? uid) = true ∧
        ∃ log, (ch.perform (Memory.backing h) uid).run w
          = ⟨.ok (), { w with
              uidOwner := w.uidOwner.write uid (ch.apply (w.uidOwner.visible? uid)) }, log⟩ := by
  cases hread : w.uidOwner.readErrno with
  | some errno => exact .inl (run_perform_unreadable h ch uid hread)
  | none =>
    cases hrefuse : w.uidOwner.refuses uid with
    | true => exact .inl (run_perform_refused h ch uid hread hrefuse)
    | false =>
      cases happlies : ch.applies (w.uidOwner.visible? uid) with
      | false => exact .inl ⟨_, run_perform_not_applies h ch uid hread happlies⟩
      | true => exact .inr ⟨rfl, rfl, run_perform h ch uid hread hrefuse happlies⟩

/-- What a change leaves behind: nothing is written, or the changed entry is. There is one write at
most, and it comes last. -/
theorem perform_cases :
    ((ch.perform (Memory.backing h) uid).run w).world = w ∨
      w.uidOwner.refuses uid = false ∧
        ((ch.perform (Memory.backing h) uid).run w).world = { w with
          uidOwner := w.uidOwner.write uid (ch.apply (w.uidOwner.visible? uid)) } := by
  rcases perform_ends h ch uid (w := w) with ⟨e, hrun⟩ | ⟨haccept, -, log, hrun⟩
  · exact .inl (by rw [hrun])
  · exact .inr ⟨haccept, by rw [hrun]⟩

theorem written_perform :
    w.uidOwner.Written ((ch.perform (Memory.backing h) uid).run w).world.uidOwner := by
  rcases perform_cases h ch uid (w := w) with hw | ⟨haccept, hw⟩
  · rw [hw]
    exact .refl
  · rw [hw]
    exact .write _ .refl haccept

/-- What is seen after a change: its own id's entry is changed, unless writes to it fail. A change
that does not apply leaves what is seen, so it needs no case of its own. -/
theorem visible?_perform (hread : w.uidOwner.readErrno = none) (v : Uid) :
    ((ch.perform (Memory.backing h) uid).run w).world.uidOwner.visible? v
      = if v = uid ∧ w.uidOwner.refuses v = false then ch.apply (w.uidOwner.visible? v)
        else w.uidOwner.visible? v := by
  -- the change meets a refused write, an entry that it does not apply to, or nothing in its way
  cases hrefuse : w.uidOwner.refuses uid with
  | true =>
    obtain ⟨e, hrun⟩ := run_perform_refused h ch uid hread hrefuse
    rw [hrun, if_neg]
    rintro ⟨rfl, haccept⟩
    rw [hrefuse] at haccept
    cases haccept
  | false =>
    cases happlies : ch.applies (w.uidOwner.visible? uid) with
    | false =>
      rw [run_perform_not_applies h ch uid hread happlies]
      split
      · next hv => rw [hv.1, apply_of_not_applies happlies]
      · rfl
    | true =>
      obtain ⟨log, hrun⟩ := run_perform h ch uid hread hrefuse happlies
      rw [hrun]
      show (w.uidOwner.write uid (ch.apply (w.uidOwner.visible? uid))).visible? v = _
      by_cases hv : v = uid
      · subst hv
        rw [Store.visible?_write_self, if_pos ⟨rfl, hrefuse⟩]
      · rw [Store.visible?_write_of_ne _ hv, if_neg fun hc => hv hc.1]

end Run

/-! ## A batch of changes -/

section Batch

variable (h : Memory.Host) {w : World} (ch : RuleChange)

/-- A batch of changes is a sequence of writes that are not refused. -/
theorem written_worldAfter (l : List Uid) (w : World) :
    w.uidOwner.Written (Batch.worldAfter (ch.perform (Memory.backing h)) l w).uidOwner :=
  Batch.worldAfter_induction (P := fun w' : World => w.uidOwner.Written w'.uidOwner) .refl
    fun uid _ _ hw' => hw'.trans (written_perform h ch uid)

/-- A batch of changes leaves the other maps alone. -/
theorem worldAfter_eq (l : List Uid) (w : World) :
    Batch.worldAfter (ch.perform (Memory.backing h)) l w
      = { w with uidOwner := (Batch.worldAfter (ch.perform (Memory.backing h)) l w).uidOwner } := by
  refine Batch.worldAfter_induction (P := fun w' : World =>
    w' = { w with uidOwner := w'.uidOwner }) rfl fun uid _ w' hw' => ?_
  rcases perform_cases h ch uid (w := w') with hsame | ⟨-, hwritten⟩
  · rw [hsame]
    exact hw'
  · rw [hwritten, hw']

/-- **What is seen after a batch**: the entries of its ids are changed, unless their writes
fail, however often an id is listed. -/
theorem visible?_worldAfter (hread : w.uidOwner.readErrno = none) (l : List Uid) (v : Uid) :
    (Batch.worldAfter (ch.perform (Memory.backing h)) l w).uidOwner.visible? v
      = if v ∈ l ∧ w.uidOwner.refuses v = false then ch.apply (w.uidOwner.visible? v)
        else w.uidOwner.visible? v := by
  induction l generalizing w with
  | nil =>
    rw [if_neg fun hc => List.not_mem_nil hc.1]
    rfl
  | cons uid rest ih =>
    have hwritten := written_perform h ch uid (w := w)
    rw [Batch.worldAfter, ih (hwritten.readErrno_eq.trans hread), hwritten.refuses_eq,
      visible?_perform h ch uid hread]
    -- where writes fail nothing happens; elsewhere a second turn finds the change made
    cases w.uidOwner.refuses v with
    | true => simp
    | false =>
      by_cases hv : v = uid
      · simp [hv, apply_apply]
      · simp [hv]

/-- **The failures of a batch** are the ids whose writes fail, if the change applies at every
turn: it applies to every entry at the start, and either no id has a second turn or what the
change leaves behind is something that it applies to. -/
theorem failures_perform (hread : w.uidOwner.readErrno = none) {l : List Uid}
    (hturns : l.Nodup ∨ ∀ e, ch.applies (ch.apply e) = true)
    (happlies : ∀ uid ∈ l, ch.applies (w.uidOwner.visible? uid) = true) :
    Batch.failures (ch.perform (Memory.backing h)) l w = l.filter w.uidOwner.refuses := by
  induction l generalizing w with
  | nil => rfl
  | cons uid rest ih =>
    have hwritten := written_perform h ch uid (w := w)
    have hlater : ∀ v ∈ rest, ch.applies
        (((ch.perform (Memory.backing h) uid).run w).world.uidOwner.visible? v) = true := by
      intro v hv
      rw [visible?_perform h ch uid hread]
      split
      · next hc =>
        -- the turn before was this id's own
        rcases hturns with hnodup | hagain
        · exact absurd (hc.1 ▸ hv) (List.nodup_cons.1 hnodup).1
        · exact hagain _
      · exact happlies v (List.mem_cons_of_mem _ hv)
    have hrest := ih (hwritten.readErrno_eq.trans hread)
      (hturns.imp_left fun hnodup => (List.nodup_cons.1 hnodup).2) hlater
    rw [funext hwritten.refuses_eq] at hrest
    cases hrefuse : w.uidOwner.refuses uid with
    | true =>
      obtain ⟨e, hrun⟩ := run_perform_refused h ch uid hread hrefuse
      rw [Batch.failures_cons_error (by rw [hrun]), hrest, List.filter_cons_of_pos hrefuse]
    | false =>
      obtain ⟨log, hrun⟩ := run_perform h ch uid hread hrefuse
        (happlies uid (List.mem_cons_self ..))
      rw [Batch.failures_cons_ok (by rw [hrun]), hrest,
        List.filter_cons_of_neg (by simp [hrefuse])]

end Batch

end RuleChange

end UidPolicy
