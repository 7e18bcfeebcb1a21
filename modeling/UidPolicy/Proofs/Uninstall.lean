import UidPolicy.Command.Run
import UidPolicy.Proofs.Batch.Calls
import UidPolicy.Proofs.Permissions

/-!
# Uninstalled applications

The command line lists a bit of its masks for uninstalled applications. The permissions know one
mask for them, the one with every bit: it removes the entry, and all others with the listed bit are
stored, bit and all. So the listed bit removes the entries of the applications only in that mask.

- `Permission.Marked`: the masks with the listed bit. `Permission.entryOf_of_marked`: what they
  leave.
- `MaskUpdate`: one command that sets a mask for some ids. `MaskUpdate.get?_after` is what it leaves
  of every entry where no write is refused.
- `Uninstalled`, `HoldsMark`: nothing is left of some ids' applications; an entry has the listed
  bit.
- `MaskUpdate.holdsMark_after_iff`: one command. `MaskUpdate.exists_holdsMark_iff`: from it, a run.
- `marked_uninstalls_iff`: which masks with the listed bit remove entries, and in which runs an
  entry has it. `listedMark_stored`: the listed bit alone is stored.
-/

namespace UidPolicy

open Memory (World Setting)

/-! ## The listed bit -/

namespace Permission

/-- What the command line lists for an uninstalled application. -/
def listedMark : Permission := ⟨128⟩

/-- The mask has the listed bit, with whatever others. -/
def Marked (mask : UInt8) : Prop := (mk mask).contains listedMark = true

instance (mask : UInt8) : Decidable (Marked mask) := inferInstanceAs (Decidable (_ = true))

theorem beyond_of_marked {mask : UInt8} (h : Marked mask) : mask &&& ~~~internet.bits ≠ 0 := by
  have hhas : (mk mask).has 7 = true := by
    rw [Marked, contains, beq_iff_eq, ← UInt8.toBitVec_inj, UInt8.toBitVec_and] at h
    exact and_eq_right_iff_getLsbD.1 h 7 (by decide)
  -- the listed bit is not the default's
  intro hzero
  have hwithin : internet.has 7 = true := (beyond_eq_zero_iff mask).1 hzero 7 hhas
  cases hwithin

theorem eq_of_entryOf {mask m : UInt8} (h : entryOf mask = some m) : m = mask := by
  rw [entryOf] at h
  split at h
  · cases h
  · exact (Option.some.inj h).symm

/-- **Of the masks with the listed bit**, one removes the entry and the others are stored. -/
theorem entryOf_of_marked {mask : UInt8} (h : Marked mask) :
    entryOf mask = if mask = 0xff then none else some mask := by
  rw [entryOf, clearsEntry, beq_eq_false_iff_ne.2 (beyond_of_marked h), Bool.or_false]
  simp only [beq_iff_eq]
  rfl

theorem entryOf_eq_none_iff {mask : UInt8} (h : Marked mask) :
    entryOf mask = none ↔ mask = 0xff := by
  rw [entryOf_of_marked h, ite_eq_left_iff]
  constructor
  · intro hstored
    exact Classical.byContradiction fun hother => Option.some_ne_none mask (hstored hother)
  · intro hall hother
    exact absurd hall hother

end Permission

open Permission (Marked entryOf)

/-! ## Commands that set masks -/

theorem Command.world_emitBatch {W : Type} (format : OutputFormat) (what : String)
    (o : BatchOutcome) (w : W) : ((emitBatch format what o).run w).world = w := by
  dsimp only [emitBatch]
  cases o.isComplete with
  | true => rfl
  | false => rfl

/-- A command that sets a mask for the applications of some ids. The ids may be of several users:
those of one application share its entry. -/
structure MaskUpdate where
  format : OutputFormat
  mask : UInt8
  uids : List Uid

/-- Writes to the permissions are not refused. What a refused write leaves behind says nothing about
the mask. -/
def Memory.World.Unrefused (w : World) : Prop := ∀ app, w.uidPermission.refuses app = false

namespace MaskUpdate

/-- The world after the command. -/
def after (b : Backing World) (w : World) (u : MaskUpdate) : World :=
  ((Command.run b u.format (.permSet u.mask u.uids)).run w).world

/-- The world after some commands. -/
def afterAll (b : Backing World) (w : World) (us : List MaskUpdate) : World := us.foldl (after b) w

/-- The command lists an id of the application. -/
def Lists (u : MaskUpdate) (app : Uid) : Prop := ∃ uid ∈ u.uids, uid.appId = app

section After

variable {s : Setting} (hopen : s.poisoned .permission = false) {w : World}

include hopen

theorem after_eq (u : MaskUpdate) (w : World) :
    u.after s.backing w
      = Batch.worldAfter (Permissions.setLocked s.backing u.mask) u.uids w := by
  obtain ⟨outcome, log, hrun, -, -⟩ :=
    Permissions.does_setAll (b := s.backing) hopen u.mask u.uids (w := w)
  rw [after, Command.run, Act.run_bind_ok hrun]
  exact Command.world_emitBatch ..

variable (haccept : w.Unrefused)

include haccept

/-- Nothing is refused after the command either. -/
theorem unrefused_after (u : MaskUpdate) : (u.after s.backing w).Unrefused := by
  rw [after_eq hopen]
  refine Batch.worldAfter_induction haccept fun uid _ w' hw' => ?_
  rw [(Permissions.setLocked_accepted s u.mask (hw' uid.appId)).2]
  intro app
  show (w'.uidPermission.write uid.appId (entryOf u.mask)).refuses app = false
  rw [Store.refuses_write]
  exact hw' app

theorem get?_after_of_lists {u : MaskUpdate} {app : Uid} (happ : u.Lists app) :
    (u.after s.backing w).uidPermission.content.get? app = entryOf u.mask := by
  obtain ⟨uid, huid, rfl⟩ := happ
  -- every id of the application writes the same, so it is no matter how many of them are listed
  rw [after_eq hopen, (Permissions.worldAfter_setLocked s u.mask u.uids w).2,
    Permissions.settledEntry_accepted huid (haccept uid.appId)]

omit haccept in
/-- Applications that are not listed keep their entries. -/
theorem get?_after_of_not_lists {u : MaskUpdate} {app : Uid} (happ : ¬u.Lists app) :
    (u.after s.backing w).uidPermission.content.get? app
      = w.uidPermission.content.get? app := by
  rw [after_eq hopen, (Permissions.worldAfter_setLocked s u.mask u.uids w).2]
  refine Permissions.settledEntry_of_others (fun e he hsame => happ ?_) _
  exact ⟨e.1, (Permissions.mem_accepted.1 he).1.1, hsame⟩

end After

end MaskUpdate

/-! ## What is left -/

/-- Nothing is left of the applications of some ids: they have no entry, and every id of theirs has
the default. -/
structure Uninstalled (w : World) (uids : List Uid) : Prop where
  entries : ∀ uid ∈ uids, w.uidPermission.content.get? uid.appId = none
  permissions : ∀ uid ∈ uids, ∀ v : Uid, v % 100000 = uid % 100000 → w.Permits v .default

/-- The entry of an application has the listed bit, so the bit was taken for a permission. -/
def HoldsMark (w : World) (app : Uid) : Prop :=
  ∃ mask, w.uidPermission.content.get? app = some mask ∧ Marked mask

theorem uninstalled_of_entries {w : World} {uids : List Uid}
    (hentries : ∀ uid ∈ uids, w.uidPermission.content.get? uid.appId = none) :
    Uninstalled w uids where
  entries := hentries
  permissions uid huid v hv := by
    have hsame : v.appId = uid.appId := hv
    rw [Permissions.permits_iff, hsame, hentries uid huid]
    rfl

namespace MaskUpdate

/-- The command stores the listed bit for an application: it lists the application, and its mask has
the bit and is not the one mask that removes entries. -/
def StoresMark (u : MaskUpdate) (app : Uid) : Prop :=
  u.Lists app ∧ Marked u.mask ∧ u.mask ≠ 0xff

section Steps

variable {s : Setting} (hopen : s.poisoned .permission = false) {w : World}
  (haccept : w.Unrefused)

include hopen haccept

/-- **One command with the listed bit** leaves nothing of its applications exactly if its mask is
the one that removes entries. -/
theorem uninstalled_iff {u : MaskUpdate} (hmark : Marked u.mask) :
    Uninstalled (u.after s.backing w) u.uids ↔ u.mask = 0xff ∨ u.uids = [] := by
  constructor
  · intro hgone
    cases huids : u.uids with
    | nil => exact .inr rfl
    | cons uid uids =>
      left
      have huid : uid ∈ u.uids := huids ▸ List.mem_cons_self ..
      -- one listed application tells: its entry is what the mask leaves
      have hnone := hgone.entries uid huid
      rw [get?_after_of_lists hopen haccept ⟨uid, huid, rfl⟩] at hnone
      exact (Permission.entryOf_eq_none_iff hmark).1 hnone
  · rintro (hall | hnobody)
    · refine uninstalled_of_entries fun uid huid => ?_
      rw [get?_after_of_lists hopen haccept ⟨uid, huid, rfl⟩]
      exact (Permission.entryOf_eq_none_iff hmark).2 hall
    · rw [hnobody]
      exact uninstalled_of_entries nofun

/-- **One command**: an application has the listed bit afterwards if the command stores it, or had
it before and is not listed. -/
theorem holdsMark_after_iff (u : MaskUpdate) (app : Uid) :
    HoldsMark (u.after s.backing w) app ↔
      u.StoresMark app ∨ (¬u.Lists app ∧ HoldsMark w app) := by
  by_cases happ : u.Lists app
  case neg =>
    rw [HoldsMark, get?_after_of_not_lists hopen happ]
    constructor
    · exact fun h => .inr ⟨happ, h⟩
    · exact fun h => h.elim (fun hstores => absurd hstores.1 happ) And.right
  case pos =>
    rw [HoldsMark, get?_after_of_lists hopen haccept happ]
    constructor
    -- what is stored is the mask of the command, and the one that removes entries stores nothing
    · rintro ⟨mask, hstored, hmark⟩
      obtain rfl := Permission.eq_of_entryOf hstored
      refine .inl ⟨happ, hmark, fun hall => ?_⟩
      cases hstored.symm.trans ((Permission.entryOf_eq_none_iff hmark).2 hall)
    · rintro (⟨-, hmark, hother⟩ | ⟨hnot, -⟩)
      · exact ⟨u.mask, (Permission.entryOf_of_marked hmark).trans (if_neg hother), hmark⟩
      · exact absurd happ hnot

/-- **Over a run** an application has the listed bit at some point exactly if it had it before, or
if some command stores it. -/
theorem exists_holdsMark_iff (us : List MaskUpdate) (app : Uid) :
    (∃ n, HoldsMark (afterAll s.backing w (us.take n)) app) ↔
      HoldsMark w app ∨ ∃ u ∈ us, u.StoresMark app := by
  induction us generalizing w with
  | nil =>
    constructor
    · rintro ⟨n, hn⟩
      rw [List.take_nil] at hn
      exact .inl hn
    · rintro (hbefore | ⟨u, hu, -⟩)
      · exact ⟨0, hbefore⟩
      · exact absurd hu List.not_mem_nil
  | cons u us ih =>
    have hstep := holdsMark_after_iff hopen haccept u app
    have hrest := ih (unrefused_after hopen haccept u)
    constructor
    · -- a prefix is empty, or goes on after the first command
      rintro ⟨n, hn⟩
      cases n with
      | zero => exact .inl hn
      | succ n =>
        rcases hrest.1 ⟨n, hn⟩ with hnext | ⟨u', hu', hstores⟩
        · rcases hstep.1 hnext with hstores | ⟨-, hbefore⟩
          · exact .inr ⟨u, List.mem_cons_self .., hstores⟩
          · exact .inl hbefore
        · exact .inr ⟨u', List.mem_cons_of_mem _ hu', hstores⟩
    · rintro (hbefore | ⟨u', hu', hstores⟩)
      · exact ⟨0, hbefore⟩
      · have hlater : HoldsMark (u.after s.backing w) app ∨ ∃ u ∈ us, u.StoresMark app := by
          rcases List.mem_cons.1 hu' with rfl | hu'
          · exact .inl (hstep.2 (.inl hstores))
          · exact .inr ⟨u', hu', hstores⟩
        obtain ⟨n, hn⟩ := hrest.2 hlater
        exact ⟨n + 1, hn⟩

end Steps

end MaskUpdate

/-- **The listed bit removes entries in one mask only.** Where nothing is refused, a command whose
mask has the bit, with whatever others, leaves nothing of the listed applications exactly if the
mask has every bit, or if it lists nobody. Over a run of commands an application has the bit at some
point exactly if it had it before, or if a command sets it in another mask. -/
theorem marked_uninstalls_iff (s : Setting) {w : World} (hopen : s.poisoned .permission = false)
    (haccept : w.Unrefused) :
    (∀ u : MaskUpdate, Marked u.mask →
        (Uninstalled (u.after s.backing w) u.uids ↔ u.mask = 0xff ∨ u.uids = [])) ∧
      ∀ (us : List MaskUpdate) (app : Uid),
        (∃ n, HoldsMark (MaskUpdate.afterAll s.backing w (us.take n)) app) ↔
          HoldsMark w app ∨ ∃ u ∈ us, u.StoresMark app :=
  ⟨fun _ => MaskUpdate.uninstalled_iff hopen haccept,
    MaskUpdate.exists_holdsMark_iff hopen haccept⟩

/-- An application that may update the statistics of the device. -/
def updatingWorld : World :=
  { World.empty with uidPermission := World.empty.uidPermission.write 10001 (some 12) }

/-- The mask with every bit, for a second user of the application. -/
theorem fullMark_uninstalls :
    (Setting.ofHost ⟨[], none⟩).poisoned .permission = false ∧ updatingWorld.Unrefused ∧
      Uninstalled (MaskUpdate.after (Setting.ofHost ⟨[], none⟩).backing updatingWorld
        ⟨.text, 0xff, [110001]⟩) [110001] ∧
      ¬∃ n, HoldsMark (MaskUpdate.afterAll (Setting.ofHost ⟨[], none⟩).backing updatingWorld
        ([⟨.text, 0xff, [110001]⟩, ⟨.json, 8, [10001]⟩].take n)) 10001 := by
  have haccept : updatingWorld.Unrefused := fun _ => rfl
  have hall := marked_uninstalls_iff (.ofHost ⟨[], none⟩) rfl haccept
  refine ⟨rfl, haccept, (hall.1 _ (by decide)).2 (.inl rfl), fun hholds => ?_⟩
  rcases (hall.2 _ _).1 hholds with ⟨mask, hstored, hmark⟩ | ⟨u, hu, hstores⟩
  · obtain rfl : mask = 12 := (Option.some.inj hstored).symm
    exact absurd hmark (by decide)
  · rcases List.mem_cons.1 hu with rfl | hu
    · exact hstores.2.2 rfl
    · obtain rfl := List.mem_singleton.1 hu
      exact absurd hstores.2.1 (by decide)

/-- The listed bit alone is stored for an application without an entry. -/
theorem listedMark_stored :
    Marked 128 ∧ World.empty.Unrefused ∧
      HoldsMark (MaskUpdate.after (Setting.ofHost ⟨[], none⟩).backing .empty ⟨.text, 128, [10001]⟩)
        10001 ∧
      ¬Uninstalled (MaskUpdate.after (Setting.ofHost ⟨[], none⟩).backing .empty
        ⟨.text, 128, [10001]⟩) [10001] := by
  have haccept : World.empty.Unrefused := fun _ => rfl
  have hmark : Marked 128 := by decide
  refine ⟨hmark, haccept, ?_, ?_⟩
  · refine (MaskUpdate.holdsMark_after_iff rfl haccept _ _).2 (.inl ⟨?_, hmark, by decide⟩)
    exact ⟨10001, List.mem_singleton_self _, rfl⟩
  · rw [MaskUpdate.uninstalled_iff rfl haccept hmark]
    decide

end UidPolicy
