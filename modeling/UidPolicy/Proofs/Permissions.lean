import UidPolicy.Proofs.Memory.Run
import UidPolicy.Proofs.Separation

/-!
# Permissions over a run

An application has one entry, whichever of its users an update names, and an update that grants
nothing beyond the default leaves no entry. Over a run, the entry of an application is decided by
the last update for it that succeeded.

- `Permission.Stands`: the masks that grant more than the default. `clearsEntry_eq_false_iff`:
  exactly these are stored.
- `Permissions.setLocked_accepted`, `setLocked_refused`, `worldAfter_setLocked`: what an update and
  a batch of updates leave under every key, and which of them fail.
- `Turn.permissionLog`: the updates that a turn reports as successful. `Turn.get?_permission`: a
  turn settles every entry by this log.
- `PermissionsTracked`: what the stored entries and the answers of every id are at one point of a
  run. `permissions_tracked`: this at every point of every run that starts without entries.
-/

namespace UidPolicy

open Memory (World Setting)

/-! ## Masks -/

namespace Permission

/-- Whether a set has the permission at a position. -/
def has (p : Permission) (i : Nat) : Bool := p.bits.toBitVec.getLsbD i

/-- The mask has a permission beyond the default one, and it is not the mark of an application
that is uninstalled. -/
def Stands (mask : UInt8) : Prop :=
  mask ≠ 0xff ∧ ∃ i, (mk mask).has i = true ∧ internet.has i = false

/-- Without permissions beyond the default nothing is left but the default. -/
theorem beyond_eq_zero_iff (mask : UInt8) :
    mask &&& ~~~internet.bits = 0 ↔ ∀ i, (mk mask).has i = true → internet.has i = true := by
  -- the bits of a byte are looked at one by one; from the eighth on there are none on either side
  have hbeyond : ∀ i, (mask &&& ~~~internet.bits).toBitVec.getLsbD i
      = ((mk mask).has i && !internet.has i) := by
    intro i
    rw [UInt8.toBitVec_and, UInt8.toBitVec_not, BitVec.getLsbD_and, BitVec.getLsbD_not]
    by_cases hi : i < 8
    · simp [has, hi]
    · simp [has, BitVec.getLsbD_of_ge mask.toBitVec i (by omega)]
  constructor
  · intro hzero i hi
    have hbit := hbeyond i
    rw [hzero, hi] at hbit
    simpa using hbit
  · intro hwithin
    refine UInt8.toBitVec_inj.1 (BitVec.eq_of_getLsbD_eq fun i _ => ?_)
    rw [hbeyond]
    cases hmask : (mk mask).has i with
    | false => simp
    | true => simp [hwithin i hmask]

/-- **What is stored**: exactly the masks that stand. The others leave no entry, and its absence
says what they mean. -/
theorem clearsEntry_eq_false_iff (mask : UInt8) : clearsEntry mask = false ↔ Stands mask := by
  have hbeyond := beyond_eq_zero_iff mask
  rw [clearsEntry, uninstalledMask, Bool.or_eq_false_iff, beq_eq_false_iff_ne,
    beq_eq_false_iff_ne, ne_eq (mask &&& _), hbeyond, Stands]
  simp only [Classical.not_forall, exists_prop, Bool.not_eq_true]

instance (mask : UInt8) : Decidable (Stands mask) :=
  decidable_of_iff (clearsEntry mask = false) (clearsEntry_eq_false_iff mask)

theorem Stands.ne {mask : UInt8} (h : Stands mask) :
    mask ≠ noneMask ∧ mask ≠ internet.bits ∧ mask ≠ uninstalledMask := by
  obtain ⟨huninstalled, i, hi, hbeyond⟩ := h
  refine ⟨?_, ?_, huninstalled⟩
  · rintro rfl
    simp [has, noneMask] at hi
  · rintro rfl
    exact absurd (hi.symm.trans hbeyond) Bool.true_eq_false.mp

/-- What an update with a mask grants, whether or not an entry is left for it: an id without an
entry has the default. -/
def granted (mask : UInt8) : Permission := if Stands mask then ⟨mask⟩ else .default

/-- What an update with a mask leaves under its key. -/
def entryOf (mask : UInt8) : Option UInt8 := if clearsEntry mask then none else some mask

/-- What an entry says. -/
def ofEntry (entry : Option UInt8) : Permission := (entry.map mk).getD .default

theorem stands_of_entryOf {mask m : UInt8} (h : entryOf mask = some m) : Stands m := by
  rw [entryOf] at h
  split at h
  · cases h
  · next hkept =>
    cases h
    exact (clearsEntry_eq_false_iff mask).1 (Bool.eq_false_iff.2 hkept)

theorem ofEntry_entryOf (mask : UInt8) : ofEntry (entryOf mask) = granted mask := by
  have hstands := clearsEntry_eq_false_iff mask
  rw [entryOf, granted]
  cases hclears : clearsEntry mask with
  | false =>
    rw [if_pos (hstands.1 hclears)]
    rfl
  | true =>
    rw [if_neg fun h => Bool.false_ne_true ((hstands.2 h).symm.trans hclears)]
    rfl

end Permission

open Permission (Stands granted entryOf ofEntry)

/-! ## Updates -/

namespace Permissions

variable (s : Setting) (mask : UInt8) {uid : Uid} {w : World}

theorem uidPermission_backing :
    s.backing.uidPermission = Store.table.zoom World.uidPermissionPart := rfl

/-- **One update**, with its lock held, leaves what its mask leaves. -/
theorem setLocked_accepted (haccept : w.uidPermission.refuses uid.appId = false) :
    ((setLocked s.backing mask uid).run w).result = .ok () ∧
      ((setLocked s.backing mask uid).run w).world
        = { w with uidPermission := w.uidPermission.write uid.appId (entryOf mask) } := by
  rw [setLocked, entryOf, uidPermission_backing]
  split
  · rw [Act.run_bind_ok (Store.run_delete_zoom World.uidPermissionPart haccept)]
    exact ⟨rfl, rfl⟩
  · rw [Act.run_bind_ok (Store.run_put_zoom World.uidPermissionPart mask haccept)]
    exact ⟨rfl, rfl⟩

theorem setLocked_refused (hrefuse : w.uidPermission.refuses uid.appId = true) :
    ∃ e, ((setLocked s.backing mask uid).run w).result = .error e ∧
      ((setLocked s.backing mask uid).run w).world = w := by
  rw [setLocked, uidPermission_backing]
  split
  · obtain ⟨e, hdelete⟩ := Store.run_delete_zoom_refused World.uidPermissionPart hrefuse
    rw [Act.run_bind_error hdelete]
    exact ⟨e, rfl, rfl⟩
  · obtain ⟨e, hput⟩ := Store.run_put_zoom_refused World.uidPermissionPart mask hrefuse
    rw [Act.run_bind_error hput]
    exact ⟨e, rfl, rfl⟩

/-- Of a list of ids, those whose key is not refused, each with the mask. Writes are refused by key,
so whether an id is among them is known before the batch begins. -/
def accepted (mask : UInt8) (store : Store Uid UInt8) (uids : List Uid) : List (Uid × UInt8) :=
  (uids.filter fun uid => !store.refuses uid.appId).map fun uid => (uid, mask)

/-- The entry of an application after some updates, the last one for it counting. Whether an update
has left an entry does not matter for the ones before it. -/
def settledEntry (app : Uid) (updates : List (Uid × UInt8)) (entry : Option UInt8) : Option UInt8 :=
  settled (fun u => u.1.appId = app) (fun u => entryOf u.2) updates entry

theorem mem_accepted {mask : UInt8} {store : Store Uid UInt8} {uids : List Uid}
    {u : Uid × UInt8} : u ∈ accepted mask store uids ↔
      (u.1 ∈ uids ∧ store.refuses u.1.appId = false) ∧ u.2 = mask := by
  simp only [accepted, List.mem_map, List.mem_filter, Bool.not_eq_true']
  constructor
  · rintro ⟨uid, hmem, rfl⟩
    exact ⟨hmem, rfl⟩
  · rintro ⟨hmem, rfl⟩
    exact ⟨u.1, hmem, rfl⟩

/-- A batch settles nothing for an application whose key is refused. -/
theorem settledEntry_refused {mask : UInt8} {store : Store Uid UInt8} {uids : List Uid} {app : Uid}
    (hrefuse : store.refuses app = true) (entry : Option UInt8) :
    settledEntry app (accepted mask store uids) entry = entry := by
  have hnone : (accepted mask store uids).reverse.find? (fun u => u.1.appId = app) = none := by
    refine List.find?_eq_none.2 fun u hu happ => ?_
    have haccept := (mem_accepted.1 (List.mem_reverse.1 hu)).1.2
    rw [decide_eq_true_iff.1 happ, hrefuse] at haccept
    cases haccept
  rw [settledEntry, settled, hnone]
  rfl

/-- It settles the entries of the other ids that it lists. -/
theorem settledEntry_accepted {mask : UInt8} {store : Store Uid UInt8} {uids : List Uid} {uid : Uid}
    (huid : uid ∈ uids) (haccept : store.refuses uid.appId = false) (entry : Option UInt8) :
    settledEntry uid.appId (accepted mask store uids) entry = entryOf mask := by
  rw [settledEntry, settled]
  cases hfind : (accepted mask store uids).reverse.find? fun u => u.1.appId = uid.appId with
  | some u =>
    have hmask := (mem_accepted.1 (List.mem_reverse.1 (List.mem_of_find?_eq_some hfind))).2
    exact congrArg entryOf hmask
  | none =>
    have hmem : (uid, mask) ∈ (accepted mask store uids).reverse :=
      List.mem_reverse.2 (mem_accepted.2 ⟨⟨huid, haccept⟩, rfl⟩)
    exact absurd (decide_eq_true rfl) (List.find?_eq_none.1 hfind _ hmem)

/-- A single update settles the entries. -/
theorem get?_write_entryOf (store : Store Uid UInt8) (uid app : Uid) :
    (store.write uid.appId (entryOf mask)).content.get? app
      = settledEntry app [(uid, mask)] (store.content.get? app) := by
  rw [Store.get?_content_write, settledEntry, settled_singleton]
  by_cases happ : uid.appId = app
  · simp [happ]
  · simp [happ, Ne.symm happ]

/-- **A batch of updates** fails for the ids whose key is refused, and the others leave what their
mask leaves. Writes do not change which keys are refused. -/
theorem worldAfter_setLocked (uids : List Uid) (w : World) :
    Batch.failures (setLocked s.backing mask) uids w
        = uids.filter (fun uid => w.uidPermission.refuses uid.appId) ∧
      ∀ app, (Batch.worldAfter (setLocked s.backing mask) uids w).uidPermission.content.get? app
        = settledEntry app (accepted mask w.uidPermission uids)
            (w.uidPermission.content.get? app) := by
  induction uids generalizing w with
  | nil => exact ⟨rfl, fun _ => rfl⟩
  | cons uid uids ih =>
    rw [Batch.worldAfter]
    -- a refused id leaves the world to the rest, and no entry in the log
    cases hrefuse : w.uidPermission.refuses uid.appId with
    | true =>
      obtain ⟨e, hresult, hworld⟩ := setLocked_refused s mask hrefuse
      obtain ⟨hfailures, hentries⟩ := ih w
      rw [Batch.failures_cons_error hresult, hworld, hfailures, List.filter_cons, if_pos hrefuse]
      refine ⟨rfl, fun app => ?_⟩
      rw [hentries, accepted, accepted, List.filter_cons, if_neg (by simp [hrefuse])]
    | false =>
      obtain ⟨hresult, hworld⟩ := setLocked_accepted s mask hrefuse
      obtain ⟨hfailures, hentries⟩ := ih
        { w with uidPermission := w.uidPermission.write uid.appId (entryOf mask) }
      rw [Batch.failures_cons_ok hresult, hworld, hfailures, List.filter_cons,
        if_neg (by simp [hrefuse])]
      refine ⟨rfl, fun app => ?_⟩
      -- this update comes first in the log, so any later one for the same application overrides it
      have hsplit : accepted mask w.uidPermission (uid :: uids)
          = [(uid, mask)] ++ accepted mask w.uidPermission uids := by
        rw [accepted, accepted, List.filter_cons, if_pos (by simp [hrefuse])]
        rfl
      rw [hentries, hsplit, settledEntry, settledEntry, settled_append]
      exact congrArg _ (get?_write_entryOf mask w.uidPermission uid app)

/-- A request for several updates is refused at the lock, or it is the batch and answers what
failed in it. -/
theorem setAll_cases (uids : List Uid) (w : World) :
    (∃ e, (setAll s.backing mask uids).run w = ⟨.error e, w, []⟩) ∨
      ∃ o log, (setAll s.backing mask uids).run w
          = ⟨.ok o, Batch.worldAfter (setLocked s.backing mask) uids w, log⟩ ∧
        o.failed = Batch.failures (setLocked s.backing mask) uids w := by
  rw [setAll]
  rcases s.backing.acquire_bind_cases .permission _ with ⟨e, hlocked⟩ | hopen
  · exact .inl ⟨e, hlocked w⟩
  · rw [hopen]
    obtain ⟨o, log, hrun, hfailed, -⟩ := Batch.run_eq (setLocked s.backing mask)
      (fun uid e => ⟨.error, .permissions, "failed to set permission",
        [("uid", .number uid.toNat), ("mask", .number mask.toNat), ("error", .text e.message)]⟩)
      uids .empty w
    rw [Act.run_bind_ok hrun]
    exact .inr ⟨o, _, rfl, hfailed⟩

theorem filter_not_failed {store : Store Uid UInt8} {uids failed : List Uid}
    (hfailed : failed = uids.filter fun uid => store.refuses uid.appId) :
    ((uids.filter fun uid => uid ∉ failed).map fun uid => (uid, mask))
      = accepted mask store uids := by
  have hsame : ∀ uid ∈ uids, decide (uid ∉ failed) = !store.refuses uid.appId := by
    intro uid huid
    rw [hfailed]
    cases hrefuse : store.refuses uid.appId with
    | true => simp [huid, hrefuse]
    | false => simp [hrefuse]
  rw [accepted, List.filter_congr hsame]

end Permissions

/-! ## Turns -/

namespace Turn

/-- The updates that a turn reports as successful, in their order. It is what a caller can know, so
the permissions are tracked by it. -/
def permissionLog (w : World) (t : Turn) : List (Uid × UInt8) :=
  match t.request, (t.outcome w).result with
  | .setPermission uid mask, .ok _ => [(uid, mask)]
  | .setPermissions mask uids, .ok (.batch o) =>
    (uids.filter fun uid => uid ∉ o.failed).map fun uid => (uid, mask)
  | _, _ => []

/-- A turn that does not write to the permissions leaves them as they are. -/
theorem uidPermission_after {t : Turn} (hplace : .permission ∉ t.request.written) (w : World) :
    (t.after w).uidPermission.content = w.uidPermission.content := by
  have hagree : World.AgreeAt .permission (t.start w) (t.after w) := Request.agreeAt_after hplace
  have hstore : (t.start w).uidPermission = (t.after w).uidPermission := hagree
  rw [← hstore]
  rfl

/-- **A turn settles every entry by its log**, for the requests that update permissions and for
those that do not. -/
theorem get?_permission (t : Turn) (w : World) (app : Uid) :
    (t.after w).uidPermission.content.get? app
      = Permissions.settledEntry app (t.permissionLog w) (w.uidPermission.content.get? app) := by
  obtain ⟨f, s, r⟩ := t
  cases r with
  | setPermission uid mask =>
    rw [permissionLog, after, outcome_map (x := Permissions.set s.backing uid mask) rfl, start,
      Permissions.set]
    dsimp only
    -- behind a poisoned lock, and where the key is refused, nothing is stored and nothing logged
    rcases s.backing.acquire_bind_cases .permission
      (fun _ => Permissions.setLocked s.backing mask uid) with ⟨e, hlocked⟩ | hopen
    · rw [hlocked]
      rfl
    · rw [hopen]
      cases hrefuse : (w.under f).uidPermission.refuses uid.appId with
      | true =>
        obtain ⟨e, hresult, hworld⟩ := Permissions.setLocked_refused s mask hrefuse
        rw [hresult, hworld]
        rfl
      | false =>
        obtain ⟨hresult, hworld⟩ := Permissions.setLocked_accepted s mask hrefuse
        rw [hresult, hworld]
        exact Permissions.get?_write_entryOf ..
  | setPermissions mask uids =>
    rw [permissionLog, after, outcome_map (x := Permissions.setAll s.backing mask uids) rfl, start]
    dsimp only
    rcases Permissions.setAll_cases s mask uids (w.under f) with ⟨e, hlocked⟩ | ⟨o, log, hdone, ho⟩
    · rw [hlocked]
      rfl
    · obtain ⟨hfailures, hentries⟩ := Permissions.worldAfter_setLocked s mask uids (w.under f)
      rw [hdone]
      dsimp only [Except.map]
      rw [Permissions.filter_not_failed mask (ho.trans hfailures)]
      exact hentries app
  | _ =>
    rw [uidPermission_after (by simp [Request.written])]
    rfl

end Turn

/-! ## Answers -/

/-- Whenever the permissions can be read, this is what an id has, whoever asks and in whatever
setting. -/
def Memory.World.Permits (w : World) (uid : Uid) (p : Permission) : Prop :=
  ∀ (s : Setting) (f : Memory.Faults), f.uidPermission.Readable →
    ((Permissions.get s.backing uid).run (w.under f)).result = .ok p

namespace Permissions

/-- A read that fails answers the default. -/
theorem result_get_unreadable (s : Setting) {w : World} {errno : Errno}
    (hread : w.uidPermission.readErrno = some errno) (uid : Uid) :
    ((get s.backing uid).run w).result = .ok .default := by
  have hget := Store.run_get_zoom_unreadable World.uidPermissionPart uid.appId hread
  rw [get, uidPermission_backing, Act.run_attempt_bind hget]
  rfl

theorem permits_iff (w : World) (uid : Uid) (p : Permission) :
    w.Permits uid p ↔ p = ofEntry (w.uidPermission.content.get? uid.appId) := by
  refine Memory.answers_iff_eq (x := fun s => get s.backing uid)
    (P := fun f => f.uidPermission.Readable) ⟨rfl, fun _ => rfl⟩ fun s f hf => ?_
  have hget : (s.backing.uidPermission.get uid.appId).run (w.under f)
      = ⟨.ok (w.uidPermission.content.get? uid.appId), w.under f, []⟩ := by
    rw [← Store.visible?_under w.uidPermission hf uid.appId]
    exact Store.run_get_zoom World.uidPermissionPart uid.appId hf.1
  rw [get, Act.run_attempt_bind hget]
  cases w.uidPermission.content.get? uid.appId with
  | none => rfl
  | some mask => rfl

/-- The mask of the last update for the application of an id. The update may have been made through
another user of the application. -/
def lastMask (updates : List (Uid × UInt8)) (uid : Uid) : Option UInt8 :=
  (updates.reverse.find? fun u => u.1 % 100000 = uid % 100000).map (·.2)

/-- What the last update for the application grants is what its entry says; without an entry at
the start, and without an update, that is the default. -/
theorem ofEntry_settledEntry (updates : List (Uid × UInt8)) (uid : Uid) :
    ofEntry (settledEntry uid.appId updates none)
      = ((lastMask updates uid).map granted).getD .default := by
  rw [settledEntry, settled, lastMask]
  show ofEntry (((updates.reverse.find? fun u => u.1 % 100000 = uid % 100000).map _).getD none) = _
  cases updates.reverse.find? fun u => u.1 % 100000 = uid % 100000 with
  | none => rfl
  | some u => exact Permission.ofEntry_entryOf u.2

/-- Every entry comes from an update. -/
theorem exists_of_settledEntry {updates : List (Uid × UInt8)} {app : Uid} {m : UInt8}
    (h : settledEntry app updates none = some m) :
    ∃ u ∈ updates, u.1.appId = app ∧ entryOf u.2 = some m := by
  rw [settledEntry, settled] at h
  cases hlast : updates.reverse.find? fun u => u.1.appId = app with
  | none =>
    rw [hlast] at h
    cases h
  | some u =>
    rw [hlast] at h
    have hfits : u.1.appId = app := by simpa using List.find?_some hlast
    exact ⟨u, List.mem_reverse.1 (List.mem_of_find?_eq_some hlast), hfits, h⟩

theorem settledEntry_of_others {updates : List (Uid × UInt8)} {app : Uid}
    (hothers : ∀ u ∈ updates, u.1.appId ≠ app) (entry : Option UInt8) :
    settledEntry app updates entry = entry :=
  settled_of_unfit (fun u hu => decide_eq_false (hothers u hu)) entry

/-- Where all updates have one mask, one for the application settles its entry. -/
theorem settledEntry_of_mem {updates : List (Uid × UInt8)} {u : Uid × UInt8} (hu : u ∈ updates)
    (hmasks : ∀ v ∈ updates, v.2 = u.2) (entry : Option UInt8) :
    settledEntry u.1.appId updates entry = entryOf u.2 := by
  rw [settledEntry, settled]
  cases hlast : updates.reverse.find? fun v => v.1.appId = u.1.appId with
  | none =>
    have hnone := List.find?_eq_none.1 hlast u (List.mem_reverse.2 hu)
    simp at hnone
  | some v =>
    have hmask : v.2 = u.2 := hmasks v (List.mem_reverse.1 (List.mem_of_find?_eq_some hlast))
    show entryOf v.2 = entryOf u.2
    rw [hmask]

end Permissions

/-- The updates of one turn have one mask. -/
theorem Turn.exists_mask (t : Turn) (w : World) : ∃ mask, ∀ u ∈ t.permissionLog w, u.2 = mask := by
  rw [permissionLog]
  split
  · next mask _ _ _ =>
    refine ⟨mask, fun u hu => ?_⟩
    rw [List.mem_singleton.1 hu]
  · next mask _ _ _ _ =>
    refine ⟨mask, fun u hu => ?_⟩
    obtain ⟨uid, -, rfl⟩ := List.mem_map.1 hu
    rfl
  · exact ⟨0, fun u hu => absurd hu List.not_mem_nil⟩

/-! ## Runs -/

/-- The permissions after a run that started without entries. Updates may fail at any point of it,
and a batch may do so for some of its ids. -/
structure PermissionsTracked (w : World) (ts : List Turn) : Prop where
  /-- Entries belong to applications, and none of them is one of the masks that stand for the
  default or for an uninstalled application. -/
  stored : ∀ app mask, (afterTurns w ts).uidPermission.content.get? app = some mask →
    app < 100000 ∧ mask ≠ 0xff ∧ mask ≠ 0 ∧ mask ≠ Permission.internet.bits
  /-- An id has what the last successful update for its application grants, and the default if there
  was none. -/
  readable : ∀ uid, (afterTurns w ts).Permits uid
    (((Permissions.lastMask (logged Turn.permissionLog w ts) uid).map granted).getD .default)
  /-- An id has the default where the read fails. -/
  unreadable : ∀ (s : Setting) (f : Memory.Faults) uid errno,
    f.uidPermission.readErrno = some errno →
      ((Permissions.get s.backing uid).run ((afterTurns w ts).under f)).result = .ok .default
  /-- An update is seen by all ids of the application. -/
  seen : ∀ t : Turn, ∀ u ∈ t.permissionLog (afterTurns w ts), ∀ uid : Uid,
    uid % 100000 = u.1 % 100000 → (t.after (afterTurns w ts)).Permits uid (granted u.2)
  /-- It is seen by no other id, and what changes nothing successfully is seen by none. -/
  unseen : ∀ (t : Turn) (uid : Uid),
    (∀ u ∈ t.permissionLog (afterTurns w ts), u.1 % 100000 ≠ uid % 100000) →
      ∀ p, (t.after (afterTurns w ts)).Permits uid p ↔ (afterTurns w ts).Permits uid p

/-- **The permissions over a run.** Whatever the failures and the settings of its turns are, and
whatever else is asked for, a run that starts without entries keeps track of the last successful
update of every application. -/
theorem permissions_tracked {w : World} (hempty : w.uidPermission.content = ∅) (ts : List Turn) :
    PermissionsTracked w ts := by
  have hentry : ∀ app, (afterTurns w ts).uidPermission.content.get? app
      = Permissions.settledEntry app (logged Turn.permissionLog w ts) none := by
    intro app
    have hrun : _ = Permissions.settledEntry app (logged Turn.permissionLog w ts) _ :=
      afterTurns_settled (fun w => w.uidPermission.content.get? app)
        (fun t _ w => t.get?_permission w app) w
    rw [hrun, hempty, SortedMap.get?_empty]
  constructor
  case stored =>
    intro app mask hstored
    rw [hentry] at hstored
    obtain ⟨u, -, rfl, hmask⟩ := Permissions.exists_of_settledEntry hstored
    obtain ⟨hnone, hdefault, huninstalled⟩ := (Permission.stands_of_entryOf hmask).ne
    exact ⟨UInt32.mod_lt _ (by decide), huninstalled, hnone, hdefault⟩
  case readable =>
    intro uid
    rw [Permissions.permits_iff, hentry, Permissions.ofEntry_settledEntry]
  case unreadable =>
    intro s f uid errno hread
    exact Permissions.result_get_unreadable s hread uid
  case seen =>
    intro t u hu uid happ
    obtain ⟨mask, hmask⟩ := t.exists_mask (afterTurns w ts)
    -- all updates of one turn have the same mask, so it does not matter which of them was the last
    have hmasks : ∀ v ∈ t.permissionLog (afterTurns w ts), v.2 = u.2 :=
      fun v hv => (hmask v hv).trans (hmask u hu).symm
    have happ : uid.appId = u.1.appId := happ
    rw [Permissions.permits_iff, t.get?_permission, happ,
      Permissions.settledEntry_of_mem hu hmasks, Permission.ofEntry_entryOf]
  case unseen =>
    intro t uid hothers p
    have hothers : ∀ u ∈ t.permissionLog (afterTurns w ts), u.1.appId ≠ uid.appId := hothers
    rw [Permissions.permits_iff, Permissions.permits_iff, t.get?_permission,
      Permissions.settledEntry_of_others hothers]

/-- Updates through two users. One of a batch fails, and the last one takes back the first. -/
def sharedUpdates : List Turn :=
  [.plain (.setPermission 10001 12),
    { Turn.plain (.setPermissions 8 [1010002, 10003]) with
      faults := { Memory.Faults.none with
        uidPermission := { Store.Faults.none with failing := fun app => app = 10003 } } },
    .plain (.setPermission 1010001 4)]

/-- After them, the second application has the only entry. -/
theorem sharedUpdates_tracked :
    World.empty.uidPermission.content = ∅ ∧ PermissionsTracked World.empty sharedUpdates ∧
      logged Turn.permissionLog World.empty sharedUpdates
        = [(10001, 12), (1010002, 8), (1010001, 4)] ∧
      (afterTurns World.empty sharedUpdates).uidPermission.content.toList = [(10002, 8)] :=
  ⟨rfl, permissions_tracked rfl sharedUpdates, by decide, by decide⟩

end UidPolicy
