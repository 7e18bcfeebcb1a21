import UidPolicy.Control.NetMaps
import UidPolicy.Proofs.Rule.Stale
import UidPolicy.Proofs.Scope

/-!
# What the controllers may do

For every operation of a controller, over any orderly backing: a query changes nothing; a change
is within what the writes to one place are within; and a change that fails has changed nothing.
Each of the six places is guarded by one lock and named by it.

- `Backing.WritesWithin`: the writes to the place that a lock guards are within a scope.
- `still_…`, `within_…`, `atomic_…`: the three kinds of lemmas, controller by controller.
- `NetMaps.runSteps_cons_ok`, `NetMaps.runSteps_cons_error`, `NetMaps.within_runSteps`: the
  initialisation, step by step.

The batches of a replacement never fail, so a replacement fails before it writes or not at all.
Clearing a map is not atomic: it is one deletion after another and stops at the first that fails.
-/

namespace UidPolicy

/-- The writes to the place that a lock guards are within a scope. All that is said of a request
afterwards is said of these writes, place by place. -/
def Backing.WritesWithin {W : Type} (b : Backing W) (S : Scope W) : Lock → Prop
  | .uidOwner => (∀ u x, (b.uidOwner.put u x).Within S) ∧ ∀ u, (b.uidOwner.delete u).Within S
  | .permission => (∀ a m, (b.uidPermission.put a m).Within S) ∧
      ∀ a, (b.uidPermission.delete a).Within S
  | .ingressDiscard => (∀ k r, (b.ingressDiscard.put k r).Within S) ∧
      ∀ k, (b.ingressDiscard.delete k).Within S
  | .dataSaver => ∀ f, (b.dataSaver.put DataSaver.key f).Within S
  | .chainSwitch => ∀ w, (b.configuration.put ChainSwitch.key w).Within S
  | .statsSelector => ∀ s, (b.configuration.put Stats.key s).Within S

section Controllers

variable {W : Type} {b : Backing W} (hb : b.Orderly) {S : Scope W}

include hb

/-! ## Rule records -/

namespace Firewall

theorem still_record (uid : Uid) : (record b uid).Still :=
  (hb.uidOwner.get uid).bind fun _ => .pure _

theorem still_getUidRule (c : Chain) (uid : Uid) : (getUidRule b c uid).Still :=
  (still_record hb uid).bind fun _ => .pure _

theorem still_uidsWithRule (c : Chain) : (uidsWithRule b c).Still :=
  (b.still_acquire .uidOwner).bind fun _ => hb.uidOwner.still_entries.bind fun _ => .pure _

theorem still_uidsAllowed (c : Chain) : (uidsAllowed b c).Still := by
  rw [uidsAllowed]
  split
  · exact still_uidsWithRule hb c
  · exact .fail _

theorem still_uidsDenied (c : Chain) : (uidsDenied b c).Still := by
  rw [uidsDenied]
  split
  · exact .fail _
  · exact still_uidsWithRule hb c

theorem still_interfaceIndex (name : String) : (interfaceIndex b name).Still := by
  refine (hb.indexOf name).bind fun index => ?_
  cases index with
  | some i => exact .pure i
  | none => exact .fail _

theorem still_restrictionIndex (name : Option String) : (restrictionIndex b name).Still := by
  cases name with
  | none => exact .pure 0
  | some name => exact still_interfaceIndex hb name

theorem within_addLocked (hw : b.WritesWithin S .uidOwner) (m : MatchSet) (i : UInt32)
    (uid : Uid) : (addLocked b m i uid).Within S :=
  ((still_record hb uid).within S).bind fun _ =>
    (hw.1 uid _).bind fun _ => (Act.Still.emit _).within S

theorem within_removeLocked (hw : b.WritesWithin S .uidOwner) (m : MatchSet) (uid : Uid) :
    (removeLocked b m uid).Within S := by
  refine ((still_record hb uid).within S).bind fun current => ?_
  cases current with
  | none => exact (Act.Still.fail _).within S
  | some r =>
    dsimp only
    split
    · exact (hw.2 uid).bind fun _ => (Act.Still.emit _).within S
    · exact (hw.1 uid _).bind fun _ => (Act.Still.emit _).within S

omit hb in
/-- An index that does not belong to the interface match is refused before anything is done. -/
theorem within_addRule {uid : Uid} {m : MatchSet} {i : UInt32}
    (hadd : i = 0 ∨ m = .iif → (addLocked b m i uid).Within S) : (addRule b uid m i).Within S := by
  by_cases hvalid : i = 0 ∨ m = .iif
  · exact ((Act.Still.ofExcept _).within S).bind fun _ =>
      ((b.still_acquire .uidOwner).within S).bind fun _ => hadd hvalid
  -- refused: the world is the one of before
  · intro w
    rw [addRule, OwnerRecord.validateAdd, if_pos (not_or.1 hvalid)]
    exact S.refl w

omit hb in
theorem within_removeRule {uid : Uid} {m : MatchSet} (hremove : (removeLocked b m uid).Within S) :
    (removeRule b uid m).Within S :=
  ((b.still_acquire .uidOwner).within S).bind fun _ => hremove

/-- A replacement removes ids that are not listed and adds those that are, so no id is written to
twice but by its own repetitions. -/
theorem within_replaceChain {c : Chain} {uids : List Uid}
    (hremove : ∀ uid, uid ∉ uids → (removeLocked b c.bit uid).Within S)
    (hadd : ∀ uid ∈ uids, (addLocked b c.bit 0 uid).Within S) :
    (replaceChain b c uids).Within S := by
  refine ((b.still_acquire .uidOwner).within S).bind fun _ => ?_
  refine (hb.uidOwner.still_entries.within S).bind fun _ => ?_
  -- a stale id is a member that is not listed
  refine (Act.Within.batch (fun uid hstale => ?_) _ _).bind fun _ => ?_
  · exact hremove uid (mem_staleUids.1 hstale).2
  · refine (Act.Within.batch hadd _ _).bind fun _ => ?_
    exact ((Act.Still.emit _).bind fun _ => .pure _).within S

/-- Without a name the index is zero. -/
theorem within_addInterfaceRules {name : Option String} {uids : List Uid}
    (hadd : ∀ i, (name = none → i = 0) → ∀ uid ∈ uids, (addLocked b .iif i uid).Within S) :
    (addInterfaceRules b name uids).Within S := by
  refine ((still_restrictionIndex hb name).within S).bind_answer fun i hi => ?_
  -- only a name is looked up; that there is none is answered with zero
  have hzero : name = none → i = 0 := by
    rintro rfl
    obtain ⟨w, hw⟩ := hi
    cases hw
    rfl
  refine ((b.still_acquire .uidOwner).within S).bind fun _ => ?_
  refine (Act.Within.batch (hadd i hzero) _ _).bind fun _ => ?_
  exact ((Act.Still.emit _).bind fun _ => .pure _).within S

omit hb in
theorem within_removeInterfaceRules {uids : List Uid}
    (hremove : ∀ uid ∈ uids, (removeLocked b .iif uid).Within S) :
    (removeInterfaceRules b uids).Within S := by
  refine ((b.still_acquire .uidOwner).within S).bind fun _ => ?_
  refine (Act.Within.batch hremove _ _).bind fun _ => ?_
  exact ((Act.Still.emit _).bind fun _ => .pure _).within S

theorem within_clear (hdelete : ∀ uid, (b.uidOwner.delete uid).Within S) : (clear b).Within S :=
  ((b.still_acquire .uidOwner).within S).bind fun _ => hb.uidOwner.within_clear hdelete

theorem atomic_addLocked (m : MatchSet) (i : UInt32) (uid : Uid) :
    (addLocked b m i uid).Atomic :=
  -- the write is the last thing that can fail, as logging cannot
  .after_still (still_record hb uid) fun _ => (hb.uidOwner.put uid _).bind fun _ => .emit _

theorem atomic_removeLocked (m : MatchSet) (uid : Uid) : (removeLocked b m uid).Atomic := by
  refine .after_still (still_record hb uid) fun current => ?_
  cases current with
  | none => exact (Act.Still.fail _).atomic
  | some r =>
    dsimp only
    split
    · exact (hb.uidOwner.delete uid).bind fun _ => .emit _
    · exact (hb.uidOwner.put uid _).bind fun _ => .emit _

theorem atomic_addRule (uid : Uid) (m : MatchSet) (i : UInt32) :
    (addRule b uid m i).Atomic :=
  .after_still (.ofExcept _) fun _ =>
    .after_still (b.still_acquire .uidOwner) fun _ => atomic_addLocked hb m i uid

theorem atomic_removeRule (uid : Uid) (m : MatchSet) : (removeRule b uid m).Atomic :=
  .after_still (b.still_acquire .uidOwner) fun _ => atomic_removeLocked hb m uid

/-- A replacement that fails has not begun to write: its batches never fail, so only the lock and
the walk before them can stop it. -/
theorem atomic_replaceChain (c : Chain) (uids : List Uid) : (replaceChain b c uids).Atomic := by
  refine .after_still (b.still_acquire .uidOwner) fun _ => ?_
  refine .after_still hb.uidOwner.still_entries fun _ => ?_
  -- from here on every error is put into the outcome
  refine Act.Answering.atomic ?_
  refine (Act.Answering.batch _ _ _ _).bind fun _ => ?_
  refine (Act.Answering.batch _ _ _ _).bind fun _ => ?_
  exact (Act.Answering.emit _).bind fun _ => .pure _

theorem atomic_addInterfaceRules (name : Option String) (uids : List Uid) :
    (addInterfaceRules b name uids).Atomic := by
  refine .after_still (still_restrictionIndex hb name) fun _ => ?_
  refine .after_still (b.still_acquire .uidOwner) fun _ => Act.Answering.atomic ?_
  refine (Act.Answering.batch _ _ _ _).bind fun _ => ?_
  exact (Act.Answering.emit _).bind fun _ => .pure _

omit hb in
theorem atomic_removeInterfaceRules (uids : List Uid) :
    (removeInterfaceRules b uids).Atomic := by
  refine .after_still (b.still_acquire .uidOwner) fun _ => Act.Answering.atomic ?_
  refine (Act.Answering.batch _ _ _ _).bind fun _ => ?_
  exact (Act.Answering.emit _).bind fun _ => .pure _

end Firewall

/-! ## The chain-enable word -/

namespace ChainSwitch

theorem still_word : (word b).Still := by
  refine (hb.configuration.get key).bind fun w => ?_
  cases w with
  | some w => exact .pure w
  | none => exact .fail _

theorem still_enabled : (enabled b).Still := (still_word hb).bind fun _ => .pure _

theorem still_isEnabled (c : Chain) : (isEnabled b c).Still :=
  (still_word hb).bind fun _ => .pure _

theorem within_setEnabled (hw : b.WritesWithin S .chainSwitch) (c : Chain) (on : Bool) :
    (setEnabled b c on).Within S :=
  ((b.still_acquire .chainSwitch).within S).bind fun _ =>
    ((still_word hb).within S).bind fun _ => (hw _).bind fun _ => (Act.Still.emit _).within S

theorem atomic_setEnabled (c : Chain) (on : Bool) : (setEnabled b c on).Atomic :=
  .after_still (b.still_acquire .chainSwitch) fun _ => .after_still (still_word hb) fun _ =>
    (hb.configuration.put key _).bind fun _ => .emit _

omit hb in
theorem within_reset (hw : b.WritesWithin S .chainSwitch) : (reset b).Within S :=
  ((b.still_acquire .chainSwitch).within S).bind fun _ => hw defaultWord

theorem atomic_reset : (reset b).Atomic :=
  .after_still (b.still_acquire .chainSwitch) fun _ => hb.configuration.put key defaultWord

end ChainSwitch

/-! ## The statistics selector -/

namespace Stats

theorem still_active : (active b).Still := by
  refine (hb.configuration.get key).bind fun s => ?_
  cases s with
  | some s => exact .pure s
  | none => exact .fail _

theorem within_flip (hw : b.WritesWithin S .statsSelector) : (flip b).Within S := by
  refine ((b.still_acquire .statsSelector).within S).bind fun _ => ?_
  refine ((still_active hb).within S).bind fun current => ?_
  cases other? current with
  | none => exact (Act.Still.fail _).within S
  | some next => exact (hw next).bind fun _ => (Act.Still.pure next).within S

theorem within_swap (hw : b.WritesWithin S .statsSelector) (hbarrier : b.barrier.Within S) :
    (swap b).Within S := by
  refine (within_flip hb hw).bind fun next => hbarrier.attempt.bind fun ended => ?_
  cases ended with
  | ok _ => exact ((Act.Still.emit _).bind fun _ => .pure next).within S
  | error e => exact ((Act.Still.emit _).bind fun _ => .fail e).within S

omit hb in
theorem within_reset (hw : b.WritesWithin S .statsSelector) : (reset b).Within S :=
  ((b.still_acquire .statsSelector).within S).bind fun _ => hw mapA

theorem atomic_reset : (reset b).Atomic :=
  .after_still (b.still_acquire .statsSelector) fun _ => hb.configuration.put key mapA

end Stats

/-! ## Permissions -/

namespace Permissions

omit hb in
theorem within_setLocked (hw : b.WritesWithin S .permission) (mask : UInt8) (uid : Uid) :
    (setLocked b mask uid).Within S := by
  rw [setLocked]
  split
  · exact (hw.2 _).bind fun _ => (Act.Still.emit _).within S
  · exact (hw.1 _ _).bind fun _ => (Act.Still.emit _).within S

theorem atomic_setLocked (mask : UInt8) (uid : Uid) : (setLocked b mask uid).Atomic := by
  rw [setLocked]
  split
  · exact (hb.uidPermission.delete _).bind fun _ => .emit _
  · exact (hb.uidPermission.put _ _).bind fun _ => .emit _

omit hb in
theorem within_set (hw : b.WritesWithin S .permission) (uid : Uid) (mask : UInt8) :
    (set b uid mask).Within S :=
  ((b.still_acquire .permission).within S).bind fun _ => within_setLocked hw mask uid

theorem atomic_set (uid : Uid) (mask : UInt8) : (set b uid mask).Atomic :=
  .after_still (b.still_acquire .permission) fun _ => atomic_setLocked hb mask uid

omit hb in
theorem within_setAll (hw : b.WritesWithin S .permission) (mask : UInt8) (uids : List Uid) :
    (setAll b mask uids).Within S := by
  refine ((b.still_acquire .permission).within S).bind fun _ => ?_
  refine (Act.Within.batch (fun uid _ => within_setLocked hw mask uid) _ _).bind fun _ => ?_
  exact ((Act.Still.emit _).bind fun _ => .pure _).within S

omit hb in
theorem atomic_setAll (mask : UInt8) (uids : List Uid) : (setAll b mask uids).Atomic := by
  refine .after_still (b.still_acquire .permission) fun _ => Act.Answering.atomic ?_
  refine (Act.Answering.batch _ _ _ _).bind fun _ => ?_
  exact (Act.Answering.emit _).bind fun _ => .pure _

theorem still_get (uid : Uid) : (get b uid).Still := by
  refine ((hb.uidPermission.get _).attempt).bind fun answer => ?_
  -- a read that fails is answered with the default, after a warning
  match answer with
  | .ok (some mask) => exact .pure _
  | .ok none => exact .pure _
  | .error e => exact (Act.Still.emit _).bind fun _ => .pure _

end Permissions

/-! ## Ingress discard rules -/

namespace IngressDiscard

theorem within_set (hw : b.WritesWithin S .ingressDiscard) (addr : IpAddress)
    (iface : String) : (set b addr iface).Within S :=
  ((Firewall.still_interfaceIndex hb iface).within S).bind fun _ =>
    ((b.still_acquire .ingressDiscard).within S).bind fun _ =>
      (hw.1 _ _).bind fun _ => (Act.Still.emit _).within S

theorem atomic_set (addr : IpAddress) (iface : String) : (set b addr iface).Atomic :=
  .after_still (Firewall.still_interfaceIndex hb iface) fun _ =>
    .after_still (b.still_acquire .ingressDiscard) fun _ =>
      (hb.ingressDiscard.put _ _).bind fun _ => .emit _

omit hb in
theorem within_remove (hw : b.WritesWithin S .ingressDiscard) (addr : IpAddress) :
    (remove b addr).Within S :=
  ((b.still_acquire .ingressDiscard).within S).bind fun _ =>
    (hw.2 _).bind fun _ => (Act.Still.emit _).within S

theorem atomic_remove (addr : IpAddress) : (remove b addr).Atomic :=
  .after_still (b.still_acquire .ingressDiscard) fun _ =>
    (hb.ingressDiscard.delete _).bind fun _ => .emit _

theorem within_clear (hw : b.WritesWithin S .ingressDiscard) : (clear b).Within S :=
  ((b.still_acquire .ingressDiscard).within S).bind fun _ => hb.ingressDiscard.within_clear hw.2

end IngressDiscard

/-! ## Data saver -/

namespace DataSaver

omit hb in
theorem within_set (hw : b.WritesWithin S .dataSaver) (on : Bool) : (set b on).Within S :=
  ((b.still_acquire .dataSaver).within S).bind fun _ =>
    (hw _).bind fun _ => (Act.Still.emit _).within S

theorem atomic_set (on : Bool) : (set b on).Atomic :=
  .after_still (b.still_acquire .dataSaver) fun _ =>
    (hb.dataSaver.put key _).bind fun _ => .emit _

theorem still_isOn : (isOn b).Still := (hb.dataSaver.get key).bind fun _ => .pure _

end DataSaver

/-! ## The maps together -/

namespace NetMaps

omit hb in
theorem runSteps_cons_ok {name : String} {step : Op W Unit} {w w' : W} {log : List Log.Event}
    (hstep : step.run w = ⟨.ok (), w', log⟩) (rest : List (String × Op W Unit)) :
    (runSteps ((name, step) :: rest)).run w
      = ⟨((runSteps rest).run w').result, ((runSteps rest).run w').world,
          log ++ ((runSteps rest).run w').events⟩ := by
  rw [runSteps, Act.run_attempt_bind hstep]

omit hb in
theorem runSteps_cons_error (name : String) {step : Op W Unit} {w w' : W} {e : Fault}
    {log : List Log.Event} (hstep : step.run w = ⟨.error e, w', log⟩)
    (rest : List (String × Op W Unit)) :
    ∃ log', (runSteps ((name, step) :: rest)).run w
      = ⟨.error (.initFailed s!"{name}: {e.message}"), w', log'⟩ := by
  rw [runSteps, Act.run_attempt_bind hstep]
  exact ⟨_, rfl⟩

omit hb in
/-- Named steps are within what each of them is within. -/
theorem within_runSteps {steps : List (String × Op W Unit)}
    (hsteps : ∀ s ∈ steps, s.2.Within S) : (runSteps steps).Within S := by
  induction steps with
  | nil => exact (Act.Still.pure ()).within S
  | cons s rest ih =>
    have hrest := ih fun s' hs' => hsteps s' (List.mem_cons_of_mem _ hs')
    refine (hsteps s (List.mem_cons_self ..)).attempt.bind fun ended => ?_
    -- the failed step itself may have changed something; nothing runs after it
    cases ended with
    | ok _ => exact hrest
    | error e => exact ((Act.Still.emit _).bind fun _ => .fail _).within S

/-- An initialisation deletes rule records and writes to the other places, but it leaves the
permissions alone. -/
theorem within_initSteps (hdelete : ∀ uid, (b.uidOwner.delete uid).Within S)
    (hw : ∀ l, l ≠ .permission → l ≠ .uidOwner → b.WritesWithin S l) :
    ∀ s ∈ initSteps b, s.2.Within S := by
  simp only [initSteps, List.forall_mem_cons]
  exact ⟨ChainSwitch.within_reset (hw .chainSwitch nofun nofun),
    Stats.within_reset (hw .statsSelector nofun nofun), Firewall.within_clear hb hdelete,
    DataSaver.within_set (hw .dataSaver nofun nofun) false,
    IngressDiscard.within_clear hb (hw .ingressDiscard nofun nofun),
    fun _ hs => absurd hs List.not_mem_nil⟩

theorem within_init (hdelete : ∀ uid, (b.uidOwner.delete uid).Within S)
    (hw : ∀ l, l ≠ .permission → l ≠ .uidOwner → b.WritesWithin S l) : (init b).Within S :=
  (within_runSteps (within_initSteps hb hdelete hw)).bind fun _ => (Act.Still.emit _).within S

theorem still_reasons (uid : Uid) : (reasons b uid).Still :=
  (ChainSwitch.still_enabled hb).bind fun _ => (Firewall.still_record hb uid).bind fun _ =>
    (DataSaver.still_isOn hb).bind fun _ => .pure _

omit hb in
theorem still_distinctKeys {K V : Type} [DecidableEq K] {t : Table W K V} (ht : t.Orderly) :
    (distinctKeys t).Still :=
  ht.still_entries.bind fun _ => .pure _

theorem still_sizes : (sizes b).Still :=
  (still_distinctKeys hb.cookieTag).bind fun _ => (still_distinctKeys hb.uidOwner).bind fun _ =>
    (still_distinctKeys hb.uidPermission).bind fun _ => .pure _

end NetMaps

end Controllers

end UidPolicy
