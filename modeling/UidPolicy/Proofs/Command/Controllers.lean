import Mathlib.Data.List.Forall2
import UidPolicy.Command.Run
import UidPolicy.Proofs.Command.Audit

/-!
# Which calls the controllers issue

For every operation of a controller that some command runs, over a backing that grants an access:
a query keeps to an access that can read, and a change to one that can read and write.

- `keepsTo_…`: one lemma per operation, controller by controller.
- `Command.keepsTo`: a command that is classified as reading keeps to an access that can read, and
  every other command to one that can write as well.

No operation removes a slot of an array: the initialisation overwrites them.
-/

namespace UidPolicy

theorem RuleError.supported_toFault (e : RuleError) : e.toFault.Supported := by
  cases e <;> nofun

section Controllers

variable {W : Type} {b : Backing W} {access : Access} {S : Scope W} (hb : b.Grants access S)
  (hread : access.canRead = true) (hwrite : access.canWrite = true)

include hb

/-! ## Rule records -/

namespace Firewall

theorem keepsTo_interfaceIndex (name : String) :
    KeepsTo access S (interfaceIndex b.audited name) (interfaceIndex b name) := by
  refine (KeepsTo.call hb (.indexOf name) rfl).bind fun index => ?_
  cases index with
  | some i => exact .pure i
  | none => exact .fail nofun

theorem keepsTo_restrictionIndex (name : Option String) :
    KeepsTo access S (restrictionIndex b.audited name) (restrictionIndex b name) := by
  cases name with
  | none => exact .pure 0
  | some name => exact keepsTo_interfaceIndex hb name

include hread

theorem keepsTo_record (uid : Uid) :
    KeepsTo access S (record b.audited uid) (record b uid) :=
  (KeepsTo.get hb hread .uidOwner uid).bind fun _ => .pure _

theorem keepsTo_getUidRule (chain : Chain) (uid : Uid) :
    KeepsTo access S (getUidRule b.audited chain uid) (getUidRule b chain uid) :=
  (keepsTo_record hb hread uid).bind fun _ => .pure _

theorem keepsTo_uidsWithRule (chain : Chain) :
    KeepsTo access S (uidsWithRule b.audited chain) (uidsWithRule b chain) :=
  (KeepsTo.acquire .uidOwner).bind fun _ =>
    (KeepsTo.entries hb hread .uidOwner).bind fun _ => .pure _

include hwrite

theorem keepsTo_addLocked (added : MatchSet) (iif : UInt32) (uid : Uid) :
    KeepsTo access S (addLocked b.audited added iif uid) (addLocked b added iif uid) :=
  (keepsTo_record hb hread uid).bind fun _ =>
    (KeepsTo.put hb hwrite .uidOwner uid _).bind fun _ => .emit _

theorem keepsTo_removeLocked (cleared : MatchSet) (uid : Uid) :
    KeepsTo access S (removeLocked b.audited cleared uid) (removeLocked b cleared uid) := by
  refine (keepsTo_record hb hread uid).bind fun current => ?_
  cases current with
  | none => exact .fail (RuleError.noEntry uid).supported_toFault
  | some r =>
    dsimp only
    split
    · exact (KeepsTo.delete hb hwrite .uidOwner uid (by decide)).bind fun _ => .emit _
    · exact (KeepsTo.put hb hwrite .uidOwner uid _).bind fun _ => .emit _

theorem keepsTo_addRule (uid : Uid) (added : MatchSet) (iif : UInt32) :
    KeepsTo access S (addRule b.audited uid added iif) (addRule b uid added iif) := by
  refine (KeepsTo.ofExcept fun e he => ?_).bind fun _ =>
    (KeepsTo.acquire .uidOwner).bind fun _ => keepsTo_addLocked hb hread hwrite added iif uid
  obtain ⟨reason, -, rfl⟩ := error_of_mapError he
  exact reason.supported_toFault

theorem keepsTo_removeRule (uid : Uid) (cleared : MatchSet) :
    KeepsTo access S (removeRule b.audited uid cleared) (removeRule b uid cleared) :=
  (KeepsTo.acquire .uidOwner).bind fun _ => keepsTo_removeLocked hb hread hwrite cleared uid

theorem keepsTo_setUidRule (chain : Chain) (uid : Uid) (verdict : Verdict) :
    KeepsTo access S (setUidRule b.audited chain uid verdict) (setUidRule b chain uid verdict) := by
  unfold setUidRule
  split
  · exact keepsTo_addRule hb hread hwrite uid chain.bit 0
  · exact keepsTo_removeRule hb hread hwrite uid chain.bit

theorem keepsTo_setLockdown (uid : Uid) (add : Bool) :
    KeepsTo access S (setLockdown b.audited uid add) (setLockdown b uid add) := by
  unfold setLockdown
  split
  · exact keepsTo_addRule hb hread hwrite uid .lockdownVpn 0
  · exact keepsTo_removeRule hb hread hwrite uid .lockdownVpn

theorem keepsTo_replaceChain (chain : Chain) (uids : List Uid) :
    KeepsTo access S (replaceChain b.audited chain uids) (replaceChain b chain uids) := by
  refine (KeepsTo.acquire .uidOwner).bind fun _ => ?_
  refine (KeepsTo.entries hb hread .uidOwner).bind fun _ => ?_
  refine (KeepsTo.batch _ (keepsTo_removeLocked hb hread hwrite chain.bit) _ _).bind fun _ => ?_
  refine (KeepsTo.batch _ (keepsTo_addLocked hb hread hwrite chain.bit 0) _ _).bind fun _ => ?_
  exact (KeepsTo.emit _).bind fun _ => .pure _

theorem keepsTo_addInterfaceRules (name : Option String) (uids : List Uid) :
    KeepsTo access S (addInterfaceRules b.audited name uids) (addInterfaceRules b name uids) := by
  refine (keepsTo_restrictionIndex hb name).bind fun index => ?_
  refine (KeepsTo.acquire .uidOwner).bind fun _ => ?_
  refine (KeepsTo.batch _ (keepsTo_addLocked hb hread hwrite .iif index) _ _).bind fun _ => ?_
  exact (KeepsTo.emit _).bind fun _ => .pure _

theorem keepsTo_removeInterfaceRules (uids : List Uid) :
    KeepsTo access S (removeInterfaceRules b.audited uids) (removeInterfaceRules b uids) := by
  refine (KeepsTo.acquire .uidOwner).bind fun _ => ?_
  refine (KeepsTo.batch _ (keepsTo_removeLocked hb hread hwrite .iif) _ _).bind fun _ => ?_
  exact (KeepsTo.emit _).bind fun _ => .pure _

theorem keepsTo_clear : KeepsTo access S (clear b.audited) (clear b) := by
  refine (KeepsTo.acquire .uidOwner).bind fun _ => ?_
  exact KeepsTo.clear hb hread hwrite .uidOwner (by decide)

end Firewall

/-! ## The words of the configuration -/

namespace ChainSwitch

include hread

theorem keepsTo_word : KeepsTo access S (word b.audited) (word b) := by
  refine (KeepsTo.get hb hread .configuration key).bind fun stored => ?_
  cases stored with
  | some w => exact .pure w
  | none => exact .fail nofun

theorem keepsTo_enabled : KeepsTo access S (enabled b.audited) (enabled b) :=
  (keepsTo_word hb hread).bind fun _ => .pure _

include hwrite

theorem keepsTo_setEnabled (chain : Chain) (on : Bool) :
    KeepsTo access S (setEnabled b.audited chain on) (setEnabled b chain on) :=
  (KeepsTo.acquire .chainSwitch).bind fun _ => (keepsTo_word hb hread).bind fun _ =>
    (KeepsTo.put hb hwrite .configuration key _).bind fun _ => .emit _

omit hread in
theorem keepsTo_reset : KeepsTo access S (reset b.audited) (reset b) :=
  (KeepsTo.acquire .chainSwitch).bind fun _ =>
    KeepsTo.put hb hwrite .configuration key defaultWord

end ChainSwitch

namespace Stats

include hread

theorem keepsTo_active : KeepsTo access S (active b.audited) (active b) := by
  refine (KeepsTo.get hb hread .configuration key).bind fun stored => ?_
  cases stored with
  | some selector => exact .pure selector
  | none => exact .fail nofun

include hwrite

theorem keepsTo_flip : KeepsTo access S (flip b.audited) (flip b) := by
  refine (KeepsTo.acquire .statsSelector).bind fun _ => ?_
  refine (keepsTo_active hb hread).bind fun current => ?_
  cases other? current with
  | none => exact .fail nofun
  | some next => exact (KeepsTo.put hb hwrite .configuration key next).bind fun _ => .pure next

/-- The fault of the barrier is passed on. -/
theorem keepsTo_swap : KeepsTo access S (swap b.audited) (swap b) := by
  refine (keepsTo_flip hb hread hwrite).bind fun next => ?_
  refine (KeepsTo.call hb .barrier hwrite).catching (fun _ => ?_) fun e he => ?_
  · exact (KeepsTo.emit _).bind fun _ => .pure next
  · exact (KeepsTo.emit _).bind fun _ => .fail he

omit hread in
theorem keepsTo_reset : KeepsTo access S (reset b.audited) (reset b) :=
  (KeepsTo.acquire .statsSelector).bind fun _ =>
    KeepsTo.put hb hwrite .configuration key mapA

end Stats

/-! ## Permissions, discard rules and data saver -/

namespace Permissions

include hread in
/-- A read that fails is reported, and the default answered. -/
theorem keepsTo_get (uid : Uid) : KeepsTo access S (get b.audited uid) (get b uid) := by
  refine (KeepsTo.get hb hread .uidPermission uid.appId).catching (fun stored => ?_)
    fun e _ => ?_
  · cases stored with
    | some mask => exact .pure _
    | none => exact .pure _
  · exact (KeepsTo.emit _).bind fun _ => .pure _

include hwrite

theorem keepsTo_setLocked (mask : UInt8) (uid : Uid) :
    KeepsTo access S (setLocked b.audited mask uid) (setLocked b mask uid) := by
  unfold setLocked
  dsimp only
  split
  · exact (KeepsTo.delete hb hwrite .uidPermission uid.appId (by decide)).bind fun _ => .emit _
  · exact (KeepsTo.put hb hwrite .uidPermission uid.appId mask).bind fun _ => .emit _

theorem keepsTo_setAll (mask : UInt8) (uids : List Uid) :
    KeepsTo access S (setAll b.audited mask uids) (setAll b mask uids) := by
  refine (KeepsTo.acquire .permission).bind fun _ => ?_
  refine (KeepsTo.batch _ (keepsTo_setLocked hb hwrite mask) _ _).bind fun _ => ?_
  exact (KeepsTo.emit _).bind fun _ => .pure _

end Permissions

namespace IngressDiscard

include hread in
theorem keepsTo_get (addr : IpAddress) : KeepsTo access S (get b.audited addr) (get b addr) :=
  KeepsTo.get hb hread .ingressDiscard addr.discardKey

include hwrite

theorem keepsTo_set (addr : IpAddress) (iface : String) :
    KeepsTo access S (set b.audited addr iface) (set b addr iface) :=
  (Firewall.keepsTo_interfaceIndex hb iface).bind fun _ =>
    (KeepsTo.acquire .ingressDiscard).bind fun _ =>
      (KeepsTo.put hb hwrite .ingressDiscard addr.discardKey _).bind fun _ => .emit _

theorem keepsTo_remove (addr : IpAddress) :
    KeepsTo access S (remove b.audited addr) (remove b addr) :=
  (KeepsTo.acquire .ingressDiscard).bind fun _ =>
    (KeepsTo.delete hb hwrite .ingressDiscard addr.discardKey (by decide)).bind fun _ => .emit _

include hread in
theorem keepsTo_clear : KeepsTo access S (clear b.audited) (clear b) := by
  refine (KeepsTo.acquire .ingressDiscard).bind fun _ => ?_
  exact KeepsTo.clear hb hread hwrite .ingressDiscard (by decide)

end IngressDiscard

namespace DataSaver

include hread in
theorem keepsTo_isOn : KeepsTo access S (isOn b.audited) (isOn b) :=
  (KeepsTo.get hb hread .dataSaver key).bind fun _ => .pure _

include hwrite in
theorem keepsTo_set (on : Bool) : KeepsTo access S (set b.audited on) (set b on) :=
  (KeepsTo.acquire .dataSaver).bind fun _ =>
    (KeepsTo.put hb hwrite .dataSaver key _).bind fun _ => .emit _

end DataSaver

/-! ## The maps together -/

namespace NetMaps

omit hb in
/-- Named steps keep to what each of them keeps to; that one fails is a fault of its own. -/
theorem keepsTo_runSteps {steps : List (String × Op (Audited W) Unit)}
    {steps' : List (String × Op W Unit)}
    (hsteps : List.Forall₂ (fun s s' => s.1 = s'.1 ∧ KeepsTo access S s.2 s'.2) steps steps') :
    KeepsTo access S (runSteps steps) (runSteps steps') := by
  induction hsteps with
  | nil => exact .pure ()
  | @cons s s' rest rest' hstep _ ih =>
    obtain ⟨name, step⟩ := s
    obtain ⟨name', step'⟩ := s'
    obtain ⟨rfl, hstep⟩ := hstep
    refine hstep.catching (fun _ => ih) fun e _ => ?_
    -- the new fault hides the one of the step, which is still in the trail
    exact (KeepsTo.emit _).bind fun _ => .fail nofun

include hread

theorem keepsTo_distinctKeys (map : MapName) [DecidableEq map.Key] :
    KeepsTo access S (distinctKeys (b.audited.table map)) (distinctKeys (b.table map)) :=
  (KeepsTo.entries hb hread map).bind fun _ => .pure _

theorem keepsTo_sizes : KeepsTo access S (sizes b.audited) (sizes b) :=
  (keepsTo_distinctKeys hb hread .cookieTag).bind fun _ =>
    (keepsTo_distinctKeys hb hread .uidOwner).bind fun _ =>
      (keepsTo_distinctKeys hb hread .uidPermission).bind fun _ => .pure _

theorem keepsTo_reasons (uid : Uid) : KeepsTo access S (reasons b.audited uid) (reasons b uid) :=
  (ChainSwitch.keepsTo_enabled hb hread).bind fun _ =>
    (Firewall.keepsTo_record hb hread uid).bind fun _ =>
      (DataSaver.keepsTo_isOn hb hread).bind fun _ => .pure _

theorem keepsTo_isBlocked (uid : Uid) (metered : Bool) :
    KeepsTo access S (isBlocked b.audited uid metered) (isBlocked b uid metered) :=
  (keepsTo_reasons hb hread uid).bind fun _ => .pure _

include hwrite in
/-- **The initialisation overwrites slots and clears hash maps**, and of what it does nothing asks
an array to remove a slot. -/
theorem keepsTo_init : KeepsTo access S (init b.audited) (init b) := by
  refine (keepsTo_runSteps ?_).bind fun _ => .emit _
  -- two words and a flag, which are slots of arrays, are put; the two hash maps are cleared
  exact .cons ⟨rfl, ChainSwitch.keepsTo_reset hb hwrite⟩ <|
    .cons ⟨rfl, Stats.keepsTo_reset hb hwrite⟩ <|
    .cons ⟨rfl, Firewall.keepsTo_clear hb hread hwrite⟩ <|
    .cons ⟨rfl, DataSaver.keepsTo_set hb hwrite false⟩ <|
    .cons ⟨rfl, IngressDiscard.keepsTo_clear hb hread hwrite⟩ .nil

end NetMaps

/-! ## Commands -/

namespace Command

omit hb in
/-- Showing the result of a batch issues no call. -/
theorem keepsTo_emitBatch (format : OutputFormat) (what : String) (o : BatchOutcome) :
    KeepsTo access S (emitBatch format what o) (emitBatch format what o) := by
  unfold emitBatch
  dsimp only
  split
  · exact .pure _
  · exact (KeepsTo.emit _).bind fun _ => .pure _

include hread

/-- **A command keeps to the access that its class asks for**, one case for each command: those that
only read are gone through first, and the others may rely on an access that permits both. -/
theorem keepsTo (format : OutputFormat) (c : Command)
    (hclass : c.isReadOnly = false → access.canWrite = true) :
    KeepsTo access S (c.run b.audited format) (c.run b format) := by
  cases c with
  | version => exact .pure _
  | ruleGet chain uid =>
    exact (Firewall.keepsTo_getUidRule hb hread chain uid).bind fun _ => .pure _
  | chainStatus => exact (ChainSwitch.keepsTo_enabled hb hread).bind fun _ => .pure _
  | chainList chain => exact (Firewall.keepsTo_uidsWithRule hb hread chain).bind fun _ => .pure _
  | statsActive => exact (Stats.keepsTo_active hb hread).bind fun _ => .pure _
  | permGet uid => exact (Permissions.keepsTo_get hb hread uid).bind fun _ => .pure _
  | discardGet addr => exact (IngressDiscard.keepsTo_get hb hread addr).bind fun _ => .pure _
  | dataSaverStatus => exact (DataSaver.keepsTo_isOn hb hread).bind fun _ => .pure _
  | blocked uid metered =>
    exact (NetMaps.keepsTo_reasons hb hread uid).bind fun _ =>
      (NetMaps.keepsTo_isBlocked hb hread uid metered).bind fun _ => .pure _
  | sizes => exact (NetMaps.keepsTo_sizes hb hread).bind fun _ => .pure _
  -- the others write
  | init => exact (NetMaps.keepsTo_init hb hread (hclass rfl)).bind fun _ => .pure _
  | ruleAdd chain uid =>
    exact (Firewall.keepsTo_addRule hb hread (hclass rfl) uid chain.bit 0).bind fun _ => .pure _
  | ruleRemove chain uid =>
    exact (Firewall.keepsTo_removeRule hb hread (hclass rfl) uid chain.bit).bind fun _ => .pure _
  | ruleSet chain uid verdict =>
    exact (Firewall.keepsTo_setUidRule hb hread (hclass rfl) chain uid verdict).bind fun _ =>
      .pure _
  | chainReplace chain uids =>
    exact (Firewall.keepsTo_replaceChain hb hread (hclass rfl) chain uids).bind fun _ =>
      keepsTo_emitBatch ..
  | chainEnable chain =>
    exact (ChainSwitch.keepsTo_setEnabled hb hread (hclass rfl) chain true).bind fun _ => .pure _
  | chainDisable chain =>
    exact (ChainSwitch.keepsTo_setEnabled hb hread (hclass rfl) chain false).bind fun _ => .pure _
  | lockdownAdd uid =>
    exact (Firewall.keepsTo_setLockdown hb hread (hclass rfl) uid true).bind fun _ => .pure _
  | lockdownRemove uid =>
    exact (Firewall.keepsTo_setLockdown hb hread (hclass rfl) uid false).bind fun _ => .pure _
  | ifaceAdd iface uids =>
    exact (Firewall.keepsTo_addInterfaceRules hb hread (hclass rfl) iface uids).bind fun _ =>
      keepsTo_emitBatch ..
  | ifaceRemove uids =>
    exact (Firewall.keepsTo_removeInterfaceRules hb hread (hclass rfl) uids).bind fun _ =>
      keepsTo_emitBatch ..
  | statsSwap => exact (Stats.keepsTo_swap hb hread (hclass rfl)).bind fun _ => .pure _
  | permSet mask uids =>
    exact (Permissions.keepsTo_setAll hb (hclass rfl) mask uids).bind fun _ =>
      keepsTo_emitBatch ..
  | discardSet addr iface =>
    exact (IngressDiscard.keepsTo_set hb (hclass rfl) addr iface).bind fun _ => .pure _
  | discardRemove addr =>
    exact (IngressDiscard.keepsTo_remove hb (hclass rfl) addr).bind fun _ => .pure _
  | dataSaverOn => exact (DataSaver.keepsTo_set hb (hclass rfl) true).bind fun _ => .pure _
  | dataSaverOff => exact (DataSaver.keepsTo_set hb (hclass rfl) false).bind fun _ => .pure _

end Command

end Controllers

end UidPolicy
