import UidPolicy.Proofs.Request

/-!
# What answers depend on

Two worlds can look the same to an operation although they differ. Whether they do is a relation
between worlds, and an operation respects it if it answers alike in related worlds and leaves
related worlds behind.

- `Act.Respects`: the operation respects a relation. Programs respect what their parts respect.
- `Act.respects_zoom`: an operation on a part of the world respects agreement on that part.
- `Act.RespectsUpTo`: the same, but for answers that may be exchanged for each other.
- `Backing.Respects`: reading and writing the place that a lock guards respects a relation.
- `respects_…`: one lemma per operation, controller by controller. A controller uses its own
  place only.
- `Request.owner`: the place whose controller a request belongs to. The initialisation, and the
  queries about several maps, belong to none. `Request.respects`: a request respects what its
  owner's place does.
-/

namespace UidPolicy

/-- From related worlds the operation answers alike, and it leaves related worlds behind. With
agreement on a part as the relation, it says that nothing else matters. -/
def Act.Respects {ε W α : Type} (R : W → W → Prop) (x : Act ε W α) : Prop :=
  ∀ w w', R w w' → (x.run w).result = (x.run w').result ∧ R (x.run w).world (x.run w').world

namespace Act

variable {ε ε' W α β : Type} {R : W → W → Prop}

/-- An operation on a part of the world respects agreement on that part: it cannot see the rest. -/
theorem respects_zoom {T : Type} (p : Part W T) (x : Act ε T α) :
    (x.zoom p).Respects fun w w' => p.get w = p.get w' := by
  intro w w' hpart
  rw [run_zoom, run_zoom, hpart]
  refine ⟨rfl, ?_⟩
  show p.get (p.set _ w) = p.get (p.set _ w')
  rw [p.get_set, p.get_set]

namespace Respects

theorem pure (a : α) : (Pure.pure a : Act ε W α).Respects R := fun _ _ hw => ⟨rfl, hw⟩

theorem fail (e : ε) : (Act.fail e : Act ε W α).Respects R := fun _ _ hw => ⟨rfl, hw⟩

theorem emit (e : Log.Event) : (Act.emit e : Act ε W Unit).Respects R := fun _ _ hw => ⟨rfl, hw⟩

theorem ofExcept (r : Except ε α) : (Act.ofExcept r : Act ε W α).Respects R := by
  cases r with
  | ok a => exact pure a
  | error e => exact fail e

/-- One operation after another: the second runs in related worlds, on the same answer. -/
theorem bind {x : Act ε W α} {f : α → Act ε W β} (hx : x.Respects R)
    (hf : ∀ a, (f a).Respects R) : (x >>= f).Respects R := by
  intro w w' hw
  obtain ⟨hanswer, hworld⟩ := hx w w' hw
  rw [run_bind, run_bind, hanswer]
  -- both sides have the same answer, so both go on or neither does
  cases (x.run w').result with
  | ok a => exact hf a _ _ hworld
  | error e => exact ⟨rfl, hworld⟩

theorem map {x : Act ε W α} (hx : x.Respects R) (f : α → β) : (f <$> x).Respects R := by
  rw [map_eq_pure_bind]
  exact hx.bind fun a => pure (f a)

theorem attempt {x : Act ε W α} (hx : x.Respects R) : (x.attempt : Act ε' W _).Respects R := by
  intro w w' hw
  obtain ⟨hanswer, hworld⟩ := hx w w' hw
  rw [run_attempt, run_attempt, hanswer]
  exact ⟨rfl, hworld⟩

/-- A batch goes on alike after each of its turns, whether the turn succeeds or fails. -/
theorem batch {step : Uid → Op W Unit} (hstep : ∀ uid, (step uid).Respects R)
    (report : Uid → Fault → Log.Event) (l : List Uid) (o : BatchOutcome) :
    (Batch.run step report l o).Respects R := by
  induction l generalizing o with
  | nil => exact pure o
  | cons uid rest ih =>
    -- a turn that fails is counted and reported, alike on both sides
    refine (hstep uid).attempt.bind fun ended => ?_
    cases ended with
    | ok _ => exact ih (o.record uid true)
    | error e => exact (emit _).bind fun _ => ih (o.record uid false)

end Respects

end Act

/-! ## Answers that may be exchanged -/

/-- From related worlds the operation answers alike, but for answers that may be exchanged for
each other, and it leaves related worlds behind. -/
def Act.RespectsUpTo {ε W α : Type} (R : W → W → Prop) (P : Except ε α → Prop)
    (x : Act ε W α) : Prop :=
  ∀ w w', R w w' →
    ((x.run w).result = (x.run w').result ∨ P (x.run w).result ∧ P (x.run w').result) ∧
      R (x.run w).world (x.run w').world

namespace Act.RespectsUpTo

variable {ε ε' W α β : Type} {R : W → W → Prop} {P : Except ε α → Prop}

theorem of_respects {x : Act ε W α} (hx : x.Respects R) : x.RespectsUpTo R P :=
  fun w w' hw => (hx w w' hw).imp_left .inl

theorem after {x : Act ε W β} {f : β → Act ε W α} (hx : x.Respects R)
    (hf : ∀ b, (f b).RespectsUpTo R P) : (x >>= f).RespectsUpTo R P := by
  intro w w' hw
  obtain ⟨hanswer, hworld⟩ := hx w w' hw
  rw [run_bind, run_bind, hanswer]
  -- up to here there is nothing to exchange: the first operation answers alike
  cases (x.run w').result with
  | ok b => exact hf b _ _ hworld
  | error e => exact ⟨.inl rfl, hworld⟩

/-- An operation that only renames the answers of another. -/
theorem renamed {x : Act ε W α} {y : Act ε' W β} (hx : x.RespectsUpTo R P)
    {g : Except ε α → Except ε' β}
    (hrun : ∀ w, y.run w = ⟨g (x.run w).result, (x.run w).world, (x.run w).events⟩)
    {Q : Except ε' β → Prop} (hQ : ∀ r, P r → Q (g r)) : y.RespectsUpTo R Q := by
  intro w w' hw
  obtain ⟨hsame | ⟨hP, hP'⟩, hleft⟩ := hx w w' hw
  · rw [hrun, hrun, hsame]
    exact ⟨.inl rfl, hleft⟩
  · rw [hrun, hrun]
    exact ⟨.inr ⟨hQ _ hP, hQ _ hP'⟩, hleft⟩

theorem map {x : Act ε W α} (hx : x.RespectsUpTo R P) {f : α → β} {Q : Except ε β → Prop}
    (hQ : ∀ r, P r → Q (r.map f)) : (f <$> x).RespectsUpTo R Q := hx.renamed (run_map f x) hQ

theorem mapError {x : Act ε W α} (hx : x.RespectsUpTo R P) {f : ε → ε'}
    {Q : Except ε' α → Prop} (hQ : ∀ r, P r → Q (r.mapError f)) :
    (x.mapError f).RespectsUpTo R Q := hx.renamed (run_mapError f x) hQ

end Act.RespectsUpTo

/-! ## Maps -/

/-- The four operations respect a relation. Walking and clearing are made of these, and need no
fields of their own. -/
structure Table.Respects {W K V : Type} (t : Table W K V) (R : W → W → Prop) : Prop where
  get : ∀ k, (t.get k).Respects R
  put : ∀ k v, (t.put k v).Respects R
  delete : ∀ k, (t.delete k).Respects R
  keys : t.keys.Respects R

namespace Table

variable {W K V : Type} {R : W → W → Prop}

/-- A map that is a part of the world respects agreement on that part. -/
theorem respects_zoom {T : Type} (p : Part W T) (t : Table T K V) :
    (t.zoom p).Respects fun w w' => p.get w = p.get w' where
  get k := (t.get k).respects_zoom p
  put k v := (t.put k v).respects_zoom p
  delete k := (t.delete k).respects_zoom p
  keys := t.keys.respects_zoom p

namespace Respects

variable {t : Table W K V} (ht : t.Respects R)

include ht

theorem readAll (ks : List K) : (t.readAll ks).Respects R := by
  induction ks with
  | nil => exact .pure []
  | cons k ks ih => exact (ht.get k).bind fun _ => ih.bind fun _ => .pure _

theorem entries : t.entries.Respects R := ht.keys.bind ht.readAll

theorem deleteAll (ks : List K) : (t.deleteAll ks).Respects R := by
  induction ks with
  | nil => exact .pure ()
  | cons k ks ih => exact (ht.delete k).bind fun _ => ih

theorem clear : t.clear.Respects R := ht.keys.bind ht.deleteAll

end Respects

end Table

/-! ## Places -/

/-- All that the controller of a place does there respects a relation. A request is told by the lock
that guards the place it writes to. -/
def Backing.Respects {W : Type} (b : Backing W) (R : W → W → Prop) : Lock → Prop
  | .uidOwner => b.uidOwner.Respects R
  | .permission => b.uidPermission.Respects R
  | .ingressDiscard => b.ingressDiscard.Respects R
  | .dataSaver => b.dataSaver.Respects R
  | .chainSwitch => (b.configuration.get ChainSwitch.key).Respects R ∧
      ∀ v, (b.configuration.put ChainSwitch.key v).Respects R
  | .statsSelector => (b.configuration.get Stats.key).Respects R ∧
      (∀ v, (b.configuration.put Stats.key v).Respects R) ∧ b.barrier.Respects R

/-- Which locks are poisoned does not depend on the world. -/
theorem Backing.respects_acquire {W : Type} {R : W → W → Prop} (b : Backing W) (l : Lock) :
    (b.acquire l).Respects R := by
  rw [acquire]
  split
  · exact .fail _
  · exact .pure ()

section Controllers

variable {W : Type} {b : Backing W} {R : W → W → Prop}

/-! ### Rule records -/

namespace Firewall

section Interfaces

variable (hindex : ∀ name, (b.indexOf name).Respects R)

include hindex

theorem respects_interfaceIndex (name : String) : (interfaceIndex b name).Respects R := by
  refine (hindex name).bind fun index => ?_
  cases index with
  | some i => exact .pure i
  | none => exact .fail _

theorem respects_restrictionIndex (name : Option String) :
    (restrictionIndex b name).Respects R := by
  cases name with
  | none => exact .pure 0
  | some name => exact respects_interfaceIndex hindex name

end Interfaces

variable (hrules : b.uidOwner.Respects R)

include hrules

theorem respects_record (uid : Uid) : (record b uid).Respects R :=
  (hrules.get uid).bind fun _ => .pure _

theorem respects_getUidRule (c : Chain) (uid : Uid) : (getUidRule b c uid).Respects R :=
  (respects_record hrules uid).bind fun _ => .pure _

theorem respects_uidsWithRule (c : Chain) : (uidsWithRule b c).Respects R :=
  (b.respects_acquire .uidOwner).bind fun _ => hrules.entries.bind fun _ => .pure _

theorem respects_uidsAllowed (c : Chain) : (uidsAllowed b c).Respects R := by
  rw [uidsAllowed]
  split
  · exact respects_uidsWithRule hrules c
  · exact .fail _

theorem respects_uidsDenied (c : Chain) : (uidsDenied b c).Respects R := by
  rw [uidsDenied]
  split
  · exact .fail _
  · exact respects_uidsWithRule hrules c

theorem respects_addLocked (m : MatchSet) (i : UInt32) (uid : Uid) :
    (addLocked b m i uid).Respects R :=
  (respects_record hrules uid).bind fun _ => (hrules.put uid _).bind fun _ => .emit _

theorem respects_removeLocked (m : MatchSet) (uid : Uid) : (removeLocked b m uid).Respects R := by
  refine (respects_record hrules uid).bind fun current => ?_
  -- which of the writes is made depends on the record that was read
  cases current with
  | none => exact .fail _
  | some r =>
    dsimp only
    split
    · exact (hrules.delete uid).bind fun _ => .emit _
    · exact (hrules.put uid _).bind fun _ => .emit _

theorem respects_addRule (uid : Uid) (m : MatchSet) (i : UInt32) :
    (addRule b uid m i).Respects R :=
  (Act.Respects.ofExcept _).bind fun _ =>
    (b.respects_acquire .uidOwner).bind fun _ => respects_addLocked hrules m i uid

theorem respects_removeRule (uid : Uid) (m : MatchSet) : (removeRule b uid m).Respects R :=
  (b.respects_acquire .uidOwner).bind fun _ => respects_removeLocked hrules m uid

theorem respects_setUidRule (c : Chain) (uid : Uid) (v : Verdict) :
    (setUidRule b c uid v).Respects R := by
  rw [setUidRule]
  split
  · exact respects_addRule hrules uid c.bit 0
  · exact respects_removeRule hrules uid c.bit

theorem respects_setLockdown (uid : Uid) (add : Bool) : (setLockdown b uid add).Respects R := by
  rw [setLockdown]
  split
  · exact respects_addRule hrules uid .lockdownVpn 0
  · exact respects_removeRule hrules uid .lockdownVpn

theorem respects_replaceChain (c : Chain) (uids : List Uid) :
    (replaceChain b c uids).Respects R := by
  refine (b.respects_acquire .uidOwner).bind fun _ => hrules.entries.bind fun _ => ?_
  refine (Act.Respects.batch (respects_removeLocked hrules c.bit) _ _ _).bind fun _ => ?_
  refine (Act.Respects.batch (respects_addLocked hrules c.bit 0) _ _ _).bind fun _ => ?_
  exact (Act.Respects.emit _).bind fun _ => .pure _

theorem respects_addInterfaceRules (hindex : ∀ name, (b.indexOf name).Respects R)
    (name : Option String) (uids : List Uid) : (addInterfaceRules b name uids).Respects R := by
  refine (respects_restrictionIndex hindex name).bind fun i => ?_
  refine (b.respects_acquire .uidOwner).bind fun _ => ?_
  refine (Act.Respects.batch (respects_addLocked hrules .iif i) _ _ _).bind fun _ => ?_
  exact (Act.Respects.emit _).bind fun _ => .pure _

theorem respects_removeInterfaceRules (uids : List Uid) :
    (removeInterfaceRules b uids).Respects R := by
  refine (b.respects_acquire .uidOwner).bind fun _ => ?_
  refine (Act.Respects.batch (respects_removeLocked hrules .iif) _ _ _).bind fun _ => ?_
  exact (Act.Respects.emit _).bind fun _ => .pure _

theorem respects_clear : (clear b).Respects R :=
  (b.respects_acquire .uidOwner).bind fun _ => hrules.clear

end Firewall

/-! ### The words of the configuration -/

namespace ChainSwitch

variable (hswitch : b.Respects R .chainSwitch)

include hswitch

theorem respects_word : (word b).Respects R := by
  refine hswitch.1.bind fun stored => ?_
  cases stored with
  | some w => exact .pure w
  | none => exact .fail _

theorem respects_setEnabled (c : Chain) (on : Bool) : (setEnabled b c on).Respects R :=
  (b.respects_acquire .chainSwitch).bind fun _ => (respects_word hswitch).bind fun _ =>
    (hswitch.2 _).bind fun _ => .emit _

theorem respects_reset : (reset b).Respects R :=
  (b.respects_acquire .chainSwitch).bind fun _ => hswitch.2 defaultWord

end ChainSwitch

namespace Stats

variable (hstats : b.Respects R .statsSelector)

include hstats

theorem respects_active : (active b).Respects R := by
  refine hstats.1.bind fun stored => ?_
  cases stored with
  | some s => exact .pure s
  | none => exact .fail _

theorem respects_flip : (flip b).Respects R := by
  refine (b.respects_acquire .statsSelector).bind fun _ => ?_
  refine (respects_active hstats).bind fun current => ?_
  cases other? current with
  | none => exact .fail _
  | some next => exact (hstats.2.1 next).bind fun _ => .pure next

theorem respects_swap : (swap b).Respects R := by
  refine (respects_flip hstats).bind fun next => hstats.2.2.attempt.bind fun ended => ?_
  cases ended with
  | ok _ => exact (Act.Respects.emit _).bind fun _ => .pure next
  | error e => exact (Act.Respects.emit _).bind fun _ => .fail e

theorem respects_reset : (reset b).Respects R :=
  (b.respects_acquire .statsSelector).bind fun _ => hstats.2.1 mapA

end Stats

/-! ### Permissions, discard rules, data saver -/

namespace Permissions

variable (hpermissions : b.uidPermission.Respects R)

include hpermissions

theorem respects_setLocked (mask : UInt8) (uid : Uid) : (setLocked b mask uid).Respects R := by
  rw [setLocked]
  split
  · exact (hpermissions.delete _).bind fun _ => .emit _
  · exact (hpermissions.put _ _).bind fun _ => .emit _

theorem respects_set (uid : Uid) (mask : UInt8) : (set b uid mask).Respects R :=
  (b.respects_acquire .permission).bind fun _ => respects_setLocked hpermissions mask uid

theorem respects_setAll (mask : UInt8) (uids : List Uid) : (setAll b mask uids).Respects R := by
  refine (b.respects_acquire .permission).bind fun _ => ?_
  refine (Act.Respects.batch (respects_setLocked hpermissions mask) _ _ _).bind fun _ => ?_
  exact (Act.Respects.emit _).bind fun _ => .pure _

theorem respects_get (uid : Uid) : (get b uid).Respects R := by
  refine (hpermissions.get uid.appId).attempt.bind fun stored => ?_
  -- three answers of a read, and the warning about the last one
  match stored with
  | .ok (some mask) => exact .pure _
  | .ok none => exact .pure _
  | .error e => exact (Act.Respects.emit _).bind fun _ => .pure _

end Permissions

namespace IngressDiscard

variable (hdiscards : b.ingressDiscard.Respects R)

include hdiscards

theorem respects_set (hindex : ∀ name, (b.indexOf name).Respects R) (addr : IpAddress)
    (iface : String) : (set b addr iface).Respects R :=
  (Firewall.respects_interfaceIndex hindex iface).bind fun _ =>
    (b.respects_acquire .ingressDiscard).bind fun _ =>
      (hdiscards.put _ _).bind fun _ => .emit _

theorem respects_remove (addr : IpAddress) : (remove b addr).Respects R :=
  (b.respects_acquire .ingressDiscard).bind fun _ =>
    (hdiscards.delete _).bind fun _ => .emit _

theorem respects_clear : (clear b).Respects R :=
  (b.respects_acquire .ingressDiscard).bind fun _ => hdiscards.clear

end IngressDiscard

namespace DataSaver

variable (hsaver : b.dataSaver.Respects R)

include hsaver

theorem respects_set (on : Bool) : (set b on).Respects R :=
  (b.respects_acquire .dataSaver).bind fun _ => (hsaver.put key _).bind fun _ => .emit _

theorem respects_isOn : (isOn b).Respects R := (hsaver.get key).bind fun _ => .pure _

end DataSaver

end Controllers

/-! ## Requests -/

namespace Request

variable {W : Type} {b : Backing W} {R : W → W → Prop}

/-- The place whose controller a request belongs to, named by the lock that guards it. The
initialisation belongs to none: it goes through five of them. -/
def owner : Request → Option Lock
  | mutate _ | record _ | uidRule .. | uidsWithRule _ | uidsAllowed _ | uidsDenied _ =>
    some .uidOwner
  | switchWord | enabledChains | setChain .. | isChainEnabled _ | resetChains =>
    some .chainSwitch
  | activeStats | swapStats | resetStats => some .statsSelector
  | setPermission .. | setPermissions .. | permission _ => some .permission
  | setDiscard .. | removeDiscard _ | discardRule _ | clearDiscards => some .ingressDiscard
  | setSaver _ | saver => some .dataSaver
  -- these involve several controllers
  | init | reasons _ | isBlocked .. | isRestricted _ | sizes => none

/-- Except for the initialisation, a controller writes to its own place only. -/
theorem owner_of_written {r : Request} {l : Lock} (hinit : r ≠ .init) (hl : l ∈ r.written) :
    r.owner = some l := by
  cases r with
  | init => exact absurd rfl hinit
  | mutate | setChain | resetChains | swapStats | resetStats | setPermission | setPermissions
  | setDiscard | removeDiscard | clearDiscards | setSaver =>
    rw [List.mem_singleton.1 hl]
    rfl
  | _ => exact absurd hl List.not_mem_nil

/-- A call that changes rule records respects what their map does. -/
theorem respects_mutate (hindex : ∀ name, (b.indexOf name).Respects R)
    (hrules : b.uidOwner.Respects R) (m : Mutation) : (m.run b).Respects R := by
  cases m with
  | addRule uid added iif => exact (Firewall.respects_addRule hrules uid added iif).map _
  | removeRule uid cleared => exact (Firewall.respects_removeRule hrules uid cleared).map _
  | setUidRule c uid v => exact (Firewall.respects_setUidRule hrules c uid v).map _
  | replaceChain c uids => exact (Firewall.respects_replaceChain hrules c uids).map _
  | setLockdown uid add => exact (Firewall.respects_setLockdown hrules uid add).map _
  | addInterfaceRules name uids =>
    exact (Firewall.respects_addInterfaceRules hrules hindex name uids).map _
  | removeInterfaceRules uids => exact (Firewall.respects_removeInterfaceRules hrules uids).map _
  | clear => exact (Firewall.respects_clear hrules).map _

/-- **A request depends on its owner's place only**, and on the interfaces. What the places of other
controllers hold, and which writes fail there, makes no difference. -/
theorem respects {r : Request} {l : Lock} (howner : r.owner = some l)
    (hindex : ∀ name, (b.indexOf name).Respects R) (hplace : b.Respects R l) :
    (r.run b).Respects R := by
  -- each of the requests that have an owner, at its owner's place
  cases r <;> cases howner
  case mutate.refl m => exact respects_mutate hindex hplace m
  case record.refl uid => exact (Firewall.respects_record hplace uid).map _
  case uidRule.refl c uid => exact (Firewall.respects_getUidRule hplace c uid).map _
  case uidsWithRule.refl c => exact (Firewall.respects_uidsWithRule hplace c).map _
  case uidsAllowed.refl c => exact (Firewall.respects_uidsAllowed hplace c).map _
  case uidsDenied.refl c => exact (Firewall.respects_uidsDenied hplace c).map _
  case switchWord.refl => exact (ChainSwitch.respects_word hplace).map _
  case enabledChains.refl =>
    exact ((ChainSwitch.respects_word hplace).bind fun _ => .pure _).map _
  case setChain.refl c on => exact (ChainSwitch.respects_setEnabled hplace c on).map _
  case isChainEnabled.refl c =>
    exact ((ChainSwitch.respects_word hplace).bind fun _ => .pure _).map _
  case resetChains.refl => exact (ChainSwitch.respects_reset hplace).map _
  case activeStats.refl => exact (Stats.respects_active hplace).map _
  case swapStats.refl => exact (Stats.respects_swap hplace).map _
  case resetStats.refl => exact (Stats.respects_reset hplace).map _
  case setPermission.refl uid mask => exact (Permissions.respects_set hplace uid mask).map _
  case setPermissions.refl mask uids =>
    exact (Permissions.respects_setAll hplace mask uids).map _
  case permission.refl uid => exact (Permissions.respects_get hplace uid).map _
  case setDiscard.refl addr iface =>
    exact (IngressDiscard.respects_set hplace hindex addr iface).map _
  case removeDiscard.refl addr => exact (IngressDiscard.respects_remove hplace addr).map _
  case discardRule.refl addr =>
    exact Act.Respects.map (Table.Respects.get hplace addr.discardKey) _
  case clearDiscards.refl => exact (IngressDiscard.respects_clear hplace).map _
  case setSaver.refl on => exact (DataSaver.respects_set hplace on).map _
  case saver.refl => exact (DataSaver.respects_isOn hplace).map _

end Request

end UidPolicy
