import UidPolicy.Proofs.Controllers
import UidPolicy.Proofs.Firewall.Mutation

/-!
# Requests

Everything that can be asked of the controllers, as data: a run is a list of requests, made one
after the other of the same controllers. A request that fails does not end it, and what the maps
hold, their chosen failures included, is carried along.

- `Request`, `Reply`: what is asked, and what is answered. `Request.run` is the operation of a
  request.
- `Request.written`: the places that a request writes to. Each lock guards one such place, so
  they are named by the locks.
- `Mutation.within`: what a call does to the rule records, the changes that it asks for do.
- `Request.within_of_changes`, `Request.within`: what a request does to the world, its changes of
  rule records and its writes to the other places do. `Request.still` is the special case of a
  query.
- `Request.atomic`: a request that fails has changed nothing. It has three exceptions: the
  initialisation and the two requests that clear a map make several changes, and a swap of the
  statistics maps calls the barrier after its change.
- `Request.after`, `Request.afterAll`: the world after one request or several.
- `Request.answers`: the requests of a run, each with what it was answered.
-/

namespace UidPolicy

/-- What a request answers. Requests of all controllers have one type of answers, so that a run of
them is a list. -/
inductive Reply where
  | done
  | record (r : Option OwnerRecord)
  | verdict (v : Verdict)
  | uids (l : List Uid)
  | batch (o : BatchOutcome)
  | matchSet (m : MatchSet)
  | word (w : UInt32)
  | flag (f : Bool)
  | permission (p : Permission)
  | discardRule (r : Option DiscardRule)
  | reasons (r : BlockedReasons)
  | sizes (s : NetMaps.Sizes)

/-- The operation of a call that changes rule records. -/
def Mutation.run {W : Type} (b : Backing W) : Mutation → Op W Reply
  | addRule uid added iif => (fun _ => .done) <$> Firewall.addRule b uid added iif
  | removeRule uid cleared => (fun _ => .done) <$> Firewall.removeRule b uid cleared
  | setUidRule chain uid verdict => (fun _ => .done) <$> Firewall.setUidRule b chain uid verdict
  | replaceChain chain uids => .batch <$> Firewall.replaceChain b chain uids
  | setLockdown uid add => (fun _ => .done) <$> Firewall.setLockdown b uid add
  | addInterfaceRules name uids => .batch <$> Firewall.addInterfaceRules b name uids
  | removeInterfaceRules uids => .batch <$> Firewall.removeInterfaceRules b uids
  | clear => (fun _ => .done) <$> Firewall.clear b

theorem Mutation.world_run {W : Type} (b : Backing W) (m : Mutation) (w : W) :
    ((m.run b).run w).world = m.after b w := by
  cases m <;> (rw [run, Act.run_map]; rfl)

/-- What can be asked of the controllers: every public operation, with its arguments. -/
inductive Request where
  -- rule records
  | mutate (m : Mutation)
  | record (uid : Uid)
  | uidRule (chain : Chain) (uid : Uid)
  | uidsWithRule (chain : Chain)
  | uidsAllowed (chain : Chain)
  | uidsDenied (chain : Chain)
  -- the chain-enable word
  | switchWord
  | enabledChains
  | setChain (chain : Chain) (on : Bool)
  | isChainEnabled (chain : Chain)
  | resetChains
  -- the statistics selector
  | activeStats
  | swapStats
  | resetStats
  -- permissions
  | setPermission (uid : Uid) (mask : UInt8)
  | setPermissions (mask : UInt8) (uids : List Uid)
  | permission (uid : Uid)
  -- ingress discard rules
  | setDiscard (addr : IpAddress) (iface : String)
  | removeDiscard (addr : IpAddress)
  | discardRule (addr : IpAddress)
  | clearDiscards
  -- data saver
  | setSaver (on : Bool)
  | saver
  -- the maps together
  | init
  | reasons (uid : Uid)
  | isBlocked (uid : Uid) (metered : Bool)
  | isRestricted (uid : Uid)
  | sizes

namespace Request

variable {W : Type}

/-- The operation of a request. -/
def run (b : Backing W) : Request → Op W Reply
  | mutate m => m.run b
  | record uid => .record <$> Firewall.record b uid
  | uidRule chain uid => .verdict <$> Firewall.getUidRule b chain uid
  | uidsWithRule chain => .uids <$> Firewall.uidsWithRule b chain
  | uidsAllowed chain => .uids <$> Firewall.uidsAllowed b chain
  | uidsDenied chain => .uids <$> Firewall.uidsDenied b chain
  | switchWord => .word <$> ChainSwitch.word b
  | enabledChains => .matchSet <$> ChainSwitch.enabled b
  | setChain chain on => (fun _ => .done) <$> ChainSwitch.setEnabled b chain on
  | isChainEnabled chain => .flag <$> ChainSwitch.isEnabled b chain
  | resetChains => (fun _ => .done) <$> ChainSwitch.reset b
  | activeStats => .word <$> Stats.active b
  | swapStats => .word <$> Stats.swap b
  | resetStats => (fun _ => .done) <$> Stats.reset b
  | setPermission uid mask => (fun _ => .done) <$> Permissions.set b uid mask
  | setPermissions mask uids => .batch <$> Permissions.setAll b mask uids
  | permission uid => .permission <$> Permissions.get b uid
  | setDiscard addr iface => (fun _ => .done) <$> IngressDiscard.set b addr iface
  | removeDiscard addr => (fun _ => .done) <$> IngressDiscard.remove b addr
  | discardRule addr => .discardRule <$> IngressDiscard.get b addr
  | clearDiscards => (fun _ => .done) <$> IngressDiscard.clear b
  | setSaver on => (fun _ => .done) <$> DataSaver.set b on
  | saver => .flag <$> DataSaver.isOn b
  | init => (fun _ => .done) <$> NetMaps.init b
  | reasons uid => .reasons <$> NetMaps.reasons b uid
  | isBlocked uid metered => .flag <$> NetMaps.isBlocked b uid metered
  | isRestricted uid => .flag <$> NetMaps.isRestricted b uid
  | sizes => .sizes <$> NetMaps.sizes b

/-- The places that a request writes to, each named by the lock that guards it. A request that
writes nowhere is a query. -/
def written : Request → List Lock
  | mutate _ => [.uidOwner]
  | setChain .. | resetChains => [.chainSwitch]
  | swapStats | resetStats => [.statsSelector]
  | setPermission .. | setPermissions .. => [.permission]
  | setDiscard .. | removeDiscard _ | clearDiscards => [.ingressDiscard]
  | setSaver _ => [.dataSaver]
  | init => [.chainSwitch, .statsSelector, .uidOwner, .dataSaver, .ingressDiscard]
  | record _ | uidRule .. | uidsWithRule _ | uidsAllowed _ | uidsDenied _
  | switchWord | enabledChains | isChainEnabled _ | activeStats | permission _
  | discardRule _ | saver | reasons _ | isBlocked .. | isRestricted _ | sizes => []

end Request

section Requests

variable {W : Type} {b : Backing W} (hb : b.Orderly) {S : Scope W}

include hb

theorem RuleChange.within_perform (hw : b.WritesWithin S .uidOwner) (ch : RuleChange)
    (uid : Uid) : (ch.perform b uid).Within S := by
  cases ch with
  | grant m i => exact Firewall.within_addLocked hb hw m i uid
  | revoke m => exact Firewall.within_removeLocked hb hw m uid

/-- **A call changes entries as it asks for** on some host; clearing deletes them. -/
theorem Mutation.within {m : Mutation}
    (hchange : ∀ h uid ch, m.changeAt h uid = some ch → (ch.perform b uid).Within S)
    (hdelete : m = .clear → ∀ uid, (b.uidOwner.delete uid).Within S) : (m.run b).Within S := by
  cases m with
  | addRule uid added iif =>
    -- no call but this and the last one looks at a name, so any host does
    refine (Firewall.within_addRule fun hvalid => ?_).map _
    exact hchange ⟨[], none⟩ uid (.grant added iif) (if_pos ⟨rfl, hvalid⟩)
  | removeRule uid cleared =>
    refine (Firewall.within_removeRule ?_).map _
    exact hchange ⟨[], none⟩ uid (.revoke cleared) (if_pos rfl)
  | setUidRule chain uid verdict =>
    refine Act.Within.map ?_ _
    rw [Firewall.setUidRule]
    by_cases hsets : Firewall.setsBit chain verdict = true
    · rw [if_pos hsets]
      refine Firewall.within_addRule fun _ => hchange ⟨[], none⟩ uid (.grant chain.bit 0) ?_
      rw [changeAt, if_pos rfl, if_pos (Firewall.setsBit_iff.1 hsets)]
    · rw [if_neg hsets]
      refine Firewall.within_removeRule (hchange ⟨[], none⟩ uid (.revoke chain.bit) ?_)
      rw [changeAt, if_pos rfl, if_neg fun h => hsets (Firewall.setsBit_iff.2 h)]
  | replaceChain chain uids =>
    refine (Firewall.within_replaceChain hb (fun uid hnot => ?_) fun uid hlisted => ?_).map _
    · exact hchange ⟨[], none⟩ uid (.revoke chain.bit) (if_neg hnot)
    · exact hchange ⟨[], none⟩ uid (.grant chain.bit 0) (if_pos hlisted)
  | setLockdown uid add =>
    refine Act.Within.map ?_ _
    rw [Firewall.setLockdown]
    cases add with
    | true =>
      refine Firewall.within_addRule fun _ => ?_
      exact hchange ⟨[], none⟩ uid (.grant .lockdownVpn 0) (if_pos rfl)
    | false =>
      refine Firewall.within_removeRule ?_
      exact hchange ⟨[], none⟩ uid (.revoke .lockdownVpn) (if_pos rfl)
  | addInterfaceRules name uids =>
    refine (Firewall.within_addInterfaceRules hb fun i hzero uid hlisted => ?_).map _
    -- a host on which the name has this index
    obtain ⟨h, hname⟩ : ∃ h : Memory.Host, h.restriction name = some i := by
      cases name with
      | none => exact ⟨⟨[], none⟩, congrArg some (hzero rfl).symm⟩
      | some name =>
        refine ⟨⟨[(name, i)], none⟩, ?_⟩
        simp [Memory.Host.restriction, Memory.Host.indexOf]
    refine hchange h uid (.grant .iif i) ?_
    rw [changeAt, hname]
    exact if_pos hlisted
  | removeInterfaceRules uids =>
    refine (Firewall.within_removeInterfaceRules fun uid hlisted => ?_).map _
    exact hchange ⟨[], none⟩ uid (.revoke .iif) (if_pos hlisted)
  | clear => exact (Firewall.within_clear hb (hdelete rfl)).map _

theorem Mutation.atomic {m : Mutation} (hm : m ≠ .clear) : (m.run b).Atomic := by
  cases m with
  | addRule uid added iif => exact (Firewall.atomic_addRule hb uid added iif).map _
  | removeRule uid cleared => exact (Firewall.atomic_removeRule hb uid cleared).map _
  | setUidRule chain uid verdict =>
    -- a setter of one verdict is an addition or a removal; which one is known before anything is
    -- read
    refine Act.Atomic.map ?_ _
    rw [Firewall.setUidRule]
    split
    · exact Firewall.atomic_addRule hb uid chain.bit 0
    · exact Firewall.atomic_removeRule hb uid chain.bit
  -- a batch answers its refused keys and does not fail for them, so only its walk can fail it
  | replaceChain chain uids => exact (Firewall.atomic_replaceChain hb chain uids).map _
  | setLockdown uid add =>
    refine Act.Atomic.map ?_ _
    rw [Firewall.setLockdown]
    split
    · exact Firewall.atomic_addRule hb uid .lockdownVpn 0
    · exact Firewall.atomic_removeRule hb uid .lockdownVpn
  | addInterfaceRules name uids => exact (Firewall.atomic_addInterfaceRules hb name uids).map _
  | removeInterfaceRules uids => exact (Firewall.atomic_removeInterfaceRules uids).map _
  | clear => exact absurd rfl hm

namespace Request

/-- A request does to the rule records what the changes that it asks for do, to the other places
what its writes do, and a swap what the barrier does. -/
theorem within_of_changes {r : Request}
    (hchange : ∀ m, r = .mutate m →
      ∀ h uid ch, m.changeAt h uid = some ch → (ch.perform b uid).Within S)
    (hdelete : .uidOwner ∈ r.written → ∀ uid, (b.uidOwner.delete uid).Within S)
    (hw : ∀ l ∈ r.written, l ≠ .uidOwner → b.WritesWithin S l)
    (hbarrier : r = .swapStats → b.barrier.Within S) : (r.run b).Within S := by
  cases r with
  | mutate m => exact m.within hb (hchange m rfl) fun _ => hdelete (.head _)
  | record uid => exact ((Firewall.still_record hb uid).map _).within S
  | uidRule chain uid => exact ((Firewall.still_getUidRule hb chain uid).map _).within S
  | uidsWithRule chain => exact ((Firewall.still_uidsWithRule hb chain).map _).within S
  | uidsAllowed chain => exact ((Firewall.still_uidsAllowed hb chain).map _).within S
  | uidsDenied chain => exact ((Firewall.still_uidsDenied hb chain).map _).within S
  | switchWord => exact ((ChainSwitch.still_word hb).map _).within S
  | enabledChains => exact ((ChainSwitch.still_enabled hb).map _).within S
  | setChain chain on =>
    exact (ChainSwitch.within_setEnabled hb (hw _ (.head _) nofun) chain on).map _
  | isChainEnabled chain => exact ((ChainSwitch.still_isEnabled hb chain).map _).within S
  | resetChains => exact (ChainSwitch.within_reset (hw _ (.head _) nofun)).map _
  | activeStats => exact ((Stats.still_active hb).map _).within S
  | swapStats => exact (Stats.within_swap hb (hw _ (.head _) nofun) (hbarrier rfl)).map _
  | resetStats => exact (Stats.within_reset (hw _ (.head _) nofun)).map _
  | setPermission uid mask =>
    exact (Permissions.within_set (hw _ (.head _) nofun) uid mask).map _
  | setPermissions mask uids =>
    exact (Permissions.within_setAll (hw _ (.head _) nofun) mask uids).map _
  | permission uid => exact ((Permissions.still_get hb uid).map _).within S
  | setDiscard addr iface =>
    exact (IngressDiscard.within_set hb (hw _ (.head _) nofun) addr iface).map _
  | removeDiscard addr =>
    exact (IngressDiscard.within_remove (hw _ (.head _) nofun) addr).map _
  | discardRule addr => exact ((hb.ingressDiscard.get _).map _).within S
  | clearDiscards => exact (IngressDiscard.within_clear hb (hw _ (.head _) nofun)).map _
  | setSaver on => exact (DataSaver.within_set (hw _ (.head _) nofun) on).map _
  | saver => exact ((DataSaver.still_isOn hb).map _).within S
  -- the initialisation writes everywhere but to the permissions
  | init =>
    refine (NetMaps.within_init hb (hdelete (by decide)) fun l hl hrules => ?_).map _
    refine hw l ?_ hrules
    cases l with
    | permission => exact absurd rfl hl
    | uidOwner | ingressDiscard | dataSaver | chainSwitch | statsSelector => decide
  | reasons uid => exact ((NetMaps.still_reasons hb uid).map _).within S
  | isBlocked uid metered =>
    exact (((NetMaps.still_reasons hb uid).bind fun _ => .pure _).map _).within S
  | isRestricted uid =>
    exact (((NetMaps.still_reasons hb uid).bind fun _ => .pure _).map _).within S
  | sizes => exact ((NetMaps.still_sizes hb).map _).within S

/-- **A request does to the world what its writes do**, and a swap what the barrier does. So to show
that something is kept it is enough to look at writes to single places. -/
theorem within {r : Request} (hw : ∀ l ∈ r.written, b.WritesWithin S l)
    (hbarrier : r = .swapStats → b.barrier.Within S) : (r.run b).Within S := by
  refine within_of_changes hb ?_ (fun hrules => (hw _ hrules).2) (fun l hl _ => hw l hl) hbarrier
  rintro m rfl h uid ch -
  exact ch.within_perform hb (hw _ (.head _)) uid

theorem still {r : Request} (hr : r.written = []) : (r.run b).Still := by
  -- the scope that keeps the whole world: no write is left that could break it
  have hwithin : (r.run b).Within (.keeping fun w => w) := by
    refine within hb (fun l hl => ?_) fun hswap => ?_
    · rw [hr] at hl
      exact absurd hl List.not_mem_nil
    · rw [hswap] at hr
      cases hr
  exact hwithin

/-- **A request that fails has changed nothing**, the three exceptions apart: the initialisation, a
clearing and the swap may each have done part of their work when they fail. -/
theorem atomic {r : Request} (hinit : r ≠ .init) (hrules : r ≠ .mutate .clear)
    (hdiscards : r ≠ .clearDiscards) (hswap : r ≠ .swapStats) : (r.run b).Atomic := by
  cases r with
  | mutate m => exact Mutation.atomic hb fun hm => hrules (congrArg _ hm)
  | setChain chain on => exact (ChainSwitch.atomic_setEnabled hb chain on).map _
  | resetChains => exact (ChainSwitch.atomic_reset hb).map _
  | swapStats => exact absurd rfl hswap
  | resetStats => exact (Stats.atomic_reset hb).map _
  | setPermission uid mask => exact (Permissions.atomic_set hb uid mask).map _
  | setPermissions mask uids => exact (Permissions.atomic_setAll mask uids).map _
  | setDiscard addr iface => exact (IngressDiscard.atomic_set hb addr iface).map _
  | removeDiscard addr => exact (IngressDiscard.atomic_remove hb addr).map _
  | clearDiscards => exact absurd rfl hdiscards
  | setSaver on => exact (DataSaver.atomic_set hb on).map _
  | init => exact absurd rfl hinit
  -- the rest are queries
  | record | uidRule | uidsWithRule | uidsAllowed | uidsDenied | switchWord | enabledChains
  | isChainEnabled | activeStats | permission | discardRule | saver | reasons | isBlocked
  | isRestricted | sizes => exact (still hb rfl).atomic

end Request

end Requests

/-! ## Requests in a row -/

namespace Request

variable {W : Type} (b : Backing W)

/-- The world after a request, whether or not it succeeds. -/
def after (w : W) (r : Request) : W := ((r.run b).run w).world

/-- The world after some requests. -/
def afterAll (w : W) (rs : List Request) : W := rs.foldl (after b) w

/-- The requests of a run, each with its answer. A failure does not end a run. -/
def answers : W → List Request → List (Request × Except Fault Reply)
  | _, [] => []
  | w, r :: rs => (r, ((r.run b).run w).result) :: answers (after b w r) rs

theorem afterAll_append (w : W) (rs rs' : List Request) :
    afterAll b w (rs ++ rs') = afterAll b (afterAll b w rs) rs' := List.foldl_append

theorem answers_append (w : W) (rs rs' : List Request) :
    answers b w (rs ++ rs') = answers b w rs ++ answers b (afterAll b w rs) rs' := by
  induction rs generalizing w with
  | nil => rfl
  | cons r rs ih =>
    show _ :: answers b (after b w r) (rs ++ rs') = _ :: (answers b (after b w r) rs ++ _)
    rw [ih]
    rfl

theorem afterAll_induction {P : W → Prop} {w : W} {rs : List Request} (hstart : P w)
    (hstep : ∀ r ∈ rs, ∀ w, P w → P (after b w r)) : P (afterAll b w rs) := by
  induction rs generalizing w with
  | nil => exact hstart
  | cons r rs ih =>
    have hnext : P (after b w r) := hstep r (List.mem_cons_self ..) w hstart
    exact ih hnext fun r' hr' => hstep r' (List.mem_cons_of_mem _ hr')

end Request

end UidPolicy
