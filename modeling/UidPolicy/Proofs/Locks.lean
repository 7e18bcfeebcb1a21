import UidPolicy.Proofs.Initialisation.Ends
import UidPolicy.Proofs.Request

/-!
# Poisoned locks

A lock is poisoned when its holder died while holding it. What it guards may be half-written, so
it is not touched any more; but the harm ends there.

- `Backing.unpoisoned`, `Memory.Setting.unpoisoned`: the same maps with every lock in order.
- `Request.locks`: the locks that a request takes. `Request.rejection?`: why its arguments are
  refused before it takes one.
- `Request.run_unpoisoned`: a request that takes no poisoned lock is the request that it is
  without poisoned locks.
- `Request.run_poisoned`: a request that takes a poisoned lock does nothing.
- `StopsAtLock`: where an initialisation stops that no refused write stops before.
- `poison_contained`: these three together, for every set of poisoned locks.
-/

namespace UidPolicy

open Memory (World Setting)

/-- Why a poisoned lock cannot be taken. The fault names the lock, and it is the only trace that the
failure of another thread leaves. -/
def Lock.poisonFault (l : Lock) : Fault := .resource s!"{l.name} poisoned" Errno.notRecoverable

namespace Backing

variable {W : Type}

/-- The backing with every lock in order. A request that meets no poisoned lock is compared with the
one on it. -/
def unpoisoned (b : Backing W) : Backing W := { b with poisoned := fun _ => false }

/-- A lock that is not poisoned is taken as if none were. -/
theorem acquire_unpoisoned {b : Backing W} {l : Lock} (hopen : b.poisoned l = false) :
    b.acquire l = b.unpoisoned.acquire l := by
  rw [acquire_of_not_poisoned hopen, acquire_of_not_poisoned (b := b.unpoisoned) rfl]

theorem run_acquire_poisoned {α : Type} {b : Backing W} {l : Lock}
    (hpoisoned : b.poisoned l = true) (f : Unit → Op W α) (w : W) :
    (b.acquire l >>= f).run w = ⟨.error l.poisonFault, w, []⟩ := by
  rw [acquire_of_poisoned hpoisoned]
  rfl

end Backing

/-- The setting with every lock in order. -/
def Memory.Setting.unpoisoned (s : Setting) : Setting := { s with poisoned := fun _ => false }

/-! ## What a request takes and checks -/

namespace Request

/-- The locks that a request takes. The holders of a chain's match are listed under the lock of
the rule records; every other query takes none. -/
def locks : Request → List Lock
  | uidsWithRule _ | uidsAllowed _ | uidsDenied _ => [.uidOwner]
  | r => r.written

/-- Why a name is refused that no interface has. -/
def unknownInterface? (h : Memory.Host) (name : String) : Option Fault :=
  if (h.indexOf name).isNone then some (.notFound s!"interface {name}") else none

/-- Why the arguments of a request are refused before it takes a lock, if they are: an index
without the interface match, the name of no interface, a chain of the other polarity. -/
def rejection? (h : Memory.Host) : Request → Option Fault
  | mutate (.addRule _ added iif) =>
    if iif ≠ 0 ∧ added ≠ .iif then
      some (RuleError.indexWithoutIif iif ("|".intercalate added.names)).toFault
    else none
  | mutate (.addInterfaceRules (some name) _) => unknownInterface? h name
  | setDiscard _ iface => unknownInterface? h iface
  | uidsAllowed chain =>
    if chain.isAllowList then none
    else some (RuleError.wrongPolarity chain.name "allow-list").toFault
  | uidsDenied chain =>
    if chain.isAllowList then some (RuleError.wrongPolarity chain.name "deny-list").toFault
    else none
  | _ => none

end Request

/-! ## Requests that take no poisoned lock -/

section Unpoisoned

variable {W : Type} {b : Backing W}

theorem Backing.map_acquire_unpoisoned {α β : Type} {l : Lock} (hopen : b.poisoned l = false)
    (f : α → β) (x : Unit → Op W α) :
    f <$> (b.acquire l >>= x) = f <$> (b.unpoisoned.acquire l >>= x) := by
  rw [acquire_unpoisoned hopen]

theorem Firewall.uidsWithRule_unpoisoned (hopen : b.poisoned .uidOwner = false) :
    Firewall.uidsWithRule b = Firewall.uidsWithRule b.unpoisoned := by
  funext chain
  rw [uidsWithRule, Backing.acquire_unpoisoned hopen]
  rfl

theorem Mutation.run_unpoisoned (hopen : b.poisoned .uidOwner = false) (m : Mutation) :
    m.run b = m.run b.unpoisoned := by
  -- a lock that is free is taken alike, whether or not others are poisoned
  have hadd : Firewall.addRule b = Firewall.addRule b.unpoisoned := by
    funext uid added iif
    rw [Firewall.addRule, Firewall.addRule, Backing.acquire_unpoisoned hopen]
    rfl
  have hremove : Firewall.removeRule b = Firewall.removeRule b.unpoisoned := by
    funext uid cleared
    rw [Firewall.removeRule, Firewall.removeRule, Backing.acquire_unpoisoned hopen]
    rfl
  cases m with
  | addRule uid added iif => rw [run, run, hadd]
  | removeRule uid cleared => rw [run, run, hremove]
  | setUidRule chain uid verdict =>
    rw [run, run, Firewall.setUidRule, Firewall.setUidRule, hadd, hremove]
  | setLockdown uid add =>
    rw [run, run, Firewall.setLockdown, Firewall.setLockdown, hadd, hremove]
  | addInterfaceRules name uids =>
    rw [run, run, Firewall.addInterfaceRules, Firewall.addInterfaceRules,
      Backing.acquire_unpoisoned hopen]
    rfl
  | replaceChain | removeInterfaceRules | clear =>
    exact Backing.map_acquire_unpoisoned hopen _ _

theorem InitStep.named_unpoisoned {steps : List InitStep}
    (hopen : ∀ k ∈ steps, b.poisoned k.lock = false) :
    InitStep.named b steps = InitStep.named b.unpoisoned steps := by
  refine List.map_congr_left fun k hk => ?_
  rw [op, op, Backing.acquire_unpoisoned (hopen k hk)]
  cases k <;> rfl

/-- **A request that takes no poisoned lock** does not notice the poisoned ones: it answers, changes
and reports as if all were in order. -/
theorem Request.run_unpoisoned {r : Request} (hopen : ∀ l ∈ r.locks, b.poisoned l = false) :
    r.run b = r.run b.unpoisoned := by
  cases r with
  | mutate m => exact m.run_unpoisoned (hopen _ (.head _))
  | uidsAllowed chain =>
    rw [run, run, Firewall.uidsAllowed, Firewall.uidsAllowed,
      Firewall.uidsWithRule_unpoisoned (hopen _ (.head _))]
  | uidsDenied chain =>
    rw [run, run, Firewall.uidsDenied, Firewall.uidsDenied,
      Firewall.uidsWithRule_unpoisoned (hopen _ (.head _))]
  | swapStats =>
    rw [run, run, Stats.swap, Stats.flip, Backing.acquire_unpoisoned (hopen _ (.head _))]
    rfl
  | setDiscard addr iface =>
    rw [run, run, IngressDiscard.set, Backing.acquire_unpoisoned (hopen _ (.head _))]
    rfl
  | init =>
    have hsteps : ∀ k ∈ InitStep.all, b.poisoned k.lock = false :=
      fun k _ => hopen k.lock (by cases k <;> decide)
    rw [run, run, NetMaps.init, NetMaps.init, InitStep.initSteps_eq, InitStep.initSteps_eq,
      InitStep.named_unpoisoned hsteps]
  -- these take their lock first
  | uidsWithRule | setChain | resetChains | resetStats | setPermission | setPermissions
  | removeDiscard | clearDiscards | setSaver =>
    exact Backing.map_acquire_unpoisoned (hopen _ (.head _)) _ _
  -- these take no lock
  | record | uidRule | switchWord | enabledChains | isChainEnabled | activeStats | permission
  | discardRule | saver | reasons | isBlocked | isRestricted | sizes => rfl

end Unpoisoned

/-! ## Requests that take a poisoned lock -/

section Poisoned

variable {s : Setting}

theorem Backing.run_map_acquire_poisoned {W α β : Type} {b : Backing W} {l : Lock}
    (hpoisoned : b.poisoned l = true) (f : α → β) (x : Unit → Op W α) (w : W) :
    (f <$> (b.acquire l >>= x)).run w = ⟨.error l.poisonFault, w, []⟩ := by
  rw [Act.run_map, run_acquire_poisoned hpoisoned]
  rfl

/-- A name is looked up before the lock is taken, so an unknown one is refused for that, and the
poisoned lock goes unnoticed. -/
theorem run_interfaceIndex_poisoned {α : Type} {l : Lock} (hpoisoned : s.poisoned l = true)
    (name : String) (x : UInt32 → Unit → Op World α) (w : World) :
    (Firewall.interfaceIndex s.backing name >>= fun i => s.backing.acquire l >>= x i).run w
      = ⟨.error ((Request.unknownInterface? s.host name).getD l.poisonFault), w, []⟩ := by
  have hlookup : (s.backing.indexOf name).run w = ⟨.ok (s.host.indexOf name), w, []⟩ := rfl
  rw [Request.unknownInterface?, Firewall.interfaceIndex]
  cases hindex : s.host.indexOf name with
  | none =>
    rw [hindex] at hlookup
    rw [Act.run_bind_error (by rw [Act.run_bind_ok hlookup]; rfl)]
    rfl
  | some i =>
    rw [hindex] at hlookup
    rw [Act.run_bind_ok (by rw [Act.run_bind_ok hlookup]; rfl)]
    rw [Backing.run_acquire_poisoned (b := s.backing) hpoisoned]
    rfl

/-- Rule records are changed behind their lock, whatever the change. -/
theorem Mutation.run_poisoned (hpoisoned : s.poisoned .uidOwner = true) (m : Mutation)
    (w : World) :
    (m.run s.backing).run w
      = ⟨.error (((Request.mutate m).rejection? s.host).getD Lock.uidOwner.poisonFault),
          w, []⟩ := by
  have hlocked : ∀ {α : Type} (x : Unit → Op World α),
      (s.backing.acquire .uidOwner >>= x).run w = ⟨.error Lock.uidOwner.poisonFault, w, []⟩ :=
    fun x => Backing.run_acquire_poisoned (b := s.backing) hpoisoned x w
  have hremove : ∀ uid m, (Firewall.removeRule s.backing uid m).run w
      = ⟨.error Lock.uidOwner.poisonFault, w, []⟩ := fun _ _ => hlocked _
  -- a match without an index is acceptable, so an addition comes as far as its lock
  have hadd : ∀ uid m, (Firewall.addRule s.backing uid m 0).run w
      = ⟨.error Lock.uidOwner.poisonFault, w, []⟩ := by
    intro uid m
    rw [Firewall.addRule, Firewall.validateAdd_ok (.inl rfl)]
    exact hlocked _
  -- bad arguments are refused before the lock is asked for; everything else stops at it
  cases m with
  | addRule uid added iif =>
    rw [run, Act.run_map, Firewall.addRule, Request.rejection?, OwnerRecord.validateAdd]
    split
    · rfl
    · rw [show Act.ofExcept _ = pure () from rfl, pure_bind, hlocked]
      rfl
  | setUidRule chain uid verdict =>
    rw [run, Act.run_map, Firewall.setUidRule]
    split
    · rw [hadd]
      rfl
    · rw [hremove]
      rfl
  | setLockdown uid add =>
    rw [run, Act.run_map, Firewall.setLockdown]
    cases add with
    | true =>
      rw [if_pos rfl, hadd]
      rfl
    | false =>
      rw [if_neg Bool.false_ne_true, hremove]
      rfl
  | addInterfaceRules name uids =>
    rw [run, Act.run_map, Firewall.addInterfaceRules]
    cases name with
    | none =>
      rw [show Firewall.restrictionIndex s.backing none = pure 0 from rfl, pure_bind, hlocked]
      rfl
    | some name =>
      rw [show Firewall.restrictionIndex s.backing (some name)
        = Firewall.interfaceIndex s.backing name from rfl, run_interfaceIndex_poisoned hpoisoned]
      rfl
  | removeRule | replaceChain | removeInterfaceRules | clear =>
    exact Backing.run_map_acquire_poisoned (b := s.backing) hpoisoned _ _ w

/-- **A request that takes a poisoned lock** does nothing. Its error is the lock's, unless its
arguments were refused before. -/
theorem Request.run_poisoned {r : Request} (hinit : r ≠ .init) {l : Lock} (hl : l ∈ r.locks)
    (hpoisoned : s.poisoned l = true) (w : World) :
    (r.run s.backing).run w = ⟨.error ((r.rejection? s.host).getD l.poisonFault), w, []⟩ := by
  cases r with
  | init => exact absurd rfl hinit
  | mutate m =>
    obtain rfl := List.mem_singleton.1 hl
    exact m.run_poisoned hpoisoned w
  | uidsAllowed chain =>
    obtain rfl := List.mem_singleton.1 hl
    rw [run, Firewall.uidsAllowed, rejection?]
    split
    · exact Backing.run_map_acquire_poisoned (b := s.backing) hpoisoned _ _ w
    · rfl
  | uidsDenied chain =>
    obtain rfl := List.mem_singleton.1 hl
    rw [run, Firewall.uidsDenied, rejection?]
    split
    · rfl
    · exact Backing.run_map_acquire_poisoned (b := s.backing) hpoisoned _ _ w
  | swapStats =>
    obtain rfl := List.mem_singleton.1 hl
    rw [run, Act.run_map, Stats.swap, Stats.flip, bind_assoc,
      Backing.run_acquire_poisoned (b := s.backing) hpoisoned]
    rfl
  | setDiscard addr iface =>
    obtain rfl := List.mem_singleton.1 hl
    rw [run, Act.run_map, IngressDiscard.set, run_interfaceIndex_poisoned hpoisoned]
    rfl
  -- these take their lock first
  | uidsWithRule | setChain | resetChains | resetStats | setPermission | setPermissions
  | removeDiscard | clearDiscards | setSaver =>
    obtain rfl := List.mem_singleton.1 hl
    exact Backing.run_map_acquire_poisoned (b := s.backing) hpoisoned _ _ w
  -- these take no lock
  | record | uidRule | switchWord | enabledChains | isChainEnabled | activeStats | permission
  | discardRule | saver | reasons | isBlocked | isRestricted | sizes =>
    exact absurd hl List.not_mem_nil

end Poisoned

/-! ## An initialisation -/

/-- An initialisation of a world stops at the first step whose lock is poisoned: the steps before it
are done, and the others are not begun. -/
structure StopsAtLock (s : Setting) (w : World) (before : List InitStep) (k : InitStep)
    (after : List InitStep) : Prop where
  order : InitStep.all = before ++ k :: after
  intact : ∀ j ∈ before, s.poisoned j.lock = false
  poisoned : s.poisoned k.lock = true
  /-- The error names the step and the lock. -/
  error : ((NetMaps.init s.backing).run w).result
    = .error (.initFailed s!"{k.name}: {k.lock.poisonFault.message}")
  /-- The earlier steps are completed, and what they leave behind with every lock in order is
  left behind. -/
  earlier : ∃ log, (NetMaps.runSteps (InitStep.named s.unpoisoned.backing before)).run w
    = ⟨.ok (), ((NetMaps.init s.backing).run w).world, log⟩
  /-- Their places are reset, if the walks list what is stored. -/
  reset : ExactWalks w → ∀ j ∈ before, j.IsReset ((NetMaps.init s.backing).run w).world
  /-- The places of the others are untouched, and so is what no initialisation touches. -/
  later : ∀ j ∈ k :: after, j.Same w ((NetMaps.init s.backing).run w).world
  spared : Spared w ((NetMaps.init s.backing).run w).world

/-- If no write is refused, only a lock stops an initialisation. -/
theorem init_stopsAtLock {s : Setting} {w : World} (haccept : ∀ k : InitStep, k.refusal? w = none)
    {l : Lock} (hl : l ∈ Request.init.locks) (hpoisoned : s.poisoned l = true) :
    ∃ before k after, StopsAtLock s w before k after := by
  obtain ⟨j, rfl⟩ : ∃ j : InitStep, j.lock = l := by
    cases l with
    | permission => exact absurd hl (by decide)
    | chainSwitch => exact ⟨.chains, rfl⟩
    | statsSelector => exact ⟨.selector, rfl⟩
    | uidOwner => exact ⟨.records, rfl⟩
    | dataSaver => exact ⟨.saver, rfl⟩
    | ingressDiscard => exact ⟨.discards, rfl⟩
  have hfault : j.fault? s w = some j.lock.poisonFault := by
    rw [InitStep.fault?, if_pos hpoisoned]
    rfl
  obtain ⟨before, k, after, cause, log, hsplit, hbefore, hcause, hrun⟩ := run_init_error s hfault
  have hnodup : (before ++ k :: after).Nodup := hsplit ▸ by decide
  obtain ⟨hbefore', -, hapart⟩ := List.nodup_append.1 hnodup
  have hintact : ∀ j ∈ before, s.poisoned j.lock = false :=
    fun j hj => (InitStep.fault?_eq_none.1 (hbefore j hj)).1
  -- nothing but its lock can have stopped the step
  have hk : s.poisoned k.lock = true := by
    cases hlock : s.poisoned k.lock with
    | true => rfl
    | false =>
      rw [InitStep.fault?_eq_none.2 ⟨hlock, haccept k⟩] at hcause
      cases hcause
  rw [InitStep.fault?, if_pos hk] at hcause
  obtain rfl : k.lock.poisonFault = cause := Option.some.inj hcause
  rw [InitStep.stopped, if_pos hk] at hrun
  refine ⟨before, k, after, hsplit, hintact, hk, ?_, ?_, ?_, ?_, ?_⟩
  all_goals rw [hrun]
  · have hnone : ∀ j : InitStep, j.fault? s.unpoisoned w = none :=
      fun j => InitStep.fault?_eq_none.2 ⟨rfl, haccept j⟩
    rcases InitStep.run_steps s.unpoisoned (w := w) hbefore' with
      ⟨-, log', hsteps⟩ | ⟨-, j, -, e, -, -, -, he, -⟩
    · exact ⟨log', hsteps⟩
    · cases (hnone j).symm.trans he
  · exact fun hwalks j hj => InitStep.isReset_foldl_reset hwalks hj
  · intro j hj
    exact InitStep.same_foldl_reset fun hmem => hapart j hmem j hj rfl
  · exact .foldl_reset w before

/-! ## Containment -/

/-- What poisoned locks do to the requests that are made in a world. A request that takes none of
them is as it would be without, and one that takes any fails before it writes; only the
initialisation takes several, one after the other. -/
structure PoisonContained (s : Setting) (w : World) : Prop where
  /-- A request that takes a poisoned lock changes nothing. Its error is the lock's, unless its
  arguments were refused before. -/
  refused : ∀ r : Request, r ≠ .init → ∀ l ∈ r.locks, s.poisoned l = true →
    (r.run s.backing).run w = ⟨.error ((r.rejection? s.host).getD l.poisonFault), w, []⟩
  /-- An initialisation that could write stops at the first of its poisoned locks. -/
  initialisation : (∀ k : InitStep, k.refusal? w = none) →
    (∃ l ∈ Request.init.locks, s.poisoned l = true) →
    ∃ before k after, StopsAtLock s w before k after
  /-- A request that takes no poisoned lock is answered, and changes the world, as if every lock
  were in order. -/
  untouched : ∀ r : Request, (∀ l ∈ r.locks, s.poisoned l = false) →
    (r.run s.backing).run w = (r.run s.unpoisoned.backing).run w

/-- **Poisoned locks are contained**, whichever they are and in every world. -/
theorem poison_contained (s : Setting) (w : World) : PoisonContained s w where
  refused _ hinit _ hl hpoisoned := Request.run_poisoned hinit hl hpoisoned w
  initialisation haccept := fun ⟨_, hl, hpoisoned⟩ => init_stopsAtLock haccept hl hpoisoned
  untouched r hopen := by
    rw [Request.run_unpoisoned (b := s.backing) hopen]
    rfl

/-- The holders of the locks of the rule records and of data saver died. The initialisation takes
both, and the rule records come first. -/
def bereftSetting : Setting :=
  ((Setting.ofHost ⟨[("wlan0", 3)], none⟩).poison .uidOwner).poison .dataSaver

/-- Records along a walk that repeats itself, and a discard rule. -/
def bereftWorld : World :=
  { litteredWorld with
    ingressDiscard := { World.empty.ingressDiscard with content := .ofList [(⟨1⟩, .single 4)] } }

/-- The name of no interface is refused for that, a known one for the lock; the initialisation
stops among its steps; and the reasons for an id are read as ever. -/
theorem bereftSetting_contained :
    ((∀ l ∈ (Request.mutate (.addInterfaceRules (some "eth9") [10001])).locks,
          bereftSetting.poisoned l = true) ∧
        (∀ k : InitStep, k.refusal? bereftWorld = none) ∧
        (∃ l ∈ Request.init.locks, bereftSetting.poisoned l = true) ∧
        ∀ l ∈ (Request.reasons 10001).locks, bereftSetting.poisoned l = false) ∧
      ((Request.mutate (.addInterfaceRules (some "eth9") [10001])).run bereftSetting.backing).run
          bereftWorld = ⟨.error (.notFound "interface eth9"), bereftWorld, []⟩ ∧
      ((Request.mutate (.addInterfaceRules (some "wlan0") [10001])).run bereftSetting.backing).run
          bereftWorld
        = ⟨.error (.resource "uid_owner_lock poisoned" Errno.notRecoverable), bereftWorld, []⟩ ∧
      (∃ before k after, StopsAtLock bereftSetting bereftWorld before k after) ∧
      ((Request.reasons 10001).run bereftSetting.backing).run bereftWorld
        = ((Request.reasons 10001).run bereftSetting.unpoisoned.backing).run bereftWorld := by
  have hcontained := poison_contained bereftSetting bereftWorld
  have haccept : ∀ k : InitStep, k.refusal? bereftWorld = none := by
    intro k
    cases k <;> decide
  have hpoisoned : ∃ l ∈ Request.init.locks, bereftSetting.poisoned l = true :=
    ⟨.uidOwner, by decide, by decide⟩
  refine ⟨⟨by decide, haccept, hpoisoned, by decide⟩, ?_, ?_, ?_, ?_⟩
  · exact hcontained.refused (.mutate (.addInterfaceRules (some "eth9") [10001])) nofun _
      (.head _) (by decide)
  · exact hcontained.refused (.mutate (.addInterfaceRules (some "wlan0") [10001])) nofun _
      (.head _) (by decide)
  · exact hcontained.initialisation haccept hpoisoned
  · exact hcontained.untouched (.reasons 10001) (by decide)

/-- The initialisation stops there at the rule records. -/
example : InitStep.all.find? (fun k => bereftSetting.poisoned k.lock) = some .records := by decide

end UidPolicy
