import UidPolicy.Proofs.Firewall.Replace

/-!
# The calls that change rule records

- `Mutation`: the eight calls, with their arguments.
- `Mutation.after`, `Mutation.afterAll`: the world that a call, or a sequence of calls, leaves
  behind. A call that fails does not end the sequence.
- `Mutation.changeAt`: the change that a call asks for at one id. A replacement asks for one
  at every id, and so does clearing; a call refused for its arguments asks for none.
- `world_addRule`, `world_addInterfaceRules` and so on: what each call leaves behind, as a batch
  of changes.
-/

namespace UidPolicy

open Memory (World)

/-- The index that an interface restriction stores, if the name is known. Without a name it is zero,
which stands for every interface. -/
def Memory.Host.restriction (h : Memory.Host) : Option String → Option UInt32
  | none => some 0
  | some name => h.indexOf name

/-- A call that changes rule records, with its arguments. A run of the firewall is a list of
these. -/
inductive Mutation where
  | addRule (uid : Uid) (added : MatchSet) (iif : UInt32)
  | removeRule (uid : Uid) (cleared : MatchSet)
  | setUidRule (chain : Chain) (uid : Uid) (verdict : Verdict)
  | replaceChain (chain : Chain) (uids : List Uid)
  | setLockdown (uid : Uid) (add : Bool)
  | addInterfaceRules (name : Option String) (uids : List Uid)
  | removeInterfaceRules (uids : List Uid)
  | clear

namespace Mutation

/-- The world after a call, whether or not it succeeds. -/
def after {W : Type} (b : Backing W) (w : W) : Mutation → W
  | addRule uid added iif => ((Firewall.addRule b uid added iif).run w).world
  | removeRule uid cleared => ((Firewall.removeRule b uid cleared).run w).world
  | setUidRule chain uid verdict => ((Firewall.setUidRule b chain uid verdict).run w).world
  | replaceChain chain uids => ((Firewall.replaceChain b chain uids).run w).world
  | setLockdown uid add => ((Firewall.setLockdown b uid add).run w).world
  | addInterfaceRules name uids => ((Firewall.addInterfaceRules b name uids).run w).world
  | removeInterfaceRules uids => ((Firewall.removeInterfaceRules b uids).run w).world
  | clear => ((Firewall.clear b).run w).world

/-- The world after a sequence of calls; failures do not end it. -/
def afterAll {W : Type} (b : Backing W) (w : W) (ops : List Mutation) : W :=
  ops.foldl (after b) w

/-- The change that a call asks for at an id, if any. A call is made of such changes; what it does
besides is to check its arguments and to decide on an order. -/
def changeAt (h : Memory.Host) (uid : Uid) : Mutation → Option RuleChange
  | addRule target added iif =>
    if uid = target ∧ (iif = 0 ∨ added = .iif) then some (.grant added iif) else none
  | removeRule target cleared => if uid = target then some (.revoke cleared) else none
  | setUidRule chain target verdict =>
    if uid = target then
      -- an allow-list lets its members through, a deny-list everybody else
      if (verdict == .allow) = chain.isAllowList then some (.grant chain.bit 0)
      else some (.revoke chain.bit)
    else none
  | replaceChain chain uids =>
    if uid ∈ uids then some (.grant chain.bit 0) else some (.revoke chain.bit)
  | setLockdown target add =>
    if uid = target then
      if add then some (.grant .lockdownVpn 0) else some (.revoke .lockdownVpn)
    else none
  | addInterfaceRules name uids =>
    match h.restriction name with
    | some index => if uid ∈ uids then some (.grant .iif index) else none
    | none => none
  | removeInterfaceRules uids => if uid ∈ uids then some (.revoke .iif) else none
  | clear => some (.revoke .everything)

end Mutation

/-! ## What each call leaves behind -/

namespace Firewall

variable (h : Memory.Host) {w : World}

theorem validateAdd_ok {m : MatchSet} {i : UInt32} (hvalid : i = 0 ∨ m = .iif) :
    OwnerRecord.validateAdd m i = .ok () := by
  rw [OwnerRecord.validateAdd, if_neg]
  rintro ⟨hi, hm⟩
  exact hvalid.elim hi hm

section Open

variable {W : Type} {b : Backing W}

theorem addRule_of_open (hopen : b.poisoned .uidOwner = false) {m : MatchSet} {i : UInt32}
    (hvalid : i = 0 ∨ m = .iif) (uid : Uid) : addRule b uid m i = addLocked b m i uid := by
  rw [addRule, validateAdd_ok hvalid, Backing.acquire_of_not_poisoned hopen, pure_bind]
  exact pure_bind _ _

theorem removeRule_of_open (hopen : b.poisoned .uidOwner = false) (m : MatchSet) (uid : Uid) :
    removeRule b uid m = removeLocked b m uid := by
  rw [removeRule, Backing.acquire_of_not_poisoned hopen]
  exact pure_bind _ _

/-- A restriction is a batch, once its index is known. -/
theorem does_addInterfaceRules (hopen : b.poisoned .uidOwner = false) {name : Option String}
    {index : UInt32} {w : W} {log : List Log.Event}
    (hindex : (restrictionIndex b name).run w = ⟨.ok index, w, log⟩) (uids : List Uid) :
    Batch.Does (addInterfaceRules b name uids) (addLocked b .iif index) uids w := by
  rw [addInterfaceRules]
  refine .after hindex ?_
  rw [Backing.acquire_of_not_poisoned hopen, pure_bind]
  exact Batch.does_run _ _ (fun _ => _) uids w

theorem does_removeInterfaceRules (hopen : b.poisoned .uidOwner = false) (uids : List Uid) (w : W) :
    Batch.Does (removeInterfaceRules b uids) (removeLocked b .iif) uids w := by
  rw [removeInterfaceRules, Backing.acquire_of_not_poisoned hopen, pure_bind]
  exact Batch.does_run _ _ _ uids w

end Open

theorem addRule_eq {m : MatchSet} {i : UInt32} (hvalid : i = 0 ∨ m = .iif) (uid : Uid) :
    addRule (Memory.backing h) uid m i
      = (RuleChange.grant m i).perform (Memory.backing h) uid :=
  addRule_of_open rfl hvalid uid

theorem removeRule_eq (m : MatchSet) (uid : Uid) :
    removeRule (Memory.backing h) uid m
      = (RuleChange.revoke m).perform (Memory.backing h) uid :=
  removeRule_of_open rfl m uid

/-- Setting the bit lets an id through on an allow-list and blocks it on a deny-list. -/
theorem setsBit_iff {c : Chain} {v : Verdict} :
    setsBit c v = true ↔ (v == .allow) = c.isAllowList := by
  cases v with
  | allow => exact ⟨fun h => h.symm, fun h => h.symm⟩
  | deny =>
    show (!c.isAllowList) = true ↔ false = c.isAllowList
    rw [Bool.not_eq_true', eq_comm]

theorem run_restrictionIndex {name : Option String} {index : UInt32}
    (hknown : h.restriction name = some index) :
    (restrictionIndex (Memory.backing h) name).run w = ⟨.ok index, w, []⟩ := by
  cases name with
  | none =>
    cases hknown
    rfl
  | some name =>
    -- a lookup in memory changes nothing and never fails, so a known name gives its index
    have hlookup : ((Memory.backing h).indexOf name).run w = ⟨.ok (some index), w, []⟩ := by
      show (pure (h.indexOf name) : Op World _).run w = _
      rw [show h.indexOf name = some index from hknown]
      rfl
    rw [restrictionIndex, interfaceIndex, Act.run_bind_ok hlookup]
    rfl

theorem world_addInterfaceRules {name : Option String} {index : UInt32}
    (hknown : h.restriction name = some index) (uids : List Uid) :
    ((addInterfaceRules (Memory.backing h) name uids).run w).world
      = Batch.worldAfter ((RuleChange.grant .iif index).perform (Memory.backing h)) uids w := by
  obtain ⟨_, _, hrun, -⟩ :=
    does_addInterfaceRules (b := Memory.backing h) rfl (run_restrictionIndex h hknown) uids
  rw [hrun]
  rfl

theorem world_addInterfaceRules_unknown {name : Option String}
    (hunknown : h.restriction name = none) (uids : List Uid) :
    ((addInterfaceRules (Memory.backing h) name uids).run w).world = w := by
  cases name with
  | none => cases hunknown
  | some name =>
    have hlookup : ((Memory.backing h).indexOf name).run w = ⟨.ok none, w, []⟩ := by
      show (pure (h.indexOf name) : Op World _).run w = _
      rw [show h.indexOf name = none from hunknown]
      rfl
    have hindex : (restrictionIndex (Memory.backing h) (some name)).run w
        = ⟨.error (.notFound s!"interface {name}"), w, []⟩ := by
      rw [restrictionIndex, interfaceIndex, Act.run_bind_ok hlookup]
      rfl
    rw [addInterfaceRules, Act.run_bind_error hindex]

theorem world_removeInterfaceRules (uids : List Uid) :
    ((removeInterfaceRules (Memory.backing h) uids).run w).world
      = Batch.worldAfter ((RuleChange.revoke .iif).perform (Memory.backing h)) uids w := by
  obtain ⟨_, _, hrun, -⟩ := does_removeInterfaceRules (b := Memory.backing h) rfl uids w
  rw [hrun]
  rfl

/-- Clearing a map that refuses nothing removes what is on the walk. -/
theorem world_clear (haccept : ∀ u, w.uidOwner.refuses u = false) :
    ((clear (Memory.backing h)).run w).world
      = { w with uidOwner :=
          w.uidOwner.without (w.uidOwner.walk w.uidOwner.content.keys) } := by
  -- the walk need not list every key; what it leaves out is left
  rw [clear, Backing.acquire_of_not_poisoned rfl, pure_bind, Memory.uidOwner_backing,
    Store.run_clear_zoom World.uidOwnerPart haccept]
  rfl

end Firewall

end UidPolicy
