import UidPolicy.Control.NetMaps
import UidPolicy.Proofs.Firewall.Change
import UidPolicy.Proofs.Reasons.Word

/-!
# Reasons and single chains

The reasons for an id are computed in one pass over the words. The queries about one chain read
the same words on their own way: in 32 bits for the chain-enable word, and through the polarity
of the chain for the rule word.

- `Answers`, `Decides`: what an operation answers in a world.
- `run_isEnabled`, `run_getUidRule`, `run_isOn`, `run_reasons`: the queries on readable maps.
- `Agreement`: a set of reasons says what the queries about single chains say.
- `reasons_agree`: the reasons for an application id always do, and so do the two questions
  whether it is blocked.
-/

namespace UidPolicy

open Memory (World)

/-- The operation answers this in the world. Whatever it reports or leaves behind is not spoken
of. -/
def Answers {W α : Type} (x : Op W α) (w : W) (a : α) : Prop := (x.run w).result = .ok a

/-- The operation answers in the world, and says yes iff the proposition holds. -/
def Decides {W : Type} (x : Op W Bool) (w : W) (P : Prop) : Prop :=
  ∃ d, Answers x w d ∧ (d = true ↔ P)

/-- The chain is enabled and denies the id, as the two public queries about it say. -/
def ChainDenies {W : Type} (b : Backing W) (w : W) (uid : Uid) (c : Chain) : Prop :=
  Answers (ChainSwitch.isEnabled b c) w true ∧ Answers (Firewall.getUidRule b c uid) w .deny

/-- The reasons say what the queries about single chains say, and nothing else. The queries read the
maps one by one and the reasons all at once, so the two could have come apart. -/
structure Agreement {W : Type} (b : Backing W) (w : W) (uid : Uid) (r : BlockedReasons) :
    Prop where
  /-- A reason of the lower half is there iff an enabled chain that gives it denies the id. Several
  chains give one reason, so one of them is enough. -/
  unmetered : ∀ e ∈ BlockedReasons.named, e.2.unmetered = e.2 →
    (r.contains e.2 = true ↔ ∃ c : Chain, c.reason? = some e.2 ∧ ChainDenies b w uid c)
  /-- Enabled or not, the deny-list of the user counts: its bit in the chain-enable word is not
  looked at. -/
  user : r.contains .meteredUserRestricted = true ↔
    Answers (Firewall.getUidRule b .meteredDenyUser uid) w .deny
  /-- Enabled or not, the deny-list of the administrator counts. -/
  admin : r.contains .meteredAdminDisabled = true ↔
    Answers (Firewall.getUidRule b .meteredDenyAdmin uid) w .deny
  /-- Data saver spares the ids on the allow-list. -/
  saver : r.contains .meteredDataSaver = true ↔
    Answers (DataSaver.isOn b) w true ∧ Answers (Firewall.getUidRule b .meteredAllow uid) w .deny
  /-- Every bit is the bit of a named reason that is there. -/
  named : ∀ i, r.has i = true →
    ∃ e ∈ BlockedReasons.named, e.2 = .single i ∧ r.contains e.2 = true

/-! ## The queries on readable maps -/

/-- Whether a read finds data saver on. Where nothing was ever stored it is off. -/
def saverOn (w : World) : Bool :=
  (w.dataSaver.visible? DataSaver.key).any fun v => v != DataSaver.offFlag

section Queries

variable (h : Memory.Host) {w : World} (uid : Uid) (c : Chain)

theorem run_word {word : UInt32} (hread : w.configuration.readErrno = none)
    (hword : w.configuration.visible? ChainSwitch.key = some word) :
    (ChainSwitch.word (Memory.backing h)).run w = ⟨.ok word, w, []⟩ := by
  have hget : ((Memory.backing h).configuration.get ChainSwitch.key).run w
      = ⟨.ok (some word), w, []⟩ := by
    rw [Memory.configuration_backing,
      Store.run_get_zoom World.configurationPart ChainSwitch.key hread, ← hword]
    rfl
  rw [ChainSwitch.word, Act.run_bind_ok hget]
  rfl

theorem run_isEnabled {word : UInt32} (hread : w.configuration.readErrno = none)
    (hword : w.configuration.visible? ChainSwitch.key = some word) :
    (ChainSwitch.isEnabled (Memory.backing h) c).run w
      = ⟨.ok ((MatchSet.ofSwitchWord word).contains c.bit), w, []⟩ := by
  rw [ChainSwitch.isEnabled, Act.run_bind_ok (run_word h hread hword),
    ← Chain.and_switchBit_ne_zero]
  rfl

theorem run_getUidRule (hread : w.uidOwner.readErrno = none) :
    (Firewall.getUidRule (Memory.backing h) c uid).run w
      = ⟨.ok (if c.blocks (ruleWord (w.uidOwner.visible? uid)) then .deny else .allow),
          w, []⟩ := by
  have hmember : (((w.uidOwner.visible? uid).map OwnerRecord.ofEntry).any fun r =>
      r.rule.contains c.bit) = (ruleWord (w.uidOwner.visible? uid)).contains c.bit := by
    cases w.uidOwner.visible? uid with
    | none => exact (contains_ruleWord_none c).symm
    | some x => rfl
  rw [Firewall.getUidRule, Act.run_bind_ok (RuleChange.run_record h uid hread)]
  dsimp only
  rw [hmember, Chain.blocks]
  cases c.isAllowList <;> cases (ruleWord (w.uidOwner.visible? uid)).contains c.bit <;> rfl

theorem run_isOn (hread : w.dataSaver.readErrno = none) :
    (DataSaver.isOn (Memory.backing h)).run w = ⟨.ok (saverOn w), w, []⟩ := by
  rw [DataSaver.isOn, Memory.dataSaver_backing,
    Act.run_bind_ok (Store.run_get_zoom World.dataSaverPart DataSaver.key hread)]
  rfl

theorem run_reasons {word : UInt32} (hconfig : w.configuration.readErrno = none)
    (howner : w.uidOwner.readErrno = none) (hsaver : w.dataSaver.readErrno = none)
    (hword : w.configuration.visible? ChainSwitch.key = some word) :
    (NetMaps.reasons (Memory.backing h) uid).run w
      = ⟨.ok (blockedReasons uid (MatchSet.ofSwitchWord word)
          (ruleWord (w.uidOwner.visible? uid)) (saverOn w)), w, []⟩ := by
  have henabled : (ChainSwitch.enabled (Memory.backing h)).run w
      = ⟨.ok (MatchSet.ofSwitchWord word), w, []⟩ := by
    rw [ChainSwitch.enabled, Act.run_bind_ok (run_word h hconfig hword)]
    rfl
  have hrule : (((w.uidOwner.visible? uid).map OwnerRecord.ofEntry).map (·.rule)).getD .empty
      = ruleWord (w.uidOwner.visible? uid) := by
    rw [Option.map_map]
    rfl
  rw [NetMaps.reasons, Act.run_bind_ok henabled,
    Act.run_bind_ok (RuleChange.run_record h uid howner)]
  dsimp only
  rw [Act.run_bind_ok (run_isOn h hsaver), hrule]
  rfl

end Queries

/-! ## Agreement -/

section Agree

variable (h : Memory.Host) {w : World} {uid : Uid} {word : UInt32}

theorem answers_iff {W α : Type} {x : Op W α} {w : W} {a a' : α} {log : List Log.Event}
    (hrun : x.run w = ⟨.ok a, w, log⟩) : Answers x w a' ↔ a = a' := by
  rw [Answers, hrun]
  exact ⟨fun heq => Except.ok.inj heq, congrArg _⟩

theorem decides_iff {W : Type} {x : Op W Bool} {w : W} {d : Bool} {log : List Log.Event}
    {P : Prop} (hrun : x.run w = ⟨.ok d, w, log⟩) : Decides x w P ↔ (d = true ↔ P) := by
  constructor
  · rintro ⟨d', hanswers, hiff⟩
    rw [(answers_iff hrun).1 hanswers]
    exact hiff
  · intro hiff
    exact ⟨d, (answers_iff hrun).2 rfl, hiff⟩

theorem answers_deny_iff (c : Chain) (howner : w.uidOwner.readErrno = none) :
    Answers (Firewall.getUidRule (Memory.backing h) c uid) w .deny ↔
      c.blocks (ruleWord (w.uidOwner.visible? uid)) = true := by
  rw [answers_iff (run_getUidRule h uid c howner)]
  cases c.blocks (ruleWord (w.uidOwner.visible? uid)) with
  | true => exact ⟨fun _ => rfl, fun _ => rfl⟩
  | false => exact ⟨fun heq => (nomatch heq), fun heq => (nomatch heq)⟩

theorem chainDenies_iff (c : Chain) (hconfig : w.configuration.readErrno = none)
    (howner : w.uidOwner.readErrno = none)
    (hword : w.configuration.visible? ChainSwitch.key = some word) :
    ChainDenies (Memory.backing h) w uid c ↔
      (MatchSet.ofSwitchWord word).contains c.bit = true ∧
        c.blocks (ruleWord (w.uidOwner.visible? uid)) = true := by
  rw [ChainDenies, answers_iff (run_isEnabled h c hconfig hword), answers_deny_iff h c howner]

theorem agreement_blockedReasons (happ : Uid.isSystem uid = false)
    (hconfig : w.configuration.readErrno = none) (howner : w.uidOwner.readErrno = none)
    (hsaver : w.dataSaver.readErrno = none)
    (hword : w.configuration.visible? ChainSwitch.key = some word) :
    Agreement (Memory.backing h) w uid
      (blockedReasons uid (MatchSet.ofSwitchWord word) (ruleWord (w.uidOwner.visible? uid))
        (saverOn w)) where
  unmetered e he hlow := by
    simp only [contains_blockedReasons happ _ _ _ he hlow,
      chainDenies_iff h _ hconfig howner hword]
  user := by
    -- a chain that denies its members blocks whoever has the match
    have hblocks : Chain.meteredDenyUser.blocks (ruleWord (w.uidOwner.visible? uid))
        = (ruleWord (w.uidOwner.visible? uid)).contains .penaltyBoxUser := Bool.false_bne _
    rw [contains_meteredUserRestricted happ, answers_deny_iff h _ howner, hblocks]
  admin := by
    have hblocks : Chain.meteredDenyAdmin.blocks (ruleWord (w.uidOwner.visible? uid))
        = (ruleWord (w.uidOwner.visible? uid)).contains .penaltyBoxAdmin := Bool.false_bne _
    rw [contains_meteredAdminDisabled happ, answers_deny_iff h _ howner, hblocks]
  saver := by
    -- a chain that allows its members blocks whoever does not have it
    have hblocks : Chain.meteredAllow.blocks (ruleWord (w.uidOwner.visible? uid))
        = !(ruleWord (w.uidOwner.visible? uid)).contains .happyBox := Bool.true_bne _
    rw [contains_meteredDataSaver happ, answers_iff (run_isOn h hsaver),
      answers_deny_iff h _ howner, hblocks, Bool.and_eq_true]
  named i hi := exists_named_of_has happ _ _ _ hi

/-- **The reasons for an application id agree with the queries about single chains**, and it is
blocked on unmetered networks iff an enabled chain outside the metered ones denies it, and on
metered networks iff it is blocked on unmetered ones or restricted on metered ones. -/
theorem reasons_agree (happ : 10000 ≤ uid % 100000)
    (hconfig : w.configuration.readErrno = none) (howner : w.uidOwner.readErrno = none)
    (hsaver : w.dataSaver.readErrno = none)
    (hword : (w.configuration.visible? ChainSwitch.key).isSome = true) :
    (∃ r, Answers (NetMaps.reasons (Memory.backing h) uid) w r ∧
        Agreement (Memory.backing h) w uid r) ∧
      Decides (NetMaps.isBlocked (Memory.backing h) uid false) w
        (∃ c : Chain, c ∉ Chain.metered ∧ ChainDenies (Memory.backing h) w uid c) ∧
      Decides (NetMaps.isBlocked (Memory.backing h) uid true) w
        (Answers (NetMaps.isBlocked (Memory.backing h) uid false) w true ∨
          Answers (NetMaps.isRestricted (Memory.backing h) uid) w true) := by
  have hnotSystem : Uid.isSystem uid = false := by
    rw [Uid.isSystem, decide_eq_false_iff_not, UInt32.not_lt]
    exact happ
  obtain ⟨word, hword⟩ := Option.isSome_iff_exists.1 hword
  have hreasons := run_reasons h uid hconfig howner hsaver hword
  -- the three answers read the same maps and differ in the mask that they put on the reasons
  have hblocked : ∀ metered, (NetMaps.isBlocked (Memory.backing h) uid metered).run w = _ :=
    fun metered => Act.run_bind_ok hreasons
  have hrestricted : (NetMaps.isRestricted (Memory.backing h) uid).run w = _ :=
    Act.run_bind_ok hreasons
  refine ⟨⟨_, (answers_iff hreasons).2 rfl,
    agreement_blockedReasons h hnotSystem hconfig howner hsaver hword⟩, ?_, ?_⟩
  · rw [decides_iff (hblocked false)]
    simp only [isBlocked_blockedReasons hnotSystem, chainDenies_iff h _ hconfig howner hword]
  · rw [decides_iff (hblocked true), answers_iff (hblocked false), answers_iff hrestricted]
    exact BlockedReasons.isBlocked_true_iff

end Agree

/-- Dozable and one of the OEM chains are enabled, data saver is on, and one id of a second
user is on that OEM chain, denied by its user, and has a bit without a name. -/
def restrictedWorld : World :=
  { World.empty with
    configuration := { World.empty.configuration with
      content := .ofList [(ChainSwitch.key, 0x204)] }
    uidOwner := { World.empty.uidOwner with
      content := .ofList [(110001, ⟨0, 0, 0x100000000202⟩)] }
    dataSaver := { World.empty.dataSaver with
      content := .ofList [(DataSaver.key, DataSaver.onFlag)] } }

theorem restrictedWorld_agree :
    ((10000 : Uid) ≤ 110001 % 100000 ∧ restrictedWorld.configuration.readErrno = none ∧
        restrictedWorld.uidOwner.readErrno = none ∧ restrictedWorld.dataSaver.readErrno = none ∧
        (restrictedWorld.configuration.visible? ChainSwitch.key).isSome = true) ∧
      (∃ r, Answers (NetMaps.reasons (Memory.backing ⟨[], none⟩) 110001) restrictedWorld r ∧
        Agreement (Memory.backing ⟨[], none⟩) restrictedWorld 110001 r) ∧
      Decides (NetMaps.isBlocked (Memory.backing ⟨[], none⟩) 110001 false) restrictedWorld
        (∃ c : Chain, c ∉ Chain.metered ∧
          ChainDenies (Memory.backing ⟨[], none⟩) restrictedWorld 110001 c) ∧
      Decides (NetMaps.isBlocked (Memory.backing ⟨[], none⟩) 110001 true) restrictedWorld
        (Answers (NetMaps.isBlocked (Memory.backing ⟨[], none⟩) 110001 false) restrictedWorld
            true ∨
          Answers (NetMaps.isRestricted (Memory.backing ⟨[], none⟩) 110001) restrictedWorld
            true) :=
  ⟨⟨by decide, rfl, rfl, rfl, by decide⟩,
    reasons_agree ⟨[], none⟩ (by decide) rfl rfl rfl (by decide)⟩

/-- Doze, the OEM chain, the user's denial and data saver. -/
example :
    ((NetMaps.reasons (Memory.backing ⟨[], none⟩) 110001).run restrictedWorld).result.toOption
      = some ⟨0x30082⟩ := by decide

end UidPolicy
