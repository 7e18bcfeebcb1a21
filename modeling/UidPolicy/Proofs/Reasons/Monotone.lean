import UidPolicy.Proofs.Firewall.Verdict
import UidPolicy.Proofs.Request
import UidPolicy.Proofs.Switch.Calls

/-!
# Policy changes move reasons one way

To allow an id, to disable a chain and to turn data saver off never adds a reason, for the id or
for any other; the opposite changes never remove one. Whether or not a change goes through, every
judgement that reasons come from (is this chain enabled, does it block the id, is data saver on)
stays as it was or comes out as the change has it.

- `Memory.World.Readable`: the words that the reasons are computed from can be read.
- `Turned`: from one world to another every judgement stays or becomes the given one. With `false`
  no reason is added (`Turned.fewer`), with `true` none is removed (`Turned.more`).
- `setUidRule_cases`, `setChain_cases`, `setSaver_cases`: the two ends of each change;
  `turned_setUidRule` and its siblings are what follows for the judgements.
- `Request.Relaxes`: the changes that turn judgements to `false`, and so do runs of them.
- `PolicyMonotone`, `policy_monotone`: the single changes, and the runs of changes that relax.
-/

namespace UidPolicy

open Memory (World Setting)

/-! ## What the reasons are computed from -/

namespace Memory.World

/-- The maps that the reasons are computed from can be read, and the chain-enable word is there.
Otherwise there are no reasons that could be compared. -/
structure Readable (w : World) : Prop where
  configuration : w.configuration.readErrno = none
  uidOwner : w.uidOwner.readErrno = none
  dataSaver : w.dataSaver.readErrno = none
  word : (w.configuration.visible? ChainSwitch.key).isSome = true

/-- The enabled chains, as matches. -/
def enabledChains (w : World) : MatchSet :=
  MatchSet.ofSwitchWord ((w.configuration.visible? ChainSwitch.key).getD ChainSwitch.defaultWord)

/-- The rule word of an id. -/
def ruleOf (w : World) (v : Uid) : MatchSet := ruleWord (w.uidOwner.visible? v)

/-- The reasons for an id, as the maps have them: a function of the world, so two worlds are
compared without running anything. -/
def reasonsOf (w : World) (v : Uid) : BlockedReasons :=
  blockedReasons v w.enabledChains (w.ruleOf v) (saverOn w)

end Memory.World

/-- Where the maps can be read, the reasons are answered. -/
theorem Memory.World.Readable.run_reasons {w : World} (hw : w.Readable) (s : Setting) (v : Uid) :
    (NetMaps.reasons s.backing v).run w = ⟨.ok (w.reasonsOf v), w, []⟩ := by
  obtain ⟨word, hword⟩ := Option.isSome_iff_exists.1 hw.word
  have hrun := UidPolicy.run_reasons s.host v hw.configuration hw.uidOwner hw.dataSaver hword
  have henabled : w.enabledChains = MatchSet.ofSwitchWord word := by
    rw [World.enabledChains, hword]
    rfl
  rw [World.reasonsOf, henabled]
  exact hrun

/-- From the first world to the second, every judgement that the reasons for an id come from is as
it was or is the given one; and what could be read can be read. -/
structure Turned (judgement : Bool) (v : Uid) (w w' : World) : Prop where
  readable : w.Readable → w'.Readable
  /-- Whether a chain is enabled. -/
  enabled : ∀ c : Chain, w'.enabledChains.contains c.bit = w.enabledChains.contains c.bit ∨
    w'.enabledChains.contains c.bit = judgement
  /-- Whether a chain blocks the id. -/
  blocks : ∀ c : Chain, c.blocks (w'.ruleOf v) = c.blocks (w.ruleOf v) ∨
    c.blocks (w'.ruleOf v) = judgement
  /-- Whether data saver is on. -/
  saver : saverOn w' = saverOn w ∨ saverOn w' = judgement

namespace Turned

variable {v : Uid} {w w' w'' : World} {judgement : Bool}

theorem refl (judgement : Bool) (v : Uid) (w : World) : Turned judgement v w w :=
  ⟨id, fun _ => .inl rfl, fun _ => .inl rfl, .inl rfl⟩

theorem trans (h : Turned judgement v w w') (h' : Turned judgement v w' w'') :
    Turned judgement v w w'' where
  readable hw := h'.readable (h.readable hw)
  enabled c := by
    -- what the second step has turned is turned, whatever the first one did to it
    rcases h'.enabled c with hsame | hturned
    · rw [hsame]
      exact h.enabled c
    · exact .inr hturned
  blocks c := by
    rcases h'.blocks c with hsame | hturned
    · rw [hsame]
      exact h.blocks c
    · exact .inr hturned
  saver := by
    rcases h'.saver with hsame | hturned
    · rw [hsame]
      exact h.saver
    · exact .inr hturned

theorem held {a a' : Bool} (h : a' = a ∨ a' = false) (ha' : a' = true) : a = true := by
  rcases h with rfl | rfl
  · exact ha'
  · cases ha'

theorem holds {a a' : Bool} (h : a' = a ∨ a' = true) (ha : a = true) : a' = true := by
  rcases h with rfl | rfl
  · exact ha
  · rfl

/-- No reason is added. -/
theorem fewer (h : Turned false v w w') : (w.reasonsOf v).contains (w'.reasonsOf v) = true :=
  blockedReasons_mono (fun c => held (h.enabled c)) (fun c => held (h.blocks c)) (held h.saver)

/-- No reason is removed. -/
theorem more (h : Turned true v w w') : (w'.reasonsOf v).contains (w.reasonsOf v) = true :=
  blockedReasons_mono (fun c => holds (h.enabled c)) (fun c => holds (h.blocks c)) (holds h.saver)

end Turned

/-! ## The two ends of a change -/

section Ends

variable (s : Setting) (w : World)

/-- A verdict changes nothing, or the word of its id as its chain says. -/
theorem setUidRule_cases (chain : Chain) (uid : Uid) (verdict : Verdict) :
    (Request.mutate (.setUidRule chain uid verdict)).after s.backing w = w ∨
      ∃ value, ruleWord value = chain.wordAfter verdict (w.ruleOf uid) ∧
        (Request.mutate (.setUidRule chain uid verdict)).after s.backing w
          = { w with uidOwner := w.uidOwner.write uid value } := by
  have hafter : (Request.mutate (.setUidRule chain uid verdict)).after s.backing w
      = ((Firewall.setUidRule s.backing chain uid verdict).run w).world :=
    Mutation.world_run s.backing (.setUidRule chain uid verdict) w
  have hword : ruleWord ((Firewall.verdictChange chain verdict).apply (w.uidOwner.visible? uid))
      = chain.wordAfter verdict (w.ruleOf uid) := Firewall.ruleWord_verdictChange chain verdict _
  rw [hafter, Firewall.setUidRule_eq]
  rcases (Firewall.verdictChange chain verdict).locked_ends s uid w with
    ⟨e, hfail⟩ | ⟨-, log, hdone⟩
  · exact .inl (by rw [hfail])
  · exact .inr ⟨_, hword, by rw [hdone]⟩

/-- Switching a chain changes nothing, or it stores the word with that chain switched. -/
theorem setChain_cases (chain : Chain) (on : Bool) :
    (Request.setChain chain on).after s.backing w = w ∨
      ∃ word, w.configuration.visible? ChainSwitch.key = some word ∧
        (Request.setChain chain on).after s.backing w
          = { w with configuration :=
              w.configuration.write ChainSwitch.key (some (chain.switchAfter on word)) } := by
  have hafter : (Request.setChain chain on).after s.backing w
      = ((ChainSwitch.setEnabled s.backing chain on).run w).world := by
    rw [Request.after, Request.run, Act.run_map]
  rw [hafter]
  cases hfault : ChainSwitch.switchFault? s w with
  | some e => exact .inl (by rw [ChainSwitch.run_setEnabled_of_fault s hfault])
  | none =>
    obtain ⟨word, log, hseen, hdone⟩ := ChainSwitch.run_setEnabled_of_seen s hfault chain on
    exact .inr ⟨word, hseen, congrArg Outcome.world hdone⟩

/-- Turning data saver on or off changes nothing, or it stores the flag. -/
theorem setSaver_cases (on : Bool) :
    (Request.setSaver on).after s.backing w = w ∨
      (Request.setSaver on).after s.backing w = { w with
        dataSaver := w.dataSaver.write DataSaver.key
          (some (if on then DataSaver.onFlag else DataSaver.offFlag)) } := by
  rw [Request.after, Request.run, Act.run_map, DataSaver.set]
  dsimp only
  rcases s.backing.acquire_bind_cases .dataSaver _ with ⟨e, hrefused⟩ | hopen
  · exact .inl (by rw [hrefused w])
  · rw [hopen, (Act.run_bind_emit _ _ w).2]
    rcases Store.put_zoom_cases World.dataSaverPart DataSaver.key
      (if on then DataSaver.onFlag else DataSaver.offFlag) w with ⟨e, hput⟩ | hput
    · exact .inl (congrArg Outcome.world hput)
    · exact .inr (congrArg Outcome.world hput)

end Ends

/-! ## Which way each change turns -/

section Turns

variable (s : Setting) (w : World)

theorem reasonsOf_setUidRule (chain : Chain) (uid : Uid) (verdict : Verdict) {v : Uid}
    (hv : v ≠ uid) :
    ((Request.mutate (.setUidRule chain uid verdict)).after s.backing w).reasonsOf v
      = w.reasonsOf v := by
  rcases setUidRule_cases s w chain uid verdict with hsame | ⟨value, -, hwritten⟩
  · rw [hsame]
  · have hword : World.ruleOf { w with uidOwner := w.uidOwner.write uid value } v = w.ruleOf v :=
      congrArg ruleWord (Store.visible?_write_of_ne _ hv value)
    rw [hwritten, World.reasonsOf, hword]
    rfl

/-- **A verdict** turns to whether it denies: the chain blocks the id afterwards or not, on an
allow-list just as on a deny-list. -/
theorem turned_setUidRule (chain : Chain) (uid : Uid) (verdict : Verdict) (v : Uid) :
    Turned (decide (verdict = .deny)) v w
      ((Request.mutate (.setUidRule chain uid verdict)).after s.backing w) := by
  rcases setUidRule_cases s w chain uid verdict with hsame | ⟨value, hvalue, hwritten⟩
  · rw [hsame]
    exact .refl _ v w
  · rw [hwritten]
    refine ⟨fun hw => ⟨hw.configuration, hw.uidOwner, hw.dataSaver, hw.word⟩,
      fun _ => .inl rfl, fun d => ?_, .inl rfl⟩
    -- the verdict is about one id and one chain; for all others nothing has changed
    by_cases hv : v = uid
    · have hown : World.ruleOf { w with uidOwner := w.uidOwner.write uid value } v
          = chain.wordAfter verdict (w.ruleOf v) := by
        rw [hv, World.ruleOf, Store.visible?_write_self, hvalue]
      rw [hown, Chain.blocks_wordAfter]
      by_cases hd : d = chain
      · exact .inr (if_pos hd)
      · exact .inl (if_neg hd)
    · have hother : World.ruleOf { w with uidOwner := w.uidOwner.write uid value } v
          = w.ruleOf v := congrArg ruleWord (Store.visible?_write_of_ne _ hv value)
      exact .inl (by rw [hother])

/-- **Switching a chain** turns to where it is switched. -/
theorem turned_setChain (chain : Chain) (on : Bool) (v : Uid) :
    Turned on v w ((Request.setChain chain on).after s.backing w) := by
  rcases setChain_cases s w chain on with hsame | ⟨word, hseen, hwritten⟩
  · rw [hsame]
    exact .refl _ v w
  · rw [hwritten]
    refine ⟨fun hw => ⟨hw.configuration, hw.uidOwner, hw.dataSaver, ?_⟩, fun d => ?_,
      fun _ => .inl rfl, .inl rfl⟩
    -- the word is written whole, so it is still there to be read
    · show ((w.configuration.write ChainSwitch.key _).visible? ChainSwitch.key).isSome = true
      rw [Store.visible?_write_self]
      rfl
    · have hbefore : w.enabledChains = MatchSet.ofSwitchWord word := by
        rw [World.enabledChains, hseen]
        rfl
      rw [World.enabledChains, Store.visible?_write_self, Option.getD_some, hbefore,
        Chain.contains_switchAfter]
      by_cases hd : d = chain
      · exact .inr (if_pos hd)
      · exact .inl (if_neg hd)

/-- **Data saver** turns to where it is turned. -/
theorem turned_setSaver (on : Bool) (v : Uid) :
    Turned on v w ((Request.setSaver on).after s.backing w) := by
  rcases setSaver_cases s w on with hsame | hwritten
  · rw [hsame]
    exact .refl _ v w
  · rw [hwritten]
    refine ⟨fun hw => ⟨hw.configuration, hw.uidOwner, hw.dataSaver, hw.word⟩,
      fun _ => .inl rfl, fun _ => .inl rfl, .inr ?_⟩
    rw [saverOn, Store.visible?_write_self]
    cases on <;> rfl

end Turns

/-! ## Runs that relax -/

namespace Request

/-- The changes that add no reasons: an id is allowed, a chain is disabled, data saver is turned
off. -/
inductive Relaxes : Request → Prop where
  | allow (chain : Chain) (uid : Uid) : Relaxes (.mutate (.setUidRule chain uid .allow))
  | disable (chain : Chain) : Relaxes (.setChain chain false)
  | saverOff : Relaxes (.setSaver false)

variable (s : Setting)

theorem Relaxes.turned {r : Request} (hr : r.Relaxes) (v : Uid) (w : World) :
    Turned false v w (r.after s.backing w) := by
  cases hr with
  | allow chain uid => exact turned_setUidRule s w chain uid .allow v
  | disable chain => exact turned_setChain s w chain false v
  | saverOff => exact turned_setSaver s w false v

theorem turned_afterAll {rs : List Request} (hrs : ∀ r ∈ rs, r.Relaxes) (v : Uid) (w : World) :
    Turned false v w (afterAll s.backing w rs) :=
  afterAll_induction s.backing (P := Turned false v w) (.refl false v w)
    fun _ hr w' hw' => hw'.trans ((hrs _ hr).turned s v w')

end Request

/-! ## Monotonicity -/

/-- The reasons for an id are answered in both worlds, and those of the second world are among
those of the first. -/
def NoneAdded {W : Type} (b : Backing W) (v : Uid) (w w' : W) : Prop :=
  ∃ r r', Answers (NetMaps.reasons b v) w r ∧ Answers (NetMaps.reasons b v) w' r' ∧
    r.contains r' = true

section Answers

variable {s : Setting} {v : Uid} {w w' : World}

theorem Memory.World.Readable.answers_reasons (hw : w.Readable) :
    Answers (NetMaps.reasons s.backing v) w (w.reasonsOf v) :=
  congrArg Outcome.result (hw.run_reasons s v)

theorem Memory.World.Readable.answers_isBlocked_iff (hw : w.Readable) {metered d : Bool} :
    Answers (NetMaps.isBlocked s.backing v metered) w d ↔
      (w.reasonsOf v).isBlocked metered = d := by
  have hrun : (NetMaps.isBlocked s.backing v metered).run w = _ :=
    Act.run_bind_ok (hw.run_reasons s v)
  exact answers_iff hrun

theorem Turned.noneAdded (h : Turned false v w w') (hw : w.Readable) :
    NoneAdded s.backing v w w' :=
  ⟨_, _, hw.answers_reasons, (h.readable hw).answers_reasons, h.fewer⟩

theorem Turned.noneRemoved (h : Turned true v w w') (hw : w.Readable) :
    NoneAdded s.backing v w' w :=
  ⟨_, _, (h.readable hw).answers_reasons, hw.answers_reasons, h.more⟩

end Answers

/-- How the reasons for an id answer to changes of the policy, whether or not a change goes
through. -/
structure PolicyMonotone {W : Type} (b : Backing W) (w : W) (v : Uid) : Prop where
  /-- To allow an id adds no reason, for any id and on a chain of either polarity. -/
  allow : ∀ (chain : Chain) (uid : Uid),
    NoneAdded b v w ((Request.mutate (.setUidRule chain uid .allow)).after b w)
  /-- To deny an id removes none. -/
  deny : ∀ (chain : Chain) (uid : Uid),
    NoneAdded b v ((Request.mutate (.setUidRule chain uid .deny)).after b w) w
  /-- Neither changes the reasons for another id. -/
  others : ∀ (chain : Chain) (uid : Uid) (verdict : Verdict), v ≠ uid →
    ∃ r, Answers (NetMaps.reasons b v) w r ∧
      Answers (NetMaps.reasons b v)
        ((Request.mutate (.setUidRule chain uid verdict)).after b w) r
  /-- To enable a chain removes no reason. -/
  enable : ∀ chain : Chain, NoneAdded b v ((Request.setChain chain true).after b w) w
  /-- To disable a chain adds none. -/
  disable : ∀ chain : Chain, NoneAdded b v w ((Request.setChain chain false).after b w)
  /-- To turn data saver on removes no reason. -/
  saverOn : NoneAdded b v ((Request.setSaver true).after b w) w
  /-- To turn data saver off adds none. -/
  saverOff : NoneAdded b v w ((Request.setSaver false).after b w)
  /-- An id that is not blocked on a network stays so at every point of a run that only relaxes. -/
  runs : ∀ rs : List Request, (∀ r ∈ rs, r.Relaxes) → ∀ metered,
    Answers (NetMaps.isBlocked b v metered) w false →
    ∀ n, Answers (NetMaps.isBlocked b v metered) (Request.afterAll b w (rs.take n)) false

/-- **Policy is monotone**, in every setting, from every readable world and for every id. An
operation that fails has changed nothing, so whatever it answers no reason is added or removed
against its direction. -/
theorem policy_monotone (s : Setting) {w : World} (hw : w.Readable) (v : Uid) :
    PolicyMonotone s.backing w v where
  allow chain uid := (turned_setUidRule s w chain uid .allow v).noneAdded hw
  deny chain uid := (turned_setUidRule s w chain uid .deny v).noneRemoved hw
  others chain uid verdict hv := by
    have hturned := turned_setUidRule s w chain uid verdict v
    refine ⟨_, hw.answers_reasons, ?_⟩
    rw [← reasonsOf_setUidRule s w chain uid verdict hv]
    exact (hturned.readable hw).answers_reasons
  enable chain := (turned_setChain s w chain true v).noneRemoved hw
  disable chain := (turned_setChain s w chain false v).noneAdded hw
  saverOn := (turned_setSaver s w true v).noneRemoved hw
  saverOff := (turned_setSaver s w false v).noneAdded hw
  runs rs hrs metered hfree n := by
    have hprefix : ∀ r ∈ rs.take n, r.Relaxes := fun r hr => hrs r (List.mem_of_mem_take hr)
    have hturned := Request.turned_afterAll s hprefix v w
    rw [hw.answers_isBlocked_iff] at hfree
    rw [(hturned.readable hw).answers_isBlocked_iff, Bool.eq_false_iff]
    intro hblocked
    -- fewer reasons block less, so a blocked id would have been blocked at the start
    rw [BlockedReasons.isBlocked_mono hturned.fewer hblocked] at hfree
    cases hfree

/-- In the restricted world, with a lock that is poisoned and writes that fail for one id. -/
theorem restrictedWorld_monotone :
    World.Readable { restrictedWorld with
        uidOwner := restrictedWorld.uidOwner.failWritesFor 10001 } ∧
      PolicyMonotone ((Setting.ofHost ⟨[], none⟩).poison .chainSwitch).backing
        { restrictedWorld with uidOwner := restrictedWorld.uidOwner.failWritesFor 10001 } 110001 :=
  ⟨⟨rfl, rfl, rfl, by decide⟩, policy_monotone _ ⟨rfl, rfl, rfl, by decide⟩ 110001⟩

/-- Allowed by its user and on the OEM chain, with dozable disabled and data saver off, the id has
no reason left. -/
example :
    ((NetMaps.reasons (Setting.ofHost ⟨[], none⟩).backing 110001).run
      (Request.afterAll (Setting.ofHost ⟨[], none⟩).backing restrictedWorld
        [.mutate (.setUidRule .meteredDenyUser 110001 .allow),
          .mutate (.setUidRule .oemDeny1 110001 .allow), .setChain .dozable false,
          .setSaver false])).result.toOption = some .empty := by decide

end UidPolicy
