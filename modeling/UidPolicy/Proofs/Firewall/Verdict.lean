import UidPolicy.Proofs.Firewall.Entries
import UidPolicy.Proofs.Reasons.Agreement
import UidPolicy.Proofs.Reasons.Order

/-!
# A verdict is what it was set to

To set a verdict goes through the polarity of the chain to one change of the id's entry, and to ask
for it goes from the entry through the polarity back. The two ways are written apart from each
other; that they agree is said here, for chains of either polarity and entries of any kind.

- `Firewall.verdictChange`: the change that a verdict asks for. `setUidRule_eq`: to set a verdict is
  that change, behind the lock.
- `Chain.verdictOn`: the verdict of a chain on a rule word. `verdictOn_wordAfter`: after a verdict
  it is that verdict, and the other chains judge as before.
- `setUidRule_ends`: the three ways in which setting a verdict ends.
- `VerdictSet`, `setUidRule_verdictSet`: what is answered and what is asked for afterwards.
-/

namespace UidPolicy

open Memory (World Setting)

/-! ## Verdicts on rule words -/

namespace Chain

/-- The verdict of a chain on the ids without an entry: an allow-list blocks whom it does not name,
and a deny-list lets them through. -/
def defaultVerdict (c : Chain) : Verdict := if c.isAllowList then .deny else .allow

/-- The verdict of a chain on an id, by the rule word of the id. Whether the chain is switched on
has no part in it. -/
def verdictOn (c : Chain) (rule : MatchSet) : Verdict := if c.blocks rule then .deny else .allow

theorem setsBit_eq_false_iff {c : Chain} {v : Verdict} :
    Firewall.setsBit c v = false ↔ v = c.defaultVerdict := by
  rw [defaultVerdict]
  cases v with
  | allow =>
    show c.isAllowList = false ↔ _
    cases c.isAllowList <;> decide
  | deny =>
    show (!c.isAllowList) = false ↔ _
    cases c.isAllowList <;> decide

/-- After a verdict its chain judges so, and the other chains judge as before. -/
theorem verdictOn_wordAfter (c d : Chain) (v : Verdict) (rule : MatchSet) :
    d.verdictOn (c.wordAfter v rule) = if d = c then v else d.verdictOn rule := by
  rw [verdictOn, blocks_wordAfter]
  by_cases hd : d = c
  · rw [if_pos hd, if_pos hd]
    cases v <;> rfl
  · rw [if_neg hd, if_neg hd]
    rfl

theorem verdictOn_ruleWord_none (c : Chain) : c.verdictOn (ruleWord none) = c.defaultVerdict := by
  rw [verdictOn, blocks, contains_ruleWord_none, Bool.bne_false, defaultVerdict]

end Chain

namespace Firewall

/-- The change that a verdict on a chain asks for: on an allow-list to let through is to set the
bit, on a deny-list to block is. -/
def verdictChange (c : Chain) (v : Verdict) : RuleChange :=
  if setsBit c v then .grant c.bit 0 else .revoke c.bit

theorem setUidRule_eq {W : Type} (b : Backing W) (c : Chain) (uid : Uid) (v : Verdict) :
    setUidRule b c uid v
      = (b.acquire .uidOwner >>= fun _ => (verdictChange c v).perform b uid) := by
  cases hsets : setsBit c v with
  | true =>
    rw [setUidRule, verdictChange, if_pos hsets, if_pos hsets, addRule, validateAdd_ok (.inl rfl)]
    rfl
  | false =>
    have hclears := Bool.eq_false_iff.1 hsets
    rw [setUidRule, verdictChange, if_neg hclears, if_neg hclears]
    rfl

theorem ruleWord_verdictChange (c : Chain) (v : Verdict) (e : Option OwnerEntry) :
    ruleWord ((verdictChange c v).apply e) = c.wordAfter v (ruleWord e) := by
  rw [verdictChange, Chain.wordAfter]
  split
  · exact RuleChange.ruleWord_grant c.bit 0 e
  · exact RuleChange.ruleWord_revoke c.bit e

/-- A verdict lacks something to work on only where its bit is to be cleared and there is no
entry. -/
theorem default_of_not_applies {c : Chain} {v : Verdict} {e : Option OwnerEntry}
    (happlies : (verdictChange c v).applies e = false) : v = c.defaultVerdict ∧ e = none := by
  rw [verdictChange] at happlies
  cases hsets : setsBit c v with
  | true =>
    rw [if_pos hsets] at happlies
    cases happlies
  | false =>
    rw [if_neg (Bool.eq_false_iff.1 hsets)] at happlies
    exact ⟨Chain.setsBit_eq_false_iff.1 hsets,
      Option.isNone_iff_eq_none.1 (Option.isSome_eq_false_iff.1 happlies)⟩

/-! ## Setting and asking -/

/-- The world in which the entry of an id is changed for a verdict, whatever it was before. -/
def changedFor (c : Chain) (uid : Uid) (v : Verdict) (w : World) : World :=
  { w with
    uidOwner := w.uidOwner.write uid ((verdictChange c v).apply (w.uidOwner.visible? uid)) }

theorem ruleWord_changedFor (c : Chain) (uid : Uid) (v : Verdict) (w : World) (u : Uid) :
    ruleWord ((changedFor c uid v w).uidOwner.visible? u)
      = if u = uid then c.wordAfter v (ruleWord (w.uidOwner.visible? u))
        else ruleWord (w.uidOwner.visible? u) := by
  rw [changedFor, Store.visible?_write]
  by_cases hu : u = uid
  · rw [if_pos hu, if_pos hu, hu, ruleWord_verdictChange]
  · rw [if_neg hu, if_neg hu]

/-- The second time the change is made already, and what is written is what is there. -/
theorem changedFor_changedFor (c : Chain) (uid : Uid) (v : Verdict) (w : World) :
    changedFor c uid v (changedFor c uid v w) = changedFor c uid v w := by
  show { w with uidOwner := ((changedFor c uid v w).uidOwner.write uid
    ((verdictChange c v).apply ((changedFor c uid v w).uidOwner.visible? uid))) } = _
  rw [changedFor, Store.visible?_write_self, RuleChange.apply_apply, Store.write_write]

section Verdict

variable (s : Setting) {w : World} (c : Chain) (uid : Uid) (v : Verdict)

/-- What is answered for a verdict is the chain's judgement on the word that is seen. -/
theorem answers_getUidRule_iff (hread : w.uidOwner.readErrno = none) :
    Answers (getUidRule s.backing c uid) w v ↔
      c.verdictOn (ruleWord (w.uidOwner.visible? uid)) = v := by
  have hrun : (getUidRule s.backing c uid).run w
      = ⟨.ok (c.verdictOn (ruleWord (w.uidOwner.visible? uid))), w, []⟩ :=
    run_getUidRule s.host uid c hread
  exact answers_iff hrun

/-- **The ways in which setting a verdict ends**: it is refused, it finds no entry to clear, or the
changed entry is written. -/
theorem setUidRule_ends (hread : w.uidOwner.readErrno = none) :
    ((s.poisoned .uidOwner = true ∨ w.uidOwner.refuses uid = true) ∧
        ∃ context errno, (setUidRule s.backing c uid v).run w
          = ⟨.error (.resource context errno), w, []⟩) ∨
      ((v = c.defaultVerdict ∧ w.uidOwner.visible? uid = none) ∧
        (setUidRule s.backing c uid v).run w = ⟨.error (RuleError.noEntry uid).toFault, w, []⟩) ∨
      ∃ log, (setUidRule s.backing c uid v).run w = ⟨.ok (), changedFor c uid v w, log⟩ := by
  -- the lock, the entry and the write are asked in this order, and the first that refuses decides
  rw [setUidRule_eq]
  cases hlock : s.poisoned .uidOwner with
  | true =>
    rw [Backing.acquire_of_poisoned hlock]
    exact .inl ⟨.inl rfl, _, _, rfl⟩
  | false =>
    rw [Backing.acquire_of_not_poisoned hlock, pure_bind, RuleChange.perform_backing]
    cases happlies : (verdictChange c v).applies (w.uidOwner.visible? uid) with
    | false =>
      exact .inr (.inl ⟨default_of_not_applies happlies,
        RuleChange.run_perform_not_applies s.host _ uid hread happlies⟩)
    | true =>
      cases hfault : w.uidOwner.writeFault? uid with
      | none =>
        have haccept : w.uidOwner.refuses uid = false := by rw [Store.refuses, hfault]; rfl
        exact .inr (.inr (RuleChange.run_perform s.host _ uid hread haccept happlies))
      | some e =>
        have hrefuse : w.uidOwner.refuses uid = true := by rw [Store.refuses, hfault]; rfl
        obtain ⟨context, errno, rfl⟩ := Store.resource_of_writeFault? hfault
        exact .inl ⟨.inr hrefuse, context, errno,
          RuleChange.run_perform_fault s.host _ uid hread happlies hfault⟩

end Verdict

/-- What setting a verdict on an id answers in a world, and what is asked for in the world that it
leaves behind. -/
structure VerdictSet (s : Setting) (c : Chain) (uid : Uid) (v : Verdict) (w : World)
    (answer : Except Fault Unit) (w' : World) : Prop where
  /-- Done, or with nothing to do, the verdict is in force. -/
  inForce : (answer = .ok () ∨ ∃ what, answer = .error (.notFound what)) →
    Answers (getUidRule s.backing c uid) w' v
  /-- There is nothing to do for the default of the chain and an id without a record, and nothing
  is done. -/
  notFound : ∀ what, answer = .error (.notFound what) →
    v = c.defaultVerdict ∧ Answers (record s.backing uid) w none ∧ w' = w
  /-- Whatever is answered, every other verdict is what it was: of the other chains on this id, and
  of every chain on every other id. -/
  others : ∀ c' uid', (c', uid') ≠ (c, uid) →
    ∃ v', Answers (getUidRule s.backing c' uid') w v' ∧
      Answers (getUidRule s.backing c' uid') w' v'
  /-- Once more changes nothing, whatever was answered the first time. -/
  again : ((setUidRule s.backing c uid v).run w').world = w'
  /-- Only a poisoned lock or a write that fails can stand in the way. -/
  goesThrough : s.poisoned .uidOwner = false → w.uidOwner.refuses uid = false →
    answer = .ok () ∨ ∃ what, answer = .error (.notFound what)

section Verdict

variable {s : Setting} {w : World} {c : Chain} {uid : Uid} {v : Verdict}

/-- Every verdict is answered, and in an unchanged world as before. -/
theorem answers_unchanged (hread : w.uidOwner.readErrno = none) (c' : Chain) (uid' : Uid) :
    ∃ v', Answers (getUidRule s.backing c' uid') w v' ∧
      Answers (getUidRule s.backing c' uid') w v' :=
  have hanswer := (answers_getUidRule_iff s c' uid' _ hread).2 rfl
  ⟨_, hanswer, hanswer⟩

theorem verdictSet_refused (hread : w.uidOwner.readErrno = none)
    (hstop : s.poisoned .uidOwner = true ∨ w.uidOwner.refuses uid = true)
    {context : String} {errno : Errno}
    (hrun : (setUidRule s.backing c uid v).run w = ⟨.error (.resource context errno), w, []⟩) :
    VerdictSet s c uid v w (.error (.resource context errno)) w where
  inForce hdone := hdone.elim (fun h => nomatch h) fun ⟨_, h⟩ => nomatch h
  notFound _ h := nomatch h
  others c' uid' _ := answers_unchanged hread c' uid'
  again := by rw [hrun]
  goesThrough hlock haccept := by
    rw [hlock, haccept] at hstop
    exact absurd hstop (by decide)

/-- With no entry to clear the default is in force, and it is what was asked for: the answer that
nothing was found is no failure of the verdict. -/
theorem verdictSet_noEntry (hread : w.uidOwner.readErrno = none)
    (hdefault : v = c.defaultVerdict) (hunseen : w.uidOwner.visible? uid = none)
    (hrun : (setUidRule s.backing c uid v).run w
      = ⟨.error (RuleError.noEntry uid).toFault, w, []⟩) :
    VerdictSet s c uid v w (.error (RuleError.noEntry uid).toFault) w := by
  have hrecord : Answers (record s.backing uid) w none := by
    have hnone := RuleChange.run_record s.host uid hread
    rw [hunseen] at hnone
    exact congrArg Outcome.result hnone
  exact
    { inForce := fun _ => by
        rw [answers_getUidRule_iff s c uid v hread, hunseen, c.verdictOn_ruleWord_none, hdefault]
      notFound := fun _ _ => ⟨hdefault, hrecord, rfl⟩
      others := fun c' uid' _ => answers_unchanged hread c' uid'
      again := by rw [hrun]
      goesThrough := fun _ _ => .inr ⟨_, rfl⟩ }

/-- The changed entry judges as it was told to on the one chain, and as before on the others. -/
theorem verdictSet_changed (hread : w.uidOwner.readErrno = none) :
    VerdictSet s c uid v w (.ok ()) (changedFor c uid v w) := by
  have hread' : (changedFor c uid v w).uidOwner.readErrno = none := hread
  exact
    { inForce := fun _ => by
        rw [answers_getUidRule_iff s c uid v hread', ruleWord_changedFor, if_pos rfl,
          Chain.verdictOn_wordAfter, if_pos rfl]
      notFound := fun _ h => nomatch h
      others := fun c' uid' hother => by
        refine ⟨_, (answers_getUidRule_iff s c' uid' _ hread).2 rfl, ?_⟩
        rw [answers_getUidRule_iff s c' uid' _ hread', ruleWord_changedFor]
        by_cases hu : uid' = uid
        · have hc : c' ≠ c := fun h => hother (by rw [h, hu])
          rw [if_pos hu, Chain.verdictOn_wordAfter, if_neg hc]
        · rw [if_neg hu]
      again := by
        -- a second time the call may find no entry any more, or make the same change again
        rcases setUidRule_ends s c uid v hread' with
          ⟨-, context, errno, hagain⟩ | ⟨-, hagain⟩ | ⟨log, hagain⟩
        · rw [hagain]
        · rw [hagain]
        · rw [hagain, changedFor_changedFor]
      goesThrough := fun _ _ => .inl rfl }

end Verdict

/-- **Setting a verdict and asking for it agree**, in every setting and wherever the rule records
can be read. -/
theorem setUidRule_verdictSet (s : Setting) {w : World} (hread : w.uidOwner.readErrno = none)
    (c : Chain) (uid : Uid) (v : Verdict) :
    VerdictSet s c uid v w ((setUidRule s.backing c uid v).run w).result
      ((setUidRule s.backing c uid v).run w).world := by
  rcases setUidRule_ends s c uid v hread with
    ⟨hstop, context, errno, hrun⟩ | ⟨⟨hdefault, hunseen⟩, hrun⟩ | ⟨log, hrun⟩
  · rw [hrun]
    exact verdictSet_refused hread hstop hrun
  · rw [hrun]
    exact verdictSet_noEntry hread hdefault hunseen hrun
  · rw [hrun]
    exact verdictSet_changed hread

/-- A deny-list is left by its only member, whose entry goes. -/
theorem assortedWorld_verdictSet :
    assortedWorld.uidOwner.readErrno = none ∧
      VerdictSet (Setting.ofHost ⟨[], none⟩) .standby 10005 .allow assortedWorld
        ((setUidRule (Setting.ofHost ⟨[], none⟩).backing .standby 10005 .allow).run
          assortedWorld).result
        ((setUidRule (Setting.ofHost ⟨[], none⟩).backing .standby 10005 .allow).run
          assortedWorld).world :=
  ⟨rfl, setUidRule_verdictSet _ rfl .standby 10005 .allow⟩

end Firewall

end UidPolicy
