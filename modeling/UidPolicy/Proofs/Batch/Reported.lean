import UidPolicy.Proofs.Batch.Calls
import UidPolicy.Proofs.Firewall.Effect
import UidPolicy.Proofs.Locks
import UidPolicy.Proofs.Permissions

/-!
# What the outcome of a batch says

A batch reports ids, and an id may be listed more than once. Whether a report says what became of
the id depends on the change: one that leaves something to work on goes through at every turn of an
id or at none, and then a reported id was left alone.

- `Truthful`: what an outcome says of the ids that it reports, and of the others that were meant.
- `RuleChange.cell_of_mem_failures`, `cell_of_not_mem_failures`: what a batch of one change leaves
  of an id that it reports, and of one that it does not.
- `Dropped`: the entry of an id that is listed more than once went at its first turn. Its later
  turns fail for want of an entry, and so the id is reported.
- `batches_report`: all batches are truthful, apart from ids whose restriction is lifted more than
  once and whose entry was dropped at the first turn (`interfaceOnlyWorld_lifted_twice`).
-/

namespace UidPolicy

open Memory (World Setting)

/-- What an outcome says: of the ids that it reports, and of the others among those meant. An id
that is not reported has what was asked for; one that is has kept what it had. -/
structure Truthful (outcome : BatchOutcome) (meant : List Uid) (Kept Done : Uid → Prop) :
    Prop where
  reported : ∀ uid ∈ outcome.failed, Kept uid
  others : ∀ uid ∈ meant, uid ∉ outcome.failed → Done uid

theorem Truthful.imp {outcome : BatchOutcome} {meant : List Uid}
    {Kept Kept' Done Done' : Uid → Prop} (h : Truthful outcome meant Kept Done)
    (hkept : ∀ uid, Kept uid → Kept' uid) (hdone : ∀ uid, Done uid → Done' uid) :
    Truthful outcome meant Kept' Done' where
  reported uid hu := hkept uid (h.reported uid hu)
  others uid hu hnot := hdone uid (h.others uid hu hnot)

/-! ## Batches of one change -/

namespace RuleChange

section Batch

variable (h : Memory.Host) (ch : RuleChange) {l : List Uid} {w : World} {uid : Uid}

/-- An id without a turn is left alone. -/
theorem cell_of_not_mem (hmem : uid ∉ l) :
    (Batch.worldAfter (ch.perform (Memory.backing h)) l w).uidOwner.cell uid
      = w.uidOwner.cell uid := by
  rw [cell_worldAfter, if_neg fun hc => hmem hc.1]

/-- **An id that a batch reports** is left alone, or nothing is left of its entry for its later
turns. -/
theorem cell_of_mem_failures (hmem : uid ∈ Batch.failures (ch.perform (Memory.backing h)) l w) :
    (Batch.worldAfter (ch.perform (Memory.backing h)) l w).uidOwner.cell uid
        = w.uidOwner.cell uid ∨
      1 < l.count uid ∧ ch.GoesThrough uid w ∧
        ch.applies (ch.apply (w.uidOwner.visible? uid)) = false := by
  obtain ⟨-, hfails⟩ := (mem_failures_iff h ch l w uid).1 hmem
  by_cases hgoes : ch.GoesThrough uid w
  · obtain ⟨hcount, happlies⟩ := hfails.resolve_left (not_not_intro hgoes)
    exact .inr ⟨hcount, hgoes, happlies⟩
  · rw [cell_worldAfter, if_neg fun hc => hgoes hc.2]
    exact .inl rfl

/-- If the change leaves something to work on, or no id has a second turn, every id that is reported
is left alone. -/
theorem cell_of_mem_failures_once (hmem : uid ∈ Batch.failures (ch.perform (Memory.backing h)) l w)
    (hturns : l.Nodup ∨ ∀ e, ch.applies (ch.apply e) = true) :
    (Batch.worldAfter (ch.perform (Memory.backing h)) l w).uidOwner.cell uid
      = w.uidOwner.cell uid := by
  refine (cell_of_mem_failures h ch hmem).resolve_right ?_
  rintro ⟨hcount, -, happlies⟩
  rcases hturns with hnodup | hagain
  · exact absurd hcount (Nat.not_lt.2 (List.nodup_iff_count.1 hnodup uid))
  · rw [hagain] at happlies
    cases happlies

/-- **An id with a turn that a batch does not report** has the changed entry: none of its turns has
failed, and all of them make the same change. -/
theorem cell_of_not_mem_failures (hmem : uid ∈ l)
    (hfailed : uid ∉ Batch.failures (ch.perform (Memory.backing h)) l w) :
    (Batch.worldAfter (ch.perform (Memory.backing h)) l w).uidOwner.cell uid
      = (ch.apply (w.uidOwner.visible? uid), false) := by
  have hgoes : ch.GoesThrough uid w := Decidable.of_not_not fun hgoes =>
    hfailed ((mem_failures_iff h ch l w uid).2 ⟨hmem, .inl hgoes⟩)
  rw [cell_worldAfter, if_pos ⟨hmem, hgoes⟩]

end Batch

end RuleChange

/-! ## The four batches -/

/-- The rule entry that is stored for an id. -/
def Memory.World.ruleEntry (w : World) (uid : Uid) : Option OwnerEntry :=
  w.uidOwner.content.get? uid

/-- The permission entry that is stored for the application of an id. -/
def Memory.World.maskEntry (w : World) (uid : Uid) : Option UInt8 :=
  w.uidPermission.content.get? uid.appId

/-- An id is listed more than once, and its entry had no match but the interface match and is
gone. -/
def Dropped (uids : List Uid) (w w' : World) (uid : Uid) : Prop :=
  1 < uids.count uid ∧ (∃ x, w.ruleEntry uid = some x ∧ ruleWord (some x) \ .iif = .empty) ∧
    w'.ruleEntry uid = none

/-- Whatever a batch over a list of ids answers is true of them. If it does not answer, nothing is
said. -/
structure BatchesReport (s : Setting) (w : World) (uids : List Uid) : Prop where
  /-- Who is not reported is restricted to the interface. -/
  restrict : ∀ name outcome, Answers (Firewall.addInterfaceRules s.backing name uids) w outcome →
    let w' := ((Firewall.addInterfaceRules s.backing name uids).run w).world
    ∃ index, s.host.restriction name = some index ∧
      Truthful outcome uids (fun uid => w'.ruleEntry uid = w.ruleEntry uid)
        fun uid => (ruleWord (w'.ruleEntry uid)).contains .iif = true ∧
          ifIndex (w'.ruleEntry uid) = index
  /-- Who is not reported is not restricted. -/
  lift : ∀ outcome, Answers (Firewall.removeInterfaceRules s.backing uids) w outcome →
    let w' := ((Firewall.removeInterfaceRules s.backing uids).run w).world
    Truthful outcome uids
      (fun uid => w'.ruleEntry uid = w.ruleEntry uid ∨ Dropped uids w w' uid)
      fun uid => (ruleWord (w'.ruleEntry uid)).contains .iif = false ∧
        ifIndex (w'.ruleEntry uid) = 0
  /-- Who is not reported has what the mask leaves. -/
  permit : ∀ mask outcome, Answers (Permissions.setAll s.backing mask uids) w outcome →
    let w' := ((Permissions.setAll s.backing mask uids).run w).world
    Truthful outcome uids (fun uid => w'.maskEntry uid = w.maskEntry uid)
      fun uid => w'.maskEntry uid = Permission.entryOf mask
  /-- Of the stale and the listed ids, who is not reported is a member iff it is listed. -/
  replace : ∀ (c : Chain) outcome, Answers (Firewall.replaceChain s.backing c uids) w outcome →
    let w' := ((Firewall.replaceChain s.backing c uids).run w).world
    ∃ walk, Answers s.backing.uidOwner.entries w walk ∧
      Truthful outcome (c.staleOn walk uids ++ uids)
        (fun uid => w'.ruleEntry uid = w.ruleEntry uid)
        fun uid => (ruleWord (w'.ruleEntry uid)).contains c.bit = true ↔ uid ∈ uids

section Reports

variable {s : Setting} {w : World} {uids : List Uid} {outcome : BatchOutcome}

theorem Batch.Does.of_answers {x : Op World BatchOutcome} {step : Uid → Op World Unit}
    (hx : Batch.Does x step uids w) (ho : Answers x w outcome) :
    outcome.failed = Batch.failures step uids w ∧
      (x.run w).world = Batch.worldAfter step uids w := by
  obtain ⟨outcome', log, hrun, hfailed, -⟩ := hx
  rw [Answers, hrun] at ho
  cases ho
  exact ⟨hfailed, by rw [hrun]⟩

/-- What a batch of one change says. -/
theorem RuleChange.truthful (s : Setting) (ch : RuleChange) {x : Op World BatchOutcome}
    (hx : Batch.Does x (ch.perform (Memory.backing s.host)) uids w) (ho : Answers x w outcome) :
    Truthful outcome uids
      (fun uid => (x.run w).world.ruleEntry uid = w.ruleEntry uid ∨
        (1 < uids.count uid ∧ ch.applies (w.uidOwner.visible? uid) = true ∧
            ch.applies (ch.apply (w.uidOwner.visible? uid)) = false) ∧
          (x.run w).world.ruleEntry uid = ch.apply (w.uidOwner.visible? uid))
      fun uid => (x.run w).world.ruleEntry uid = ch.apply (w.uidOwner.visible? uid) := by
  obtain ⟨hfailed, hworld⟩ := hx.of_answers ho
  rw [hworld]
  refine ⟨fun uid hu => ?_, fun uid hu hnot => ?_⟩
  · rw [hfailed] at hu
    rcases cell_of_mem_failures s.host ch hu with hsame | ⟨hcount, hgoes, happlies⟩
    · exact .inl (congrArg Prod.fst hsame)
    · have hcell := cell_worldAfter s.host ch uids w uid
      rw [if_pos ⟨List.count_pos_iff.1 (Nat.zero_lt_of_lt hcount), hgoes⟩] at hcell
      exact .inr ⟨⟨hcount, hgoes.2.2, happlies⟩, congrArg Prod.fst hcell⟩
  · rw [hfailed] at hnot
    exact congrArg Prod.fst (cell_of_not_mem_failures s.host ch hu hnot)

theorem open_of_answers {α : Type} {b : Backing World} {l : Lock} {f : Unit → Op World α} {a : α}
    (ha : Answers (b.acquire l >>= f) w a) : b.poisoned l = false := by
  cases hlock : b.poisoned l with
  | false => rfl
  | true =>
    rw [Answers, Backing.run_acquire_poisoned hlock] at ha
    cases ha

theorem restriction_of_answers {name : Option String} {index : UInt32}
    (ha : Answers (Firewall.restrictionIndex s.backing name) w index) :
    s.host.restriction name = some index := by
  cases name with
  | none =>
    cases ha
    rfl
  | some name =>
    obtain ⟨found, hfound, ha⟩ := Act.of_run_bind_ok ha
    cases hfound
    show s.host.indexOf name = some index
    cases hname : s.host.indexOf name with
    | none =>
      rw [hname] at ha
      cases ha
    | some i =>
      rw [hname] at ha
      cases ha
      rfl

/-- What a batch of updates with one mask says. An id is refused for its application, and so at
every turn or at none. -/
theorem Permissions.truthful {mask : UInt8} {x : Op World BatchOutcome}
    (hx : Batch.Does x (setLocked s.backing mask) uids w) (ho : Answers x w outcome) :
    Truthful outcome uids (fun uid => (x.run w).world.maskEntry uid = w.maskEntry uid)
      fun uid => (x.run w).world.maskEntry uid = Permission.entryOf mask := by
  obtain ⟨hfailed, hworld⟩ := hx.of_answers ho
  obtain ⟨hfailures, hentries⟩ := worldAfter_setLocked s mask uids w
  rw [hfailures] at hfailed
  have hentry : ∀ uid, (x.run w).world.maskEntry uid
      = settledEntry uid.appId (accepted mask w.uidPermission uids) (w.maskEntry uid) := by
    intro uid
    rw [hworld]
    exact hentries uid.appId
  refine ⟨fun uid hu => ?_, fun uid hu hnot => ?_⟩
  -- whether an id is refused does not change from turn to turn, so a failed id never had its mask
  -- stored
  · rw [hfailed] at hu
    rw [hentry, settledEntry_refused (List.mem_filter.1 hu).2]
  · have haccept : w.uidPermission.refuses uid.appId = false := by
      rw [← Bool.not_eq_true]
      intro hrefuse
      rw [hfailed] at hnot
      exact hnot (List.mem_filter.2 ⟨hu, hrefuse⟩)
    rw [hentry, settledEntry_accepted hu haccept]

/-- What a batch of revocations for some ids and one of grants for others say together. -/
theorem Firewall.replace_truthful (c : Chain) {stale : List Uid} {w' : World} (hnodup : stale.Nodup)
    (hstale : ∀ uid ∈ stale, uid ∉ uids)
    (hfailed : outcome.failed = Batch.failures (removeLocked s.backing c.bit) stale w
      ++ Batch.failures (addLocked s.backing c.bit 0) uids
        (Batch.worldAfter (removeLocked s.backing c.bit) stale w))
    (hworld : w' = Batch.worldAfter (addLocked s.backing c.bit 0) uids
      (Batch.worldAfter (removeLocked s.backing c.bit) stale w)) :
    Truthful outcome (stale ++ uids) (fun uid => w'.ruleEntry uid = w.ruleEntry uid)
      fun uid => (ruleWord (w'.ruleEntry uid)).contains c.bit = true ↔ uid ∈ uids := by
  -- no id is in both lists, so each of them keeps in one batch what it has from the other
  let revoked := Batch.worldAfter (removeLocked s.backing c.bit) stale w
  have hrevoked : ∀ uid, uid ∉ stale → revoked.uidOwner.cell uid = w.uidOwner.cell uid :=
    fun uid hu => RuleChange.cell_of_not_mem s.host (.revoke c.bit) hu
  have hgranted : ∀ uid, uid ∉ uids → w'.uidOwner.cell uid = revoked.uidOwner.cell uid := by
    intro uid hu
    rw [hworld]
    exact RuleChange.cell_of_not_mem s.host (.grant c.bit 0) hu
  have hlisted : ∀ uid ∈ uids, uid ∉ stale := fun uid hu hs => hstale uid hs hu
  refine ⟨fun uid hu => ?_, fun uid hu hnot => ?_⟩
  · rw [hfailed] at hu
    rcases List.mem_append.1 hu with hu | hu
    · have hmem := ((RuleChange.mem_failures_iff s.host (.revoke c.bit) stale w uid).1 hu).1
      -- a stale id has one turn only, so a failure is the whole of what happened to it
      have hkept := RuleChange.cell_of_mem_failures_once s.host (.revoke c.bit) hu
        (.inl hnodup)
      exact congrArg Prod.fst ((hgranted uid (hstale uid hmem)).trans hkept)
    · have hmem := ((RuleChange.mem_failures_iff s.host (.grant c.bit 0) uids revoked uid).1 hu).1
      have hkept := RuleChange.cell_of_mem_failures_once s.host (.grant c.bit 0) hu
        -- a listed id may have several turns, but a grant never drops an entry between them
        (.inr fun _ => rfl)
      rw [hworld]
      exact congrArg Prod.fst (hkept.trans (hrevoked uid (hlisted uid hmem)))
  · rw [hfailed, List.mem_append, not_or] at hnot
    rcases List.mem_append.1 hu with hu | hu
    · have hdone := RuleChange.cell_of_not_mem_failures s.host (.revoke c.bit) hu
        hnot.1
      have hentry : w'.ruleEntry uid = (RuleChange.revoke c.bit).apply (w.uidOwner.visible? uid) :=
        congrArg Prod.fst ((hgranted uid (hstale uid hu)).trans hdone)
      rw [hentry, RuleChange.ruleWord_revoke, c.contains_bit, MatchSet.has_diff, c.has_bit]
      simp [hstale uid hu]
    · have hdone := RuleChange.cell_of_not_mem_failures s.host (.grant c.bit 0) hu
        hnot.2
      have hentry : w'.ruleEntry uid
          = (RuleChange.grant c.bit 0).apply (revoked.uidOwner.visible? uid) := by
        rw [hworld]
        exact congrArg Prod.fst hdone
      rw [hentry, RuleChange.ruleWord_grant, c.contains_bit, MatchSet.has_union, c.has_bit]
      simp [hu]

end Reports

/-- **What a batch answers is true**: an id that it reports was left alone, unless its entry was
dropped at its first turn, and an id that it does not report is as it was to be. -/
theorem batches_report (s : Setting) (w : World) (uids : List Uid) : BatchesReport s w uids where
  restrict name outcome ho := by
    intro w'
    obtain ⟨index, hindex, hrest⟩ := Act.of_run_bind_ok ho
    refine ⟨index, restriction_of_answers hindex, ?_⟩
    have htruthful := RuleChange.truthful s (.grant .iif index)
      (Firewall.does_addInterfaceRules (open_of_answers hrest)
        ((Firewall.still_restrictionIndex s.orderly name).run_eq hindex) uids) ho
    refine htruthful.imp (fun uid hkept => ?_) fun uid hdone => ?_
    · -- a grant always leaves something to work on
      exact hkept.resolve_right fun hc => Bool.noConfusion hc.1.2.2
    · rw [hdone, RuleChange.ruleWord_grant, RuleChange.ifIndex_grant, if_pos rfl,
        MatchSet.contains_iif, MatchSet.has_union]
      exact ⟨Bool.or_true _, rfl⟩
  lift outcome ho := by
    intro w'
    have htruthful := RuleChange.truthful s (.revoke .iif)
      (Firewall.does_removeInterfaceRules (open_of_answers ho) uids w) ho
    refine htruthful.imp (fun uid hkept => hkept.imp_right ?_) fun uid hdone => ?_
    -- an id with several turns fails at a later one only if the first has dropped its entry
    · rintro ⟨⟨hcount, hstart, hend⟩, hentry⟩
      have hgone := Option.isNone_iff_eq_none.1 (Option.isSome_eq_false_iff.1 hend)
      obtain ⟨x, hx⟩ := Option.isSome_iff_exists.1 hstart
      have hword := RuleChange.revoke_eq_none_iff.1 hgone
      rw [hx] at hword
      exact ⟨hcount, ⟨x, Store.get?_of_visible? hx, hword⟩, hentry.trans hgone⟩
    · rw [hdone, RuleChange.ruleWord_revoke, RuleChange.ifIndex_revoke_iif,
        MatchSet.contains_iif, MatchSet.has_diff]
      exact ⟨Bool.and_false _, rfl⟩
  permit mask outcome ho := by
    intro w'
    exact Permissions.truthful (Permissions.does_setAll (open_of_answers ho) mask uids) ho
  replace c outcome ho := by
    intro w'
    have hopen : s.backing.poisoned .uidOwner = false := open_of_answers ho
    obtain ⟨_, -, hrest⟩ := Act.of_run_bind_ok ho
    obtain ⟨walk, hwalk, -⟩ := Act.of_run_bind_ok hrest
    rw [s.backing.still_acquire .uidOwner w] at hwalk
    refine ⟨walk, hwalk, ?_⟩
    obtain ⟨outcome', log, hrun, hfailed, -⟩ :=
      Firewall.run_replaceChain_of_walk hopen c
        (s.orderly.uidOwner.still_entries.run_eq hwalk) uids
    -- the walk that was looked at is the one that the operation made, for it has changed nothing
    -- before
    obtain rfl : outcome' = outcome := by
      rw [Answers, hrun] at ho
      exact Except.ok.inj ho
    exact Firewall.replace_truthful c (nodup_staleUids _ _ _)
      (fun uid hu => (mem_staleUids.1 hu).2) hfailed (congrArg Outcome.world hrun)

/-- The interface match and nothing else. -/
def interfaceOnlyWorld : World :=
  { World.empty with
    uidOwner := { World.empty.uidOwner with content := .ofList [(10001, ⟨3, 0, 0x80⟩)] } }

/-- The first turn takes the entry away and the second finds none. So the id is reported, and was
not left alone. -/
theorem interfaceOnlyWorld_lifted_twice :
    let x := Firewall.removeInterfaceRules (Memory.backing ⟨[("wlan0", 3)], none⟩) [10001, 10001]
    Answers x interfaceOnlyWorld ⟨1, [10001]⟩ ∧
      ¬∀ outcome, Answers x interfaceOnlyWorld outcome → ∀ uid ∈ outcome.failed,
        (x.run interfaceOnlyWorld).world.ruleEntry uid = interfaceOnlyWorld.ruleEntry uid := by
  intro x
  have hanswer : Answers x interfaceOnlyWorld ⟨1, [10001]⟩ := rfl
  refine ⟨hanswer, fun hkept => ?_⟩
  have hgone : (x.run interfaceOnlyWorld).world.ruleEntry 10001 = none := rfl
  have hentry : interfaceOnlyWorld.ruleEntry 10001 = some ⟨3, 0, 0x80⟩ := rfl
  have hsame := hkept _ hanswer 10001 (List.mem_singleton.2 rfl)
  rw [hgone, hentry] at hsame
  cases hsame

end UidPolicy
