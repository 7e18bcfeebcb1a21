import UidPolicy.Proofs.Firewall.Change
import UidPolicy.Proofs.Rule.Stale

/-!
# Replacing the members of a chain

A replacement walks over the records, takes the chain's match from every member that is not
listed, and gives it to every id that is listed.

- `Chain.staleOn`, `staleAlong`: the members along a walk that are not listed, each once.
- `run_replaceChain_of_walk`: a replacement is two batches, on any maps.
- `run_replaceChain`: the run is a batch of revocations followed by a batch of grants, and it
  always answers when reads do not fail.
- `visible?_replaceChain`: what is seen of one id afterwards.
- `Replaced`: the exact effect of a replacement under write failures;
  `replaceChain_replaced` is that every replacement has it.

A revocation could fail for want of an entry. It never does here: the stale ids come from a walk
over live entries, and no id is among them twice.
-/

namespace UidPolicy

open Memory (World)

/-- The members of a chain along a walk that are not listed, each once. It is computed from what the
walk has shown, before anything is written. -/
def Chain.staleOn (c : Chain) (walk : List (Uid × OwnerEntry)) (uids : List Uid) : List Uid :=
  staleUids (walk.map fun e => (e.1, (OwnerRecord.ofEntry e.2).rule)) c.bit uids

namespace Firewall

/-- The members of a chain along the walk that are not listed, each once, in the order in which
they are first seen. -/
def staleAlong (s : Store Uid OwnerEntry) (c : Chain) (uids : List Uid) : List Uid :=
  ((s.walk s.content.keys).filter fun u =>
    (ruleWord (s.visible? u)).contains c.bit && !uids.contains u).eraseDups

theorem mem_staleAlong {s : Store Uid OwnerEntry} {c : Chain} {uids : List Uid} {u : Uid} :
    u ∈ staleAlong s c uids ↔ u ∈ s.walk s.content.keys ∧
      (ruleWord (s.visible? u)).contains c.bit = true ∧ u ∉ uids := by
  rw [staleAlong, List.mem_eraseDups, List.mem_filter, Bool.and_eq_true]
  simp

/-- Who is neither listed nor stale does not have the match: a member would be on the walk. This is
where it matters that the walk shows every key at least once. -/
theorem has_of_not_stale {s : Store Uid OwnerEntry} {c : Chain} {uids : List Uid} {u : Uid}
    (hwalk : s.WalkCovers) (hlisted : u ∉ uids) (hstale : u ∉ staleAlong s c uids) :
    (ruleWord (s.visible? u)).has c.position = false := by
  rw [← c.contains_bit, ← Bool.not_eq_true]
  intro hhas
  exact hstale (mem_staleAlong.2 ⟨hwalk u (isSome_of_contains hhas), hhas, hlisted⟩)

theorem map_filter_live (s : Store Uid OwnerEntry) (c : Chain) (uids ks : List Uid) :
    (((s.live ks).map fun e => (e.1, (OwnerRecord.ofEntry e.2).rule)).filter
        fun e => e.2.contains c.bit && !uids.contains e.1).map (·.1)
      = ks.filter fun u =>
          (ruleWord (s.visible? u)).contains c.bit && !uids.contains u := by
  induction ks with
  | nil => rfl
  | cons k ks ih =>
    -- a key without an entry is left out on the one side, and has no match on the other
    cases hv : s.visible? k with
    | none =>
      have hout : ¬ ((ruleWord (s.visible? k)).contains c.bit && !uids.contains k) = true := by
        rw [hv, contains_ruleWord_none, Bool.false_and]
        exact Bool.false_ne_true
      have hlive : s.live (k :: ks) = s.live ks := by
        simp only [Store.live, List.filterMap_cons, hv, Option.map_none]
      rw [hlive, ih, List.filter_cons, if_neg hout]
    | some x =>
      have hlive : s.live (k :: ks) = (k, x) :: s.live ks := by
        simp only [Store.live, List.filterMap_cons, hv, Option.map_some]
      have hword : (OwnerRecord.ofEntry x).rule = ruleWord (s.visible? k) := by
        rw [hv]
        rfl
      rw [hlive, List.map_cons, List.filter_cons, List.filter_cons]
      dsimp only
      rw [hword]
      by_cases hin : ((ruleWord (s.visible? k)).contains c.bit && !uids.contains k) = true
      · rw [if_pos hin, if_pos hin, List.map_cons, ih]
      · rw [if_neg hin, if_neg hin, ih]

/-- The stale ids of the walk's live entries are the stale ids along the walk. -/
theorem staleOn_seen (s : Store Uid OwnerEntry) (c : Chain) (uids : List Uid) :
    c.staleOn s.seen uids = staleAlong s c uids := by
  rw [Chain.staleOn, staleUids_eq, Store.seen, map_filter_live]
  rfl

theorem nodup_staleAlong (s : Store Uid OwnerEntry) (c : Chain) (uids : List Uid) :
    (staleAlong s c uids).Nodup := by
  rw [← staleOn_seen]
  exact nodup_staleUids _ _ _

/-! ## The run -/

/-- A replacement gives the stale ids along the walk their turns, and then the listed ids theirs. -/
theorem run_replaceChain_of_walk {W : Type} {b : Backing W} {w : W}
    (hopen : b.poisoned .uidOwner = false) (c : Chain) {walk : List (Uid × OwnerEntry)}
    {log : List Log.Event} (hwalk : b.uidOwner.entries.run w = ⟨.ok walk, w, log⟩)
    (uids : List Uid) :
    let stale := c.staleOn walk uids
    let revoked := Batch.worldAfter (removeLocked b c.bit) stale w
    ∃ outcome log, (replaceChain b c uids).run w
        = ⟨.ok outcome, Batch.worldAfter (addLocked b c.bit 0) uids revoked, log⟩ ∧
      outcome.failed = Batch.failures (removeLocked b c.bit) stale w
        ++ Batch.failures (addLocked b c.bit 0) uids revoked ∧
      outcome.applied + outcome.failed.length = stale.length + uids.length := by
  intro stale revoked
  -- the revocations
  obtain ⟨removed, log₁, hrun₁, hfailed₁, haccounted₁⟩ :=
    Batch.run_eq (removeLocked b c.bit)
      (replaceFailure c "replace_chain: failed to remove rule") stale .empty w
  -- the grants
  obtain ⟨outcome, log₂, hrun₂, hfailed₂, haccounted₂⟩ :=
    Batch.run_eq (addLocked b c.bit 0) (replaceFailure c "replace_chain: failed to add rule")
      uids removed revoked
  -- the walk before them and the log around them
  have hrun : ∃ log, (replaceChain b c uids).run w
      = ⟨.ok outcome, Batch.worldAfter (addLocked b c.bit 0) uids revoked, log⟩ := by
    rw [replaceChain, Backing.acquire_of_not_poisoned hopen, pure_bind, Act.run_bind_ok hwalk]
    dsimp only
    rw [← Chain.staleOn, Act.run_bind_ok hrun₁, Act.run_bind_ok hrun₂]
    exact ⟨_, rfl⟩
  obtain ⟨log, hrun⟩ := hrun
  have hstart : BatchOutcome.empty.failed = [] ∧ BatchOutcome.empty.applied = 0 := ⟨rfl, rfl⟩
  rw [hstart.1, List.nil_append] at hfailed₁
  refine ⟨outcome, log, hrun, by rw [hfailed₂, hfailed₁], ?_⟩
  rw [hfailed₂, hfailed₁, List.length_append]
  omega

section Run

variable (h : Memory.Host) {w : World} (c : Chain) (uids : List Uid)

/-- The world after the revocations of a replacement. They come first, and the walk is over by
then. -/
def afterRevocations (w : World) : World :=
  Batch.worldAfter ((RuleChange.revoke c.bit).perform (Memory.backing h))
    (staleAlong w.uidOwner c uids) w

/-- The world after a replacement. -/
def afterReplacement (w : World) : World :=
  Batch.worldAfter ((RuleChange.grant c.bit 0).perform (Memory.backing h)) uids
    (afterRevocations h c uids w)

theorem written_afterRevocations (w : World) :
    w.uidOwner.Written (afterRevocations h c uids w).uidOwner :=
  RuleChange.written_worldAfter h _ _ w

theorem written_afterReplacement (w : World) :
    w.uidOwner.Written (afterReplacement h c uids w).uidOwner :=
  (written_afterRevocations h c uids w).trans (RuleChange.written_worldAfter h _ _ _)

/-- **A replacement always answers** when reads do not fail. It reports the ids whose writes
fail, stale ones first, and accounts for every stale and every listed id. -/
theorem run_replaceChain (hread : w.uidOwner.readErrno = none) :
    ∃ outcome log, (replaceChain (Memory.backing h) c uids).run w
        = ⟨.ok outcome, afterReplacement h c uids w, log⟩ ∧
      outcome.failed = (staleAlong w.uidOwner c uids ++ uids).filter w.uidOwner.refuses ∧
      outcome.applied + outcome.failed.length
        = (staleAlong w.uidOwner c uids).length + uids.length := by
  have hwritten := written_afterRevocations h c uids w
  have hentries : (Memory.backing h).uidOwner.entries.run w = ⟨.ok w.uidOwner.seen, w, []⟩ :=
    Store.run_entries_zoom World.uidOwnerPart hread
  obtain ⟨outcome, log, hrun, hfailed, haccounted⟩ :=
    run_replaceChain_of_walk (b := Memory.backing h) rfl c hentries uids
  rw [staleOn_seen] at hrun hfailed haccounted
  -- a stale id has an entry, so its revocation has something to work on
  have hpresent : ∀ u ∈ staleAlong w.uidOwner c uids,
      (w.uidOwner.visible? u).isSome = true := by
    intro u hu
    obtain ⟨-, hmember, -⟩ := mem_staleAlong.1 hu
    exact isSome_of_contains hmember
  have hrevoked := RuleChange.failures_perform h (.revoke c.bit) hread
    (.inl (nodup_staleAlong _ c uids)) hpresent
  have hgranted := RuleChange.failures_perform h (.grant c.bit 0) (l := uids)
    (hwritten.readErrno_eq.trans hread) (.inr fun _ => rfl) fun _ _ => rfl
  rw [funext hwritten.refuses_eq] at hgranted
  refine ⟨outcome, log, hrun, ?_, haccounted⟩
  rw [List.filter_append, ← hrevoked, ← hgranted]
  exact hfailed

/-- What is seen of one id after a replacement, unless its writes fail: the match is given to
it, or taken from it, or nothing happened. -/
theorem visible?_afterReplacement (hread : w.uidOwner.readErrno = none) {u : Uid}
    (haccept : w.uidOwner.refuses u = false) :
    (afterReplacement h c uids w).uidOwner.visible? u
      = if u ∈ uids then (RuleChange.grant c.bit 0).apply (w.uidOwner.visible? u)
        else if u ∈ staleAlong w.uidOwner c uids then
          (RuleChange.revoke c.bit).apply (w.uidOwner.visible? u)
        else w.uidOwner.visible? u := by
  have hwritten := written_afterRevocations h c uids w
  have hrevoked : (afterRevocations h c uids w).uidOwner.visible? u
      = if u ∈ staleAlong w.uidOwner c uids then
          (RuleChange.revoke c.bit).apply (w.uidOwner.visible? u)
        else w.uidOwner.visible? u := by
    rw [afterRevocations, RuleChange.visible?_worldAfter h _ hread]
    simp only [haccept, and_true]
  rw [afterReplacement,
    RuleChange.visible?_worldAfter h _ (hwritten.readErrno_eq.trans hread),
    hwritten.refuses_eq, haccept, hrevoked]
  -- a listed id is never stale, so what is granted to it was not revoked before
  by_cases hlisted : u ∈ uids
  · have hkept : u ∉ staleAlong w.uidOwner c uids := fun hu => (mem_staleAlong.1 hu).2.2 hlisted
    rw [if_pos ⟨hlisted, rfl⟩, if_pos hlisted, if_neg hkept]
  · rw [if_neg fun hc => hlisted hc.1, if_neg hlisted]

end Run

/-! ## The effect -/

/-- No stored entry has an empty rule word, as the map is meant to hold an entry only while there is
some match. -/
def NoEmptyWords (s : Store Uid OwnerEntry) : Prop :=
  ∀ u e, s.content.get? u = some e → ruleWord (some e) ≠ .empty

/-- The exact effect of a replacement of the members of a chain, from one store to another. Ids
whose writes fail are told apart from the others: the rest of the batch goes on without them. -/
structure Replaced (c : Chain) (uids : List Uid) (s s' : Store Uid OwnerEntry)
    (outcome : BatchOutcome) : Prop where
  /-- The listed ids are the members. -/
  member : ∀ u, s.refuses u = false →
    ((ruleWord (s'.visible? u)).contains c.bit = true ↔ u ∈ uids)
  /-- Every other bit of a word is as before, known or not: a word may hold bits that this program
  has no name for. -/
  others : ∀ u, s.refuses u = false → ∀ i, i ≠ c.position →
    (ruleWord (s'.visible? u)).has i = (ruleWord (s.visible? u)).has i
  /-- An entry has the index it had, or zero if it is new. -/
  index : ∀ u x, s.refuses u = false → s'.visible? u = some x →
    x.iif = ifIndex (s.visible? u)
  /-- There is no entry exactly where no match is left. -/
  absent : ∀ u, s.refuses u = false →
    (s'.visible? u = none ↔ ruleWord (s'.visible? u) = .empty)
  /-- Where writes fail, nothing happened. -/
  refused : ∀ u, s.refuses u = true →
    s'.content.get? u = s.content.get? u ∧ s'.visible? u = s.visible? u
  /-- The ids whose writes fail are reported, in the order in which they were tried, once for each
  time. -/
  failed : outcome.failed = (staleAlong s c uids ++ uids).filter s.refuses
  /-- Every stale and every listed id is applied or failed. -/
  accounted :
    outcome.applied + outcome.failed.length = (staleAlong s c uids).length + uids.length

section Effect

variable (h : Memory.Host) {w : World} (c : Chain) (uids : List Uid)

theorem ruleWord_afterReplacement (hread : w.uidOwner.readErrno = none)
    (hwalk : w.uidOwner.WalkCovers) {u : Uid} (haccept : w.uidOwner.refuses u = false) :
    ruleWord ((afterReplacement h c uids w).uidOwner.visible? u)
      = if u ∈ uids then ruleWord (w.uidOwner.visible? u) ∪ c.bit
        else ruleWord (w.uidOwner.visible? u) \ c.bit := by
  rw [visible?_afterReplacement h c uids hread haccept]
  by_cases hlisted : u ∈ uids
  · rw [if_pos hlisted, if_pos hlisted, RuleChange.ruleWord_grant]
  · rw [if_neg hlisted, if_neg hlisted]
    by_cases hstale : u ∈ staleAlong w.uidOwner c uids
    · rw [if_pos hstale, RuleChange.ruleWord_revoke]
    · rw [if_neg hstale]
      exact (c.diff_bit (has_of_not_stale hwalk hlisted hstale)).symm

theorem index_afterReplacement (hread : w.uidOwner.readErrno = none) {u : Uid} {x : OwnerEntry}
    (haccept : w.uidOwner.refuses u = false)
    (hx : (afterReplacement h c uids w).uidOwner.visible? u = some x) :
    x.iif = ifIndex (w.uidOwner.visible? u) := by
  rw [visible?_afterReplacement h c uids hread haccept] at hx
  have hindex : ifIndex (some x) = x.iif := rfl
  rw [← hindex, ← hx]
  split
  · rw [RuleChange.ifIndex_grant, if_neg c.bit_ne_iif]
  · split
    · next hstale =>
      rw [if_neg ‹_›, if_pos hstale] at hx
      -- there is an entry, so the revocation has left some match, and with it the index
      have hleft : ruleWord (w.uidOwner.visible? u) \ c.bit ≠ .empty := by
        intro hempty
        rw [RuleChange.revoke_eq_none_iff.2 hempty] at hx
        cases hx
      rw [RuleChange.ifIndex_revoke hleft, if_neg c.bit_ne_iif]
    · rfl

theorem absent_afterReplacement (hread : w.uidOwner.readErrno = none)
    (hwords : NoEmptyWords w.uidOwner) {u : Uid} (haccept : w.uidOwner.refuses u = false) :
    (afterReplacement h c uids w).uidOwner.visible? u = none ↔
      ruleWord ((afterReplacement h c uids w).uidOwner.visible? u) = .empty := by
  constructor
  · intro hnone
    rw [hnone]
    rfl
  · intro hempty
    rw [visible?_afterReplacement h c uids hread haccept] at hempty ⊢
    split at hempty
    · -- a granted word has the chain's bit
      rw [RuleChange.ruleWord_grant] at hempty
      have hbit : (ruleWord (w.uidOwner.visible? u) ∪ c.bit).has c.position = true := by
        rw [MatchSet.has_union, c.has_bit, decide_eq_true rfl, Bool.or_true]
      rw [hempty, MatchSet.has_empty] at hbit
      cases hbit
    · split at hempty
      · next hlisted hstale =>
        rw [RuleChange.ruleWord_revoke] at hempty
        rw [if_neg hlisted, if_pos hstale, RuleChange.revoke_eq_none_iff.2 hempty]
      · next hlisted hstale =>
        rw [if_neg hlisted, if_neg hstale]
        cases hv : w.uidOwner.visible? u with
        | none => rfl
        | some x =>
          rw [hv] at hempty
          exact absurd hempty (hwords u x (Store.get?_of_visible? hv))

/-- **A replacement makes the listed ids the exact members of the chain**, and changes nothing
else, whichever writes fail and however the walk lists the entries. -/
theorem replaceChain_replaced (hread : w.uidOwner.readErrno = none)
    (hwords : NoEmptyWords w.uidOwner) (hwalk : w.uidOwner.WalkCovers) :
    ∃ outcome, ((replaceChain (Memory.backing h) c uids).run w).result = .ok outcome ∧
      Replaced c uids w.uidOwner
        ((replaceChain (Memory.backing h) c uids).run w).world.uidOwner outcome := by
  obtain ⟨outcome, log, hrun, hfailed, haccounted⟩ := run_replaceChain h c uids hread
  have hwritten := written_afterReplacement h c uids w
  rw [hrun]
  -- all but two of the fields are about one id and known; these two are about positions of its word
  refine ⟨outcome, rfl, ?_⟩
  refine
    { member := fun u haccept => ?_
      others := fun u haccept i hi => ?_
      index := fun u x haccept => index_afterReplacement h c uids hread haccept
      absent := fun u haccept => absent_afterReplacement h c uids hread hwords haccept
      refused := fun u hrefuse =>
        ⟨hwritten.get?_of_refuses hrefuse, hwritten.visible?_of_refuses hrefuse⟩
      failed := hfailed
      accounted := haccounted }
  · show (ruleWord ((afterReplacement h c uids w).uidOwner.visible? u)).contains c.bit = true ↔ _
    rw [c.contains_bit, ruleWord_afterReplacement h c uids hread hwalk haccept]
    by_cases hlisted : u ∈ uids
    · simp [hlisted, c.has_bit]
    · simp [hlisted, c.has_bit]
  · show (ruleWord ((afterReplacement h c uids w).uidOwner.visible? u)).has i = _
    rw [ruleWord_afterReplacement h c uids hread hwalk haccept]
    have hbit : c.bit.has i = false := by
      rw [c.has_bit, decide_eq_false (Ne.symm hi)]
    split
    · rw [MatchSet.has_union, hbit, Bool.or_false]
    · rw [MatchSet.has_diff, hbit, Bool.not_false, Bool.and_true]

end Effect

/-- Five entries: a member with an index and an unknown bit, a member and nothing else, a member
whose writes fail, a member that has vanished, and no member. The walk is backwards and
lists everything twice. -/
def assortedWorld : World :=
  { World.empty with
    uidOwner := { World.empty.uidOwner with
      content := .ofList [(10001, ⟨7, 3, 0x10000000084⟩), (10002, ⟨0, 0, 0x4⟩),
        (10003, ⟨0, 0, 0x6⟩), (10004, ⟨0, 0, 0x4⟩), (10005, ⟨0, 0, 0x8⟩)]
      vanished := fun u => u == 10004
      failing := fun u => u == 10003
      walk := fun ks => ks.reverse ++ ks } }

/-- A replacement under a failing write, along a walk that repeats itself. -/
theorem assortedWorld_replaced :
    (assortedWorld.uidOwner.readErrno = none ∧ NoEmptyWords assortedWorld.uidOwner ∧
        assortedWorld.uidOwner.WalkCovers) ∧
      ∃ outcome, ((replaceChain (Memory.backing ⟨[], none⟩) .dozable [10006, 10001, 10006]).run
          assortedWorld).result = .ok outcome ∧
        Replaced .dozable [10006, 10001, 10006] assortedWorld.uidOwner
          ((replaceChain (Memory.backing ⟨[], none⟩) .dozable [10006, 10001, 10006]).run
            assortedWorld).world.uidOwner outcome := by
  have hwords : NoEmptyWords assortedWorld.uidOwner := by
    intro u e he
    have hall : ∀ p ∈ assortedWorld.uidOwner.content.toList,
        ruleWord (some p.2) ≠ .empty := by decide
    exact hall (u, e) (SortedMap.mem_toList.2 he)
  have hwalk : assortedWorld.uidOwner.WalkCovers := by
    intro u hu
    obtain ⟨x, hx⟩ := Option.isSome_iff_exists.1 hu
    have hkey : u ∈ assortedWorld.uidOwner.content.keys :=
      SortedMap.mem_keys.2 (by rw [Store.get?_of_visible? hx]; rfl)
    exact List.mem_append_right _ hkey
  exact ⟨⟨rfl, hwords, hwalk⟩, replaceChain_replaced ⟨[], none⟩ .dozable _ rfl hwords hwalk⟩

end Firewall

end UidPolicy
