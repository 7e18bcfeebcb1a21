import UidPolicy.Proofs.Firewall.Verdict

/-!
# The members of a chain

The holders of a chain's match are collected along a walk, which may have any order, repeat ids and
list ids whose entry is gone when it is read.

- `mem_ascending`, `ascending_sorted`, `ascending_congr`: the members of a list in ascending order,
  each once.
- `members`: the ids of a chain as they are answered. `mem_members_iff`: they are the ids whose
  entry, as a read finds it, has the match.
- `RefusesPolarity`: a list of the wrong polarity is refused in every world, whatever its locks and
  failures.
- `Enumerates`: the list of a chain and the queries for single ids agree.
- `chain_enumerated`: they do wherever reads do not fail and the walk covers what they find.
-/

namespace UidPolicy

open Memory (World Setting)

/-! ## Ascending lists -/

namespace Firewall

theorem get?_ofList_units (l : List Uid) (uid : Uid) :
    (SortedMap.ofList (l.map fun u => (u, ()))).get? uid = if uid ∈ l then some () else none := by
  have hunit : ∀ e ∈ l.map fun u => (u, ()), e.2 = () := fun _ _ => rfl
  have hkeys : (l.map fun u => (u, ())).map Prod.fst = l := by
    rw [List.map_map]
    exact List.map_id l
  rw [SortedMap.ofList, SortedMap.get?_foldl_insert hunit, hkeys]
  rfl

theorem mem_ascending {l : List Uid} {uid : Uid} : uid ∈ ascending l ↔ uid ∈ l := by
  rw [ascending, SortedMap.mem_keys, get?_ofList_units]
  by_cases hmem : uid ∈ l <;> simp [hmem]

theorem ascending_sorted (l : List Uid) : (ascending l).Pairwise (· < ·) :=
  (SortedMap.keys_sorted _).imp fun h => UInt32.lt_iff_toNat_lt.2 h

/-- Order and repetitions do not matter: the ascending list depends on who is in it only. -/
theorem ascending_congr {l l' : List Uid} (h : ∀ u, u ∈ l ↔ u ∈ l') :
    ascending l = ascending l' := by
  refine congrArg SortedMap.keys (SortedMap.ext_get? fun u => ?_)
  rw [get?_ofList_units, get?_ofList_units]
  simp only [h u]

/-! ## The ids of a chain -/

/-- The ids along the walk whose entry has the chain's match, ascending. The walk may show an id
twice, or one that has vanished since. -/
def members (c : Chain) (s : Store Uid OwnerEntry) : List Uid :=
  ascending ((s.seen.filter fun e => (OwnerRecord.ofEntry e.2).rule.contains c.bit).map (·.1))

/-- What a walk sees, reads find. -/
theorem mem_seen {s : Store Uid OwnerEntry} (hwalk : s.WalkCovers) {uid : Uid} {x : OwnerEntry} :
    (uid, x) ∈ s.seen ↔ s.visible? uid = some x := by
  simp only [Store.seen, Store.live, List.mem_filterMap, Option.map_eq_some_iff, Prod.mk.injEq]
  constructor
  · rintro ⟨_, -, _, hx, rfl, rfl⟩
    exact hx
  · intro hx
    exact ⟨uid, hwalk uid (by rw [hx]; rfl), x, hx, rfl, rfl⟩

/-- **The ids of a chain** are those whose entry, as a read finds it, has the match: the walk shows
every one of them, and whatever else it shows is filtered out. -/
theorem mem_members_iff {s : Store Uid OwnerEntry} (hwalk : s.WalkCovers) {c : Chain} {uid : Uid} :
    uid ∈ members c s ↔ (ruleWord (s.visible? uid)).contains c.bit = true := by
  rw [members, mem_ascending, List.mem_map]
  constructor
  · rintro ⟨⟨_, x⟩, hx, rfl⟩
    obtain ⟨hseen, hbit⟩ := List.mem_filter.1 hx
    rw [(mem_seen hwalk).1 hseen]
    exact hbit
  · intro hbit
    obtain ⟨x, hx⟩ := Option.isSome_iff_exists.1 (isSome_of_contains hbit)
    rw [hx] at hbit
    exact ⟨(uid, x), List.mem_filter.2 ⟨(mem_seen hwalk).2 hx, hbit⟩, rfl⟩

theorem members_congr {s s' : Store Uid OwnerEntry} (hwalk : s.WalkCovers) (hwalk' : s'.WalkCovers)
    (hsame : ∀ uid, s'.visible? uid = s.visible? uid) (c : Chain) :
    members c s' = members c s := by
  refine ascending_congr fun uid => ?_
  rw [← mem_ascending, ← mem_ascending (l := (s.seen.filter _).map _)]
  show uid ∈ members c s' ↔ uid ∈ members c s
  rw [mem_members_iff hwalk, mem_members_iff hwalk', hsame]

section Queries

variable (s : Setting) (c : Chain) {w : World}

theorem run_uidsWithRule (hopen : s.poisoned .uidOwner = false)
    (hread : w.uidOwner.readErrno = none) :
    (uidsWithRule s.backing c).run w = ⟨.ok (members c w.uidOwner), w, []⟩ := by
  have hentries : s.backing.uidOwner.entries.run w = ⟨.ok w.uidOwner.seen, w, []⟩ :=
    Store.run_entries_zoom World.uidOwnerPart hread
  rw [uidsWithRule, Backing.acquire_of_not_poisoned hopen, pure_bind, Act.run_bind_ok hentries]
  rfl

theorem answers_record_iff (hread : w.uidOwner.readErrno = none) (uid : Uid)
    (r : Option OwnerRecord) :
    Answers (record s.backing uid) w r ↔ (w.uidOwner.visible? uid).map OwnerRecord.ofEntry = r :=
  answers_iff (RuleChange.run_record s.host uid hread)

/-- A chain lets through exactly the holders of an allow-list, and blocks exactly those of a
deny-list. -/
theorem verdictOn_eq_iff (rule : MatchSet) :
    c.verdictOn rule = (if c.isAllowList then .allow else .deny) ↔ rule.contains c.bit = true := by
  rw [Chain.verdictOn, Chain.blocks]
  cases c.isAllowList <;> cases rule.contains c.bit <;> decide

end Queries

/-- A list of the wrong polarity is refused, and nothing is done: no lock is taken, and the map is
not read. -/
structure RefusesPolarity (s : Setting) (w : World) (c : Chain) : Prop where
  allowed : c.isAllowList = false → (uidsAllowed s.backing c).run w
    = ⟨.error (.invalidArgument (RuleError.wrongPolarity c.name "allow-list").message), w, []⟩
  denied : c.isAllowList = true → (uidsDenied s.backing c).run w
    = ⟨.error (.invalidArgument (RuleError.wrongPolarity c.name "deny-list").message), w, []⟩

/-- The operation answers exactly the ids with a property, in strictly ascending order. -/
def Lists {W : Type} (x : Op W (List Uid)) (w : W) (P : Uid → Prop) : Prop :=
  ∃ l, Answers x w l ∧ l.Pairwise (· < ·) ∧ ∀ uid, uid ∈ l ↔ P uid

/-- The lists of a chain agree with the queries for single ids, and depend on what reads find
only. -/
structure Enumerates (s : Setting) (w : World) (c : Chain) : Prop where
  /-- The members are the ids whose record has the match. -/
  members : Lists (uidsWithRule s.backing c) w fun uid =>
    ∃ r, Answers (record s.backing uid) w (some r) ∧ r.rule.contains c.bit = true
  /-- An allow-list lists the ids that it lets through. -/
  allowed : c.isAllowList = true → Lists (uidsAllowed s.backing c) w fun uid =>
    Answers (getUidRule s.backing c uid) w .allow
  /-- A deny-list lists the ids that it blocks. -/
  denied : c.isAllowList = false → Lists (uidsDenied s.backing c) w fun uid =>
    Answers (getUidRule s.backing c uid) w .deny
  /-- Where reads find the same, another walk leads to the same answer. So no caller can learn from
  a list in which order the map is walked. -/
  settled : ∀ (s' : Setting) (w' : World), s'.poisoned .uidOwner = false →
    w'.uidOwner.readErrno = none → w'.uidOwner.WalkCovers →
    (∀ uid, w'.uidOwner.visible? uid = w.uidOwner.visible? uid) → ∀ l,
      (Answers (uidsWithRule s.backing c) w l ↔ Answers (uidsWithRule s'.backing c) w' l) ∧
      (Answers (uidsAllowed s.backing c) w l ↔ Answers (uidsAllowed s'.backing c) w' l) ∧
      (Answers (uidsDenied s.backing c) w l ↔ Answers (uidsDenied s'.backing c) w' l)

theorem not_answers_fail {W α : Type} {e : Fault} {w : W} {a : α} :
    ¬Answers (Act.fail e : Op W α) w a := by
  intro h
  cases h

section Enumerated

variable (s : Setting) (c : Chain) {w : World}

theorem refusesPolarity (w : World) : RefusesPolarity s w c where
  allowed hdeny := by
    rw [uidsAllowed, if_neg (Bool.eq_false_iff.1 hdeny)]
    rfl
  denied hallow := by
    rw [uidsDenied, if_pos hallow]
    rfl

/-- What is answered for a chain, whatever is asked about single ids. -/
theorem lists_members (hopen : s.poisoned .uidOwner = false) (hread : w.uidOwner.readErrno = none)
    (hwalk : w.uidOwner.WalkCovers) {P : Uid → Prop}
    (hP : ∀ uid, P uid ↔ (ruleWord (w.uidOwner.visible? uid)).contains c.bit = true) :
    Lists (uidsWithRule s.backing c) w P := by
  have hanswer : Answers (uidsWithRule s.backing c) w (Firewall.members c w.uidOwner) :=
    (answers_iff (run_uidsWithRule s c hopen hread)).2 rfl
  refine ⟨_, hanswer, ascending_sorted _, fun uid => ?_⟩
  rw [mem_members_iff hwalk, hP]

/-- The record that is read has the match iff the entry that is seen has it. -/
theorem record_contains_iff (hread : w.uidOwner.readErrno = none) (uid : Uid) :
    (∃ r, Answers (record s.backing uid) w (some r) ∧ r.rule.contains c.bit = true) ↔
      (ruleWord (w.uidOwner.visible? uid)).contains c.bit = true := by
  simp only [answers_record_iff s hread]
  -- there may be an entry or none; without one there is no word, and the word of none has no match
  cases w.uidOwner.visible? uid with
  | none =>
    rw [contains_ruleWord_none]
    constructor
    · rintro ⟨r, hr, -⟩
      cases hr
    · intro hbit
      cases hbit
  | some x =>
    constructor
    · rintro ⟨r, hr, hbit⟩
      cases hr
      exact hbit
    · intro hbit
      exact ⟨_, rfl, hbit⟩

/-- The verdict that a listed id has is the one that its match stands for. -/
theorem answers_verdict_iff (hread : w.uidOwner.readErrno = none) (uid : Uid) :
    Answers (getUidRule s.backing c uid) w (if c.isAllowList then .allow else .deny) ↔
      (ruleWord (w.uidOwner.visible? uid)).contains c.bit = true := by
  rw [answers_getUidRule_iff s c uid _ hread, verdictOn_eq_iff]

end Enumerated

/-- **The lists of a chain are the point queries**: where reads do not fail and the walk covers what
they find, the ids of a chain are listed in strictly ascending order, whatever the order of the
walk. A list of the wrong polarity is refused in every world. -/
theorem chain_enumerated (s : Setting) (w : World) (c : Chain) :
    RefusesPolarity s w c ∧
      (s.poisoned .uidOwner = false → w.uidOwner.readErrno = none → w.uidOwner.WalkCovers →
        Enumerates s w c) := by
  refine ⟨refusesPolarity s c w, fun hopen hread hwalk => ?_⟩
  refine
    { members := lists_members s c hopen hread hwalk (record_contains_iff s c hread)
      allowed := fun hallow => ?_
      denied := fun hdeny => ?_
      settled := fun s' w' hopen' hread' hwalk' hsame l => ?_ }
  · have hverdict := answers_verdict_iff s c hread
    simp only [hallow, if_true] at hverdict
    rw [uidsAllowed, if_pos hallow]
    exact lists_members s c hopen hread hwalk hverdict
  · have hverdict := answers_verdict_iff s c hread
    simp only [hdeny, Bool.false_eq_true, if_false] at hverdict
    rw [uidsDenied, if_neg (Bool.eq_false_iff.1 hdeny)]
    exact lists_members s c hopen hread hwalk hverdict
  · have hrun : (uidsWithRule s'.backing c).run w'
        = ⟨.ok (Firewall.members c w.uidOwner), w', []⟩ := by
      rw [run_uidsWithRule s' c hopen' hread', members_congr hwalk hwalk' hsame]
    have hmembers : Answers (uidsWithRule s.backing c) w l ↔
        Answers (uidsWithRule s'.backing c) w' l := by
      rw [answers_iff (run_uidsWithRule s c hopen hread), answers_iff hrun]
    -- a list of the wrong polarity is refused on either side, so neither side answers anything
    refine ⟨hmembers, ?_, ?_⟩
    · rw [uidsAllowed, uidsAllowed]
      split
      · exact hmembers
      · exact iff_of_false not_answers_fail not_answers_fail
    · rw [uidsDenied, uidsDenied]
      split
      · exact iff_of_false not_answers_fail not_answers_fail
      · exact hmembers

/-- Three entries, of which one has vanished, along a walk that starts again and lists an id without
an entry. -/
def restartedWorld : World :=
  { World.empty with
    uidOwner := { World.empty.uidOwner with
      content := .ofList [(10001, ⟨0, 0, 0x4⟩), (10002, ⟨7, 0, 0x84⟩), (10003, ⟨0, 0, 0xc⟩)]
      vanished := fun u => u == 10002
      walk := fun ks => ks.drop 1 ++ [10009] ++ ks.reverse } }

theorem restartedWorld_enumerated :
    ((Setting.ofHost ⟨[], none⟩).poisoned .uidOwner = false ∧
        restartedWorld.uidOwner.readErrno = none ∧ restartedWorld.uidOwner.WalkCovers) ∧
      Enumerates (.ofHost ⟨[], none⟩) restartedWorld .dozable := by
  have hwalk : restartedWorld.uidOwner.WalkCovers := by
    intro uid huid
    obtain ⟨x, hx⟩ := Option.isSome_iff_exists.1 huid
    have hkey : uid ∈ restartedWorld.uidOwner.content.keys :=
      SortedMap.mem_keys.2 (by rw [Store.get?_of_visible? hx]; rfl)
    exact List.mem_append_right _ (List.mem_reverse.2 hkey)
  exact ⟨⟨rfl, rfl, hwalk⟩, (chain_enumerated (.ofHost ⟨[], none⟩) restartedWorld .dozable).2
    rfl rfl hwalk⟩

/-- The vanished member is left out, and nobody is listed twice. -/
example :
    Answers (uidsAllowed (Memory.backing ⟨[], none⟩) .dozable) restartedWorld [10001, 10003] := rfl

end Firewall

end UidPolicy
