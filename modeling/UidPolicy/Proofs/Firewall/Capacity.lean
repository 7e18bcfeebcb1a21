import UidPolicy.Pinned.Maps
import UidPolicy.Proofs.Firewall.Change
import UidPolicy.Proofs.Firewall.Exact
import UidPolicy.Proofs.Firewall.Replace
import UidPolicy.Proofs.Pinned.Hash
import UidPolicy.Proofs.Reasons.Agreement

/-!
# Replacements on maps with room for so many entries

A map of the kernel has room for so many entries. A full map takes new values for the keys that it
holds and refuses every other key. A replacement removes first, and what it removes makes room: so
it never fails for want of room where its exact result fits, full as the map may be at the start.

- `RuleChange.run_models`, `run_models_full`: one change on a map that models a content.
- `RuleChange.revocations`, `RuleChange.grants`: batches of changes. A batch of revocations goes
  through; a batch of grants turns away the newcomers for whom there is no room (`turnedAway`,
  `Admits`).
- `ReplacedWithin`: the effect of a replacement within a capacity.
- `replaceChain_within`: every replacement on an opened hash map has it.
-/

namespace UidPolicy

theorem SortedMap.fullFault_eq_none_iff {K V : Type} [Ranked K] {name : String} {capacity : Nat}
    {m : SortedMap K V} {k : K} :
    m.fullFault name capacity k = none ↔ k ∈ m.keys ∨ m.size < capacity := by
  rw [SortedMap.fullFault, ← SortedMap.contains_iff]
  by_cases hroom : (m.contains k || decide (m.size < capacity)) = true
  · rw [if_pos hroom]
    rw [Bool.or_eq_true, decide_eq_true_iff] at hroom
    exact ⟨fun _ => hroom, fun _ => rfl⟩
  · rw [if_neg hroom]
    rw [Bool.or_eq_true, decide_eq_true_iff] at hroom
    constructor
    · intro hfault
      cases hfault
    · intro h
      exact absurd h hroom

/-! ## Who is turned away -/

/-- The newcomers for whom there is no room, if they come one by one: all but as many as there are
free places, and each place is taken for good. -/
def turnedAway (capacity : Nat) (m : SortedMap Uid OwnerEntry) (uids : List Uid) : List Uid :=
  (newcomers m uids).drop (capacity - m.size)

section TurnedAway

variable {capacity : Nat} {m : SortedMap Uid OwnerEntry} {u : Uid}

theorem mem_of_turnedAway {uids : List Uid} {v : Uid} (hv : v ∈ turnedAway capacity m uids) :
    v ∈ uids ∧ v ∉ m.keys := mem_newcomers.1 (List.mem_of_mem_drop hv)

/-- Whoever there is room for takes none from the others that they would have: a newcomer takes one
place and is one newcomer less. -/
theorem turnedAway_cons (hroom : u ∈ m.keys ∨ m.size < capacity) (value : OwnerEntry)
    (rest : List Uid) :
    turnedAway capacity m (u :: rest) = turnedAway capacity (m.insert u value) rest := by
  have hkeys : ∀ v, v ∈ (m.insert u value).keys ↔ v ∈ u :: m.keys := by
    intro v
    rw [SortedMap.mem_keys, SortedMap.get?_insert, List.mem_cons, SortedMap.mem_keys]
    by_cases hv : v = u
    · simp [hv]
    · simp [hv]
  have hlater : newcomers (m.insert u value) rest = firstOccurrences (u :: m.keys) rest :=
    firstOccurrences_congr hkeys rest
  rw [turnedAway, turnedAway, hlater, SortedMap.size_insert, newcomers, firstOccurrences]
  by_cases hthere : u ∈ m.keys
  · have hsame : ∀ v, v ∈ m.keys ↔ v ∈ u :: m.keys := by
      intro v
      rw [List.mem_cons]
      exact ⟨.inr, fun h => h.elim (fun hv => hv ▸ hthere) id⟩
    rw [if_pos hthere, if_pos (SortedMap.contains_iff.2 hthere), firstOccurrences_congr hsame]
  · -- a newcomer takes one place
    have hfree : m.size < capacity := hroom.resolve_left hthere
    have hplaces : capacity - m.size = capacity - (m.size + 1) + 1 := by omega
    rw [if_neg hthere, if_neg fun h => hthere (SortedMap.contains_iff.1 h), hplaces,
      List.drop_succ_cons]

/-- In a full map there is room for no newcomer. -/
theorem mem_turnedAway_of_full (hfull : capacity ≤ m.size) {uids : List Uid} {v : Uid} :
    v ∈ turnedAway capacity m uids ↔ v ∈ uids ∧ v ∉ m.keys := by
  rw [turnedAway, Nat.sub_eq_zero_of_le hfull, List.drop_zero, mem_newcomers]

/-- What a batch of grants makes of a content: who is turned away is known from the content before,
though the batch finds out turn by turn. -/
structure Admits (capacity : Nat) (added : MatchSet) (uids : List Uid)
    (m m' : SortedMap Uid OwnerEntry) (failed : List Uid) : Prop where
  /-- The newcomers for whom there is no room fail, at each of their turns. -/
  turns : failed = uids.filter fun u => u ∈ turnedAway capacity m uids
  /-- All the others are granted the match. -/
  entries : ∀ u, m'.get? u = if u ∈ uids ∧ u ∉ turnedAway capacity m uids
    then (RuleChange.grant added 0).apply (m.get? u) else m.get? u

theorem Admits.cons_room {added : MatchSet} {rest failed : List Uid}
    {m' : SortedMap Uid OwnerEntry} {value : OwnerEntry}
    (hvalue : (RuleChange.grant added 0).apply (m.get? u) = some value)
    (hroom : u ∈ m.keys ∨ m.size < capacity)
    (hrest : Admits capacity added rest (m.insert u value) m' failed) :
    Admits capacity added (u :: rest) m m' failed := by
  -- the first id has an entry from now on, so it is a newcomer at none of its later turns
  have hkey : u ∈ (m.insert u value).keys := by
    rw [SortedMap.mem_keys, SortedMap.get?_insert, if_pos rfl]
    rfl
  have hin : u ∉ turnedAway capacity (m.insert u value) rest :=
    fun h => (mem_of_turnedAway h).2 hkey
  refine ⟨?_, fun v => ?_⟩
  · rw [turnedAway_cons hroom value, List.filter_cons_of_neg (by simpa using hin)]
    exact hrest.turns
  · rw [turnedAway_cons hroom value, hrest.entries, SortedMap.get?_insert]
    by_cases hv : v = u
    · have hlisted : u ∈ u :: rest ∧ u ∉ turnedAway capacity (m.insert u value) rest :=
        ⟨List.mem_cons_self .., hin⟩
      rw [hv, if_pos rfl, if_pos hlisted, hvalue]
      -- a later turn grants what is granted already
      split
      · rw [← hvalue, RuleChange.apply_apply]
      · rfl
    · simp [hv]

theorem Admits.cons_full {added : MatchSet} {rest failed : List Uid}
    {m' : SortedMap Uid OwnerEntry} (hnew : u ∉ m.keys) (hfull : capacity ≤ m.size)
    (hrest : Admits capacity added rest m m' failed) :
    Admits capacity added (u :: rest) m m' (u :: failed) := by
  -- in a full map every newcomer is turned away, whoever came before
  have hsame : ∀ v ∈ rest,
      (v ∈ turnedAway capacity m (u :: rest) ↔ v ∈ turnedAway capacity m rest) := by
    intro v hv
    simp [mem_turnedAway_of_full hfull, hv]
  have hout : u ∈ turnedAway capacity m (u :: rest) :=
    (mem_turnedAway_of_full hfull).2 ⟨List.mem_cons_self .., hnew⟩
  refine ⟨?_, fun v => ?_⟩
  · rw [hrest.turns, List.filter_cons_of_pos (by simpa using hout)]
    refine congrArg _ (List.filter_congr fun v hv => ?_)
    rw [decide_eq_decide.2 (hsame v hv)]
  · rw [hrest.entries]
    simp only [mem_turnedAway_of_full hfull, List.mem_cons]
    by_cases hv : v = u
    · simp [hv, hnew]
    · simp [hv]

end TurnedAway

/-! ## Changes on a map with room for so many entries -/

section Models

variable {W : Type} {b : Backing W} {R : W → SortedMap Uid OwnerEntry → Prop} {name : String}
  {capacity : Nat} (ht : b.uidOwner.Models R (SortedMap.fullFault name capacity))
  {w : W} {m : SortedMap Uid OwnerEntry} (hR : R w m)

include ht hR

namespace RuleChange

theorem run_record_models (u : Uid) :
    ∃ log, (Firewall.record b u).run w
      = ⟨.ok ((m.get? u).map OwnerRecord.ofEntry), w, log⟩ := by
  obtain ⟨log, hget⟩ := ht.get hR u
  rw [Firewall.record, Act.run_bind_ok hget]
  exact ⟨_, rfl⟩

theorem run_models (ch : RuleChange) {u : Uid} (happlies : ch.applies (m.get? u) = true)
    (hroom : u ∈ m.keys ∨ m.size < capacity) :
    ∃ w', (∃ log, (ch.perform b u).run w = ⟨.ok (), w', log⟩) ∧
      R w' (m.assign u (ch.apply (m.get? u))) := by
  obtain ⟨log, hrecord⟩ := run_record_models ht hR u
  -- a removal could do without the room: whoever loses a match has an entry
  have hput := fun v => ht.put hR u v (SortedMap.fullFault_eq_none_iff.2 hroom)
  cases ch with
  | grant added iif =>
    obtain ⟨w', log', hput, hR'⟩ :=
      hput (((m.get? u).map OwnerRecord.ofEntry).getD .empty |>.withMatch added iif).toEntry
    refine ⟨w', ?_, hR'⟩
    show ∃ log, (Firewall.addLocked b added iif u).run w = _
    rw [Firewall.addLocked, Act.run_bind_ok hrecord]
    dsimp only
    rw [Act.run_bind_ok hput]
    exact ⟨_, rfl⟩
  | revoke cleared =>
    obtain ⟨x, hx⟩ := Option.isSome_iff_exists.1 happlies
    rw [hx] at hrecord
    rw [hx, apply]
    -- an entry without matches is deleted, any other is written back
    by_cases hempty : ((OwnerRecord.ofEntry x).withoutMatch cleared).isEmpty
    · obtain ⟨w', log', hdelete, hR'⟩ := ht.delete hR u
      rw [if_pos hempty]
      refine ⟨w', ?_, hR'⟩
      show ∃ log, (Firewall.removeLocked b cleared u).run w = _
      rw [Firewall.removeLocked, Act.run_bind_ok hrecord]
      simp only [Option.map_some, if_pos hempty]
      rw [Act.run_bind_ok hdelete]
      exact ⟨_, rfl⟩
    · obtain ⟨w', log', hput, hR'⟩ := hput ((OwnerRecord.ofEntry x).withoutMatch cleared).toEntry
      rw [if_neg hempty]
      refine ⟨w', ?_, hR'⟩
      show ∃ log, (Firewall.removeLocked b cleared u).run w = _
      rw [Firewall.removeLocked, Act.run_bind_ok hrecord]
      simp only [Option.map_some, if_neg hempty]
      rw [Act.run_bind_ok hput]
      exact ⟨_, rfl⟩

/-- A grant to a newcomer fails on a full map, and changes nothing. -/
theorem run_models_full (added : MatchSet) (iif : UInt32) {u : Uid} (hnew : u ∉ m.keys)
    (hfull : capacity ≤ m.size) :
    ∃ e log, ((grant added iif).perform b u).run w = ⟨.error e, w, log⟩ := by
  obtain ⟨log, hrecord⟩ := run_record_models ht hR u
  have hfault : m.fullFault name capacity u ≠ none := fun hnone =>
    (SortedMap.fullFault_eq_none_iff.1 hnone).elim hnew (Nat.not_lt.2 hfull)
  obtain ⟨e, he⟩ := Option.ne_none_iff_exists'.1 hfault
  obtain ⟨log', hput⟩ := ht.refused hR u
    (((m.get? u).map OwnerRecord.ofEntry).getD .empty |>.withMatch added iif).toEntry e he
  refine ⟨e, ?_⟩
  show ∃ log, (Firewall.addLocked b added iif u).run w = _
  rw [Firewall.addLocked, Act.run_bind_ok hrecord]
  dsimp only
  rw [Act.run_bind_error hput]
  exact ⟨_, rfl⟩

/-- **A batch of revocations** from ids that have entries goes through. -/
theorem revocations (cleared : MatchSet) {l : List Uid} (hnodup : l.Nodup)
    (hpresent : ∀ u ∈ l, u ∈ m.keys) :
    Batch.failures ((revoke cleared).perform b) l w = [] ∧
      ∃ m', R (Batch.worldAfter ((revoke cleared).perform b) l w) m' ∧
        ∀ u, m'.get? u = if u ∈ l then (revoke cleared).apply (m.get? u) else m.get? u := by
  induction l generalizing w m with
  | nil => exact ⟨rfl, m, hR, fun u => (if_neg List.not_mem_nil).symm⟩
  | cons u rest ih =>
    obtain ⟨hother, hnodup⟩ := List.nodup_cons.1 hnodup
    have hu : u ∈ m.keys := hpresent u (List.mem_cons_self ..)
    obtain ⟨w', ⟨log, hrun⟩, hR'⟩ :=
      run_models ht hR (revoke cleared) (SortedMap.mem_keys.1 hu) (.inl hu)
    -- a revocation may delete the entry of its own id, and no id is listed twice
    have hlater : ∀ v ∈ rest, v ∈ (m.assign u ((revoke cleared).apply (m.get? u))).keys := by
      intro v hv
      have hne : v ≠ u := fun h => hother (h ▸ hv)
      rw [SortedMap.mem_keys, SortedMap.get?_assign, if_neg hne, ← SortedMap.mem_keys]
      exact hpresent v (List.mem_cons_of_mem _ hv)
    obtain ⟨hfailures, m', hR'', hm'⟩ := ih hR' hnodup hlater
    rw [Batch.failures_cons_ok (by rw [hrun]), Batch.worldAfter, hrun]
    refine ⟨hfailures, m', hR'', fun v => ?_⟩
    rw [hm', SortedMap.get?_assign]
    by_cases hv : v = u
    · simp [hv, hother]
    · simp [hv]

/-- **A batch of grants** turns away the newcomers for whom there is no room, and is carried out for
all the others. -/
theorem grants (added : MatchSet) (uids : List Uid) :
    ∃ m', R (Batch.worldAfter ((grant added 0).perform b) uids w) m' ∧
      Admits capacity added uids m m' (Batch.failures ((grant added 0).perform b) uids w) := by
  induction uids generalizing w m with
  | nil => exact ⟨m, hR, rfl, fun u => (if_neg fun h => List.not_mem_nil h.1).symm⟩
  | cons u rest ih =>
    -- at each turn there is room for the id, or it is a newcomer to a full map
    by_cases hroom : u ∈ m.keys ∨ m.size < capacity
    · obtain ⟨w', ⟨log, hrun⟩, hR'⟩ := run_models ht hR (grant added 0) rfl hroom
      obtain ⟨value, hvalue⟩ : ∃ value, (grant added 0).apply (m.get? u) = some value := ⟨_, rfl⟩
      rw [hvalue] at hR'
      have hR' : R w' (m.insert u value) := hR'
      obtain ⟨m', hR'', hrest⟩ := ih hR'
      rw [Batch.failures_cons_ok (by rw [hrun]), Batch.worldAfter, hrun]
      exact ⟨m', hR'', hrest.cons_room hvalue hroom⟩
    · obtain ⟨hnew, hfull⟩ := not_or.1 hroom
      rw [Nat.not_lt] at hfull
      obtain ⟨e, log, hrun⟩ := run_models_full ht hR added 0 hnew hfull
      obtain ⟨m', hR', hrest⟩ := ih hR
      rw [Batch.failures_cons_error (by rw [hrun]), Batch.worldAfter, hrun]
      exact ⟨m', hR', hrest.cons_full hnew hfull⟩

end RuleChange

end Models

/-! ## Replacements -/

/-- The effect of a replacement on a map with room for so many entries, from one content to another.
The removals come first, so it is the room after them that the newcomers share. -/
structure ReplacedWithin (capacity : Nat) (c : Chain) (uids : List Uid)
    (m m' : SortedMap Uid OwnerEntry) (outcome : BatchOutcome) : Prop where
  /-- An exact result that fits is reached, whatever room there was at the start: what goes makes
  room before anybody comes. -/
  fits : (c.exactly uids m).size ≤ capacity → outcome.failed = [] ∧ m' = c.exactly uids m
  /-- An id fails exactly if at its first turn it has no entry and there is room for none: as many
  ids as there is room for, survivors and newcomers before it, have theirs. -/
  first : ∀ before u after, uids = before ++ u :: after → u ∉ before →
    (u ∈ outcome.failed ↔
      u ∉ m.keys ∧ capacity ≤ (c.survivors uids m).length + (newcomers m before).length)
  /-- It fails at every turn then, and these are all the failures, in the order of the turns. -/
  turns : outcome.failed = uids.filter fun u => u ∈ outcome.failed
  /-- An id that fails has no entry, and every other id ends as in the exact result: nobody pays for
  the failure of another. -/
  entries : ∀ u, m'.get? u = if u ∈ outcome.failed then none else (c.exactly uids m).get? u

/-- A member of a list without repetitions is left, after so many are dropped, iff at least so many
come before it. -/
theorem mem_drop_iff {l before after : List Uid} {u : Uid} {n : Nat} (hnodup : l.Nodup)
    (hl : l = before ++ u :: after) : u ∈ l.drop n ↔ n ≤ before.length := by
  subst hl
  obtain ⟨-, htail, hdisjoint⟩ := List.nodup_append.1 hnodup
  have hbefore : u ∉ before := fun h => hdisjoint u h u (List.mem_cons_self ..) rfl
  have hafter : u ∉ after := (List.nodup_cons.1 htail).1
  rw [List.drop_append, List.mem_append]
  -- either the drop ends before the member, or it takes the member along
  by_cases hn : n ≤ before.length
  · rw [Nat.sub_eq_zero_of_le hn, List.drop_zero]
    exact ⟨fun _ => hn, fun _ => .inr (List.mem_cons_self ..)⟩
  · obtain ⟨k, hk⟩ := Nat.exists_eq_add_of_lt (Nat.lt_of_not_le hn)
    have hplaces : n - before.length = k + 1 := by omega
    rw [hplaces, List.drop_succ_cons]
    refine ⟨fun h => ?_, fun h => absurd h hn⟩
    exact (h.elim (fun h => hbefore (List.mem_of_mem_drop h))
      fun h => hafter (List.mem_of_mem_drop h)).elim

/-- Who is turned away after the removals makes the difference to the exact result, and nothing else
does. -/
theorem replacedWithin_of {capacity : Nat} {c : Chain} {uids : List Uid}
    {m m' : SortedMap Uid OwnerEntry} {outcome : BatchOutcome} {away : List Uid}
    (haway : away = (newcomers m uids).drop (capacity - (c.survivors uids m).length))
    (hfailed : outcome.failed = uids.filter fun u => u ∈ away)
    (hm' : ∀ u, m'.get? u = if u ∈ away then none else c.entryAfter uids u (m.get? u)) :
    ReplacedWithin capacity c uids m m' outcome := by
  -- the one list that the four parts are about: the newcomers behind the last free place
  have hlisted : ∀ u ∈ away, u ∈ uids ∧ u ∉ m.keys := fun u hu =>
    mem_newcomers.1 (List.mem_of_mem_drop (haway ▸ hu))
  have hiff : ∀ u, u ∈ outcome.failed ↔ u ∈ away := by
    intro u
    rw [hfailed, List.mem_filter, decide_eq_true_iff]
    exact ⟨fun h => h.2, fun h => ⟨(hlisted u h).1, h⟩⟩
  refine
    { fits := fun hfits => ?_
      first := fun before u after hsplit hfirst => ?_
      turns := ?_
      entries := fun u => ?_ }
  · have hnone : away = [] := by
      rw [Chain.size_exactly] at hfits
      rw [haway, List.drop_eq_nil_iff]
      omega
    refine ⟨?_, SortedMap.ext_get? fun u => ?_⟩
    · rw [hfailed, hnone]
      simp
    · rw [hm', hnone, if_neg List.not_mem_nil, Chain.get?_exactly]
  · rw [hiff, haway]
    by_cases hnew : u ∈ m.keys
    · exact ⟨fun h => absurd hnew (mem_newcomers.1 (List.mem_of_mem_drop h)).2,
        fun h => absurd hnew h.1⟩
    -- the newcomers up to this turn are those of the ids before it, then the id itself
    · have hunseen : u ∉ before ++ m.keys := fun h => (List.mem_append.1 h).elim hfirst hnew
      have hcome : newcomers m uids
          = newcomers m before ++ u :: firstOccurrences (u :: (before ++ m.keys)) after := by
        rw [newcomers, hsplit, firstOccurrences_append, firstOccurrences, if_neg hunseen]
        rfl
      rw [mem_drop_iff (nodup_newcomers m uids) hcome, Nat.sub_le_iff_le_add']
      exact ⟨fun h => ⟨hnew, h⟩, fun h => h.2⟩
  · have hsame : (fun u => decide (u ∈ outcome.failed)) = fun u => decide (u ∈ away) :=
      funext fun u => decide_eq_decide.2 (hiff u)
    rw [hsame, hfailed]
  · rw [hm', Chain.get?_exactly]
    simp only [hiff]

section Replace

variable {W : Type} {b : Backing W} {R : W → SortedMap Uid OwnerEntry → Prop} {name : String}
  {capacity : Nat} (ht : b.uidOwner.Models R (SortedMap.fullFault name capacity))
  {w : W} {m : SortedMap Uid OwnerEntry} (hR : R w m)

/-- What revoking the match from the stale ids leaves behind: the entries of the ids that are not
listed are final. -/
structure Cleared (c : Chain) (uids : List Uid) (m m₁ : SortedMap Uid OwnerEntry) : Prop where
  listed : ∀ u ∈ uids, m₁.get? u = m.get? u
  others : ∀ u, u ∉ uids → m₁.get? u = c.entryAfter uids u (m.get? u)

/-- Only the survivors have entries then. -/
theorem Cleared.size_eq {c : Chain} {uids : List Uid} {m m₁ : SortedMap Uid OwnerEntry}
    (h : Cleared c uids m m₁) : m₁.size = (c.survivors uids m).length := by
  refine SortedMap.size_eq_length (Chain.nodup_survivors c uids m) fun u => ?_
  rw [Chain.mem_survivors, SortedMap.mem_keys, SortedMap.mem_keys]
  by_cases hu : u ∈ uids
  · rw [h.listed u hu, Chain.entryAfter_of_mem hu]
    exact ⟨fun h => h.1, fun h => ⟨h, rfl⟩⟩
  · rw [h.others u hu]
    refine ⟨fun h => h.2, fun hsome => ⟨?_, hsome⟩⟩
    cases hm : m.get? u with
    | some x => rfl
    | none =>
      rw [hm, Chain.entryAfter_none hu] at hsome
      cases hsome

theorem Cleared.newcomers_eq {c : Chain} {uids : List Uid} {m m₁ : SortedMap Uid OwnerEntry}
    (h : Cleared c uids m m₁) : newcomers m₁ uids = newcomers m uids := by
  rw [newcomers, newcomers, firstOccurrences_eq, firstOccurrences_eq]
  -- a newcomer is listed, and the removals have not touched the listed ids
  refine congrArg _ (List.filter_congr fun u hu => ?_)
  have hsame : u ∈ m₁.keys ↔ u ∈ m.keys := by
    rw [SortedMap.mem_keys, SortedMap.mem_keys, h.listed u hu]
  rw [List.contains_eq_mem, List.contains_eq_mem, decide_eq_decide.2 hsame]

include ht hR

/-- The stale ids are members, so the revocations go through, and they leave nothing else to do for
whoever is not listed. -/
theorem stale_cleared (c : Chain) (uids : List Uid) {es : List (Uid × OwnerEntry)}
    (hes : es.Perm m.toList) {stale : List Uid}
    (hstale : stale
      = staleUids (es.map fun e => (e.1, (OwnerRecord.ofEntry e.2).rule)) c.bit uids) :
    Batch.failures ((RuleChange.revoke c.bit).perform b) stale w = [] ∧
      ∃ m₁, R (Batch.worldAfter ((RuleChange.revoke c.bit).perform b) stale w) m₁ ∧
        Cleared c uids m m₁ := by
  -- the walk shows the content itself, so the stale ids are the members that are not listed
  have hmem : ∀ u, u ∈ stale ↔ (ruleWord (m.get? u)).contains c.bit = true ∧ u ∉ uids := by
    intro u
    rw [hstale, mem_staleUids]
    refine and_congr_left fun _ => ?_
    constructor
    · rintro ⟨word, hword, hbit⟩
      obtain ⟨⟨v, x⟩, hx, heq⟩ := List.mem_map.1 hword
      cases heq
      rwa [SortedMap.mem_toList.1 (hes.mem_iff.1 hx)]
    · intro hbit
      obtain ⟨x, hx⟩ := Option.isSome_iff_exists.1 (isSome_of_contains hbit)
      rw [hx] at hbit
      exact ⟨_, List.mem_map.2 ⟨(u, x), hes.mem_iff.2 (SortedMap.mem_toList.2 hx), rfl⟩, hbit⟩
  have hpresent : ∀ u ∈ stale, u ∈ m.keys := fun u hu =>
    SortedMap.mem_keys.2 (isSome_of_contains ((hmem u).1 hu).1)
  have hnodup : stale.Nodup := hstale ▸ nodup_staleUids _ _ _
  obtain ⟨hfailures, m₁, hR₁, hm₁⟩ := RuleChange.revocations ht hR c.bit hnodup hpresent
  refine ⟨hfailures, m₁, hR₁, ⟨fun u hu => ?_, fun u hu => ?_⟩⟩
  · rw [hm₁, if_neg fun h => ((hmem u).1 h).2 hu]
  · rw [hm₁, Chain.entryAfter, if_neg hu]
    by_cases hbit : (ruleWord (m.get? u)).contains c.bit = true
    · rw [if_pos ((hmem u).2 ⟨hbit, hu⟩), if_pos hbit]
    · rw [if_neg fun h => hbit ((hmem u).1 h).1, if_neg hbit]

/-- A replacement on a map that models a content and has room for so many entries. The order in
which the map is walked decides the order of the removals, and nothing that can be seen
afterwards. -/
theorem replaceChain_models (hlock : b.poisoned .uidOwner = false) (c : Chain) (uids : List Uid) :
    ∃ outcome m', Answers (Firewall.replaceChain b c uids) w outcome ∧
      R ((Firewall.replaceChain b c uids).run w).world m' ∧
      ReplacedWithin capacity c uids m m' outcome := by
  obtain ⟨es, log₀, hentries, hes⟩ := ht.run_entries hR
  obtain ⟨outcome, log, hrun, hfailed, -⟩ :=
    Firewall.run_replaceChain_of_walk hlock c hentries uids
  obtain ⟨hfailures₁, m₁, hR₁, hcleared⟩ :=
    stale_cleared ht hR c uids hes (show c.staleOn es uids = _ from rfl)
  obtain ⟨m₂, hR₂, hadmits⟩ := RuleChange.grants ht hR₁ c.bit uids
  -- who is turned away depends on the content after the removals; counted in survivors, it depends
  -- on the content before them
  have haway : turnedAway capacity m₁ uids
      = (newcomers m uids).drop (capacity - (c.survivors uids m).length) := by
    rw [turnedAway, hcleared.newcomers_eq, hcleared.size_eq]
  refine ⟨outcome, m₂, ?_, ?_, replacedWithin_of haway ?_ fun u => ?_⟩
  · rw [Answers, hrun]
  · rw [hrun]
    exact hR₂
  · have hrevoked : Batch.failures (Firewall.removeLocked b c.bit) (c.staleOn es uids) w = [] :=
      hfailures₁
    rw [hfailed, hrevoked, List.nil_append]
    exact hadmits.turns
  · rw [hadmits.entries]
    by_cases hout : u ∈ turnedAway capacity m₁ uids
    · rw [if_neg fun h => h.2 hout, if_pos hout]
      have hnone := (mem_of_turnedAway hout).2
      rwa [SortedMap.mem_keys, Option.not_isSome_iff_eq_none] at hnone
    · by_cases hu : u ∈ uids
      · rw [if_pos ⟨hu, hout⟩, if_neg hout, hcleared.listed u hu, Chain.entryAfter_of_mem hu]
      · rw [if_neg fun h => hu h.1, if_neg hout, hcleared.others u hu]

end Replace

/-- **Replacing the members of a chain on an opened hash map.** Nobody interferes, and the map has
room for so many entries, which it walks over in any order. A replacement always answers. Where its
exact result fits into the map it is reached without a failure; where it does not, the newcomers
that there is no room for are turned away, and every other id ends as in the exact result. Other
maps are as they were. -/
theorem replaceChain_within {maps : PinnedMaps} (haccess : maps.uidOwner.access = .readWrite)
    {capacity : Nat} {start k : Kernel} {m : SortedMap Uid OwnerEntry}
    (hk : maps.uidOwner.OnHash capacity start k m) (c : Chain) (uids : List Uid) :
    ∃ outcome m', Answers (Firewall.replaceChain maps.backing c uids) k outcome ∧
      maps.uidOwner.OnHash capacity start
        ((Firewall.replaceChain maps.backing c uids).run k).world m' ∧
      ReplacedWithin capacity c uids m m' outcome :=
  replaceChain_models (Handle.models_hashTable haccess capacity start) hk rfl c uids

/-- A machine with room for two rule records only, which walks over them in another direction after
every write. -/
def tightKernel : Kernel :=
  Kernel.fresh.updateMap MapName.uidOwner.place fun m => .new m.id ⟨.hash, 4, 16, 2⟩ .alternating

/-- Both places are taken, by a member of the dozable chain and by one of the standby chain. So a
newcomer gets in only if one of them goes. -/
def fullKernel : Kernel :=
  (tightKernel.put MapName.uidOwner.place (Stored.encode (10001 : Uid))
      (Stored.encode (⟨0, 0, 4⟩ : OwnerEntry))).put
    MapName.uidOwner.place (Stored.encode (10002 : Uid)) (Stored.encode (⟨0, 0, 8⟩ : OwnerEntry))

/-- Its rule records, opened for reading and writing. -/
def fullMaps : PinnedMaps :=
  { (default : PinnedMaps) with
    uidOwner := ⟨MapName.uidOwner.place, MapName.uidOwner.pin, .readWrite, .handle 0, 2⟩ }

/-- Its entries. -/
def fullRecords : SortedMap Uid OwnerEntry :=
  ((∅ : SortedMap Uid OwnerEntry).insert 10001 ⟨0, 0, 4⟩).insert 10002 ⟨0, 0, 8⟩

theorem fullKernel_onHash : fullMaps.uidOwner.OnHash 2 tightKernel fullKernel fullRecords := by
  have hnew : tightKernel.maps fullMaps.uidOwner.map = .new 12 ⟨.hash, 4, 16, 2⟩ .alternating := rfl
  have hempty : fullMaps.uidOwner.OnHash 2 tightKernel tightKernel (∅ : SortedMap Uid OwnerEntry) :=
    Handle.onHash_new (h := fullMaps.uidOwner) hnew rfl rfl
  -- each put of the machine is an insertion into the content
  have hone := hempty.updateMap (·.insert (Stored.encode 10001) (Stored.encode _))
    (hempty.content.insert 10001 ⟨0, 0, 4⟩)
  exact hone.updateMap (·.insert (Stored.encode 10002) (Stored.encode _))
    (hone.content.insert 10002 ⟨0, 0, 8⟩)

/-- One member goes and makes room for one of two newcomers. -/
theorem fullKernel_within :
    (fullMaps.uidOwner.access = .readWrite ∧
        fullMaps.uidOwner.OnHash 2 tightKernel fullKernel fullRecords) ∧
      ∃ outcome m',
        Answers (Firewall.replaceChain fullMaps.backing .dozable [10003, 10004, 10003, 10002])
          fullKernel outcome ∧
        fullMaps.uidOwner.OnHash 2 tightKernel
          ((Firewall.replaceChain fullMaps.backing .dozable [10003, 10004, 10003, 10002]).run
            fullKernel).world m' ∧
        ReplacedWithin 2 .dozable [10003, 10004, 10003, 10002] fullRecords m' outcome :=
  ⟨⟨rfl, fullKernel_onHash⟩,
    replaceChain_within rfl fullKernel_onHash .dozable [10003, 10004, 10003, 10002]⟩

/-- The first newcomer finds the place of the member that is gone, at both of its turns. -/
example :
    ((Firewall.replaceChain fullMaps.backing .dozable [10003, 10004, 10003, 10002]).run
      fullKernel).result.toOption.map (·.failed) = some [10004] := by decide +kernel

end UidPolicy
