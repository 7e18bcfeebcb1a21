import UidPolicy.Proofs.Rule.Change
import UidPolicy.Proofs.Rule.Stale
import UidPolicy.Proofs.Table

/-!
# The exact result of a replacement

What a replacement of the members of a chain is to make of the rule records depends on what is
stored and on the list. It is said here as a function of the two, without the calls that bring it
about; what stands in their way is for others to say.

- `Chain.entryAfter`: what becomes of the entry of one id. A listed id is given the match, any other
  member loses it, and whoever is neither keeps the entry as it is.
- `Chain.exactly`: the content that comes of this.
- `Chain.survivors`, `newcomers`: the ids that have an entry before and after, and those that have
  one only after. `size_exactly` counts them.
-/

namespace UidPolicy

/-- The ids of a list without an entry, each once, in the order in which they come: who comes first
takes the place, if there is one. -/
def newcomers (m : SortedMap Uid OwnerEntry) (uids : List Uid) : List Uid :=
  firstOccurrences m.keys uids

theorem mem_newcomers {m : SortedMap Uid OwnerEntry} {uids : List Uid} {u : Uid} :
    u ∈ newcomers m uids ↔ u ∈ uids ∧ u ∉ m.keys := mem_firstOccurrences

theorem nodup_newcomers (m : SortedMap Uid OwnerEntry) (uids : List Uid) :
    (newcomers m uids).Nodup := nodup_firstOccurrences _ _

namespace Chain

/-- What a replacement makes of the entry of an id, or of its absence. It looks at this entry only,
so the replacement of a whole map is one function applied under every id. -/
def entryAfter (c : Chain) (uids : List Uid) (u : Uid) (e : Option OwnerEntry) :
    Option OwnerEntry :=
  if u ∈ uids then (RuleChange.grant c.bit 0).apply e
  else if (ruleWord e).contains c.bit then (RuleChange.revoke c.bit).apply e
  else e

/-- The exact result of a replacement: that of a map with room for everybody, on which nothing
fails. -/
def exactly (c : Chain) (uids : List Uid) (m : SortedMap Uid OwnerEntry) :
    SortedMap Uid OwnerEntry :=
  .tabulate (fun u => c.entryAfter uids u (m.get? u)) (m.keys ++ uids)

/-- The ids with an entry that have one after a replacement too. Who has no other match than that of
the chain, and is not listed, is not among them. -/
def survivors (c : Chain) (uids : List Uid) (m : SortedMap Uid OwnerEntry) : List Uid :=
  m.keys.filter fun u => (c.entryAfter uids u (m.get? u)).isSome

variable {c : Chain} {uids : List Uid} {u : Uid}

theorem entryAfter_of_mem (hu : u ∈ uids) (e : Option OwnerEntry) :
    c.entryAfter uids u e = (RuleChange.grant c.bit 0).apply e := if_pos hu

theorem entryAfter_none (hu : u ∉ uids) : c.entryAfter uids u none = none := by
  rw [entryAfter, if_neg hu, contains_ruleWord_none, if_neg Bool.false_ne_true]

theorem entryAfter_congr {uids' : List Uid} (h : u ∈ uids ↔ u ∈ uids') (e : Option OwnerEntry) :
    c.entryAfter uids u e = c.entryAfter uids' u e := by
  by_cases hu : u ∈ uids
  · rw [entryAfter, entryAfter, if_pos hu, if_pos (h.1 hu)]
  · rw [entryAfter, entryAfter, if_neg hu, if_neg fun hu' => hu (h.2 hu')]

theorem get?_exactly (c : Chain) (uids : List Uid) (m : SortedMap Uid OwnerEntry) (u : Uid) :
    (c.exactly uids m).get? u = c.entryAfter uids u (m.get? u) := by
  rw [exactly, SortedMap.get?_tabulate]
  -- the keys and the listed ids are all that a replacement can reach; anybody else had no entry and
  -- gets none
  by_cases hu : u ∈ m.keys ++ uids
  · rw [if_pos hu]
  · rw [List.mem_append, SortedMap.mem_keys, not_or, Option.not_isSome_iff_eq_none] at hu
    rw [if_neg fun hmem => (List.mem_append.1 hmem).elim
      (fun hkey => by rw [SortedMap.mem_keys, hu.1] at hkey; cases hkey) hu.2, hu.1,
      entryAfter_none hu.2]

theorem mem_survivors {m : SortedMap Uid OwnerEntry} :
    u ∈ c.survivors uids m ↔ u ∈ m.keys ∧ (c.entryAfter uids u (m.get? u)).isSome = true :=
  List.mem_filter

theorem nodup_survivors (c : Chain) (uids : List Uid) (m : SortedMap Uid OwnerEntry) :
    (c.survivors uids m).Nodup := m.nodup_keys.filter _

/-- The exact result has an entry for the survivors and for the newcomers. -/
theorem size_exactly (c : Chain) (uids : List Uid) (m : SortedMap Uid OwnerEntry) :
    (c.exactly uids m).size = (c.survivors uids m).length + (newcomers m uids).length := by
  -- survivors have an entry before and newcomers have none, so nobody is counted twice
  have hnodup : (c.survivors uids m ++ newcomers m uids).Nodup := by
    refine List.nodup_append.2 ⟨nodup_survivors c uids m, nodup_newcomers m uids, ?_⟩
    rintro u hold _ hnew rfl
    exact (mem_newcomers.1 hnew).2 (mem_survivors.1 hold).1
  rw [SortedMap.size_eq_length hnodup fun u => ?_, List.length_append]
  rw [List.mem_append, mem_survivors, mem_newcomers, SortedMap.mem_keys (m := c.exactly uids m),
    get?_exactly]
  by_cases hkey : u ∈ m.keys
  · simp only [hkey, true_and, not_true_eq_false, and_false, or_false]
  · have hnone : m.get? u = none := by
      rwa [SortedMap.mem_keys, Option.not_isSome_iff_eq_none] at hkey
    rw [hnone]
    by_cases hu : u ∈ uids
    · rw [entryAfter_of_mem hu]
      simp [hkey, hu, RuleChange.apply]
    · rw [entryAfter_none hu]
      simp [hu]

end Chain

end UidPolicy
