import UidPolicy.Proofs.Firewall.Entries

/-!
# Indices without the interface match

The interface index of an entry belongs to its interface match. An addition stores an index only
with that match, so it never leaves an index behind without it (`keeps_grant_indexed`). A removal
drops the index only where the interface match is all that is cleared, or where the whole entry
goes (`keeps_revoke_indexed`). So there is exactly one way to a stray index.

- `IndexedEntries`: every index other than zero comes with the interface match.
- `Turn.StrandsIndex`: the interface match is cleared together with others, of an entry that has
  an index and is left with some match.
- `indexedEntries_iff`: over every run, no stray index is ever stored exactly if no turn strands
  one.
- `combinedRemoval_strands`: a run from the empty maps that strands an index.
-/

namespace UidPolicy

open Memory (World Setting)

/-- An index other than zero comes with the interface match: without the match, nothing tells what
the index is for. -/
def OwnerEntry.Indexed (x : OwnerEntry) : Prop :=
  x.iif ≠ 0 → (ruleWord (some x)).contains .iif = true

/-- No stored entry has an index without the interface match. -/
def IndexedEntries (s : Store Uid OwnerEntry) : Prop := EveryEntry OwnerEntry.Indexed s

/-- An index other than zero tells that the interface match is there. -/
theorem contains_iif_of_ifIndex {e : Option OwnerEntry} (he : ∀ y, e = some y → y.Indexed)
    (hindex : ifIndex e ≠ 0) : (ruleWord e).contains .iif = true := by
  cases e with
  | none => exact absurd rfl hindex
  | some y => exact he y rfl hindex

namespace RuleChange

theorem keeps_grant_indexed (added : MatchSet) (i : UInt32) :
    (grant added i).Keeps OwnerEntry.Indexed := by
  intro e x he hx hne
  have hword : ruleWord (some x) = ruleWord e ∪ added := by rw [← hx, ruleWord_grant]
  have hindex : x.iif = if added = .iif then i else ifIndex e := by
    rw [← ifIndex_grant, hx]
    rfl
  rw [hword, MatchSet.contains_iif, MatchSet.has_union]
  -- an index that was there before came with the match, which an addition does not take away
  by_cases hadded : added = .iif
  · rw [hadded, MatchSet.has_iif, decide_eq_true rfl, Bool.or_true]
  · rw [if_neg hadded] at hindex
    rw [← MatchSet.contains_iif, contains_iif_of_ifIndex he (hindex ▸ hne), Bool.true_or]

/-- A removal that clears the interface match with no other, or not at all, or with all others,
leaves no stray index. -/
theorem keeps_revoke_indexed {cleared : MatchSet}
    (hcleared : cleared.contains .iif = true → cleared = .iif ∨ cleared = .everything) :
    (revoke cleared).Keeps OwnerEntry.Indexed := by
  intro e x he hx hne
  have hword : ruleWord (some x) = ruleWord e \ cleared := by rw [← hx, ruleWord_revoke]
  have hleft : ruleWord e \ cleared ≠ .empty := by
    intro hnone
    rw [revoke_eq_none_iff.2 hnone] at hx
    cases hx
  have hindex : x.iif = if cleared = .iif then 0 else ifIndex e := by
    rw [← ifIndex_revoke hleft, hx]
    rfl
  by_cases hiif : cleared = .iif
  · rw [if_pos hiif] at hindex
    exact absurd hindex hne
  · rw [if_neg hiif] at hindex
    -- a word with the match and others would have to be all of them, and then nothing is left to
    -- store
    have hout : cleared.has 7 = false := by
      rw [← MatchSet.contains_iif, Bool.eq_false_iff]
      intro hin
      have hall := (hcleared hin).resolve_left hiif
      rw [hall, MatchSet.diff_everything] at hleft
      exact hleft rfl
    rw [hword, MatchSet.contains_iif, MatchSet.has_diff, hout, ← MatchSet.contains_iif,
      contains_iif_of_ifIndex he (hindex ▸ hne)]
    rfl

end RuleChange

/-- Only the interface match alone takes the index with it: the removed word is compared as a whole,
so that a word with other matches in it leaves the index behind. -/
theorem iif_withoutMatch {x : OwnerEntry} {cleared : MatchSet} (hmore : cleared ≠ .iif) :
    ((OwnerRecord.ofEntry x).withoutMatch cleared).toEntry.iif = x.iif := if_neg hmore

namespace Turn

variable {t : Turn} {w : World}

/-- The turn clears the interface match together with other matches, and that is accepted; the
entry has an index and is left with some match. -/
def StrandsIndex (w : World) (t : Turn) : Prop :=
  ∃ uid cleared x, t.request = .mutate (.removeRule uid cleared) ∧
    (t.outcome w).result = .ok .done ∧ (t.start w).uidOwner.visible? uid = some x ∧
    x.iif ≠ 0 ∧ cleared.contains .iif = true ∧ cleared ≠ .iif ∧
    ruleWord (some x) \ cleared ≠ .empty

/-- The index stays where the interface match went. -/
theorem stores_of_strandsIndex (h : t.StrandsIndex w) : ¬IndexedEntries (t.after w).uidOwner := by
  obtain ⟨uid, cleared, x, hrequest, hok, hseen, hne, hin, hmore, hleft⟩ := h
  intro hindexed
  rcases removeRule_ends (w := w) hrequest with ⟨e, hfail, -⟩ | ⟨-, -, hwritten⟩
  · rw [hok] at hfail
    cases hfail
  · rw [hwritten, hseen, RuleChange.revoke_eq_some hleft] at hindexed
    have hstored := hindexed uid _ (by rw [Store.get?_content_write, if_pos rfl])
    rw [OwnerEntry.Indexed, iif_withoutMatch hmore] at hstored
    have hkept : (ruleWord (some x) \ cleared).contains .iif = true := hstored hne
    rw [MatchSet.contains_iif, MatchSet.has_diff, ← MatchSet.contains_iif cleared, hin,
      Bool.not_true, Bool.and_false] at hkept
    cases hkept

/-- **One turn** from a map without stray indices leaves one, unless it strands an index. Additions
check the index against the word, and the removals of the interface match alone clear it. -/
theorem indexedEntries_after (hw : IndexedEntries w.uidOwner) (h : ¬t.StrandsIndex w) :
    IndexedEntries (t.after w).uidOwner := by
  by_cases hcombined : ∃ uid cleared, t.request = .mutate (.removeRule uid cleared) ∧
      cleared.contains .iif = true ∧ cleared ≠ .iif
  · obtain ⟨uid, cleared, hrequest, hin, hmore⟩ := hcombined
    rcases removeRule_ends (w := w) hrequest with ⟨e, -, hsame⟩ | ⟨hok, happlies, hwritten⟩
    · rw [hsame]
      exact hw
    · obtain ⟨x, hseen⟩ := Option.isSome_iff_exists.1 happlies
      rw [hwritten, hseen]
      refine EveryEntry.write hw ?_
      intro y hy hne
      by_cases hleft : ruleWord (some x) \ cleared = .empty
      · rw [RuleChange.revoke_eq_none_iff.2 hleft] at hy
        cases hy
      · -- the entry stays with its index, so it would be stranded
        rw [RuleChange.revoke_eq_some hleft] at hy
        cases hy
        rw [iif_withoutMatch hmore] at hne
        exact absurd ⟨uid, cleared, x, hrequest, hok, hseen, hne, hin, hmore, hleft⟩ h
  · refine everyEntry ?_ hw
    intro m hm host uid ch hch
    obtain ⟨added, i, -, rfl⟩ | ⟨cleared, rfl, rfl⟩ | hregular := Mutation.changeAt_cases hch
    · exact RuleChange.keeps_grant_indexed added i
    · refine RuleChange.keeps_revoke_indexed fun hin => ?_
      by_cases hiif : cleared = .iif
      · exact .inl hiif
      · exact absurd ⟨uid, cleared, hm, hin, hiif⟩ hcombined
    · cases ch with
      | grant added i => exact RuleChange.keeps_grant_indexed added i
      | revoke cleared =>
        refine RuleChange.keeps_revoke_indexed fun hin => hregular ?_
        rw [← MatchSet.contains_iif]
        exact hin

end Turn

/-- **Stray indices**: over every run from a map without them, with any failures, none is ever
stored exactly if no turn clears the interface match together with others of an entry that has an
index and keeps some match. -/
theorem indexedEntries_iff {w : World} (hw : IndexedEntries w.uidOwner) (ts : List Turn) :
    EachTurn (fun w t => IndexedEntries (t.after w).uidOwner) w ts ↔
      EachTurn (fun w t => ¬t.StrandsIndex w) w ts := by
  refine eachTurn_iff (I := fun w => IndexedEntries w.uidOwner) ?_ hw ts
  intro w' t hw'
  constructor
  · intro hkept hstrands
    exact Turn.stores_of_strandsIndex hstrands hkept
  · exact Turn.indexedEntries_after hw'

/-- An id is restricted to an interface, and the restriction is dropped on its own. -/
def plainRemoval : List Turn :=
  [.plain (.mutate (.addRule 10001 .iif 3)), .plain (.mutate (.addRule 10001 .dozable 0)),
    .plain (.mutate (.removeRule 10001 .iif))]

theorem plainRemoval_indexed :
    IndexedEntries World.empty.uidOwner ∧
      (EachTurn (fun w t => IndexedEntries (t.after w).uidOwner) World.empty plainRemoval ↔
        EachTurn (fun w t => ¬t.StrandsIndex w) World.empty plainRemoval) := by
  have hstart : IndexedEntries World.empty.uidOwner := by
    intro u x hx
    cases hx
  exact ⟨hstart, indexedEntries_iff hstart plainRemoval⟩

/-- The same with one more match cleared along with the interface match, which the id does not
even have. -/
def combinedRemoval : List Turn :=
  [.plain (.mutate (.addRule 10001 .iif 3)), .plain (.mutate (.addRule 10001 .dozable 0)),
    .plain (.mutate (.removeRule 10001 (.iif ∪ .standby)))]

/-- From the empty maps, the combined removal is accepted and leaves the index of an interface
match that is gone. -/
theorem combinedRemoval_strands :
    (afterTurns World.empty combinedRemoval).uidOwner.content.get? 10001 = some ⟨3, 0, 4⟩ ∧
      (ruleWord (some ⟨3, 0, 4⟩)).contains .iif = false ∧
      ¬IndexedEntries (afterTurns World.empty combinedRemoval).uidOwner := by
  have hstored : (afterTurns World.empty combinedRemoval).uidOwner.content.get? 10001
      = some ⟨3, 0, 4⟩ := rfl
  have hgone : (ruleWord (some ⟨3, 0, 4⟩)).contains .iif = false := by decide
  refine ⟨hstored, hgone, fun hindexed => ?_⟩
  have hiif := hindexed 10001 _ hstored (by decide)
  rw [hgone] at hiif
  cases hiif

end UidPolicy
