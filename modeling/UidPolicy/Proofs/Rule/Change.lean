import UidPolicy.Proofs.Bits
import UidPolicy.Rule

/-!
# Changes of a stored entry

Every rule operation is made of two changes of one entry: matches are set, or cleared.

- `ruleWord`, `ifIndex`: the rule word and the interface index that an entry stands for; no
  entry stands for the empty word and for index zero.
- `RuleChange`: the two changes, and `RuleChange.apply` what a change makes of an entry or of
  its absence. A change made twice is a change made once (`apply_apply`).
- `ruleWord_grant`, `ruleWord_revoke`: on words the two changes are union and difference.
- `revoke_eq_none_iff`: an entry goes exactly when its last match goes.
-/

namespace UidPolicy

/-! ## What an entry stands for -/

/-- The rule word of an entry; without an entry no match is set. Whoever reads a word need not know
whether there was an entry. -/
def ruleWord (e : Option OwnerEntry) : MatchSet := (e.map fun x => ⟨x.rule⟩).getD .empty

/-- The interface index of an entry; without an entry it is zero. -/
def ifIndex (e : Option OwnerEntry) : UInt32 := (e.map (·.iif)).getD 0

@[simp] theorem ruleWord_none : ruleWord none = .empty := rfl

theorem contains_ruleWord_none (c : Chain) : (ruleWord none).contains c.bit = false := by
  rw [c.contains_bit, ruleWord_none, MatchSet.has_empty]

theorem isSome_of_contains {c : Chain} {e : Option OwnerEntry}
    (hbit : (ruleWord e).contains c.bit = true) : e.isSome = true := by
  cases e with
  | some x => rfl
  | none =>
    rw [contains_ruleWord_none] at hbit
    cases hbit

/-! ## The two changes -/

/-- A change of one rule record. All calls that change records, in batches or alone, are made of
these two. -/
inductive RuleChange where
  /-- Matches are set, with an index. -/
  | grant (added : MatchSet) (iif : UInt32)
  /-- Matches are cleared. -/
  | revoke (cleared : MatchSet)

namespace RuleChange

/-- What the change makes of a stored entry, or of its absence. An entry from which the last match
goes is removed. -/
def apply : RuleChange → Option OwnerEntry → Option OwnerEntry
  | grant added iif, e =>
    some (((e.map OwnerRecord.ofEntry).getD .empty).withMatch added iif).toEntry
  | revoke _, none => none
  | revoke cleared, some e =>
    let r := (OwnerRecord.ofEntry e).withoutMatch cleared
    if r.isEmpty then none else some r.toEntry

/-- Whether the change has something to work on: matches are cleared in an entry only. -/
def applies : RuleChange → Option OwnerEntry → Bool
  | grant .., _ => true
  | revoke _, e => e.isSome

theorem apply_of_not_applies {ch : RuleChange} {e : Option OwnerEntry}
    (h : ch.applies e = false) : ch.apply e = e := by
  cases ch with
  | grant => cases h
  | revoke => cases e with
    | none => rfl
    | some e => cases h

end RuleChange

namespace OwnerRecord

theorem withMatch_withMatch (r : OwnerRecord) (m : MatchSet) (i : UInt32) :
    (r.withMatch m i).withMatch m i = r.withMatch m i := by
  have hrule : r.rule ∪ m ∪ m = r.rule ∪ m :=
    MatchSet.ext_has fun j => by simp
  by_cases hm : m = .iif
  · simp only [withMatch, hrule, if_pos hm]
  · simp only [withMatch, hrule, if_neg hm]

theorem withoutMatch_withoutMatch (r : OwnerRecord) (m : MatchSet) :
    (r.withoutMatch m).withoutMatch m = r.withoutMatch m := by
  have hrule : (r.rule \ m) \ m = r.rule \ m :=
    MatchSet.ext_has fun j => by simp
  by_cases hm : m = .iif
  · simp only [withoutMatch, hrule, if_pos hm]
  · simp only [withoutMatch, hrule, if_neg hm]

end OwnerRecord

namespace RuleChange

theorem apply_apply (ch : RuleChange) (e : Option OwnerEntry) :
    ch.apply (ch.apply e) = ch.apply e := by
  -- a change reads only the word it addresses, so what the first one left is all that the second
  -- one sees
  cases ch with
  | grant m i =>
    show some _ = some _
    rw [apply, Option.map_some, Option.getD_some, OwnerRecord.ofEntry_toEntry,
      OwnerRecord.withMatch_withMatch]
  | revoke m =>
    cases e with
    | none => rfl
    | some e =>
      rw [apply]
      by_cases hempty : ((OwnerRecord.ofEntry e).withoutMatch m).isEmpty
      · rw [if_pos hempty]
        rfl
      · rw [if_neg hempty, apply, OwnerRecord.ofEntry_toEntry,
          OwnerRecord.withoutMatch_withoutMatch, if_neg hempty]

/-! ### Words and indices -/

theorem ruleWord_grant (m : MatchSet) (i : UInt32) (e : Option OwnerEntry) :
    ruleWord ((grant m i).apply e) = ruleWord e ∪ m := by
  cases e with
  | none => rfl
  | some x => rfl

theorem ifIndex_grant (m : MatchSet) (i : UInt32) (e : Option OwnerEntry) :
    ifIndex ((grant m i).apply e) = if m = .iif then i else ifIndex e := by
  cases e with
  | none => rfl
  | some x => rfl

/-- An entry goes exactly when its last match goes. -/
theorem revoke_eq_none_iff {m : MatchSet} {e : Option OwnerEntry} :
    (revoke m).apply e = none ↔ ruleWord e \ m = .empty := by
  cases e with
  | none => exact ⟨fun _ => MatchSet.ext_has fun j => by simp, fun _ => rfl⟩
  | some x =>
    rw [apply, ← MatchSet.isEmpty_iff]
    by_cases hempty : ((OwnerRecord.ofEntry x).withoutMatch m).isEmpty
    · rw [if_pos hempty]
      exact ⟨fun _ => hempty, fun _ => rfl⟩
    · rw [if_neg hempty]
      exact ⟨fun h => (nomatch h), fun h => absurd h hempty⟩

/-- An entry that stays keeps the rest of its word, and its index unless the interface match
went. -/
theorem revoke_eq_some {m : MatchSet} {x : OwnerEntry} (h : ruleWord (some x) \ m ≠ .empty) :
    (revoke m).apply (some x)
      = some ((OwnerRecord.ofEntry x).withoutMatch m).toEntry := by
  rw [apply, if_neg]
  exact fun hempty => h (MatchSet.isEmpty_iff.1 hempty)

theorem ruleWord_revoke (m : MatchSet) (e : Option OwnerEntry) :
    ruleWord ((revoke m).apply e) = ruleWord e \ m := by
  by_cases h : ruleWord e \ m = .empty
  · rw [revoke_eq_none_iff.2 h, h]
    rfl
  · cases e with
    | none => exact absurd (MatchSet.ext_has fun j => by simp) h
    | some x =>
      rw [revoke_eq_some h]
      rfl

theorem ifIndex_revoke {m : MatchSet} {e : Option OwnerEntry}
    (h : ruleWord e \ m ≠ .empty) :
    ifIndex ((revoke m).apply e) = if m = .iif then 0 else ifIndex e := by
  cases e with
  | none => exact absurd (MatchSet.ext_has fun j => by simp) h
  | some x =>
    rw [revoke_eq_some h]
    rfl

theorem ifIndex_revoke_iif (e : Option OwnerEntry) : ifIndex ((revoke .iif).apply e) = 0 := by
  by_cases h : ruleWord e \ .iif = .empty
  · rw [revoke_eq_none_iff.2 h]
    rfl
  · rw [ifIndex_revoke h, if_pos rfl]

end RuleChange

end UidPolicy
