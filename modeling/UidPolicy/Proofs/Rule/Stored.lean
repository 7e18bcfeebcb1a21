import UidPolicy.Proofs.Rule.Change

/-!
# Records and their stored form

A record without matches is not stored at all. On records, the two changes have a meaning of
their own: a change addresses some positions of the word, and the index belongs to position 7.

- `OwnerRecord.stored`: the stored form of a record, if it has any match.
- `OwnerRecord.Indexed`: an index other than zero comes with the interface match.
- `RuleChange.onRecord`: a change of a record, read position by position;
  `indexed_onRecord` is that it keeps records indexed, whatever the word.
- `RuleChange.Regular`: the interface match is set or cleared alone, or everything is cleared.
- `apply_stored`: on stored forms, a regular change is the change of the record.

Matches are added to a record and cleared of it, in words of any kind. Every position of the rule
word is what the last word that has it made of it. The index follows another rule: only a word that
is the interface match and nothing else changes it.

- `foldl_lastSet`: what each step of a run either sets or keeps, the last step that sets it decides.
- `RuleChange.amend`: a change of a record. `RuleChange.indexSet`: what it makes of the index.
- `OwnerRecord.amended`: a run of changes.
- `amended_lastChange`: word and index after a run, and that a record is read back from its stored
  form at every point of it.
-/

namespace UidPolicy

/-! ## Stored records -/

namespace OwnerRecord

/-- The stored form of a record; nothing is stored for a record without matches, and padding is
always zero. -/
def stored (r : OwnerRecord) : Option OwnerEntry :=
  if r.isEmpty then none else some r.toEntry

/-- An index other than zero comes with the interface match. -/
def Indexed (r : OwnerRecord) : Prop := r.iif ≠ 0 → r.rule.has 7 = true

theorem stored_eq_none_iff {r : OwnerRecord} : r.stored = none ↔ r.rule = .empty := by
  rw [stored, ← MatchSet.isEmpty_iff]
  by_cases hempty : r.isEmpty
  · rw [if_pos hempty]
    exact ⟨fun _ => hempty, fun _ => rfl⟩
  · rw [if_neg hempty]
    exact ⟨fun h => (nomatch h), fun h => absurd h hempty⟩

theorem stored_of_ne_empty {r : OwnerRecord} (h : r.rule ≠ .empty) :
    r.stored = some r.toEntry := by
  have hempty : ¬ r.isEmpty = true := fun hempty => h (MatchSet.isEmpty_iff.1 hempty)
  rw [stored, if_neg hempty]

theorem ruleWord_stored (r : OwnerRecord) : ruleWord r.stored = r.rule := by
  by_cases h : r.rule = .empty
  · rw [stored_eq_none_iff.2 h, h]
    rfl
  · rw [stored_of_ne_empty h]
    rfl

theorem Indexed.eq_empty {r : OwnerRecord} (hindexed : r.Indexed) (h : r.rule = .empty) :
    r = .empty := by
  have hiif : r.iif = 0 := by
    by_cases hzero : r.iif = 0
    · exact hzero
    · have hbit := hindexed hzero
      rw [h, MatchSet.has_empty] at hbit
      cases hbit
  cases r
  subst h hiif
  rfl

/-- An indexed record is read back from its stored form. Without a match it has no index either, so
nothing is lost with the entry. -/
theorem Indexed.ofEntry_stored {r : OwnerRecord} (hindexed : r.Indexed) :
    (r.stored.map ofEntry).getD .empty = r := by
  by_cases h : r.rule = .empty
  · rw [stored_eq_none_iff.2 h, hindexed.eq_empty h]
    rfl
  · rw [stored_of_ne_empty h]
    rfl

end OwnerRecord

/-! ## Changes of records -/

namespace RuleChange

/-- The change of a record, position by position: granted positions are set and revoked ones
cleared, and the index follows position 7. -/
def onRecord : RuleChange → OwnerRecord → OwnerRecord
  | grant added index, r => ⟨if added.has 7 then index else r.iif, r.rule ∪ added⟩
  | revoke cleared, r => ⟨if cleared.has 7 then 0 else r.iif, r.rule \ cleared⟩

/-- What the change makes of one position, if it addresses it: the match is set or cleared, whatever
it was. -/
def mark (i : Nat) : RuleChange → Option Bool
  | grant added _ => if added.has i then some true else none
  | revoke cleared => if cleared.has i then some false else none

/-- The interface match is set or cleared alone, or everything is cleared. The index is set and
cleared by a word that is the interface match, not by one that only has it among others. -/
def Regular : RuleChange → Prop
  | grant added _ => added ≠ .empty ∧ (added.has 7 = true → added = .iif)
  | revoke cleared => cleared.has 7 = true → cleared = .iif ∨ cleared = .everything

theorem has_onRecord (ch : RuleChange) (r : OwnerRecord) (i : Nat) :
    (ch.onRecord r).rule.has i = (ch.mark i).getD (r.rule.has i) := by
  cases ch with
  | grant added index =>
    show (r.rule ∪ added).has i = (mark i (grant added index)).getD _
    rw [MatchSet.has_union, mark]
    cases added.has i with
    | true => exact Bool.or_true _
    | false => exact Bool.or_false _
  | revoke cleared =>
    show (r.rule \ cleared).has i = (mark i (revoke cleared)).getD _
    rw [MatchSet.has_diff, mark]
    cases cleared.has i with
    | true => exact Bool.and_false _
    | false => exact Bool.and_true _

/-- Losing a chain's match that it does not have leaves a record as it was. -/
theorem onRecord_revoke_bit {c : Chain} {r : OwnerRecord}
    (h : r.rule.has c.position = false) : (revoke c.bit).onRecord r = r := by
  have hiif : ¬ c.bit.has 7 = true := by
    rw [c.has_bit, decide_eq_true_iff]
    exact c.position_ne_iif
  rw [onRecord, if_neg hiif, c.diff_bit h]

theorem indexed_onRecord (ch : RuleChange) {r : OwnerRecord} (hindexed : r.Indexed) :
    (ch.onRecord r).Indexed := by
  intro hne
  rw [has_onRecord]
  -- the index and position 7 are read off the same word: where it has the match both are new, and
  -- where it has not both are those of the record
  cases ch with
  | grant added index =>
    rw [mark]
    by_cases hiif : added.has 7 = true
    · rw [if_pos hiif]
      rfl
    · rw [onRecord, if_neg hiif] at hne
      rw [if_neg hiif]
      exact hindexed hne
  | revoke cleared =>
    rw [mark]
    by_cases hiif : cleared.has 7 = true
    · rw [onRecord, if_pos hiif] at hne
      exact absurd rfl hne
    · rw [onRecord, if_neg hiif] at hne
      rw [if_neg hiif]
      exact hindexed hne

/-- On stored forms, a regular change is the change of the record. -/
theorem apply_stored {ch : RuleChange} (hregular : ch.Regular) {r : OwnerRecord}
    (hindexed : r.Indexed) : ch.apply r.stored = (ch.onRecord r).stored := by
  cases ch with
  | grant added index =>
    obtain ⟨hne, halone⟩ := hregular
    have hiif : added = .iif ↔ added.has 7 = true :=
      ⟨fun h => by rw [h, MatchSet.has_iif, decide_eq_true rfl], halone⟩
    have hsame : r.withMatch added index = (grant added index).onRecord r := by
      simp only [OwnerRecord.withMatch, onRecord, hiif]
    have hkept : ((grant added index).onRecord r).rule ≠ .empty := by
      intro hempty
      refine hne (MatchSet.ext_has fun i => ?_)
      have hi : (r.rule ∪ added).has i = MatchSet.empty.has i := congrArg (·.has i) hempty
      rw [MatchSet.has_union, MatchSet.has_empty, Bool.or_eq_false_iff] at hi
      rw [hi.2, MatchSet.has_empty]
    rw [apply, hindexed.ofEntry_stored, hsame, OwnerRecord.stored_of_ne_empty hkept]
  | revoke cleared =>
    by_cases hleft : r.rule \ cleared = .empty
    · have hgone : ruleWord r.stored \ cleared = .empty := by
        rw [OwnerRecord.ruleWord_stored, hleft]
      rw [revoke_eq_none_iff.2 hgone]
      exact (OwnerRecord.stored_eq_none_iff.2 hleft).symm
    · have hrule : r.rule ≠ .empty := by
        intro hempty
        refine hleft (MatchSet.ext_has fun i => ?_)
        rw [hempty, MatchSet.has_diff, MatchSet.has_empty, Bool.false_and]
      -- some match is left, so not everything is cleared
      have hiif : cleared = .iif ↔ cleared.has 7 = true := by
        constructor
        · intro h
          rw [h, MatchSet.has_iif, decide_eq_true rfl]
        · intro h
          refine (hregular h).resolve_right fun hall => hleft ?_
          rw [hall, MatchSet.diff_everything]
      have hsame : r.withoutMatch cleared = (revoke cleared).onRecord r := by
        simp only [OwnerRecord.withoutMatch, onRecord, hiif]
      have hstored : ruleWord (some r.toEntry) \ cleared ≠ .empty := hleft
      rw [OwnerRecord.stored_of_ne_empty hrule, revoke_eq_some hstored,
        OwnerRecord.ofEntry_toEntry, hsame, OwnerRecord.stored_of_ne_empty hleft]

end RuleChange

/-! ## Runs of changes -/

/-- What each step of a run either sets or keeps is what the last step that sets it made of it, and
as it was if no step sets it. -/
theorem foldl_lastSet {S A B : Type} (step : S → B → S) (view : S → A) (set : B → Option A)
    (hstep : ∀ s b, view (step s b) = (set b).getD (view s)) (bs : List B) (s : S) :
    view (bs.foldl step s) = (bs.reverse.findSome? set).getD (view s) := by
  induction bs generalizing s with
  | nil => rfl
  | cons b rest ih =>
    rw [List.foldl_cons, ih, hstep, List.reverse_cons, List.findSome?_append,
      List.findSome?_singleton]
    -- a later step decides; this one counts if no later one sets the value
    cases rest.reverse.findSome? set with
    | none => rfl
    | some a => rfl

namespace RuleChange

/-- What the change makes of a record, with no map in between. -/
def amend : RuleChange → OwnerRecord → OwnerRecord
  | grant added index, r => r.withMatch added index
  | revoke cleared, r => r.withoutMatch cleared

/-- What the change makes of the index, if its word is the interface match alone. -/
def indexSet : RuleChange → Option UInt32
  | grant added index => if added = .iif then some index else none
  | revoke cleared => if cleared = .iif then some 0 else none

/-- **One change** decides the positions of its word and keeps the others. -/
theorem has_amend (ch : RuleChange) (r : OwnerRecord) (i : Nat) :
    (ch.amend r).rule.has i = (ch.mark i).getD (r.rule.has i) := by
  rw [← has_onRecord]
  cases ch with
  | grant added index => rfl
  | revoke cleared => rfl

theorem iif_amend (ch : RuleChange) (r : OwnerRecord) :
    (ch.amend r).iif = ch.indexSet.getD r.iif := by
  cases ch with
  | grant added index =>
    show (if added = .iif then index else r.iif) = _
    rw [indexSet]
    split <;> rfl
  | revoke cleared =>
    show (if cleared = .iif then 0 else r.iif) = _
    rw [indexSet]
    split <;> rfl

end RuleChange

/-- The record after a run of changes. -/
def OwnerRecord.amended (r : OwnerRecord) (chs : List RuleChange) : OwnerRecord :=
  chs.foldl (fun r ch => ch.amend r) r

/-- **After any run of changes** a position of the word is as the last change made it whose word has
it, and as it was before if there is none; the index is that of the last change whose word is the
interface match alone, zero if that change cleared it, and as it was before if there is none. At
every point of the run the record is read back from its stored form, which has no padding. -/
theorem amended_lastChange (r : OwnerRecord) (chs : List RuleChange) :
    (∀ i, (r.amended chs).rule.has i
        = (chs.reverse.findSome? (RuleChange.mark i)).getD (r.rule.has i)) ∧
      (r.amended chs).iif = (chs.reverse.findSome? RuleChange.indexSet).getD r.iif ∧
      ∀ n, OwnerRecord.ofEntry (r.amended (chs.take n)).toEntry = r.amended (chs.take n) ∧
        (r.amended (chs.take n)).toEntry.pad = 0 := by
  refine ⟨fun i => ?_, ?_, fun n => ?_⟩
  · exact foldl_lastSet _ (fun r => r.rule.has i) _ (fun r ch => ch.has_amend r i) chs r
  · exact foldl_lastSet _ OwnerRecord.iif _ (fun r ch => ch.iif_amend r) chs r
  · exact ⟨(r.amended (chs.take n)).ofEntry_toEntry, (r.amended (chs.take n)).pad_toEntry⟩

end UidPolicy
