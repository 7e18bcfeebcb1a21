import UidPolicy.Proofs.Firewall.Entries

/-!
# Entries without matches

An entry stands for the matches of its word, so one with the empty word says nothing that its
absence would not say. Removals never leave such an entry behind, whatever fails
(`keeps_revoke_nonempty`); additions write what they are asked for. So there is exactly one way
to store an entry without matches.

- `Turn.AddsNothing`: the empty word is added for an id without an entry, and that is accepted.
- `noEmptyWords_iff`: over every run, no entry without matches is ever stored exactly if no turn
  adds nothing.
- `emptyAddition_stored`: such a turn from the empty maps.
-/

namespace UidPolicy

open Firewall (NoEmptyWords)
open Memory (World Setting)

/-- The entry stands for some match. One without any says no more than no entry, and takes up a
place. -/
def OwnerEntry.HasMatch (x : OwnerEntry) : Prop := ruleWord (some x) ≠ .empty

namespace RuleChange

/-- A removal deletes an entry that is left without matches. -/
theorem keeps_revoke_nonempty (cleared : MatchSet) :
    (revoke cleared).Keeps OwnerEntry.HasMatch := by
  intro e x _ hx hempty
  rw [← hx, ruleWord_revoke] at hempty
  rw [revoke_eq_none_iff.2 hempty] at hx
  cases hx

/-- An addition of some match leaves an entry with it. -/
theorem keeps_grant_nonempty {added : MatchSet} (hadded : added ≠ .empty) (i : UInt32) :
    (grant added i).Keeps OwnerEntry.HasMatch := by
  intro e x _ hx hempty
  rw [← hx, ruleWord_grant] at hempty
  refine hadded (MatchSet.ext_has fun j => ?_)
  have hj : (ruleWord e ∪ added).has j = MatchSet.empty.has j := congrArg (·.has j) hempty
  rw [MatchSet.has_union, MatchSet.has_empty, Bool.or_eq_false_iff] at hj
  rw [hj.2, MatchSet.has_empty]

end RuleChange

namespace Turn

variable {t : Turn} {w : World}

/-- The turn adds the empty word for an id without an entry, and that is accepted. Of all calls with
all arguments this is the only way to an entry without matches. -/
def AddsNothing (w : World) (t : Turn) : Prop :=
  ∃ uid i, t.request = .mutate (.addRule uid .empty i) ∧ (t.outcome w).result = .ok .done ∧
    (t.start w).uidOwner.visible? uid = none

/-- What is added for an id without an entry is all that its new entry has. -/
theorem stores_of_addsNothing (h : t.AddsNothing w) : ¬NoEmptyWords (t.after w).uidOwner := by
  obtain ⟨uid, i, hrequest, hok, hunseen⟩ := h
  intro hwords
  rcases addRule_ends (w := w) hrequest with ⟨e, hfail, -⟩ | ⟨-, -, hwritten⟩
  · rw [hok] at hfail
    cases hfail
  · rw [hwritten, hunseen] at hwords
    exact hwords uid _ (by rw [Store.get?_content_write, if_pos rfl]; rfl) rfl

/-- **One turn** from a map without empty words leaves one, unless it adds nothing. A removal looks
at what is left, and the other calls add some match. -/
theorem noEmptyWords_after (hw : NoEmptyWords w.uidOwner) (h : ¬t.AddsNothing w) :
    NoEmptyWords (t.after w).uidOwner := by
  by_cases hadd : ∃ uid i, t.request = .mutate (.addRule uid .empty i)
  · obtain ⟨uid, i, hrequest⟩ := hadd
    rcases addRule_ends (w := w) hrequest with ⟨e, -, hsame⟩ | ⟨hok, -, hwritten⟩
    · rw [hsame]
      exact hw
    · cases hseen : (t.start w).uidOwner.visible? uid with
      | none => exact absurd ⟨uid, i, hrequest, hok, hseen⟩ h
      | some x =>
        -- the entry that is there keeps its matches
        rw [hwritten, hseen]
        have hstart : EveryEntry OwnerEntry.HasMatch (t.start w).uidOwner := hw
        refine hstart.write fun y hy => ?_
        rw [OwnerEntry.HasMatch, ← hy, RuleChange.ruleWord_grant]
        have hunion : ruleWord (some x) ∪ MatchSet.empty = ruleWord (some x) :=
          MatchSet.ext_has fun j => by rw [MatchSet.has_union, MatchSet.has_empty, Bool.or_false]
        rw [hunion]
        exact hstart uid x (Store.get?_of_visible? hseen)
  · refine everyEntry (P := OwnerEntry.HasMatch) ?_ hw
    intro m hm host uid ch hch
    obtain ⟨added, i, rfl, rfl⟩ | ⟨cleared, -, rfl⟩ | hregular := Mutation.changeAt_cases hch
    · refine RuleChange.keeps_grant_nonempty ?_ i
      rintro rfl
      exact hadd ⟨uid, i, hm⟩
    · exact RuleChange.keeps_revoke_nonempty cleared
    · cases ch with
      | grant added i => exact RuleChange.keeps_grant_nonempty hregular.1 i
      | revoke cleared => exact RuleChange.keeps_revoke_nonempty cleared

end Turn

/-- **Entries without matches**: over every run from a map without them, with any failures, none
is ever stored exactly if no turn adds the empty word for an id without an entry. -/
theorem noEmptyWords_iff {w : World} (hw : NoEmptyWords w.uidOwner) (ts : List Turn) :
    EachTurn (fun w t => NoEmptyWords (t.after w).uidOwner) w ts ↔
      EachTurn (fun w t => ¬t.AddsNothing w) w ts := by
  refine eachTurn_iff (I := fun w => NoEmptyWords w.uidOwner) ?_ hw ts
  intro w' t hw'
  constructor
  · intro hkept hadds
    exact Turn.stores_of_addsNothing hadds hkept
  · exact Turn.noEmptyWords_after hw'

/-- A chain's match comes and goes, and the empty word is added while it is there. -/
def harmlessAddition : List Turn :=
  [.plain (.mutate (.addRule 10001 .dozable 0)), .plain (.mutate (.addRule 10001 .empty 0)),
    .plain (.mutate (.removeRule 10001 .dozable))]

theorem harmlessAddition_noEmptyWords :
    NoEmptyWords World.empty.uidOwner ∧
      (EachTurn (fun w t => NoEmptyWords (t.after w).uidOwner) World.empty harmlessAddition ↔
        EachTurn (fun w t => ¬t.AddsNothing w) World.empty harmlessAddition) := by
  have hstart : NoEmptyWords World.empty.uidOwner := by
    intro u e he
    cases he
  exact ⟨hstart, noEmptyWords_iff hstart harmlessAddition⟩

/-- From the empty maps, an addition of the empty word is accepted and stores an entry without
matches. -/
theorem emptyAddition_stored :
    ((Turn.plain (.mutate (.addRule 10001 .empty 0))).outcome World.empty).result = .ok .done ∧
      (afterTurns World.empty
        [.plain (.mutate (.addRule 10001 .empty 0))]).uidOwner.content.get? 10001
          = some ⟨0, 0, 0⟩ ∧
      ¬NoEmptyWords (afterTurns World.empty
        [.plain (.mutate (.addRule 10001 .empty 0))]).uidOwner :=
  ⟨rfl, rfl, fun hwords => hwords 10001 ⟨0, 0, 0⟩ rfl rfl⟩

end UidPolicy
