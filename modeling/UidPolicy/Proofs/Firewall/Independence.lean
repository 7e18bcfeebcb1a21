import Mathlib.Logic.Basic
import UidPolicy.Proofs.Firewall.Effect
import UidPolicy.Proofs.Firewall.Entries
import UidPolicy.Proofs.Firewall.Observed
import UidPolicy.Proofs.Locks

/-!
# Independent updates

An update sets or clears one match of one id. Two updates are independent if they concern two ids or
two matches, and then it does not matter which of them comes first. The way there may well differ:
in one order an entry goes and comes back, or an update finds no entry that it finds in the other.

- `RuleChange.onRecord_comm`: changes of words without a common position commute on records.
- `RuleChange.apply_comm`, `effect_comm`: so they do on well-formed entries, and on the maps.
- `Mutation.Addresses`, `Update`: the calls that are updates, by id and position.
- `updates_commute`: two independent updates in either order, and any number of them in any order,
  leave the same maps, whatever fails.

The entries have to be well-formed. An index without the interface match is lost when the last match
of its entry goes, and so it matters whether another match has been set before.
-/

namespace UidPolicy

open Memory (World Setting)

/-! ## Changes of records -/

namespace RuleChange

/-- The matches that the change sets or clears. -/
def word : RuleChange → MatchSet
  | grant added _ => added
  | revoke cleared => cleared

/-- What the change makes of the index, if it addresses the interface match. Other changes leave the
index alone, so it needs no comparing there. -/
def indexMark : RuleChange → Option UInt32
  | grant added index => if added.has 7 then some index else none
  | revoke cleared => if cleared.has 7 then some 0 else none

theorem mark_eq_none {ch : RuleChange} {i : Nat} (h : ch.word.has i = false) :
    ch.mark i = none := by
  cases ch with
  | grant added index => exact if_neg (Bool.eq_false_iff.1 h)
  | revoke cleared => exact if_neg (Bool.eq_false_iff.1 h)

theorem indexMark_eq_none {ch : RuleChange} (h : ch.word.has 7 = false) :
    ch.indexMark = none := by
  cases ch with
  | grant added index => exact if_neg (Bool.eq_false_iff.1 h)
  | revoke cleared => exact if_neg (Bool.eq_false_iff.1 h)

theorem iif_onRecord (ch : RuleChange) (r : OwnerRecord) :
    (ch.onRecord r).iif = ch.indexMark.getD r.iif := by
  cases ch with
  | grant added index =>
    rw [onRecord, indexMark]
    split <;> rfl
  | revoke cleared =>
    rw [onRecord, indexMark]
    split <;> rfl

/-- **Changes of words without a common position commute.** Words are sets of positions, and at most
one of the two changes addresses the index. -/
theorem onRecord_comm {ch ch' : RuleChange}
    (hapart : ∀ i, ch.word.has i = true → ch'.word.has i = false) (r : OwnerRecord) :
    ch'.onRecord (ch.onRecord r) = ch.onRecord (ch'.onRecord r) := by
  have hindex : (ch'.onRecord (ch.onRecord r)).iif = (ch.onRecord (ch'.onRecord r)).iif := by
    rw [iif_onRecord, iif_onRecord, iif_onRecord, iif_onRecord]
    cases hbit : ch.word.has 7 with
    | true => rw [indexMark_eq_none (hapart 7 hbit)]; rfl
    | false => rw [indexMark_eq_none hbit]; rfl
  have hrule : (ch'.onRecord (ch.onRecord r)).rule = (ch.onRecord (ch'.onRecord r)).rule := by
    refine MatchSet.ext_has fun i => ?_
    rw [has_onRecord, has_onRecord, has_onRecord, has_onRecord]
    cases hbit : ch.word.has i with
    | true => rw [mark_eq_none (hapart i hbit)]; rfl
    | false => rw [mark_eq_none hbit]; rfl
  exact congrArg₂ OwnerRecord.mk hindex hrule

/-! ## Changes of entries -/

/-- A change sees the record of an entry only, so two entries with one record come out the same,
padding included. -/
theorem apply_congr (ch : RuleChange) {e e' : Option OwnerEntry}
    (h : e.map OwnerRecord.ofEntry = e'.map OwnerRecord.ofEntry) : ch.apply e = ch.apply e' := by
  cases ch with
  | grant added index => rw [apply, apply, h]
  | revoke cleared =>
    cases e with
    | none =>
      cases e' with
      | none => rfl
      | some y => cases h
    | some x =>
      cases e' with
      | none => cases h
      | some y => rw [apply, apply, Option.some.inj h]

end RuleChange

/-- The stored form of an indexed record is well-formed. -/
theorem OwnerRecord.Indexed.wellFormed_stored {r : OwnerRecord} (hindexed : r.Indexed) :
    ∀ x, r.stored = some x → x.WellFormed := by
  intro x hx
  have hrule : r.rule ≠ .empty := by
    intro hempty
    rw [stored_eq_none_iff.2 hempty] at hx
    cases hx
  rw [stored_of_ne_empty hrule] at hx
  cases hx
  refine ⟨hrule, fun hne => ?_⟩
  rw [MatchSet.contains_iif]
  exact hindexed hne

/-- A well-formed entry has the record of a stored form. -/
theorem exists_record {e : Option OwnerEntry} (hwf : ∀ x, e = some x → x.WellFormed) :
    ∃ r : OwnerRecord, r.Indexed ∧
      e.map OwnerRecord.ofEntry = r.stored.map OwnerRecord.ofEntry := by
  cases e with
  | none => exact ⟨.empty, fun hne => absurd rfl hne, rfl⟩
  | some x =>
    obtain ⟨hrule, hindex⟩ := hwf x rfl
    refine ⟨OwnerRecord.ofEntry x, ?_, ?_⟩
    · intro hne
      rw [← MatchSet.contains_iif]
      exact hindex hne
    · rw [OwnerRecord.stored_of_ne_empty hrule]
      rfl

namespace RuleChange

section Regular

variable {ch ch' : RuleChange} {e : Option OwnerEntry}

/-- A change of one match is regular. -/
theorem regular_of_single {i : Nat} (hi : i < 64) (hword : ch.word = .single i) : ch.Regular := by
  -- the interface match is position 7, so a single match that has it is it
  have hiif : (MatchSet.single i).has 7 = true → MatchSet.single i = .iif := by
    intro hbit
    rw [MatchSet.has_single hi, decide_eq_true_iff] at hbit
    rw [hbit]
    rfl
  cases ch with
  | grant added index =>
    obtain rfl : added = .single i := hword
    refine ⟨fun hempty => ?_, hiif⟩
    -- a single match below 64 is not the empty word
    have hbit := MatchSet.has_single hi i
    rw [hempty, MatchSet.has_empty, decide_eq_true rfl] at hbit
    cases hbit
  | revoke cleared =>
    obtain rfl : cleared = .single i := hword
    exact fun hbit => .inl (hiif hbit)

theorem keeps_wellFormed (hregular : ch.Regular) : ch.Keeps OwnerEntry.WellFormed := by
  intro e x hwf hx
  obtain ⟨r, hindexed, hrecord⟩ := exists_record hwf
  rw [ch.apply_congr hrecord, apply_stored hregular hindexed] at hx
  exact (ch.indexed_onRecord hindexed).wellFormed_stored x hx

/-- **On well-formed entries** regular changes of words without a common position commute. An entry
that is not well-formed may be deleted on one way and rewritten on the other. -/
theorem apply_comm (hregular : ch.Regular) (hregular' : ch'.Regular)
    (hapart : ∀ i, ch.word.has i = true → ch'.word.has i = false)
    (hwf : ∀ x, e = some x → x.WellFormed) :
    ch'.apply (ch.apply e) = ch.apply (ch'.apply e) := by
  obtain ⟨r, hindexed, hrecord⟩ := exists_record hwf
  calc ch'.apply (ch.apply e)
      = ch'.apply (ch.onRecord r).stored := by
        rw [ch.apply_congr hrecord, apply_stored hregular hindexed]
    _ = (ch'.onRecord (ch.onRecord r)).stored :=
        apply_stored hregular' (ch.indexed_onRecord hindexed)
    _ = (ch.onRecord (ch'.onRecord r)).stored := by rw [onRecord_comm hapart]
    _ = ch.apply (ch'.onRecord r).stored :=
        (apply_stored hregular (ch'.indexed_onRecord hindexed)).symm
    _ = ch.apply (ch'.apply e) := by
        rw [ch'.apply_congr hrecord, apply_stored hregular' hindexed]

end Regular

/-! ## Effects -/

section Effect

variable {ch ch' : RuleChange} {uid uid' : Uid} {w : World}

theorem wellFormed_effect (hregular : ch.Regular) (hwf : WellFormedEntries w.uidOwner) :
    WellFormedEntries (ch.effect uid w).uidOwner := by
  rw [effect]
  split
  · exact EveryEntry.change hwf (keeps_wellFormed hregular) uid
  · exact hwf

/-- **On well-formed maps** the effects commute, for two ids or for words without a common
position. -/
theorem effect_comm (hregular : ch.Regular) (hregular' : ch'.Regular)
    (hapart : uid ≠ uid' ∨ ∀ i, ch.word.has i = true → ch'.word.has i = false)
    (hwf : WellFormedEntries w.uidOwner) :
    ch'.effect uid' (ch.effect uid w) = ch.effect uid (ch'.effect uid' w) := by
  by_cases hne : uid = uid'
  · subst hne
    have hwords := hapart.resolve_left fun hne => hne rfl
    rw [effect_effect, effect_effect,
      apply_comm hregular hregular' hwords (Firewall.wellFormed_visible? hwf uid)]
    simp only [or_comm]
  · exact effect_comm_of_ne ch ch' hne w

end Effect

end RuleChange

/-! ## Updates -/

namespace Mutation

/-- The call sets or clears the match at one position for one id, and nothing else. A batch with one
id counts as such a call, a replacement does not. -/
inductive Addresses : Mutation → Uid → Nat → Prop where
  | addRule (uid : Uid) {i : Nat} (hi : i < 64) (index : UInt32) :
    Addresses (.addRule uid (.single i) index) uid i
  | removeRule (uid : Uid) {i : Nat} (hi : i < 64) : Addresses (.removeRule uid (.single i)) uid i
  | setUidRule (c : Chain) (uid : Uid) (v : Verdict) :
    Addresses (.setUidRule c uid v) uid c.position
  /-- The lockdown match has position 8. -/
  | setLockdown (uid : Uid) (add : Bool) : Addresses (.setLockdown uid add) uid 8
  /-- The interface match has position 7. -/
  | addInterfaceRules (name : Option String) (uid : Uid) :
    Addresses (.addInterfaceRules name [uid]) uid 7
  | removeInterfaceRules (uid : Uid) : Addresses (.removeInterfaceRules [uid]) uid 7

/-- Behind a poisoned lock a call does nothing; otherwise it does what it does without a setting. -/
theorem after_backing (s : Setting) (m : Mutation) (w : World) :
    m.after s.backing w
      = if s.poisoned .uidOwner then w else m.after (Memory.backing s.host) w := by
  cases hlock : s.poisoned .uidOwner with
  | true =>
    rw [if_pos rfl, ← world_run, run_poisoned hlock]
  | false =>
    have hhost : m.run s.backing.unpoisoned = m.run (Memory.backing s.host) := by
      cases m <;> rfl
    rw [if_neg Bool.false_ne_true, ← world_run, run_unpoisoned (b := s.backing) hlock, hhost,
      world_run]

section Host

variable (h : Memory.Host) (uid : Uid) (w : World)

theorem after_addRule (added : MatchSet) (index : UInt32) :
    (addRule uid added index).after (Memory.backing h) w
      = if index = 0 ∨ added = .iif then (RuleChange.grant added index).effect uid w else w := by
  by_cases hvalid : index = 0 ∨ added = .iif
  · rw [if_pos hvalid, after, Firewall.addRule_eq h hvalid, RuleChange.world_perform]
  · rw [if_neg hvalid, after, Firewall.addRule, OwnerRecord.validateAdd,
      if_pos (not_or.1 hvalid)]
    rfl

theorem after_removeRule (cleared : MatchSet) :
    (removeRule uid cleared).after (Memory.backing h) w
      = (RuleChange.revoke cleared).effect uid w := by
  rw [after, Firewall.removeRule_eq, RuleChange.world_perform]

/-- **A call that addresses one match of one id** does nothing at all in a setting, or it changes
that match of that id and does nothing else. -/
theorem Addresses.after_cases {m : Mutation} {uid : Uid} {i : Nat} (hm : m.Addresses uid i)
    (s : Setting) :
    (∀ w, m.after s.backing w = w) ∨
      ∃ ch : RuleChange, i < 64 ∧ ch.word = .single i ∧
        ∀ w, m.after s.backing w = ch.effect uid w := by
  simp only [after_backing]
  -- a poisoned lock stops every one of these calls before it has read anything
  cases s.poisoned .uidOwner with
  | true => exact .inl fun _ => rfl
  | false =>
    simp only [Bool.false_eq_true, if_false]
    cases hm with
    | addRule _ hi index =>
      simp only [after_addRule]
      -- an index with another match is refused
      by_cases hvalid : index = 0 ∨ MatchSet.single i = .iif
      · exact .inr ⟨.grant (.single i) index, hi, rfl, fun _ => if_pos hvalid⟩
      · exact .inl fun _ => if_neg hvalid
    | removeRule _ hi =>
      exact .inr ⟨.revoke (.single i), hi, rfl, fun w => after_removeRule s.host uid w (.single i)⟩
    | setUidRule c _ v =>
      have hi : c.position < 64 := Nat.lt_trans c.position_lt (by decide)
      by_cases hsets : Firewall.setsBit c v = true
      · refine .inr ⟨.grant c.bit 0, hi, c.bit_eq_single, fun w => ?_⟩
        rw [after, Firewall.setUidRule, if_pos hsets]
        exact (after_addRule s.host uid w c.bit 0).trans (if_pos (.inl rfl))
      · refine .inr ⟨.revoke c.bit, hi, c.bit_eq_single, fun w => ?_⟩
        rw [after, Firewall.setUidRule, if_neg hsets]
        exact after_removeRule s.host uid w c.bit
    | setLockdown _ add =>
      cases add with
      | true =>
        refine .inr ⟨.grant .lockdownVpn 0, by decide, rfl, fun w => ?_⟩
        exact (after_addRule s.host uid w .lockdownVpn 0).trans (if_pos (.inl rfl))
      | false =>
        exact .inr ⟨.revoke .lockdownVpn, by decide, rfl, fun w =>
          after_removeRule s.host uid w .lockdownVpn⟩
    | addInterfaceRules name _ =>
      cases hname : s.host.restriction name with
      | none =>
        exact .inl fun w => Firewall.world_addInterfaceRules_unknown s.host hname [uid]
      | some index =>
        refine .inr ⟨.grant .iif index, by decide, rfl, fun w => ?_⟩
        exact (Firewall.world_addInterfaceRules s.host hname [uid]).trans
          (RuleChange.world_perform ..)
    | removeInterfaceRules _ =>
      refine .inr ⟨.revoke .iif, by decide, rfl, fun w => ?_⟩
      exact (Firewall.world_removeInterfaceRules s.host [uid]).trans
        (RuleChange.world_perform ..)

end Host

end Mutation

/-- A call that sets or clears one match of one id, with the id and the position of the match. The
proof that it does is part of it, so that a list of updates needs no side conditions. -/
structure Update where
  call : Mutation
  uid : Uid
  position : Nat
  addresses : call.Addresses uid position

namespace Update

/-- The updates concern two ids or two matches. -/
def Independent (a b : Update) : Prop := a.uid ≠ b.uid ∨ a.position ≠ b.position

instance (a b : Update) : Decidable (a.Independent b) :=
  inferInstanceAs (Decidable (_ ∨ _))

variable (s : Setting) {w : World}

theorem wellFormed_after (a : Update) (hwf : WellFormedEntries w.uidOwner) :
    WellFormedEntries (a.call.after s.backing w).uidOwner := by
  rcases a.addresses.after_cases s with hidle | ⟨ch, hi, hword, hafter⟩
  · rw [hidle]
    exact hwf
  · rw [hafter]
    exact RuleChange.wellFormed_effect (RuleChange.regular_of_single hi hword) hwf

/-- **Two independent updates** commute: if they concern two ids because each entry is written by
one of them, if two matches because the changes of the entry commute. -/
theorem after_comm {a b : Update} (hind : a.Independent b) (hwf : WellFormedEntries w.uidOwner) :
    b.call.after s.backing (a.call.after s.backing w)
      = a.call.after s.backing (b.call.after s.backing w) := by
  rcases a.addresses.after_cases s with hidle | ⟨ch, hi, hword, hafter⟩
  · rw [hidle, hidle]
  · rcases b.addresses.after_cases s with hidle' | ⟨ch', hi', hword', hafter'⟩
    · rw [hidle', hidle']
    · rw [hafter, hafter, hafter', hafter']
      refine RuleChange.effect_comm (RuleChange.regular_of_single hi hword)
        (RuleChange.regular_of_single hi' hword') (hind.imp_right fun hne i hbit => ?_) hwf
      rw [hword, MatchSet.has_single hi, decide_eq_true_iff] at hbit
      rw [hword', MatchSet.has_single hi', decide_eq_false_iff_not]
      exact fun hbit' => hne (hbit.trans hbit'.symm)

/-- **Any number of them** may come in any order, by induction on the permutation. -/
theorem afterAll_perm {as bs : List Update} (hperm : as.Perm bs)
    (hind : as.Pairwise Independent) (hwf : WellFormedEntries w.uidOwner) :
    Mutation.afterAll s.backing w (as.map call) = Mutation.afterAll s.backing w (bs.map call) := by
  have hsymm : ∀ {a b : Update}, a.Independent b → b.Independent a :=
    fun h => h.imp Ne.symm Ne.symm
  induction hperm generalizing w with
  | nil => rfl
  | cons a _ ih => exact ih (List.pairwise_cons.1 hind).2 (wellFormed_after s a hwf)
  | swap a b l =>
    have hab : b.Independent a := (List.pairwise_cons.1 hind).1 a (List.mem_cons_self ..)
    exact congrArg (fun w => Mutation.afterAll s.backing w (l.map call)) (after_comm s hab hwf)
  | trans hfirst _ ih ih' =>
    exact (ih hind hwf).trans (ih' (hind.perm hfirst hsymm) hwf)

end Update

/-- **Independent updates commute** on well-formed maps, whatever fails and whatever is not found:
two of them leave the same maps in either order, and so does any list of them in any order. -/
theorem updates_commute (s : Setting) {w : World} (hwf : WellFormedEntries w.uidOwner) :
    (∀ a b : Update, a.Independent b →
        b.call.after s.backing (a.call.after s.backing w)
          = a.call.after s.backing (b.call.after s.backing w)) ∧
      ∀ as bs : List Update, as.Pairwise Update.Independent → as.Perm bs →
        Mutation.afterAll s.backing w (as.map Update.call)
          = Mutation.afterAll s.backing w (bs.map Update.call) :=
  ⟨fun _ _ hind => Update.after_comm s hind hwf,
    fun _ _ hind hperm => Update.afterAll_perm s hperm hind hwf⟩

/-- An entry with a single match, and one with an index and a match of no chain. The first one goes
when its match is cleared, which is where an order could show. -/
def singleMatchWorld : World :=
  { World.empty with
    uidOwner := { World.empty.uidOwner with
      content := .ofList [(10001, ⟨0, 0, 0x4⟩), (10002, ⟨7, 0, 0x10000080⟩)] } }

/-- Updates that take the first entry away and bring it back, and that share the second. -/
def fourUpdates : List Update :=
  [⟨.setUidRule .dozable 10001 .deny, 10001, Chain.dozable.position, .setUidRule ..⟩,
    ⟨.setLockdown 10001 false, 10001, 8, .setLockdown ..⟩,
    ⟨.addInterfaceRules (some "wlan0") [10001], 10001, 7, .addInterfaceRules ..⟩,
    ⟨.removeRule 10002 (.single 28), 10002, 28, .removeRule _ (by decide)⟩]

theorem singleMatchWorld_commutes :
    (WellFormedEntries singleMatchWorld.uidOwner ∧
        fourUpdates.Pairwise Update.Independent ∧ fourUpdates.Perm fourUpdates.reverse) ∧
      Mutation.afterAll (Memory.backing ⟨[("wlan0", 3)], none⟩) singleMatchWorld
          (fourUpdates.map Update.call)
        = Mutation.afterAll (Memory.backing ⟨[("wlan0", 3)], none⟩) singleMatchWorld
          (fourUpdates.reverse.map Update.call) := by
  have hwf : WellFormedEntries singleMatchWorld.uidOwner := by
    intro u x hx
    have hall : ∀ p ∈ singleMatchWorld.uidOwner.content.toList, p.2.WellFormed := by decide
    exact hall (u, x) (SortedMap.mem_toList.2 hx)
  have hind : fourUpdates.Pairwise Update.Independent := by decide
  have hperm : fourUpdates.Perm fourUpdates.reverse := (List.reverse_perm _).symm
  exact ⟨⟨hwf, hind, hperm⟩,
    (updates_commute (.ofHost ⟨[("wlan0", 3)], none⟩) hwf).2 _ _ hind hperm⟩

/-- In one order the entry is gone when the lockdown match is to be cleared, in the other it is
not. -/
example :
    let b := Memory.backing ⟨[("wlan0", 3)], none⟩
    let gone := (Mutation.setUidRule .dozable 10001 .deny).after b singleMatchWorld
    ((Firewall.setLockdown b 10001 false).run gone).result
        = .error (.notFound "uid 10001") ∧
      ((Firewall.setLockdown b 10001 false).run singleMatchWorld).result = .ok () := ⟨rfl, rfl⟩

end UidPolicy
