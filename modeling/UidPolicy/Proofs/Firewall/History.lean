import UidPolicy.Proofs.Firewall.Mutation
import UidPolicy.Proofs.Rule.Stored

/-!
# Histories of calls

Started on an empty map, the stored entries are a function of the calls made so far.

- `Mutation.accumulated`: the record that a sequence of calls adds up to at one id.
- `Mutation.lastMark`: what the last call that addresses a position made of it;
  `has_accumulated` is that this decides the position.
- `Tracks`: a store holds exactly the stored forms of a family of indexed records. One call
  keeps this (`Tracks.after`), and so does every sequence of calls (`Tracks.afterAll`).
- `afterAll_accumulated`: the map after any sequence of customary calls, entry by entry and bit
  by bit.
-/

namespace UidPolicy

open Memory (World)

namespace Mutation

/-! ## What calls add up to -/

/-- What a call makes of the record of an id, whether or not the call is about it. It sees the
record alone: no entry, no padding and no other id. -/
def onRecord (h : Memory.Host) (uid : Uid) (op : Mutation) (r : OwnerRecord) : OwnerRecord :=
  match op.changeAt h uid with
  | some ch => ch.onRecord r
  | none => r

/-- The record that a sequence of calls adds up to at an id; it starts without matches and
with index zero. -/
def accumulated (h : Memory.Host) (ops : List Mutation) (uid : Uid) : OwnerRecord :=
  ops.foldl (fun r op => op.onRecord h uid r) ⟨0, .empty⟩

/-- What the last call that addresses a position of an id's word made of it, if any call
does. -/
def lastMark (h : Memory.Host) (ops : List Mutation) (uid : Uid) (i : Nat) : Option Bool :=
  ops.reverse.findSome? fun op => (op.changeAt h uid).bind (RuleChange.mark i)

theorem onRecord_of_changeAt {h : Memory.Host} {uid : Uid} {op : Mutation} {ch : RuleChange}
    {P : Prop} [Decidable P] (hch : op.changeAt h uid = if P then some ch else none)
    (r : OwnerRecord) : op.onRecord h uid r = if P then ch.onRecord r else r := by
  rw [onRecord, hch]
  by_cases hP : P
  · rw [if_pos hP, if_pos hP]
  · rw [if_neg hP, if_neg hP]

theorem has_onRecord (h : Memory.Host) (uid : Uid) (op : Mutation) (r : OwnerRecord)
    (i : Nat) : (op.onRecord h uid r).rule.has i
      = ((op.changeAt h uid).bind (RuleChange.mark i)).getD (r.rule.has i) := by
  rw [onRecord]
  cases op.changeAt h uid with
  | none => rfl
  | some ch => exact ch.has_onRecord r i

/-- Folding calls over a record decides a position by the last call that addresses it, and
leaves it as it was if none does. -/
theorem has_foldl_onRecord (h : Memory.Host) (ops : List Mutation) (uid : Uid) (i : Nat)
    (r : OwnerRecord) :
    (ops.foldl (fun r op => op.onRecord h uid r) r).rule.has i
      = (lastMark h ops uid i).getD (r.rule.has i) :=
  foldl_lastSet _ (fun r => r.rule.has i) _ (fun r op => has_onRecord h uid op r i) ops r

theorem has_accumulated (h : Memory.Host) (ops : List Mutation) (uid : Uid) (i : Nat) :
    (accumulated h ops uid).rule.has i = true ↔ lastMark h ops uid i = some true := by
  rw [accumulated, has_foldl_onRecord, MatchSet.has_empty]
  cases lastMark h ops uid i with
  | none => exact ⟨fun hb => (nomatch hb), fun hb => (nomatch hb)⟩
  | some b => exact ⟨congrArg some, Option.some.inj⟩

end Mutation

/-! ## Customary calls -/

/-- A word that callers use: the match of a chain, the interface match or the lockdown match. Words
that mix them are possible, and what becomes of the index is then another story. -/
def MatchSet.Customary (m : MatchSet) : Prop :=
  (∃ c : Chain, m = c.bit) ∨ m = .iif ∨ m = .lockdownVpn

theorem Chain.customary_bit (c : Chain) : c.bit.Customary := .inl ⟨c, rfl⟩

theorem MatchSet.Customary.ne_empty {m : MatchSet} (hm : m.Customary) : m ≠ .empty := by
  rcases hm with ⟨c, rfl⟩ | rfl | rfl
  · cases c <;> decide
  · decide
  · decide

/-- A customary word has the interface match alone, if at all. -/
theorem MatchSet.Customary.eq_iif {m : MatchSet} (hm : m.Customary) (h : m.has 7 = true) :
    m = .iif := by
  rcases hm with ⟨c, rfl⟩ | rfl | rfl
  · rw [c.has_bit, decide_eq_true_iff] at h
    exact absurd h c.position_ne_iif
  · rfl
  · rw [MatchSet.has_lockdownVpn] at h
    cases h

namespace Mutation

/-- A call that sets or clears matches directly does so with a customary word, and gives an
index with the interface match only. -/
def Customary : Mutation → Prop
  | addRule _ added iif => added.Customary ∧ (iif = 0 ∨ added = .iif)
  | removeRule _ cleared => cleared.Customary
  | _ => True

end Mutation

namespace RuleChange

theorem regular_grant {m : MatchSet} (hm : m.Customary) (i : UInt32) : (grant m i).Regular :=
  ⟨hm.ne_empty, hm.eq_iif⟩

theorem regular_revoke {m : MatchSet} (hm : m.Customary) : (revoke m).Regular :=
  fun hbit => .inl (hm.eq_iif hbit)

end RuleChange

/-! ## Stores that hold given records -/

/-- The store has no failures and holds exactly the stored forms of the given records, which
are indexed. -/
structure Tracks (s : Store Uid OwnerEntry) (M : Uid → OwnerRecord) : Prop where
  faultless : s.Faultless
  holds : ∀ u, s.visible? u = (M u).stored
  indexed : ∀ u, (M u).Indexed

namespace Tracks

variable {h : Memory.Host} {w : World} {M : Uid → OwnerRecord}

theorem congr {s : Store Uid OwnerEntry} {M' : Uid → OwnerRecord} (ht : Tracks s M)
    (hsame : ∀ u, M u = M' u) : Tracks s M' := by
  rw [← funext hsame]
  exact ht

/-- A batch of one regular change changes the records of its ids. -/
theorem batch (ht : Tracks w.uidOwner M) {ch : RuleChange} (hregular : ch.Regular)
    (uids : List Uid) :
    Tracks (Batch.worldAfter (ch.perform (Memory.backing h)) uids w).uidOwner
      (fun u => if u ∈ uids then ch.onRecord (M u) else M u) where
  faultless := (RuleChange.written_worldAfter h ch uids w).faultless ht.faultless
  holds u := by
    have happly := RuleChange.apply_stored hregular (ht.indexed u)
    rw [RuleChange.visible?_worldAfter h ch ht.faultless.reads, ht.holds]
    simp only [ht.faultless.refuses_eq u, and_true]
    by_cases hu : u ∈ uids
    · rw [if_pos hu, if_pos hu, happly]
    · rw [if_neg hu, if_neg hu]
  indexed u := by
    split
    · exact ch.indexed_onRecord (ht.indexed u)
    · exact ht.indexed u

theorem perform (ht : Tracks w.uidOwner M) {ch : RuleChange} (hregular : ch.Regular)
    (uid : Uid) :
    Tracks ((ch.perform (Memory.backing h) uid).run w).world.uidOwner
      (fun u => if u = uid then ch.onRecord (M u) else M u) := by
  have hbatch := ht.batch (h := h) hregular [uid]
  simp only [List.mem_singleton] at hbatch
  exact hbatch

theorem addRule (ht : Tracks w.uidOwner M) {m : MatchSet} (hm : m.Customary) {i : UInt32}
    (hvalid : i = 0 ∨ m = .iif) (uid : Uid) :
    Tracks ((Firewall.addRule (Memory.backing h) uid m i).run w).world.uidOwner
      (fun u => if u = uid then (RuleChange.grant m i).onRecord (M u) else M u) := by
  rw [Firewall.addRule_eq h hvalid]
  exact ht.perform (RuleChange.regular_grant hm i) uid

theorem removeRule (ht : Tracks w.uidOwner M) {m : MatchSet} (hm : m.Customary) (uid : Uid) :
    Tracks ((Firewall.removeRule (Memory.backing h) uid m).run w).world.uidOwner
      (fun u => if u = uid then (RuleChange.revoke m).onRecord (M u) else M u) := by
  rw [Firewall.removeRule_eq]
  exact ht.perform (RuleChange.regular_revoke hm) uid

/-- A replacement changes the record of every id: those that are stale lose the match and those that
are listed get it. All others keep what they have. -/
theorem replaceChain (ht : Tracks w.uidOwner M) (c : Chain) (uids : List Uid) :
    Tracks ((Firewall.replaceChain (Memory.backing h) c uids).run w).world.uidOwner
      (fun u => if u ∈ uids then (RuleChange.grant c.bit 0).onRecord (M u)
        else (RuleChange.revoke c.bit).onRecord (M u)) := by
  obtain ⟨outcome, log, hrun, -, -⟩ :=
    Firewall.run_replaceChain h c uids ht.faultless.reads
  have hbit := c.customary_bit
  rw [hrun]
  refine ⟨(Firewall.written_afterReplacement h c uids w).faultless ht.faultless, ?_, ?_⟩
  · intro u
    show (Firewall.afterReplacement h c uids w).uidOwner.visible? u = _
    rw [Firewall.visible?_afterReplacement h c uids ht.faultless.reads
      (ht.faultless.refuses_eq u), ht.holds]
    by_cases hlisted : u ∈ uids
    · rw [if_pos hlisted, if_pos hlisted,
        RuleChange.apply_stored (RuleChange.regular_grant hbit 0) (ht.indexed u)]
    · -- who is not listed is asked to lose the match, but only stale ids are written
      rw [if_neg hlisted, if_neg hlisted]
      by_cases hstale : u ∈ Firewall.staleAlong w.uidOwner c uids
      · rw [if_pos hstale,
          RuleChange.apply_stored (RuleChange.regular_revoke hbit) (ht.indexed u)]
      · rw [if_neg hstale]
        -- nothing was written, and the revocation asked for would change nothing
        have hout := Firewall.has_of_not_stale ht.faultless.walkCovers hlisted hstale
        rw [ht.holds, OwnerRecord.ruleWord_stored] at hout
        rw [RuleChange.onRecord_revoke_bit hout]
  · intro u
    split
    · exact RuleChange.indexed_onRecord _ (ht.indexed u)
    · exact RuleChange.indexed_onRecord _ (ht.indexed u)

theorem clear (ht : Tracks w.uidOwner M) :
    Tracks ((Firewall.clear (Memory.backing h)).run w).world.uidOwner
      (fun u => (RuleChange.revoke .everything).onRecord (M u)) := by
  have haccept : ∀ u, w.uidOwner.refuses u = false := ht.faultless.refuses_eq
  rw [Firewall.world_clear h haccept]
  refine ⟨(Store.written_without _ fun u _ => haccept u).faultless ht.faultless, ?_, ?_⟩
  · intro u
    have hregular : (RuleChange.revoke .everything).Regular := fun _ => .inr rfl
    rw [← RuleChange.apply_stored hregular (ht.indexed u),
      RuleChange.revoke_eq_none_iff.2 (MatchSet.diff_everything _)]
    exact Store.visible?_without_walk ht.faultless.walkCovers u
  · intro u
    exact RuleChange.indexed_onRecord _ (ht.indexed u)

/-- **One call**: the records change as the call asks for at each id. A call that is refused for its
arguments changes no record, and asks for no change either. -/
theorem after (ht : Tracks w.uidOwner M) {op : Mutation} (hop : op.Customary) :
    Tracks (op.after (Memory.backing h) w).uidOwner
      (fun u => op.onRecord h u (M u)) := by
  -- each call is one change or a batch of one change, and records follow both
  cases op with
  | addRule target added index =>
    refine (ht.addRule hop.1 hop.2 target).congr fun u => ?_
    refine (Mutation.onRecord_of_changeAt ?_ _).symm
    simp only [Mutation.changeAt, hop.2, and_true]
  | removeRule target cleared =>
    refine (ht.removeRule hop target).congr fun u => ?_
    exact (Mutation.onRecord_of_changeAt rfl _).symm
  | setUidRule chain target verdict =>
    rw [Mutation.after, Firewall.setUidRule]
    -- which of the two single calls a verdict becomes depends on the polarity of the chain
    by_cases hsets : Firewall.setsBit chain verdict = true
    · rw [if_pos hsets]
      refine (ht.addRule chain.customary_bit (.inl rfl) target).congr fun u => ?_
      refine (Mutation.onRecord_of_changeAt ?_ _).symm
      rw [Mutation.changeAt, if_pos (Firewall.setsBit_iff.1 hsets)]
    · rw [if_neg hsets]
      refine (ht.removeRule chain.customary_bit target).congr fun u => ?_
      refine (Mutation.onRecord_of_changeAt ?_ _).symm
      rw [Mutation.changeAt, if_neg fun hpolarity => hsets (Firewall.setsBit_iff.2 hpolarity)]
  | replaceChain chain uids =>
    refine (ht.replaceChain chain uids).congr fun u => ?_
    by_cases hu : u ∈ uids
    · simp only [Mutation.onRecord, Mutation.changeAt, if_pos hu]
    · simp only [Mutation.onRecord, Mutation.changeAt, if_neg hu]
  | setLockdown target add =>
    have hword : MatchSet.lockdownVpn.Customary := .inr (.inr rfl)
    cases add with
    | true =>
      refine (ht.addRule hword (.inl rfl) target).congr fun u => ?_
      exact (Mutation.onRecord_of_changeAt rfl _).symm
    | false =>
      refine (ht.removeRule hword target).congr fun u => ?_
      exact (Mutation.onRecord_of_changeAt rfl _).symm
  | addInterfaceRules name uids =>
    have hword : MatchSet.iif.Customary := .inr (.inl rfl)
    rw [Mutation.after]
    cases hname : h.restriction name with
    | some index =>
      rw [Firewall.world_addInterfaceRules h hname]
      refine (ht.batch (RuleChange.regular_grant hword index) uids).congr fun u => ?_
      refine (Mutation.onRecord_of_changeAt ?_ _).symm
      rw [Mutation.changeAt, hname]
    | none =>
      -- an unknown interface is refused before anything is written
      rw [Firewall.world_addInterfaceRules_unknown h hname]
      refine ht.congr fun u => ?_
      simp only [Mutation.onRecord, Mutation.changeAt, hname]
  | removeInterfaceRules uids =>
    have hword : MatchSet.iif.Customary := .inr (.inl rfl)
    rw [Mutation.after, Firewall.world_removeInterfaceRules]
    refine (ht.batch (RuleChange.regular_revoke hword) uids).congr fun u => ?_
    exact (Mutation.onRecord_of_changeAt rfl _).symm
  | clear => exact ht.clear

/-- **Any sequence of calls**, by induction on it: what is tracked after a call is what the next one
starts from. -/
theorem afterAll (ht : Tracks w.uidOwner M) {ops : List Mutation}
    (hops : ∀ op ∈ ops, op.Customary) :
    Tracks (Mutation.afterAll (Memory.backing h) w ops).uidOwner
      (fun u => ops.foldl (fun r op => op.onRecord h u r) (M u)) := by
  induction ops generalizing w M with
  | nil => exact ht
  | cons op rest ih =>
    have hfirst := ht.after (h := h) (hops op (List.mem_cons_self ..))
    exact ih hfirst fun op' hop' => hops op' (List.mem_cons_of_mem _ hop')

end Tracks

/-- A store without entries and failures holds the empty record of every id. -/
theorem tracks_empty {s : Store Uid OwnerEntry} (hfaultless : s.Faultless)
    (hempty : s.content = ∅) : Tracks s fun _ => ⟨0, .empty⟩ where
  faultless := hfaultless
  holds u := by
    rw [hfaultless.visible?_eq, hempty]
    rfl
  indexed _ hne := absurd rfl hne

/-- An entry is what is stored of a record, and the record has an index only with the
interface match. -/
structure Represents (entry : Option OwnerEntry) (record : OwnerRecord) : Prop where
  /-- There is an entry iff there is any match. -/
  present : entry.isSome = true ↔ record.rule ≠ .empty
  /-- The entry has the word and the index, and no padding. -/
  fields : ∀ x, entry = some x →
    x.rule = record.rule.bits ∧ x.iif = record.iif ∧ x.pad = 0
  /-- An index other than zero comes with the interface match. -/
  indexed : record.iif ≠ 0 → record.rule.contains .iif = true

theorem OwnerRecord.Indexed.represents {r : OwnerRecord} (hindexed : r.Indexed) :
    Represents r.stored r := by
  refine ⟨?_, ?_, ?_⟩
  · rw [ne_eq, ← stored_eq_none_iff]
    exact Option.isSome_iff_ne_none
  · intro x hx
    have hkept : r.rule ≠ .empty := by
      intro hempty
      rw [stored_eq_none_iff.2 hempty] at hx
      cases hx
    rw [stored_of_ne_empty hkept] at hx
    cases hx
    exact ⟨rfl, rfl, rfl⟩
  · rw [MatchSet.contains_iif]
    exact hindexed

/-- **The map is a function of the calls made so far.** After any sequence of customary calls
an id's entry represents the record that the calls add up to, and a bit of that record is set
iff the last call that addresses it set it. A sequence broken off anywhere is a sequence, so
this holds after every single call. -/
theorem afterAll_accumulated (h : Memory.Host) {w : World}
    (hfaultless : w.uidOwner.Faultless) (hempty : w.uidOwner.content = ∅)
    {ops : List Mutation} (hops : ∀ op ∈ ops, op.Customary) (uid : Uid) :
    Represents ((Mutation.afterAll (Memory.backing h) w ops).uidOwner.content.get? uid)
        (Mutation.accumulated h ops uid) ∧
      ∀ i, (Mutation.accumulated h ops uid).rule.has i = true ↔
        Mutation.lastMark h ops uid i = some true := by
  have ht := (tracks_empty hfaultless hempty).afterAll (h := h) hops
  have hentry : (Mutation.afterAll (Memory.backing h) w ops).uidOwner.content.get? uid
      = (Mutation.accumulated h ops uid).stored := by
    rw [← ht.faultless.visible?_eq]
    exact ht.holds uid
  have hindexed : (Mutation.accumulated h ops uid).Indexed := ht.indexed uid
  rw [hentry]
  exact ⟨hindexed.represents, fun i => Mutation.has_accumulated h ops uid i⟩

/-- Calls of several kinds for id 10001; the interface of the last one is unknown. -/
def crossedHistory : List Mutation :=
  [.setUidRule .dozable 10001 .allow, .addRule 10001 .iif 7,
    .replaceChain .standby [10001, 10002], .removeRule 10001 .dozable, .setLockdown 10001 true,
    .replaceChain .standby [10002], .addInterfaceRules (some "wlan1") [10001]]

theorem crossedHistory_accumulated :
    (World.empty.uidOwner.Faultless ∧ World.empty.uidOwner.content = ∅ ∧
        ∀ op ∈ crossedHistory, op.Customary) ∧
      Represents
        ((Mutation.afterAll (Memory.backing ⟨[("wlan0", 7)], none⟩) World.empty
          crossedHistory).uidOwner.content.get? 10001)
        (Mutation.accumulated ⟨[("wlan0", 7)], none⟩ crossedHistory 10001) ∧
      ∀ i, (Mutation.accumulated ⟨[("wlan0", 7)], none⟩ crossedHistory 10001).rule.has i = true ↔
        Mutation.lastMark ⟨[("wlan0", 7)], none⟩ crossedHistory 10001 i = some true := by
  have hops : ∀ op ∈ crossedHistory, op.Customary := by
    simp only [crossedHistory, List.forall_mem_cons, List.not_mem_nil, false_imp_iff,
      Mutation.Customary, MatchSet.Customary, or_true, true_or, implies_true, and_true, true_and]
    exact .inl ⟨.dozable, rfl⟩
  exact ⟨⟨Store.faultless_empty, rfl, hops⟩,
    afterAll_accumulated ⟨[("wlan0", 7)], none⟩ Store.faultless_empty rfl hops 10001⟩

/-- The interface match and the lockdown match are left of it. -/
example : Mutation.accumulated ⟨[("wlan0", 7)], none⟩ crossedHistory 10001
    = ⟨7, .iif ∪ .lockdownVpn⟩ := by decide

end UidPolicy
