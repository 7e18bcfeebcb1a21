import UidPolicy.Proofs.Firewall.Replace
import UidPolicy.Proofs.Recorded

/-!
# What the packet path sees of a replacement

The packet path reads the map while a replacement writes to it, one entry at a time. What it
finds of an id is `Store.visible?`: what is stored, unless the entry has vanished.

- `RuleChange.toward`: the change that brings one id where a replacement wants it.
- `Approach`: one write of a replacement, or none.
- `shadows_replaceChain`: a replacement is a sequence of such writes, whatever fails.
- `Between`: the states that a replacement may pass through.
- `replaceChain_observed`: between any two writes the map is such a state, and the membership
  of an id changes once at most.
-/

namespace UidPolicy

open Memory (World)

/-! ## Well-formed entries -/

/-- The entry has a match, and an index other than zero comes with the interface match. The calls
that this program makes keep it so, but for two that are told elsewhere. -/
def OwnerEntry.WellFormed (x : OwnerEntry) : Prop :=
  ruleWord (some x) ≠ .empty ∧ (x.iif ≠ 0 → (ruleWord (some x)).contains .iif = true)

instance : DecidablePred OwnerEntry.WellFormed :=
  fun x => inferInstanceAs (Decidable
    (ruleWord (some x) ≠ .empty ∧ (x.iif ≠ 0 → (ruleWord (some x)).contains .iif = true)))

/-- Every stored entry is well-formed. -/
def WellFormedEntries (s : Store Uid OwnerEntry) : Prop :=
  ∀ u x, s.content.get? u = some x → x.WellFormed

namespace RuleChange

/-! ## Changes toward a replacement -/

/-- The change that brings an id where a replacement wants it. It depends on the goal only, not on
the turn, so every write of a replacement is one of these. -/
def toward (c : Chain) (uids : List Uid) (u : Uid) : RuleChange :=
  if u ∈ uids then grant c.bit 0 else revoke c.bit

section Toward

variable (c : Chain) (uids : List Uid) (u : Uid)

theorem has_toward (e : Option OwnerEntry) (i : Nat) :
    (ruleWord ((toward c uids u).apply e)).has i
      = if c.position = i then decide (u ∈ uids) else (ruleWord e).has i := by
  rw [toward]
  by_cases hu : u ∈ uids
  · rw [if_pos hu, ruleWord_grant, MatchSet.has_union, c.has_bit]
    by_cases hi : c.position = i
    · rw [if_pos hi, decide_eq_true hi, Bool.or_true, decide_eq_true hu]
    · rw [if_neg hi, decide_eq_false hi, Bool.or_false]
  · rw [if_neg hu, ruleWord_revoke, MatchSet.has_diff, c.has_bit]
    by_cases hi : c.position = i
    · rw [if_pos hi, decide_eq_true hi, Bool.not_true, Bool.and_false, decide_eq_false hu]
    · rw [if_neg hi, decide_eq_false hi, Bool.not_false, Bool.and_true]

/-- The index stays. An entry that goes had none: it had no interface match. -/
theorem ifIndex_toward {e : Option OwnerEntry} (hwf : ∀ x, e = some x → x.WellFormed) :
    ifIndex ((toward c uids u).apply e) = ifIndex e := by
  rw [toward]
  by_cases hu : u ∈ uids
  · rw [if_pos hu, ifIndex_grant, if_neg c.bit_ne_iif]
  · rw [if_neg hu]
    by_cases hleft : ruleWord e \ c.bit = .empty
    · rw [revoke_eq_none_iff.2 hleft]
      cases e with
      | none => rfl
      | some x =>
        -- with an index there was an interface match, which the chain's match is not
        by_cases hzero : x.iif = 0
        · exact hzero.symm
        · have hiif := (hwf x rfl).2 hzero
          have hkept : (ruleWord (some x) \ c.bit).has 7 = true := by
            rw [MatchSet.has_diff, ← MatchSet.contains_iif, hiif, c.has_bit,
              decide_eq_false c.position_ne_iif]
            rfl
          rw [hleft, MatchSet.has_empty] at hkept
          cases hkept
    · rw [ifIndex_revoke hleft, if_neg c.bit_ne_iif]

theorem wellFormed_toward {e : Option OwnerEntry} (hwf : ∀ x, e = some x → x.WellFormed)
    {x : OwnerEntry} (hx : (toward c uids u).apply e = some x) : x.WellFormed := by
  have hword := has_toward c uids u e
  have hindex := ifIndex_toward c uids u hwf
  rw [hx] at hword hindex
  constructor
  · intro hempty
    -- a listed id has at least the chain's match; of any other an empty word is not stored
    by_cases hu : u ∈ uids
    · have hbit := hword c.position
      rw [hempty, if_pos rfl, MatchSet.has_empty, decide_eq_true hu] at hbit
      cases hbit
    · rw [toward, if_neg hu] at hx
      rw [← hx, ruleWord_revoke] at hempty
      rw [revoke_eq_none_iff.2 hempty] at hx
      cases hx
  · intro hne
    rw [MatchSet.contains_iif, hword, if_neg c.position_ne_iif]
    cases e with
    | none => exact absurd hindex hne
    | some y =>
      rw [← MatchSet.contains_iif]
      refine (hwf y rfl).2 fun hzero => hne ?_
      exact hindex.trans hzero

end Toward

/-! ## Watched changes -/

/-- What a change of one entry does to the world: it is written, or nothing is. Which of the two is
left open, because a failure may come at any turn. -/
def Happens (ch : RuleChange) (uid : Uid) (w w' : World) : Prop :=
  w' = w ∨ w.uidOwner.refuses uid = false ∧
    w' = { w with uidOwner := w.uidOwner.write uid (ch.apply (w.uidOwner.visible? uid)) }

variable (h : Memory.Host)

theorem happens_put {ch : RuleChange} {uid : Uid} {w : World} {v : OwnerEntry}
    (hv : ch.apply (w.uidOwner.visible? uid) = some v) :
    ch.Happens uid w (((Memory.backing h).uidOwner.put uid v).run w).world := by
  rw [Memory.uidOwner_backing]
  cases hrefuse : w.uidOwner.refuses uid with
  | true =>
    obtain ⟨e, hput⟩ := Store.run_put_zoom_refused World.uidOwnerPart v hrefuse
    exact .inl (by rw [hput])
  | false =>
    refine .inr ⟨hrefuse, ?_⟩
    rw [Store.run_put_zoom World.uidOwnerPart v hrefuse, hv]
    rfl

theorem happens_delete {ch : RuleChange} {uid : Uid} {w : World}
    (hgone : ch.apply (w.uidOwner.visible? uid) = none) :
    ch.Happens uid w (((Memory.backing h).uidOwner.delete uid).run w).world := by
  rw [Memory.uidOwner_backing]
  cases hrefuse : w.uidOwner.refuses uid with
  | true =>
    obtain ⟨e, hdelete⟩ := Store.run_delete_zoom_refused World.uidOwnerPart hrefuse
    exact .inl (by rw [hdelete])
  | false =>
    refine .inr ⟨hrefuse, ?_⟩
    rw [Store.run_delete_zoom World.uidOwnerPart hrefuse, hgone]
    rfl

/-- A record that is read is the one that is seen. -/
theorem record_eq {uid : Uid} {w : World} {current : Option OwnerRecord}
    (hok : ((Firewall.record (Memory.backing h) uid).run w).result = .ok current) :
    current = (w.uidOwner.visible? uid).map OwnerRecord.ofEntry ∧
      ((Firewall.record (Memory.backing h) uid).run w).world = w := by
  cases hread : w.uidOwner.readErrno with
  | none =>
    rw [run_record h uid hread] at hok ⊢
    cases hok
    exact ⟨rfl, rfl⟩
  | some errno =>
    rw [run_record_unreadable h uid hread] at hok
    cases hok

variable {R : World → World → Prop} {r : Recorded World}

theorem shadows_record (uid : Uid) :
    ShadowsAt R (Firewall.record (Memory.backing h).recorded uid)
      (Firewall.record (Memory.backing h) uid) r :=
  .bind (.read ((Store.still_get uid).zoom World.uidOwnerPart)) fun _ _ _ _ => .pure _

/-- A watched change notes nothing, or the world that its only write leaves behind. -/
theorem shadows_perform (ch : RuleChange) (uid : Uid) :
    ShadowsAt (ch.Happens uid) (ch.perform (Memory.backing h).recorded uid)
      (ch.perform (Memory.backing h) uid) r := by
  -- what is read is still there when it is written back, because nothing is recorded in between
  cases ch with
  | grant m i =>
    refine .bind (shadows_record h uid) fun current r' hok hnow => ?_
    obtain ⟨rfl, hsame⟩ := record_eq h hok
    rw [hsame] at hnow
    refine .bind (.write (happens_put h ?_)) fun _ _ _ _ => .emit _
    rw [hnow]
    rfl
  | revoke m =>
    refine .bind (shadows_record h uid) fun current r' hok hnow => ?_
    obtain ⟨rfl, hsame⟩ := record_eq h hok
    rw [hsame] at hnow
    cases hv : r.now.uidOwner.visible? uid with
    | none => exact .fail _
    | some e =>
      dsimp only [Option.map_some]
      -- the two branches of the code are those of the change: an empty record is deleted, any other
      -- written
      have happly : (revoke m).apply (r'.now.uidOwner.visible? uid)
          = if ((OwnerRecord.ofEntry e).withoutMatch m).isEmpty then none
            else some ((OwnerRecord.ofEntry e).withoutMatch m).toEntry := by
        rw [hnow, hv]
        rfl
      by_cases hempty : ((OwnerRecord.ofEntry e).withoutMatch m).isEmpty = true
      · rw [if_pos hempty] at happly ⊢
        rw [if_pos hempty]
        exact .bind (.write (happens_delete h happly)) fun _ _ _ _ => .emit _
      · rw [if_neg hempty] at happly ⊢
        rw [if_neg hempty]
        exact .bind (.write (happens_put h happly)) fun _ _ _ _ => .emit _

end RuleChange

namespace Firewall

/-! ## Watched replacements -/

/-- One write of a replacement, or none: one id is brought where the replacement wants it. No state
in between is further from the goal than the one before. -/
def Approach (c : Chain) (uids : List Uid) (w w' : World) : Prop :=
  ∃ u, (RuleChange.toward c uids u).Happens u w w'

/-- A watched replacement is the replacement, and notes its writes one by one. No failure
changes this. -/
theorem shadows_replaceChain (h : Memory.Host) (c : Chain) (uids : List Uid)
    (r : Recorded World) :
    ShadowsAt (Approach c uids) (replaceChain (Memory.backing h).recorded c uids)
      (replaceChain (Memory.backing h) c uids) r := by
  have hrevoke : ∀ u, u ∉ uids → ∀ r, ShadowsAt (Approach c uids)
      (removeLocked (Memory.backing h).recorded c.bit u)
      (removeLocked (Memory.backing h) c.bit u) r := by
    intro u hu r
    refine (RuleChange.shadows_perform h (.revoke c.bit) u).mono fun w w' hstep => ⟨u, ?_⟩
    rw [RuleChange.toward, if_neg hu]
    exact hstep
  have hgrant : ∀ u ∈ uids, ∀ r, ShadowsAt (Approach c uids)
      (addLocked (Memory.backing h).recorded c.bit 0 u)
      (addLocked (Memory.backing h) c.bit 0 u) r := by
    intro u hu r
    refine (RuleChange.shadows_perform h (.grant c.bit 0) u).mono fun w w' hstep => ⟨u, ?_⟩
    rw [RuleChange.toward, if_pos hu]
    exact hstep
  unfold replaceChain
  rw [Backing.acquire_of_not_poisoned rfl, Backing.acquire_of_not_poisoned rfl]
  refine .bind (.pure ()) fun _ _ _ _ => ?_
  -- whatever the walk shows, no stale id is listed
  refine .bind (.entries (fun u => (Store.still_get u).zoom World.uidOwnerPart)
    (Store.still_keys.zoom World.uidOwnerPart)) fun walk r₁ _ _ => ?_
  refine .bind (.batch _ (fun u hu r => ?_) .empty) fun removed r₂ _ _ => ?_
  · exact hrevoke u (mem_staleUids.1 hu).2 r
  · refine .bind (.batch _ hgrant removed) fun outcome r₃ _ _ => ?_
    exact .bind (.emit _) fun _ _ _ _ => .pure outcome

/-! ## The states in between -/

/-- Whether a read finds an id to be a member of a chain. -/
def isMember (c : Chain) (s : Store Uid OwnerEntry) (u : Uid) : Bool :=
  (ruleWord (s.visible? u)).contains c.bit

/-- A state that a replacement of a chain's members may pass through, from a given start. Other
processes read the map without a lock, so this is what they can find there. -/
structure Between (c : Chain) (uids : List Uid) (s s' : Store Uid OwnerEntry) : Prop where
  /-- A member that is listed is a member all the time: it is never cleared to be set again. -/
  kept : ∀ u ∈ uids, isMember c s u = true → isMember c s' u = true
  /-- Nobody is a member who was not and is not listed, so nobody is blocked in passing. -/
  confined : ∀ u, isMember c s' u = true → isMember c s u = true ∨ u ∈ uids
  /-- Every other bit of every word is as at the start. -/
  others : ∀ u i, i ≠ c.position →
    (ruleWord (s'.visible? u)).has i = (ruleWord (s.visible? u)).has i
  /-- The index of every id is as at the start. -/
  index : ∀ u, ifIndex (s'.visible? u) = ifIndex (s.visible? u)
  /-- No stored entry has an empty word. -/
  words : NoEmptyWords s'

section Approach

variable {c : Chain} {uids : List Uid} {w w' : World}

theorem wellFormed_visible? {s : Store Uid OwnerEntry} (hwf : WellFormedEntries s) (u : Uid) :
    ∀ x, s.visible? u = some x → x.WellFormed :=
  fun x hx => hwf u x (Store.get?_of_visible? hx)

/-- A step changes what is seen of one id at most, and that toward the goal. -/
theorem Approach.visible?_eq (hstep : Approach c uids w w') (u : Uid) :
    w'.uidOwner.visible? u = w.uidOwner.visible? u ∨
      w'.uidOwner.visible? u = (RuleChange.toward c uids u).apply (w.uidOwner.visible? u) := by
  obtain ⟨v, rfl | ⟨-, rfl⟩⟩ := hstep
  · exact .inl rfl
  · by_cases hu : u = v
    · subst hu
      exact .inr (Store.visible?_write_self _ _ _)
    · exact .inl (Store.visible?_write_of_ne _ hu _)

theorem Approach.wellFormed (hstep : Approach c uids w w')
    (hwf : WellFormedEntries w.uidOwner) : WellFormedEntries w'.uidOwner := by
  obtain ⟨v, rfl | ⟨-, rfl⟩⟩ := hstep
  · exact hwf
  · intro u x hx
    replace hx : (w.uidOwner.write v _).content.get? u = some x := hx
    rw [Store.get?_content_write] at hx
    by_cases hu : u = v
    · rw [if_pos hu] at hx
      exact RuleChange.wellFormed_toward c uids v (wellFormed_visible? hwf v) hx
    · rw [if_neg hu] at hx
      exact hwf u x hx

/-- A step leaves the membership of an id as it is, or makes it what is wanted. -/
theorem Approach.isMember_eq (hstep : Approach c uids w w') (u : Uid) :
    isMember c w'.uidOwner u = isMember c w.uidOwner u ∨
      isMember c w'.uidOwner u = decide (u ∈ uids) := by
  unfold isMember
  rcases hstep.visible?_eq u with hsame | hchanged
  · exact .inl (by rw [hsame])
  · refine .inr ?_
    rw [hchanged, c.contains_bit, RuleChange.has_toward, if_pos rfl]

theorem Approach.has_eq (hstep : Approach c uids w w') (u : Uid) {i : Nat}
    (hi : i ≠ c.position) :
    (ruleWord (w'.uidOwner.visible? u)).has i = (ruleWord (w.uidOwner.visible? u)).has i := by
  rcases hstep.visible?_eq u with hsame | hchanged
  · rw [hsame]
  · rw [hchanged, RuleChange.has_toward, if_neg (Ne.symm hi)]

theorem Approach.ifIndex_eq (hstep : Approach c uids w w')
    (hwf : WellFormedEntries w.uidOwner) (u : Uid) :
    ifIndex (w'.uidOwner.visible? u) = ifIndex (w.uidOwner.visible? u) := by
  rcases hstep.visible?_eq u with hsame | hchanged
  · rw [hsame]
  · rw [hchanged, RuleChange.ifIndex_toward c uids u (wellFormed_visible? hwf u)]

end Approach

/-- What is true of every world on the way of a replacement. Every step keeps it, and it says enough
to make the world one in between. -/
structure OnTheWay (c : Chain) (uids : List Uid) (w w' : World) : Prop where
  wellFormed : WellFormedEntries w'.uidOwner
  member : ∀ u, isMember c w'.uidOwner u = isMember c w.uidOwner u ∨
    isMember c w'.uidOwner u = decide (u ∈ uids)
  others : ∀ u i, i ≠ c.position →
    (ruleWord (w'.uidOwner.visible? u)).has i = (ruleWord (w.uidOwner.visible? u)).has i
  index : ∀ u, ifIndex (w'.uidOwner.visible? u) = ifIndex (w.uidOwner.visible? u)

namespace OnTheWay

variable {c : Chain} {uids : List Uid} {w w' w'' : World}

theorem start (hwf : WellFormedEntries w.uidOwner) : OnTheWay c uids w w where
  wellFormed := hwf
  member _ := .inl rfl
  others _ _ _ := rfl
  index _ := rfl

theorem step (hway : OnTheWay c uids w w') (hstep : Approach c uids w' w'') :
    OnTheWay c uids w w'' where
  wellFormed := hstep.wellFormed hway.wellFormed
  member u := by
    rcases hstep.isMember_eq u with hsame | hwanted
    · rw [hsame]
      exact hway.member u
    · exact .inr hwanted
  others u i hi := (hstep.has_eq u hi).trans (hway.others u i hi)
  index u := (hstep.ifIndex_eq hway.wellFormed u).trans (hway.index u)

theorem between (hway : OnTheWay c uids w w') : Between c uids w.uidOwner w'.uidOwner where
  kept u hu hmember := by
    rcases hway.member u with hsame | hwanted
    · rw [hsame, hmember]
    · rw [hwanted, decide_eq_true hu]
  confined u hmember := by
    rcases hway.member u with hsame | hwanted
    · exact .inl (hsame ▸ hmember)
    · rw [hwanted, decide_eq_true_iff] at hmember
      exact .inr hmember
  others := hway.others
  index := hway.index
  words u x hx := (hway.wellFormed u x hx).1

end OnTheWay

/-- The worlds that a replacement passes through: the start, and the world after each single
put or delete that it issues. -/
def passed (h : Memory.Host) (c : Chain) (uids : List Uid) (w : World) : List World :=
  w :: ((replaceChain (Memory.backing h).recorded c uids).run ⟨w, []⟩).world.past

/-- Watching a replacement changes nothing about it, and it passes through steps: the noted worlds
follow each other by one write each. -/
theorem steps_passed (h : Memory.Host) (c : Chain) (uids : List Uid) (w : World) :
    ∃ trace, passed h c uids w = w :: trace ∧
      (replaceChain (Memory.backing h).recorded c uids).run ⟨w, []⟩
        = ⟨((replaceChain (Memory.backing h) c uids).run w).result,
            ⟨((replaceChain (Memory.backing h) c uids).run w).world, trace⟩,
            ((replaceChain (Memory.backing h) c uids).run w).events⟩ ∧
      Steps (Approach c uids) w trace
        ((replaceChain (Memory.backing h) c uids).run w).world := by
  obtain ⟨trace, hrun, hsteps⟩ := shadows_replaceChain h c uids ⟨w, []⟩
  refine ⟨trace, ?_, hrun, hsteps⟩
  rw [passed, hrun]
  rfl

/-- **What can be seen during a replacement.** In every state from the start to the end, listed
members are members, nobody is one who neither was nor is listed, and all else is as at the
start; and the membership of an id changes once at most, from what it was to what is wanted.
This is whichever writes or reads fail. -/
theorem replaceChain_observed (h : Memory.Host) {w : World}
    (hwf : WellFormedEntries w.uidOwner) (c : Chain) (uids : List Uid) :
    (passed h c uids w).getLast? = some ((replaceChain (Memory.backing h) c uids).run w).world ∧
      (∀ x ∈ passed h c uids w, Between c uids w.uidOwner x.uidOwner) ∧
      ∀ u, ∃ before after, passed h c uids w = before ++ after ∧
        (∀ x ∈ before, isMember c x.uidOwner u = isMember c w.uidOwner u) ∧
        ∀ x ∈ after, isMember c x.uidOwner u = decide (u ∈ uids) := by
  obtain ⟨trace, hpassed, -, hsteps⟩ := steps_passed h c uids w
  have hway : ∀ x ∈ w :: trace, OnTheWay c uids w x :=
    hsteps.invariant (fun _ _ hstep hway => hway.step hstep) (.start hwf)
  rw [hpassed]
  refine ⟨?_, fun x hx => (hway x hx).between, fun u => ?_⟩
  · rw [List.getLast?_eq_some_getLast (List.cons_ne_nil _ _), hsteps.getLast_eq]
  · have hmember : ∀ x x', Approach c uids x x' →
        isMember c x'.uidOwner u = isMember c x.uidOwner u ∨
          isMember c x'.uidOwner u = decide (u ∈ uids) :=
      fun _ _ hstep => hstep.isMember_eq u
    exact Steps.changes_once (f := fun x : World => isMember c x.uidOwner u) hmember hsteps

/-- A replacement with a write that fails, seen write by write. -/
theorem assortedWorld_observed :
    WellFormedEntries assortedWorld.uidOwner ∧
      (passed ⟨[], none⟩ .dozable [10006, 10001, 10006] assortedWorld).getLast?
        = some ((replaceChain (Memory.backing ⟨[], none⟩) .dozable [10006, 10001, 10006]).run
            assortedWorld).world ∧
      (∀ x ∈ passed ⟨[], none⟩ .dozable [10006, 10001, 10006] assortedWorld,
        Between .dozable [10006, 10001, 10006] assortedWorld.uidOwner x.uidOwner) ∧
      ∀ u, ∃ before after,
        passed ⟨[], none⟩ .dozable [10006, 10001, 10006] assortedWorld = before ++ after ∧
        (∀ x ∈ before,
          isMember .dozable x.uidOwner u = isMember .dozable assortedWorld.uidOwner u) ∧
        ∀ x ∈ after, isMember .dozable x.uidOwner u = decide (u ∈ [10006, 10001, 10006]) := by
  have hwf : WellFormedEntries assortedWorld.uidOwner := by
    intro u x hx
    have hall : ∀ p ∈ assortedWorld.uidOwner.content.toList, p.2.WellFormed := by decide
    exact hall (u, x) (SortedMap.mem_toList.2 hx)
  exact ⟨hwf,
    replaceChain_observed ⟨[], none⟩ (w := assortedWorld) hwf .dozable [10006, 10001, 10006]⟩

/-- The start, two writes for the stale members, and three for the listed ids. -/
example : (passed ⟨[], none⟩ .dozable [10006, 10001, 10006] assortedWorld).length = 6 := by
  decide +kernel

end Firewall

end UidPolicy
