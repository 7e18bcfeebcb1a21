import UidPolicy.Control.Firewall
import UidPolicy.Proofs.Reasons.Word

/-!
# More and fewer reasons

The reasons for an id grow with the chains that are enabled, with the chains that block its word
and with data saver (`blockedReasons_mono`). What a verdict does to the word of an id, and what
switching a chain does to the chain-enable word, is said here chain by chain: the polarity of a
chain is used once when a verdict is written and once when the word is judged, and it cancels.

- `Chain.wordAfter`: the word of an id after a verdict. `Chain.blocks_wordAfter`: the chain of the
  verdict now blocks the id iff the verdict is deny, and the other chains do as before.
- `Chain.switchAfter`: the chain-enable word after switching a chain, bit by bit
  (`getLsbD_switchAfter`) and chain by chain (`contains_switchAfter`).
- `BlockedReasons.isBlocked_mono`: more reasons block where fewer do.
-/

namespace UidPolicy

namespace BlockedReasons

theorem contains_refl (a : BlockedReasons) : a.contains a = true :=
  contains_iff.2 fun _ hi => hi

theorem isBlocked_mono {a b : BlockedReasons} (hab : a.contains b = true) {metered : Bool}
    (hb : b.isBlocked metered = true) : a.isBlocked metered = true := by
  have hmore := contains_iff.1 hab
  cases metered with
  | false =>
    obtain ⟨i, hlow, hi⟩ := isBlocked_false_iff.1 hb
    exact isBlocked_false_iff.2 ⟨i, hlow, hmore i hi⟩
  | true =>
    have hbit : ∃ i, b.has i = true := not_isEmpty_iff.1 hb
    obtain ⟨i, hi⟩ := hbit
    exact not_isEmpty_iff.2 ⟨i, hmore i hi⟩

end BlockedReasons

/-! ## Verdicts and switches, chain by chain -/

namespace Chain

/-- The rule word of an id after a verdict of a chain. Which way the bit goes depends on the
polarity of the chain. -/
def wordAfter (c : Chain) (verdict : Verdict) (rule : MatchSet) : MatchSet :=
  if Firewall.setsBit c verdict then rule ∪ c.bit else rule \ c.bit

/-- The chain-enable word after switching a chain on or off. Bits that stand for no chain are left
as they are. -/
def switchAfter (c : Chain) (on : Bool) (word : UInt32) : UInt32 :=
  if on then word ||| c.switchBit else word &&& ~~~c.switchBit

/-- A verdict decides the bit of its chain and leaves the others. -/
theorem contains_wordAfter (c d : Chain) (verdict : Verdict) (rule : MatchSet) :
    (c.wordAfter verdict rule).contains d.bit
      = if d = c then Firewall.setsBit c verdict else rule.contains d.bit := by
  rw [contains_bit, contains_bit, wordAfter]
  -- the chains have different positions, so a change at one is none at another
  by_cases hd : d = c
  · rw [if_pos hd, hd]
    have hbit : c.bit.has c.position = true := by rw [has_bit, decide_eq_true rfl]
    cases Firewall.setsBit c verdict with
    | true =>
      show (rule ∪ c.bit).has c.position = true
      rw [MatchSet.has_union, hbit, Bool.or_true]
    | false =>
      show (rule \ c.bit).has c.position = false
      rw [MatchSet.has_diff, hbit, Bool.not_true, Bool.and_false]
  · rw [if_neg hd]
    have hbit : c.bit.has d.position = false := by
      rw [has_bit, decide_eq_false fun hpos => hd (position_injective hpos).symm]
    cases Firewall.setsBit c verdict with
    | true =>
      show (rule ∪ c.bit).has d.position = rule.has d.position
      rw [MatchSet.has_union, hbit, Bool.or_false]
    | false =>
      show (rule \ c.bit).has d.position = rule.has d.position
      rw [MatchSet.has_diff, hbit, Bool.not_false, Bool.and_true]

/-- **The chain of a verdict blocks iff the verdict is deny**, whatever its polarity; the other
chains block as before. -/
theorem blocks_wordAfter (c d : Chain) (verdict : Verdict) (rule : MatchSet) :
    d.blocks (c.wordAfter verdict rule)
      = if d = c then decide (verdict = .deny) else d.blocks rule := by
  rw [blocks, contains_wordAfter]
  by_cases hd : d = c
  · rw [if_pos hd, if_pos hd, hd]
    cases verdict with
    | allow =>
      show (c.isAllowList != c.isAllowList) = false
      exact bne_self_eq_false _
    | deny =>
      show (c.isAllowList != !c.isAllowList) = true
      cases c.isAllowList <;> rfl
  · rw [if_neg hd, if_neg hd]
    rfl

/-- Switching a chain decides the bit at its position and leaves the others. -/
theorem getLsbD_switchAfter (c : Chain) (on : Bool) (word : UInt32) (i : Nat) :
    (c.switchAfter on word).toBitVec.getLsbD i
      = if c.position = i then on else word.toBitVec.getLsbD i := by
  have hbit : c.switchBit.toBitVec.getLsbD i = decide (c.position = i) := by
    rw [switchBit_eq, BitVec.getLsbD_twoPow, decide_eq_true c.position_lt, Bool.true_and]
  rw [switchAfter]
  cases on with
  | true =>
    show (word ||| c.switchBit).toBitVec.getLsbD i = _
    rw [UInt32.toBitVec_or, BitVec.getLsbD_or, hbit]
    by_cases hi : c.position = i
    · simp [hi]
    · simp [hi]
  | false =>
    show (word &&& ~~~c.switchBit).toBitVec.getLsbD i = _
    rw [UInt32.toBitVec_and, UInt32.toBitVec_not, BitVec.getLsbD_and, BitVec.getLsbD_not, hbit]
    by_cases hi : c.position = i
    · simp [hi]
    · -- beyond the word there is no bit to keep
      by_cases hlt : i < 32
      · simp [hi, hlt]
      · simp [hi, BitVec.getLsbD_of_ge word.toBitVec i (by omega)]

/-- Of the chains, it decides one and leaves the others. -/
theorem contains_switchAfter (c d : Chain) (on : Bool) (word : UInt32) :
    (MatchSet.ofSwitchWord (c.switchAfter on word)).contains d.bit
      = if d = c then on else (MatchSet.ofSwitchWord word).contains d.bit := by
  rw [contains_bit, contains_bit, MatchSet.has_ofSwitchWord, MatchSet.has_ofSwitchWord,
    getLsbD_switchAfter]
  by_cases hd : d = c
  · rw [if_pos hd, if_pos (by rw [hd])]
  · rw [if_neg hd, if_neg fun hpos => hd (position_injective hpos).symm]

theorem switchAfter_comm {c d : Chain} (hne : c ≠ d) (on on' : Bool) (word : UInt32) :
    c.switchAfter on (d.switchAfter on' word) = d.switchAfter on' (c.switchAfter on word) := by
  refine UInt32.eq_of_toBitVec_eq (BitVec.eq_of_getLsbD_eq fun i _ => ?_)
  rw [getLsbD_switchAfter, getLsbD_switchAfter, getLsbD_switchAfter, getLsbD_switchAfter]
  by_cases hc : c.position = i
  · have hd : d.position ≠ i := fun hd => hne (position_injective (hc.trans hd.symm))
    rw [if_pos hc, if_pos hc, if_neg hd]
  · rw [if_neg hc, if_neg hc]

end Chain

/-! ## The word of reasons -/

/-- **More reasons** come with more enabled chains, more chains that block the word, and data
saver. -/
theorem blockedReasons_mono {uid : Uid} {enabled enabled' rule rule' : MatchSet}
    {saver saver' : Bool}
    (henabled : ∀ c : Chain, enabled.contains c.bit = true → enabled'.contains c.bit = true)
    (hblocks : ∀ c : Chain, c.blocks rule = true → c.blocks rule' = true)
    (hsaver : saver = true → saver' = true) :
    (blockedReasons uid enabled' rule' saver').contains (blockedReasons uid enabled rule saver)
      = true := by
  cases hsystem : Uid.isSystem uid with
  | true =>
    have hnone : ∀ e r s, blockedReasons uid e r s = .empty := fun _ _ _ => if_pos hsystem
    rw [hnone, hnone]
    exact BlockedReasons.contains_refl _
  | false =>
    refine BlockedReasons.contains_iff.2 fun i hi => ?_
    rw [has_blockedReasons hsystem] at hi ⊢
    -- the metered bits are the judgements of the three metered chains
    rcases hi with ⟨c, hreason, hlow, hon, hblocked⟩ | ⟨huser, rfl⟩ | ⟨hadmin, rfl⟩ |
      ⟨⟨hon, hnotSpared⟩, rfl⟩
    · exact .inl ⟨c, hreason, hlow, henabled c hon, hblocks c hblocked⟩
    · have hblocked := hblocks .meteredDenyUser ((Bool.false_bne _).trans huser)
      exact .inr (.inl ⟨(Bool.false_bne _).symm.trans hblocked, rfl⟩)
    · have hblocked := hblocks .meteredDenyAdmin ((Bool.false_bne _).trans hadmin)
      exact .inr (.inr (.inl ⟨(Bool.false_bne _).symm.trans hblocked, rfl⟩))
    · have hspares : ∀ r : MatchSet, Chain.meteredAllow.blocks r = !r.contains .happyBox :=
        fun _ => Bool.true_bne _
      have hblocked := hblocks .meteredAllow (by rw [hspares, hnotSpared, Bool.not_false])
      rw [hspares, Bool.not_eq_true'] at hblocked
      exact .inr (.inr (.inr ⟨⟨hsaver hon, hblocked⟩, rfl⟩))

end UidPolicy
