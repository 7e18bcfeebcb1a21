import UidPolicy.BlockedReasons
import UidPolicy.Control.Switches

/-!
# Words as sets of positions

Rule words, chain-enable words and reason words are read bit by bit.

- `MatchSet.has`, `BlockedReasons.has`: whether a word has the bit at a position.
- `MatchSet.single`, `BlockedReasons.single`: the word of one bit.
- `MatchSet.ext_has`: words with the same bits are equal, so an equation between words is
  proved at one position at a time.
- `MatchSet.contains_single`: containing the word of one bit is having that bit.
- `Chain.position`: the position of a chain in rule words and in the chain-enable word;
  `Chain.bit_eq_single` and `Chain.and_switchBit_ne_zero` are the two words it stands for.
-/

namespace UidPolicy

theorem and_eq_right_iff_getLsbD {n : Nat} {x y : BitVec n} :
    x &&& y = y ↔ ∀ i, y.getLsbD i = true → x.getLsbD i = true := by
  constructor
  · intro h i hi
    rw [← h, BitVec.getLsbD_and, Bool.and_eq_true] at hi
    exact hi.1
  · intro h
    refine BitVec.eq_of_getLsbD_eq fun i _ => ?_
    rw [BitVec.getLsbD_and]
    cases hy : y.getLsbD i with
    | false => exact Bool.and_false _
    | true => rw [h i hy, Bool.and_true]

/-! ## Rule words -/

namespace MatchSet

/-- Whether a set has the match at a position of the word. Positions are what lemmas about sets
speak of, since a word may have bits that no name stands for. -/
def has (a : MatchSet) (i : Nat) : Bool := a.bits.toBitVec.getLsbD i

/-- The set of the match at one position. -/
def single (i : Nat) : MatchSet := ⟨⟨BitVec.twoPow 64 i⟩⟩

/-- The set of every match, known or not: removing it leaves nothing, whatever was stored. -/
def everything : MatchSet := ⟨⟨BitVec.allOnes 64⟩⟩

theorem ext_has {a b : MatchSet} (h : ∀ i, a.has i = b.has i) : a = b := by
  obtain ⟨⟨x⟩⟩ := a
  obtain ⟨⟨y⟩⟩ := b
  have hxy : x = y := BitVec.eq_of_getLsbD_eq fun i _ => h i
  rw [hxy]

theorem lt_of_has {a : MatchSet} {i : Nat} (h : a.has i = true) : i < 64 :=
  BitVec.lt_of_getLsbD h

@[simp] theorem has_union (a b : MatchSet) (i : Nat) :
    (a ∪ b).has i = (a.has i || b.has i) := by
  simp only [has, bits_union, UInt64.toBitVec_or, BitVec.getLsbD_or]

@[simp] theorem has_diff (a b : MatchSet) (i : Nat) :
    (a \ b).has i = (a.has i && !b.has i) := by
  simp only [has, bits_diff, UInt64.toBitVec_and, UInt64.toBitVec_not, BitVec.getLsbD_and,
    BitVec.getLsbD_not]
  -- a complement has every bit of the word and no bit beyond it, where there is nothing to clear
  by_cases hi : i < 64
  · simp [hi]
  · simp [BitVec.getLsbD_of_ge a.bits.toBitVec i (by omega)]

@[simp] theorem has_empty (i : Nat) : empty.has i = false := by
  simp [has]

@[simp] theorem has_everything (i : Nat) : everything.has i = decide (i < 64) := by
  simp only [has, everything, BitVec.getLsbD_allOnes]

theorem has_single {j : Nat} (hj : j < 64) (i : Nat) : (single j).has i = decide (j = i) := by
  simp only [has, single, BitVec.getLsbD_twoPow, hj, decide_true, Bool.true_and]

theorem diff_everything (a : MatchSet) : a \ everything = empty := by
  refine ext_has fun i => ?_
  rw [has_diff, has_everything, has_empty]
  -- beyond the word there is no match to keep
  by_cases hi : i < 64
  · rw [decide_eq_true hi, Bool.not_true, Bool.and_false]
  · cases hhas : a.has i with
    | false => rfl
    | true => exact absurd (lt_of_has hhas) hi

theorem isEmpty_iff {a : MatchSet} : a.isEmpty = true ↔ a = empty := by
  constructor
  · intro h
    cases a
    simpa [isEmpty, empty] using h
  · rintro rfl
    rfl

theorem contains_iff {a b : MatchSet} :
    a.contains b = true ↔ ∀ i, b.has i = true → a.has i = true := by
  rw [contains, beq_iff_eq, ← UInt64.toBitVec_inj, UInt64.toBitVec_and]
  exact and_eq_right_iff_getLsbD

/-- Containing the word of one bit is having that bit. -/
theorem contains_single {a : MatchSet} {j : Nat} (hj : j < 64) :
    a.contains (single j) = a.has j := by
  rw [Bool.eq_iff_iff, contains_iff]
  simp [has_single hj]

/-- The interface match has position 7. -/
theorem has_iif (i : Nat) : iif.has i = decide (7 = i) := has_single (j := 7) (by decide) i

theorem contains_iif (a : MatchSet) : a.contains iif = a.has 7 :=
  contains_single (j := 7) (by decide)

/-- The lockdown match has position 8. -/
theorem has_lockdownVpn (i : Nat) : lockdownVpn.has i = decide (8 = i) :=
  has_single (j := 8) (by decide) i

end MatchSet

/-! ## Positions of chains -/

namespace Chain

/-- The position of a chain in rule words and in the chain-enable word. It is the same in both,
which is what lets one word be masked by the other. -/
def position : Chain → Nat
  | meteredAllow => 0
  | meteredDenyUser => 1
  | dozable => 2
  | standby => 3
  | powersave => 4
  | restricted => 5
  | lowPowerStandby => 6
  | oemDeny1 => 9
  | oemDeny2 => 10
  | oemDeny3 => 11
  | background => 12
  | meteredDenyAdmin => 13

theorem position_lt (c : Chain) : c.position < 32 := by cases c <;> decide

theorem position_injective {c d : Chain} (h : c.position = d.position) : c = d := by
  -- twelve chains, so that all pairs can be tried
  have hall : ∀ c ∈ all, ∀ d ∈ all, c.position = d.position → c = d := by decide
  exact hall c c.mem_all d d.mem_all h

theorem position_ne_iif (c : Chain) : c.position ≠ 7 := by cases c <;> decide

/-- The match of a chain is the word of the bit at its position. -/
theorem bit_eq_single (c : Chain) : c.bit = .single c.position := by cases c <;> rfl

theorem has_bit (c : Chain) (i : Nat) : c.bit.has i = decide (c.position = i) := by
  rw [bit_eq_single]
  exact MatchSet.has_single (Nat.lt_trans c.position_lt (by decide)) i

theorem contains_bit (c : Chain) (a : MatchSet) : a.contains c.bit = a.has c.position := by
  rw [bit_eq_single]
  exact MatchSet.contains_single (Nat.lt_trans c.position_lt (by decide))

/-- Without a match that it does not have, a set is as before. -/
theorem diff_bit (c : Chain) {a : MatchSet} (h : a.has c.position = false) :
    a \ c.bit = a := by
  refine MatchSet.ext_has fun i => ?_
  rw [MatchSet.has_diff, c.has_bit]
  -- only this position is cleared, and it has no bit
  by_cases hi : c.position = i
  · rw [← hi, h, Bool.false_and]
  · rw [decide_eq_false hi, Bool.not_false, Bool.and_true]

/-- A chain's match is never the interface match, so it leaves the index alone. -/
theorem bit_ne_iif (c : Chain) : c.bit ≠ .iif := by cases c <;> decide

/-- The word of a chain in the chain-enable word has the bit at the same position. -/
theorem switchBit_eq (c : Chain) : c.switchBit = ⟨BitVec.twoPow 32 c.position⟩ := by
  cases c <;> rfl

end Chain

theorem MatchSet.has_ofSwitchWord (w : UInt32) (i : Nat) :
    (MatchSet.ofSwitchWord w).has i = w.toBitVec.getLsbD i := by
  simp only [ofSwitchWord, has, UInt32.toBitVec_toUInt64, BitVec.getLsbD_setWidth]
  by_cases hi : i < 64
  · simp [hi]
  · simp [BitVec.getLsbD_of_ge w.toBitVec i (by omega)]

/-- Testing the chain-enable word in 32 bits is containing the chain's match in 64 bits: no chain
has a position beyond the 31st. -/
theorem Chain.and_switchBit_ne_zero (w : UInt32) (c : Chain) :
    (w &&& c.switchBit != 0) = (MatchSet.ofSwitchWord w).contains c.bit := by
  rw [c.contains_bit, MatchSet.has_ofSwitchWord, c.switchBit_eq, Bool.eq_iff_iff, bne_iff_ne,
    ne_eq, ← UInt32.toBitVec_inj, UInt32.toBitVec_and, BitVec.and_twoPow]
  -- masked by one bit, a word is that bit or zero
  have hpos : BitVec.twoPow 32 c.position ≠ 0#32 := by cases c <;> decide
  cases w.toBitVec.getLsbD c.position with
  | false => simp
  | true => simpa using hpos

/-! ## Reason words -/

namespace BlockedReasons

/-- Whether a set has the reason at a position of the word. -/
def has (a : BlockedReasons) (i : Nat) : Bool := a.bits.toBitVec.getLsbD i

/-- The set of the reason at one position. -/
def single (i : Nat) : BlockedReasons := ⟨⟨BitVec.twoPow 32 i⟩⟩

@[simp] theorem has_union (a b : BlockedReasons) (i : Nat) :
    (a ∪ b).has i = (a.has i || b.has i) := by
  simp only [has, bits_union, UInt32.toBitVec_or, BitVec.getLsbD_or]

@[simp] theorem has_empty (i : Nat) : empty.has i = false := by
  simp [has, empty]

theorem has_single {j : Nat} (hj : j < 32) (i : Nat) : (single j).has i = decide (j = i) := by
  simp only [has, single, BitVec.getLsbD_twoPow, hj, decide_true, Bool.true_and]

theorem contains_iff {a b : BlockedReasons} :
    a.contains b = true ↔ ∀ i, b.has i = true → a.has i = true := by
  rw [contains, beq_iff_eq, ← UInt32.toBitVec_inj, UInt32.toBitVec_and]
  exact and_eq_right_iff_getLsbD

/-- Containing the word of one bit is having that bit. -/
theorem contains_single {a : BlockedReasons} {j : Nat} (hj : j < 32) :
    a.contains (single j) = a.has j := by
  rw [Bool.eq_iff_iff, contains_iff]
  simp [has_single hj]

theorem isEmpty_iff_has {a : BlockedReasons} : a.isEmpty = true ↔ ∀ i, a.has i = false := by
  rw [isEmpty, beq_iff_eq, ← UInt32.toBitVec_inj]
  constructor
  · intro h i
    rw [has, h]
    simp
  · intro h
    exact BitVec.eq_of_getLsbD_eq fun i _ => by rw [← has, h i]; simp

theorem has_metered (a : BlockedReasons) (i : Nat) :
    a.metered.has i = (a.has i && meteredMask.toBitVec.getLsbD i) := by
  simp only [metered, has, UInt32.toBitVec_and, BitVec.getLsbD_and]

theorem has_unmetered (a : BlockedReasons) (i : Nat) :
    a.unmetered.has i = (a.has i && !meteredMask.toBitVec.getLsbD i) := by
  simp only [unmetered, has, UInt32.toBitVec_and, UInt32.toBitVec_not, BitVec.getLsbD_and,
    BitVec.getLsbD_not]
  by_cases hi : i < 32
  · simp [hi]
  · simp [BitVec.getLsbD_of_ge a.bits.toBitVec i (by omega)]

end BlockedReasons

end UidPolicy
