import UidPolicy.Proofs.Bits

/-!
# The reason word, bit by bit

- `Chain.exists_reason`, `BlockedReasons.exists_named`: every reason is the word of one bit;
  those that chains give are in the lower half, the named ones of the upper half are three.
- `has_blockedReasons`: which bits the word for an application id has.
- `contains_blockedReasons`: a reason of the lower half is there iff an enabled chain that
  gives it blocks the id; `contains_meteredUserRestricted` and its siblings are about the upper
  half, and `exists_named_of_has` is that there is no other bit.
- `isBlocked_false_iff`, `isBlocked_true_iff`: blocking on a network, as bits.
-/

namespace UidPolicy

namespace BlockedReasons

/-- The union along a list has the bits of its members. -/
theorem has_foldl_union {α : Type} (f : α → BlockedReasons) (l : List α) (a : BlockedReasons)
    (i : Nat) :
    (l.foldl (fun acc c => acc ∪ f c) a).has i = (a.has i || l.any fun c => (f c).has i) := by
  induction l generalizing a with
  | nil => rw [List.foldl_nil, List.any_nil, Bool.or_false]
  | cons c rest ih => rw [List.foldl_cons, ih, has_union, List.any_cons, Bool.or_assoc]

theorem has_ite (p : Bool) (a : BlockedReasons) (i : Nat) :
    (if p then a else empty).has i = (p && a.has i) := by
  cases p with
  | true => rfl
  | false => exact has_empty i

theorem exists_named {e : String × BlockedReasons} (he : e ∈ named) :
    ∃ p, p < 32 ∧ e.2 = single p := by
  have hall : ∀ e ∈ named, ∃ p ∈ List.range 32, e.2 = single p := by decide
  obtain ⟨p, hp, heq⟩ := hall e he
  exact ⟨p, List.mem_range.1 hp, heq⟩

/-- The bits of the lower half are those outside the metered mask. -/
theorem mask_eq_false_iff {i : Nat} (hi : i < 32) :
    meteredMask.toBitVec.getLsbD i = false ↔ i < 16 := by
  have hall : ∀ i ∈ List.range 32, (meteredMask.toBitVec.getLsbD i = false ↔ i < 16) := by decide
  exact hall i (List.mem_range.2 hi)

theorem lt_of_has {a : BlockedReasons} {i : Nat} (h : a.has i = true) : i < 32 :=
  BitVec.lt_of_getLsbD h

theorem has_unmetered_iff {a : BlockedReasons} {i : Nat} :
    a.unmetered.has i = true ↔ a.has i = true ∧ i < 16 := by
  rw [has_unmetered, Bool.and_eq_true, Bool.not_eq_true']
  constructor
  · rintro ⟨hi, hmask⟩
    exact ⟨hi, (mask_eq_false_iff (lt_of_has hi)).1 hmask⟩
  · rintro ⟨hi, hlow⟩
    exact ⟨hi, (mask_eq_false_iff (lt_of_has hi)).2 hlow⟩

theorem has_metered_iff {a : BlockedReasons} {i : Nat} :
    a.metered.has i = true ↔ a.has i = true ∧ ¬i < 16 := by
  rw [has_metered, Bool.and_eq_true]
  constructor
  · rintro ⟨hi, hmask⟩
    refine ⟨hi, fun hlow => ?_⟩
    rw [(mask_eq_false_iff (lt_of_has hi)).2 hlow] at hmask
    cases hmask
  · rintro ⟨hi, hhigh⟩
    refine ⟨hi, ?_⟩
    rw [← Bool.not_eq_false, mask_eq_false_iff (lt_of_has hi)]
    exact hhigh

theorem not_isEmpty_iff {a : BlockedReasons} : (!a.isEmpty) = true ↔ ∃ i, a.has i = true := by
  rw [Bool.not_eq_true', ← Bool.not_eq_true, isEmpty_iff_has]
  simp

theorem isBlocked_false_iff {a : BlockedReasons} :
    a.isBlocked false = true ↔ ∃ i, i < 16 ∧ a.has i = true := by
  show (!a.unmetered.isEmpty) = true ↔ _
  rw [not_isEmpty_iff]
  constructor
  · rintro ⟨i, hi⟩
    exact ⟨i, (has_unmetered_iff.1 hi).2, (has_unmetered_iff.1 hi).1⟩
  · rintro ⟨i, hlow, hi⟩
    exact ⟨i, has_unmetered_iff.2 ⟨hi, hlow⟩⟩

theorem isBlocked_true_iff {a : BlockedReasons} :
    a.isBlocked true = true ↔ a.isBlocked false = true ∨ (!a.metered.isEmpty) = true := by
  show (!a.isEmpty) = true ↔ (!a.unmetered.isEmpty) = true ∨ _
  rw [not_isEmpty_iff, not_isEmpty_iff, not_isEmpty_iff]
  constructor
  · rintro ⟨i, hi⟩
    by_cases hlow : i < 16
    · exact .inl ⟨i, has_unmetered_iff.2 ⟨hi, hlow⟩⟩
    · exact .inr ⟨i, has_metered_iff.2 ⟨hi, hlow⟩⟩
  · rintro (⟨i, hi⟩ | ⟨i, hi⟩)
    · exact ⟨i, (has_unmetered_iff.1 hi).1⟩
    · exact ⟨i, (has_metered_iff.1 hi).1⟩

end BlockedReasons

/-! ## The reasons of chains -/

namespace Chain

/-- The chains that count on metered networks only. They give no reason as chains: what holds there
is computed beside them. -/
def metered : List Chain := [meteredAllow, meteredDenyUser, meteredDenyAdmin]

/-- The chains outside the metered ones give a reason, the word of one bit of the lower half. -/
theorem exists_reason {c : Chain} (hc : c ∉ metered) :
    ∃ p, p < 16 ∧ c.reason? = some (.single p) := by
  cases c with
  | dozable => exact ⟨1, by decide, rfl⟩
  | standby => exact ⟨2, by decide, rfl⟩
  | powersave => exact ⟨0, by decide, rfl⟩
  | restricted => exact ⟨3, by decide, rfl⟩
  | lowPowerStandby => exact ⟨5, by decide, rfl⟩
  | background => exact ⟨6, by decide, rfl⟩
  | oemDeny1 => exact ⟨7, by decide, rfl⟩
  | oemDeny2 => exact ⟨7, by decide, rfl⟩
  | oemDeny3 => exact ⟨7, by decide, rfl⟩
  | meteredAllow => exact absurd (by decide) hc
  | meteredDenyUser => exact absurd (by decide) hc
  | meteredDenyAdmin => exact absurd (by decide) hc

theorem reason?_eq_none_iff {c : Chain} : c.reason? = none ↔ c ∈ metered := by
  cases c <;> decide

/-- A chain contributes a bit iff it is enabled, blocks the id, and its reason is that bit. -/
theorem has_contribution {enabled rule : MatchSet} {c : Chain} {i : Nat} :
    (c.contribution enabled rule).has i = true ↔
      c.reason? = some (.single i) ∧ i < 16 ∧ enabled.contains c.bit = true ∧
        c.blocks rule = true := by
  -- the metered chains have reasons of their own, which are added elsewhere
  by_cases hc : c ∈ metered
  · rw [contribution, reason?_eq_none_iff.2 hc]
    constructor
    · intro h
      rw [BlockedReasons.has_empty] at h
      cases h
    · rintro ⟨h, -⟩
      cases h
  · obtain ⟨p, hp, hreason⟩ := exists_reason hc
    rw [contribution, hreason]
    dsimp only
    rw [BlockedReasons.has_ite, BlockedReasons.has_single (Nat.lt_trans hp (by decide)),
      Bool.and_eq_true, Bool.and_eq_true, decide_eq_true_iff]
    constructor
    · rintro ⟨⟨henabled, hblocks⟩, rfl⟩
      exact ⟨rfl, hp, henabled, hblocks⟩
    · rintro ⟨hsame, hi, henabled, hblocks⟩
      refine ⟨⟨henabled, hblocks⟩, ?_⟩
      -- a reason has one bit, so two of them are the same if they share it
      have hbit : (BlockedReasons.single p).has i = true := by
        rw [Option.some.inj hsame, BlockedReasons.has_single (Nat.lt_trans hi (by decide)),
          decide_eq_true rfl]
      rw [BlockedReasons.has_single (Nat.lt_trans hp (by decide)), decide_eq_true_iff] at hbit
      exact hbit

end Chain

/-! ## The word for an id -/

section Word

variable {uid : Uid} (happ : Uid.isSystem uid = false) (enabled rule : MatchSet) (saver : Bool)

include happ

/-- The bits of the word for an application id, one by one: those of the chains, the two of the
metered deny-lists, and that of data saver. -/
theorem has_blockedReasons (i : Nat) :
    (blockedReasons uid enabled rule saver).has i = true ↔
      (∃ c : Chain, c.reason? = some (.single i) ∧ i < 16 ∧ enabled.contains c.bit = true ∧
          c.blocks rule = true) ∨
        (rule.contains .penaltyBoxUser = true ∧ 17 = i) ∨
        (rule.contains .penaltyBoxAdmin = true ∧ 18 = i) ∨
        ((saver = true ∧ rule.contains .happyBox = false) ∧ 16 = i) := by
  have huser : BlockedReasons.meteredUserRestricted = .single 17 := rfl
  have hadmin : BlockedReasons.meteredAdminDisabled = .single 18 := rfl
  have hsaver : BlockedReasons.meteredDataSaver = .single 16 := rfl
  rw [blockedReasons, if_neg (by rw [happ]; exact Bool.false_ne_true)]
  dsimp only
  rw [BlockedReasons.has_union, BlockedReasons.has_union, BlockedReasons.has_union,
    BlockedReasons.has_foldl_union, BlockedReasons.has_empty, Bool.false_or,
    BlockedReasons.has_ite, BlockedReasons.has_ite, BlockedReasons.has_ite, huser, hadmin,
    hsaver,
    BlockedReasons.has_single (by decide), BlockedReasons.has_single (by decide),
    BlockedReasons.has_single (by decide)]
  simp only [Bool.or_eq_true, Bool.and_eq_true, decide_eq_true_iff, List.any_eq_true,
    Chain.has_contribution, Chain.mem_all, true_and, Bool.not_eq_true', or_assoc]

/-- A bit of the lower half is there iff an enabled chain that gives it blocks the id. -/
theorem has_low_blockedReasons {i : Nat} (hi : i < 16) :
    (blockedReasons uid enabled rule saver).has i = true ↔
      ∃ c : Chain, c.reason? = some (.single i) ∧ enabled.contains c.bit = true ∧
        c.blocks rule = true := by
  rw [has_blockedReasons happ]
  constructor
  · rintro (⟨c, hreason, -, hblocked⟩ | ⟨-, rfl⟩ | ⟨-, rfl⟩ | ⟨-, rfl⟩)
    · exact ⟨c, hreason, hblocked⟩
    · exact absurd hi (by decide)
    · exact absurd hi (by decide)
    · exact absurd hi (by decide)
  · rintro ⟨c, hreason, hblocked⟩
    exact .inl ⟨c, hreason, hi, hblocked⟩

/-- A named reason of the lower half is there iff an enabled chain that gives it blocks the
id. -/
theorem contains_blockedReasons {e : String × BlockedReasons} (he : e ∈ BlockedReasons.named)
    (hlow : e.2.unmetered = e.2) :
    (blockedReasons uid enabled rule saver).contains e.2 = true ↔
      ∃ c : Chain, c.reason? = some e.2 ∧ enabled.contains c.bit = true ∧
        c.blocks rule = true := by
  obtain ⟨p, hp, hsingle⟩ := BlockedReasons.exists_named he
  have hbit : (BlockedReasons.single p).unmetered.has p = true := by
    rw [← hsingle, hlow, hsingle, BlockedReasons.has_single hp, decide_eq_true rfl]
  rw [hsingle, BlockedReasons.contains_single hp,
    has_low_blockedReasons happ enabled rule saver (BlockedReasons.has_unmetered_iff.1 hbit).2]

/-- Every bit of the word belongs to a named reason that the word contains. -/
theorem exists_named_of_has {i : Nat}
    (hi : (blockedReasons uid enabled rule saver).has i = true) :
    ∃ e ∈ BlockedReasons.named, e.2 = .single i ∧
      (blockedReasons uid enabled rule saver).contains e.2 = true := by
  have hnamed : ∃ e ∈ BlockedReasons.named, e.2 = .single i := by
    rcases (has_blockedReasons happ enabled rule saver i).1 hi with
      ⟨c, hreason, -⟩ | ⟨-, rfl⟩ | ⟨-, rfl⟩ | ⟨-, rfl⟩
    · have hall : ∀ c ∈ Chain.all, ∀ R ∈ c.reason?, ∃ e ∈ BlockedReasons.named, e.2 = R := by
        decide
      exact hall c c.mem_all _ hreason
    · exact ⟨("METERED_USER_RESTRICTED", .meteredUserRestricted), by decide, rfl⟩
    · exact ⟨("METERED_ADMIN_DISABLED", .meteredAdminDisabled), by decide, rfl⟩
    · exact ⟨("METERED_DATA_SAVER", .meteredDataSaver), by decide, rfl⟩
  obtain ⟨e, he, hsingle⟩ := hnamed
  refine ⟨e, he, hsingle, ?_⟩
  rw [hsingle, BlockedReasons.contains_single (BlockedReasons.lt_of_has hi), hi]

theorem contains_meteredUserRestricted :
    (blockedReasons uid enabled rule saver).contains .meteredUserRestricted
      = rule.contains .penaltyBoxUser := by
  have hsingle : BlockedReasons.meteredUserRestricted = .single 17 := rfl
  rw [hsingle, BlockedReasons.contains_single (by decide), Bool.eq_iff_iff,
    has_blockedReasons happ]
  simp

theorem contains_meteredAdminDisabled :
    (blockedReasons uid enabled rule saver).contains .meteredAdminDisabled
      = rule.contains .penaltyBoxAdmin := by
  have hsingle : BlockedReasons.meteredAdminDisabled = .single 18 := rfl
  rw [hsingle, BlockedReasons.contains_single (by decide), Bool.eq_iff_iff,
    has_blockedReasons happ]
  simp

theorem contains_meteredDataSaver :
    (blockedReasons uid enabled rule saver).contains .meteredDataSaver
      = (saver && !rule.contains .happyBox) := by
  have hsingle : BlockedReasons.meteredDataSaver = .single 16 := rfl
  rw [hsingle, BlockedReasons.contains_single (by decide), Bool.eq_iff_iff,
    has_blockedReasons happ]
  simp

/-- An id is blocked on every network iff an enabled chain outside the metered ones blocks
it. -/
theorem isBlocked_blockedReasons :
    (blockedReasons uid enabled rule saver).isBlocked false = true ↔
      ∃ c : Chain, c ∉ Chain.metered ∧ enabled.contains c.bit = true ∧
        c.blocks rule = true := by
  rw [BlockedReasons.isBlocked_false_iff]
  constructor
  · -- a bit of the lower half comes from a chain that gives a reason, so from no metered one
    rintro ⟨i, hlow, hi⟩
    obtain ⟨c, hreason, hblocked⟩ := (has_low_blockedReasons happ enabled rule saver hlow).1 hi
    refine ⟨c, fun hmetered => ?_, hblocked⟩
    rw [Chain.reason?_eq_none_iff.2 hmetered] at hreason
    cases hreason
  · rintro ⟨c, hc, hblocked⟩
    obtain ⟨p, hp, hreason⟩ := Chain.exists_reason hc
    exact ⟨p, hp, (has_low_blockedReasons happ enabled rule saver hp).2 ⟨c, hreason, hblocked⟩⟩

end Word

end UidPolicy
