import Mathlib.Data.List.Perm.Subperm
import UidPolicy.Proofs.Firewall.Capacity
import UidPolicy.Proofs.Firewall.Observed
import UidPolicy.Proofs.Reasons.Agreement

/-!
# The algebra of replacements

Where nothing stands in its way a replacement makes of the stored entries its exact result. So the
laws of several replacements are laws of what becomes of one entry.

A replacement rewrites the entries of the listed ids and of the members, with padding zero, and
leaves the others as they are (`Chain.Disturbs`). What it deletes had the chain's match only; if the
entry was well-formed there was no index to lose with it, and the entry may come back as it was.
There are two things that do not come back (`earlierReplacement_shows`). The padding of a rewritten
entry is lost, so that of two replacements of one chain the first may still show in it. And a map
of the kernel may be full: then it matters who came first.

- `OwnerEntry.Plain`: padding zero. `eq_of_records`: plain entries are told apart by their records.
- `Chain.has_entryAfter`, `ifIndex_entryAfter`: the word and the index of an entry afterwards.
- `Chain.records_absorb`, `entryAfter_idem`, `entryAfter_comm`: the laws for one entry.
- `RecordView`: what is compared of two worlds.
- `ReplacesExactly.laws`: the laws for a whole map, wherever the exact result is reached.
  `replacesExactly_inMemory` and `replacesExactly_opened` say that it is.
- `ReplaceLaws`, `replace_laws`: the laws in memory and on opened maps.
-/

namespace UidPolicy

open Memory (World)

/-! ## Entries and their records -/

/-- The entry has padding zero, as every entry has that is written here. Another program may have
stored something else there, and reads drop it. -/
def OwnerEntry.Plain (x : OwnerEntry) : Prop := x.pad = 0

/-- Well-formed entries with one word and one index are of one record. -/
theorem records_eq {e e' : Option OwnerEntry} (hwf : ∀ x, e = some x → x.WellFormed)
    (hwf' : ∀ x, e' = some x → x.WellFormed) (hword : ruleWord e = ruleWord e')
    (hindex : ifIndex e = ifIndex e') : e.map OwnerRecord.ofEntry = e'.map OwnerRecord.ofEntry := by
  -- a well-formed entry has a word other than zero, so the words tell whether there is one
  cases e with
  | none =>
    cases e' with
    | none => rfl
    | some y => exact absurd hword.symm (hwf' y rfl).1
  | some x =>
    cases e' with
    | none => exact absurd hword (hwf x rfl).1
    | some y =>
      have hrecord : OwnerRecord.ofEntry x = OwnerRecord.ofEntry y := by
        rw [OwnerRecord.ofEntry, OwnerRecord.ofEntry]
        exact congrArg₂ OwnerRecord.mk hindex hword
      rw [Option.map_some, Option.map_some, hrecord]

/-- Plain entries are told apart by their records. -/
theorem eq_of_records {e e' : Option OwnerEntry} (hplain : ∀ x, e = some x → x.Plain)
    (hplain' : ∀ x, e' = some x → x.Plain)
    (h : e.map OwnerRecord.ofEntry = e'.map OwnerRecord.ofEntry) : e = e' := by
  -- a plain entry is the stored form of its record
  have hform : ∀ x : OwnerEntry, x.Plain → x = (OwnerRecord.ofEntry x).toEntry := by
    rintro ⟨iif, pad, rule⟩ rfl
    rfl
  cases e with
  | none =>
    cases e' with
    | none => rfl
    | some y => cases h
  | some x =>
    cases e' with
    | none => cases h
    | some y =>
      have hrecord : OwnerRecord.ofEntry x = OwnerRecord.ofEntry y := Option.some.inj h
      rw [hform x (hplain x rfl), hrecord, ← hform y (hplain' y rfl)]

/-- Whatever a change writes is plain. -/
theorem RuleChange.plain_apply (ch : RuleChange) (e : Option OwnerEntry) :
    ∀ x, ch.apply e = some x → x.Plain := by
  intro x hx
  cases ch with
  | grant added iif =>
    cases hx
    rfl
  | revoke cleared =>
    cases e with
    | none => cases hx
    | some y =>
      rw [apply] at hx
      split at hx
      · cases hx
      · cases hx
        rfl

/-! ## One entry -/

namespace Chain

/-- The replacement rewrites the entry of the id: it is granted the match again, or loses it. An
entry that is rewritten gets padding zero, even if its record stays what it was. -/
def Disturbs (c : Chain) (uids : List Uid) (u : Uid) (e : Option OwnerEntry) : Prop :=
  u ∈ uids ∨ (ruleWord e).contains c.bit = true

section Entry

variable {c d : Chain} {uids : List Uid} {u : Uid} {e : Option OwnerEntry}

theorem entryAfter_of_disturbs (h : c.Disturbs uids u e) :
    c.entryAfter uids u e = (RuleChange.toward c uids u).apply e := by
  rw [entryAfter, RuleChange.toward]
  by_cases hu : u ∈ uids
  · rw [if_pos hu, if_pos hu]
  · rw [if_neg hu, if_neg hu, if_pos (h.resolve_left hu)]

theorem entryAfter_of_not_disturbs (h : ¬c.Disturbs uids u e) : c.entryAfter uids u e = e := by
  obtain ⟨hu, hbit⟩ := not_or.1 h
  rw [entryAfter, if_neg hu, if_neg hbit]

/-- The chain's position becomes the wanted one, and every other position stays. -/
theorem has_entryAfter (c : Chain) (uids : List Uid) (u : Uid) (e : Option OwnerEntry) (i : Nat) :
    (ruleWord (c.entryAfter uids u e)).has i
      = if c.position = i then decide (u ∈ uids) else (ruleWord e).has i := by
  -- whoever is not disturbed is no member and is not to be one
  by_cases h : c.Disturbs uids u e
  · rw [entryAfter_of_disturbs h, RuleChange.has_toward]
  · rw [entryAfter_of_not_disturbs h]
    obtain ⟨hu, hbit⟩ := not_or.1 h
    by_cases hi : c.position = i
    · rw [if_pos hi, ← hi, ← c.contains_bit, Bool.eq_false_iff.2 hbit, decide_eq_false hu]
    · rw [if_neg hi]

/-- A replacement of the members of another chain disturbs the same entries before and after. -/
theorem disturbs_entryAfter (hcd : c ≠ d) (uids' : List Uid) :
    d.Disturbs uids u (c.entryAfter uids' u e) ↔ d.Disturbs uids u e := by
  rw [Disturbs, Disturbs, d.contains_bit, d.contains_bit, has_entryAfter,
    if_neg fun h => hcd (position_injective h)]

/-- Of a well-formed entry the index stays, even where the entry goes. -/
theorem ifIndex_entryAfter (uids : List Uid) (u : Uid) (hwf : ∀ x, e = some x → x.WellFormed) :
    ifIndex (c.entryAfter uids u e) = ifIndex e := by
  -- a chain's word is never the interface match, which alone moves the index
  by_cases h : c.Disturbs uids u e
  · rw [entryAfter_of_disturbs h, RuleChange.ifIndex_toward c uids u hwf]
  · rw [entryAfter_of_not_disturbs h]

theorem wellFormed_entryAfter (c : Chain) (uids : List Uid) (u : Uid)
    (hwf : ∀ x, e = some x → x.WellFormed) :
    ∀ x, c.entryAfter uids u e = some x → x.WellFormed := by
  intro x hx
  by_cases h : c.Disturbs uids u e
  · rw [entryAfter_of_disturbs h] at hx
    exact RuleChange.wellFormed_toward c uids u hwf hx
  · rw [entryAfter_of_not_disturbs h] at hx
    exact hwf x hx

theorem plain_entryAfter (h : c.Disturbs uids u e ∨ ∀ x, e = some x → x.Plain) :
    ∀ x, c.entryAfter uids u e = some x → x.Plain := by
  by_cases hdisturbs : c.Disturbs uids u e
  · rw [entryAfter_of_disturbs hdisturbs]
    exact RuleChange.plain_apply _ e
  · rw [entryAfter_of_not_disturbs hdisturbs]
    exact h.resolve_left hdisturbs

/-! ### The laws -/

/-- Of two replacements of the members of one chain the record has the second only. -/
theorem records_absorb (c : Chain) (A B : List Uid) (u : Uid)
    (hwf : ∀ x, e = some x → x.WellFormed) :
    (c.entryAfter B u (c.entryAfter A u e)).map OwnerRecord.ofEntry
      = (c.entryAfter B u e).map OwnerRecord.ofEntry := by
  have hwfA := wellFormed_entryAfter c A u hwf
  refine records_eq (wellFormed_entryAfter c B u hwfA) (wellFormed_entryAfter c B u hwf) ?_ ?_
  · refine MatchSet.ext_has fun i => ?_
    rw [has_entryAfter, has_entryAfter, has_entryAfter]
    by_cases hi : c.position = i
    · rw [if_pos hi, if_pos hi]
    · rw [if_neg hi, if_neg hi, if_neg hi]
  · rw [ifIndex_entryAfter B u hwfA, ifIndex_entryAfter A u hwf, ifIndex_entryAfter B u hwf]

/-- A plain entry has the second only, too. -/
theorem entryAfter_absorb (c : Chain) (A B : List Uid) (u : Uid)
    (hwf : ∀ x, e = some x → x.WellFormed) (hplain : ∀ x, e = some x → x.Plain) :
    c.entryAfter B u (c.entryAfter A u e) = c.entryAfter B u e :=
  eq_of_records (plain_entryAfter (.inr (plain_entryAfter (.inr hplain))))
    (plain_entryAfter (.inr hplain)) (records_absorb c A B u hwf)

/-- A replacement made twice is a replacement made once. -/
theorem entryAfter_idem (c : Chain) (uids : List Uid) (u : Uid) (e : Option OwnerEntry) :
    c.entryAfter uids u (c.entryAfter uids u e) = c.entryAfter uids u e := by
  by_cases hu : u ∈ uids
  · rw [entryAfter_of_mem hu, entryAfter_of_mem hu, RuleChange.apply_apply]
  · refine entryAfter_of_not_disturbs fun h => ?_
    -- whoever is not listed is no member any more
    have hbit := h.resolve_left hu
    rw [c.contains_bit, has_entryAfter, if_pos rfl, decide_eq_false hu] at hbit
    cases hbit

/-- Replacements of the members of two chains commute. -/
theorem entryAfter_comm (hcd : c ≠ d) (A B : List Uid) (u : Uid)
    (hwf : ∀ x, e = some x → x.WellFormed) :
    d.entryAfter B u (c.entryAfter A u e) = c.entryAfter A u (d.entryAfter B u e) := by
  by_cases h : c.Disturbs A u e ∨ d.Disturbs B u e
  · -- rewritten by either, the entry is plain in the end, so its record decides
    have hwfA := wellFormed_entryAfter c A u hwf
    have hwfB := wellFormed_entryAfter d B u hwf
    refine eq_of_records (plain_entryAfter ?_) (plain_entryAfter ?_) (records_eq
      (wellFormed_entryAfter d B u hwfA) (wellFormed_entryAfter c A u hwfB) ?_ ?_)
    · rw [disturbs_entryAfter hcd]
      exact h.symm.imp_right fun hc => plain_entryAfter (.inl hc)
    · rw [disturbs_entryAfter hcd.symm]
      exact h.imp_right fun hd => plain_entryAfter (.inl hd)
    · refine MatchSet.ext_has fun i => ?_
      rw [has_entryAfter, has_entryAfter, has_entryAfter, has_entryAfter]
      by_cases hi : c.position = i
      · rw [if_pos hi, if_pos hi, if_neg fun hd => hcd (position_injective (hi.trans hd.symm))]
      · rw [if_neg hi, if_neg hi]
    · rw [ifIndex_entryAfter B u hwfA, ifIndex_entryAfter A u hwf, ifIndex_entryAfter A u hwfB,
        ifIndex_entryAfter B u hwf]
  · obtain ⟨hc, hd⟩ := not_or.1 h
    rw [entryAfter_of_not_disturbs hc, entryAfter_of_not_disturbs hd,
      entryAfter_of_not_disturbs hc]

end Entry

end Chain

/-! ## The whole map -/

namespace Firewall

/-- The world after a replacement, whether or not it went through. -/
def replaced {W : Type} (b : Backing W) (c : Chain) (uids : List Uid) (w : W) : W :=
  ((replaceChain b c uids).run w).world

/-- What a law of replacements compares of two worlds: the stored entries, and that the worlds are
alike elsewhere. A map of the kernel counts its writes, and so even two worlds with the same entries
need not be equal there. -/
structure RecordView (W : Type) where
  entries : W → SortedMap Uid OwnerEntry
  alike : W → W → Prop

namespace RecordView

variable {W : Type}

/-- The worlds have the same entries, padding included: no program that reads the map can tell them
apart. -/
def Same (v : RecordView W) (w w' : W) : Prop := v.alike w w' ∧ v.entries w = v.entries w'

/-- The worlds have the same word and the same index under every id. Padding is no part of a
record. -/
def SameRecords (v : RecordView W) (w w' : W) : Prop :=
  v.alike w w' ∧ ∀ u, ((v.entries w).get? u).map OwnerRecord.ofEntry
    = ((v.entries w').get? u).map OwnerRecord.ofEntry

end RecordView

/-- The laws of replacements of the members of two chains, from a world. -/
structure ReplaceLaws {W : Type} (b : Backing W) (v : RecordView W) (w : W) (c d : Chain)
    (A A' B : List Uid) : Prop where
  /-- A replacement goes through, and makes the listed ids the members. -/
  replaces : ∃ outcome, Answers (replaceChain b c A) w outcome ∧ outcome.failed = [] ∧
    ∀ u, (ruleWord ((v.entries (replaced b c A w)).get? u)).contains c.bit = decide (u ∈ A)
  /-- Of two replacements the second counts: every record is as if it had been the only one. The
  padding need not be: the first one may have rewritten an entry that the second leaves alone. -/
  absorbs : v.SameRecords (replaced b c B (replaced b c A w)) (replaced b c B w)
  /-- If the stored entries are plain, every byte is, since there is no padding that could go. -/
  absorbsExactly : (∀ u x, (v.entries w).get? u = some x → x.Plain) →
    v.Same (replaced b c B (replaced b c A w)) (replaced b c B w)
  /-- Twice is once, in every byte: what the first time has rewritten is plain already. -/
  idempotent : v.Same (replaced b c A (replaced b c A w)) (replaced b c A w)
  /-- The replacements of two chains may be made in either order, in every byte: an entry that
  either of them rewrites is rewritten in both orders. -/
  commutes : c ≠ d →
    v.Same (replaced b d B (replaced b c A w)) (replaced b c A (replaced b d B w))
  /-- Of a list only the members count, not their order or how often they are listed. -/
  asSet : (∀ u, u ∈ A ↔ u ∈ A') → v.Same (replaced b c A w) (replaced b c A' w)

/-- Worlds are described by their entries, and a replacement by some of the ids goes from entries to
the exact result. This is all that the laws need of a map: they are proved from it once, for the map
in memory and for one that has been opened. -/
structure ReplacesExactly {W : Type} (b : Backing W) (v : RecordView W)
    (R : W → SortedMap Uid OwnerEntry → Prop) (ids : List Uid) : Prop where
  entries : ∀ {w m}, R w m → v.entries w = m
  alike : ∀ {w w' m m'}, R w m → R w' m' → v.alike w w'
  replaces : ∀ {w m} (c : Chain) {uids : List Uid}, R w m → (∀ u ∈ uids, u ∈ ids) →
    ∃ outcome, Answers (replaceChain b c uids) w outcome ∧ outcome.failed = [] ∧
      R (replaced b c uids w) (c.exactly uids m)

namespace ReplacesExactly

variable {W : Type} {b : Backing W} {v : RecordView W} {R : W → SortedMap Uid OwnerEntry → Prop}
  {ids : List Uid} {w w' : W} {m m' : SortedMap Uid OwnerEntry} {c d : Chain} {A A' B : List Uid}

theorem replaced (h : ReplacesExactly b v R ids) (c : Chain) (hR : R w m)
    (hA : ∀ u ∈ A, u ∈ ids) : R (replaced b c A w) (c.exactly A m) := by
  obtain ⟨-, -, -, hafter⟩ := h.replaces c hR hA
  exact hafter

/-- Worlds are the same if what describes them is the same for every id. -/
theorem same (h : ReplacesExactly b v R ids) (hR : R w m) (hR' : R w' m')
    (hsame : ∀ u, m.get? u = m'.get? u) : v.Same w w' :=
  ⟨h.alike hR hR', by rw [h.entries hR, h.entries hR', SortedMap.ext_get? hsame]⟩

/-- So the laws of the map are those of its entries, one by one. Both sides of a law end in exact
results, and two of these are compared under a single id. -/
theorem laws (h : ReplacesExactly b v R ids) (hR : R w m)
    (hwf : ∀ u x, m.get? u = some x → x.WellFormed) (hA : ∀ u ∈ A, u ∈ ids)
    (hB : ∀ u ∈ B, u ∈ ids) : ReplaceLaws b v w c d A A' B where
  replaces := by
    -- each law compares two runs: both end in exact results, and those are compared id by id
    obtain ⟨outcome, hanswers, hfailed, hafter⟩ := h.replaces c hR hA
    refine ⟨outcome, hanswers, hfailed, fun u => ?_⟩
    rw [h.entries hafter, Chain.get?_exactly, c.contains_bit, Chain.has_entryAfter, if_pos rfl]
  absorbs := by
    have hboth := h.replaced c (h.replaced c hR hA) hB
    have hlast := h.replaced c hR hB
    refine ⟨h.alike hboth hlast, fun u => ?_⟩
    rw [h.entries hboth, h.entries hlast, Chain.get?_exactly, Chain.get?_exactly,
      Chain.get?_exactly, Chain.records_absorb c A B u (hwf u)]
  absorbsExactly hplain := by
    rw [h.entries hR] at hplain
    refine h.same (h.replaced c (h.replaced c hR hA) hB) (h.replaced c hR hB) fun u => ?_
    rw [Chain.get?_exactly, Chain.get?_exactly, Chain.get?_exactly,
      Chain.entryAfter_absorb c A B u (hwf u) (hplain u)]
  idempotent := by
    refine h.same (h.replaced c (h.replaced c hR hA) hA) (h.replaced c hR hA) fun u => ?_
    rw [Chain.get?_exactly, Chain.get?_exactly, Chain.entryAfter_idem]
  commutes hcd := by
    refine h.same (h.replaced d (h.replaced c hR hA) hB) (h.replaced c (h.replaced d hR hB) hA)
      fun u => ?_
    rw [Chain.get?_exactly, Chain.get?_exactly, Chain.get?_exactly, Chain.get?_exactly,
      Chain.entryAfter_comm hcd A B u (hwf u)]
  asSet hsame := by
    have hA' : ∀ u ∈ A', u ∈ ids := fun u hu => hA u ((hsame u).2 hu)
    refine h.same (h.replaced c hR hA) (h.replaced c hR hA') fun u => ?_
    rw [Chain.get?_exactly, Chain.get?_exactly, Chain.entryAfter_congr (hsame u)]

end ReplacesExactly

/-! ### In memory -/

/-- The world with other rule records. -/
def withRecords (w : World) (m : SortedMap Uid OwnerEntry) : World :=
  { w with uidOwner := { w.uidOwner with content := m } }

/-- Worlds in memory are alike if they are equal but for the entries. -/
def RecordView.inMemory : RecordView World where
  entries w := w.uidOwner.content
  alike w w' := w' = withRecords w w'.uidOwner.content

section Faultless

variable (h : Memory.Host) {w : World}

theorem content_afterReplacement (hw : w.uidOwner.Faultless) (c : Chain) (uids : List Uid) :
    (afterReplacement h c uids w).uidOwner.content = c.exactly uids w.uidOwner.content := by
  have hwritten := written_afterReplacement h c uids w
  refine SortedMap.ext_get? fun u => ?_
  have hstale : u ∈ staleAlong w.uidOwner c uids ↔
      (ruleWord (w.uidOwner.content.get? u)).contains c.bit = true ∧ u ∉ uids := by
    rw [mem_staleAlong, hw.visible?_eq, and_iff_right_iff_imp]
    rintro ⟨hbit, -⟩
    -- a member has an entry, and entries are on the walk
    exact (hw.walks _ u).2 (SortedMap.mem_keys.2 (isSome_of_contains hbit))
  rw [← (hwritten.faultless hw).visible?_eq,
    visible?_afterReplacement h c uids hw.reads (hw.refuses_eq u), hw.visible?_eq,
    Chain.get?_exactly, Chain.entryAfter]
  by_cases hu : u ∈ uids
  · rw [if_pos hu, if_pos hu]
  · simp only [hstale, hu, if_false, not_false_eq_true, and_true]

theorem afterReplacement_eq (hw : w.uidOwner.Faultless) (c : Chain) (uids : List Uid) :
    afterReplacement h c uids w = withRecords w (c.exactly uids w.uidOwner.content) := by
  have hothers : afterReplacement h c uids w
      = { w with uidOwner := (afterReplacement h c uids w).uidOwner } := by
    have hrevoked := RuleChange.worldAfter_eq h (.revoke c.bit) (staleAlong w.uidOwner c uids) w
    have hgranted := RuleChange.worldAfter_eq h (.grant c.bit 0) uids
      (afterRevocations h c uids w)
    rw [afterReplacement, hgranted, afterRevocations, hrevoked]
  rw [hothers, (written_afterReplacement h c uids w).eq_of_faultless hw,
    content_afterReplacement h hw]
  rfl

/-- **Without failures a replacement makes of the entries its exact result**, and changes nothing
else. -/
theorem run_replaceChain_faultless (hw : w.uidOwner.Faultless) (c : Chain) (uids : List Uid) :
    ∃ outcome log, (replaceChain (Memory.backing h) c uids).run w
        = ⟨.ok outcome, withRecords w (c.exactly uids w.uidOwner.content), log⟩ ∧
      outcome.failed = [] := by
  obtain ⟨outcome, log, hrun, hfailed, -⟩ := run_replaceChain h c uids hw.reads
  rw [afterReplacement_eq h hw] at hrun
  refine ⟨outcome, log, hrun, ?_⟩
  rw [hfailed, List.filter_eq_nil_iff]
  intro u _
  rw [hw.refuses_eq u]
  exact Bool.false_ne_true

theorem faultless_withRecords (hw : w.uidOwner.Faultless) (m : SortedMap Uid OwnerEntry) :
    (withRecords w m).uidOwner.Faultless := ⟨hw.reads, hw.writes, hw.keys, hw.present, hw.walks⟩

/-- So nothing stands between the entries and the exact result, whichever ids are listed: the map in
memory is never full. -/
theorem replacesExactly_inMemory (hw : w.uidOwner.Faultless) (ids : List Uid) :
    ReplacesExactly (Memory.backing h) .inMemory (fun w' m => w' = withRecords w m) ids where
  entries := by
    rintro w' m rfl
    rfl
  alike := by
    rintro w₁ w₂ m₁ m₂ rfl rfl
    rfl
  replaces := by
    rintro w' m c uids rfl -
    obtain ⟨outcome, log, hrun, hfailed⟩ :=
      run_replaceChain_faultless h (faultless_withRecords hw m) c uids
    refine ⟨outcome, by rw [Answers, hrun], hfailed, ?_⟩
    rw [replaced, hrun]
    rfl

end Faultless

/-! ### On an opened map -/

/-- Machines are alike if no other map differs. -/
def RecordView.opened (h : Handle) : RecordView Kernel where
  entries k := (k.maps h.map).content.decoded Uid OwnerEntry
  alike k k' := ∀ other, other ≠ h.map → k'.maps other = k.maps other

/-- The ids that have an entry or are listed, each once: nobody else has one afterwards, so where
there is room for these nobody is turned away. -/
def concerned (m : SortedMap Uid OwnerEntry) (uids : List Uid) : List Uid :=
  m.keys ++ newcomers m uids

/-- The exact result has entries for such ids only, if it is made for some of them. -/
theorem size_exactly_le {m : SortedMap Uid OwnerEntry} {ids : List Uid}
    (hkeys : ∀ u ∈ m.keys, u ∈ ids) (c : Chain) {uids : List Uid} (huids : ∀ u ∈ uids, u ∈ ids) :
    (∀ u ∈ (c.exactly uids m).keys, u ∈ ids) ∧ (c.exactly uids m).size ≤ ids.length := by
  have hall : ∀ u ∈ (c.exactly uids m).keys, u ∈ ids := by
    -- an id that is not listed has an entry afterwards only if it had one before
    intro u hu
    by_cases hlisted : u ∈ uids
    · exact huids u hlisted
    · refine hkeys u (SortedMap.mem_keys.2 ?_)
      rw [SortedMap.mem_keys, Chain.get?_exactly] at hu
      cases hm : m.get? u with
      | some x => rfl
      | none =>
        rw [hm, Chain.entryAfter_none hlisted] at hu
        cases hu
  refine ⟨hall, ?_⟩
  rw [SortedMap.size_eq_length (c.exactly uids m).nodup_keys fun _ => .rfl]
  exact (List.subperm_of_subset (c.exactly uids m).nodup_keys hall).length_le

/-- On an opened map the exact result is reached as long as it fits, and it does if there is room
for all the ids. -/
theorem replacesExactly_opened {maps : PinnedMaps} (haccess : maps.uidOwner.access = .readWrite)
    (k : Kernel) {capacity : Nat} {ids : List Uid} (hroom : ids.length ≤ capacity) :
    ReplacesExactly maps.backing (.opened maps.uidOwner)
      (fun k' m => maps.uidOwner.OnHash capacity k k' m ∧ ∀ u ∈ m.keys, u ∈ ids) ids where
  entries := fun hR => hR.1.content.decoded_eq
  alike := fun hR hR' other hother =>
    (hR'.1.others other hother).trans (hR.1.others other hother).symm
  replaces := by
    rintro k' m c uids ⟨hk', hkeys⟩ huids
    -- nobody else has an entry, so there is room for the result whatever was done before
    obtain ⟨hkeys', hsize⟩ := size_exactly_le hkeys c huids
    obtain ⟨outcome, m', hanswers, hafter, hwithin⟩ :=
      replaceChain_models (b := maps.backing) (Handle.models_hashTable haccess capacity k) hk' rfl
        c uids
    obtain ⟨hfailed, rfl⟩ := hwithin.fits (Nat.le_trans hsize hroom)
    exact ⟨outcome, hanswers, hfailed, hafter, hkeys'⟩

/-! ### The laws -/

/-- **The algebra of replacements.** On well-formed maps replacements follow the laws, in memory as
long as nothing fails, and on an opened map of the kernel as long as nobody interferes and there is
room for an entry of every id that has one or is listed. -/
theorem replace_laws (c d : Chain) (A A' B : List Uid) :
    (∀ (h : Memory.Host) (w : World), w.uidOwner.Faultless → WellFormedEntries w.uidOwner →
        ReplaceLaws (Memory.backing h) .inMemory w c d A A' B) ∧
      ∀ (maps : PinnedMaps) (capacity : Nat) (k : Kernel) (m : SortedMap Uid OwnerEntry),
        maps.uidOwner.access = .readWrite → maps.uidOwner.OnHash capacity k k m →
        (∀ u x, m.get? u = some x → x.WellFormed) → (concerned m (A ++ B)).length ≤ capacity →
        ReplaceLaws maps.backing (.opened maps.uidOwner) k c d A A' B := by
  constructor
  · intro h w hw hwf
    exact (replacesExactly_inMemory h hw (A ++ B)).laws (m := w.uidOwner.content) rfl hwf
      (fun _ => List.mem_append_left B) fun _ => List.mem_append_right A
  · intro maps capacity k m haccess hk hwf hroom
    have hkeys : ∀ u ∈ m.keys, u ∈ concerned m (A ++ B) := fun u => List.mem_append_left _
    -- a listed id has an entry, or it comes as a newcomer
    have hlisted : ∀ u ∈ A ++ B, u ∈ concerned m (A ++ B) := by
      intro u hu
      by_cases hkey : u ∈ m.keys
      · exact hkeys u hkey
      · exact List.mem_append_right _ (mem_newcomers.2 ⟨hu, hkey⟩)
    exact (replacesExactly_opened haccess k hroom).laws ⟨hk, hkeys⟩ hwf
      (fun u hu => hlisted u (List.mem_append_left B hu))
      fun u hu => hlisted u (List.mem_append_right A hu)

/-- Three well-formed entries, one with padding, along a walk that is backwards and lists everything
twice. -/
def paddedWorld : World :=
  { World.empty with
    uidOwner := { World.empty.uidOwner with
      content := .ofList [(10001, ⟨7, 0, 0x10000000084⟩), (10002, ⟨0, 0, 0x4⟩),
        (10003, ⟨0, 5, 0x8⟩)]
      walk := fun ks => ks.reverse ++ ks } }

theorem paddedWorld_faultless : paddedWorld.uidOwner.Faultless where
  reads := rfl
  writes := rfl
  keys _ := rfl
  present _ := rfl
  walks ks k := by
    show k ∈ ks.reverse ++ ks ↔ k ∈ ks
    rw [List.mem_append, List.mem_reverse, or_self]

theorem paddedWorld_wellFormed : WellFormedEntries paddedWorld.uidOwner := by
  intro u x hx
  have hall : ∀ p ∈ paddedWorld.uidOwner.content.toList, p.2.WellFormed := by decide
  exact hall (u, x) (SortedMap.mem_toList.2 hx)

theorem fullRecords_wellFormed : ∀ u x, fullRecords.get? u = some x → x.WellFormed := by
  intro u x hx
  have hall : ∀ p ∈ fullRecords.toList, p.2.WellFormed := by decide
  exact hall (u, x) (SortedMap.mem_toList.2 hx)

/-- On the full machine there is no room for anybody else, but its two ids may come and go. -/
theorem paddedWorld_laws :
    ((paddedWorld.uidOwner.Faultless ∧ WellFormedEntries paddedWorld.uidOwner) ∧
        ReplaceLaws (Memory.backing ⟨[], none⟩) .inMemory paddedWorld .dozable .standby
          [10003, 10001, 10003] [10001, 10003] [10004]) ∧
      (fullMaps.uidOwner.access = .readWrite ∧
        fullMaps.uidOwner.OnHash 2 fullKernel fullKernel fullRecords ∧
        (∀ u x, fullRecords.get? u = some x → x.WellFormed) ∧
        (concerned fullRecords ([10002, 10002] ++ [10001])).length ≤ 2) ∧
      ReplaceLaws fullMaps.backing (.opened fullMaps.uidOwner) fullKernel .dozable .standby
        [10002, 10002] [10002] [10001] := by
  have hfull : fullMaps.uidOwner.OnHash 2 fullKernel fullKernel fullRecords :=
    { fullKernel_onHash with others := fun _ _ => rfl }
  have hroom : (concerned fullRecords ([10002, 10002] ++ [10001])).length ≤ 2 := by decide
  exact ⟨⟨⟨paddedWorld_faultless, paddedWorld_wellFormed⟩,
      (replace_laws .dozable .standby _ _ _).1 ⟨[], none⟩ paddedWorld paddedWorld_faultless
        paddedWorld_wellFormed⟩,
    ⟨rfl, hfull, fullRecords_wellFormed, hroom⟩,
    (replace_laws .dozable .standby _ _ _).2 fullMaps 2 fullKernel fullRecords rfl hfull
      fullRecords_wellFormed hroom⟩

/-- What an earlier replacement leaves behind where the laws do not hold: the padding of an entry is
lost when its id joins the chain and does not come back when it leaves, and whoever has come first
into a full map keeps the place. -/
theorem earlierReplacement_shows :
    (paddedWorld.uidOwner.Faultless ∧ WellFormedEntries paddedWorld.uidOwner ∧
        ¬RecordView.inMemory.Same
          (replaced (Memory.backing ⟨[], none⟩) .dozable []
            (replaced (Memory.backing ⟨[], none⟩) .dozable [10003] paddedWorld))
          (replaced (Memory.backing ⟨[], none⟩) .dozable [] paddedWorld)) ∧
      fullMaps.uidOwner.OnHash 2 fullKernel fullKernel fullRecords ∧
        (∀ u x, fullRecords.get? u = some x → x.WellFormed) ∧
        ¬(RecordView.opened fullMaps.uidOwner).SameRecords
          (replaced fullMaps.backing .dozable [10004, 10003]
            (replaced fullMaps.backing .dozable [10003] fullKernel))
          (replaced fullMaps.backing .dozable [10004, 10003] fullKernel) := by
  refine ⟨⟨paddedWorld_faultless, paddedWorld_wellFormed, fun h => ?_⟩,
    { fullKernel_onHash with others := fun _ _ => rfl }, fullRecords_wellFormed, fun h => ?_⟩
  -- id 10003 has padding 5 at the start and has no padding after it was a member
  · have hentry := congrArg (SortedMap.get? · 10003) h.2
    revert hentry
    decide +kernel
  -- id 10001 leaves one place, which 10004 gets if 10003 did not take it earlier
  · have hrecord := h.2 10004
    revert hrecord
    decide +kernel

end Firewall

end UidPolicy
