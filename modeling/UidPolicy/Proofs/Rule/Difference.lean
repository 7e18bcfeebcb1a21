import UidPolicy.Proofs.Rule.Stale

/-!
# Stale ids as an ordered difference

A walk may show an id several times, with the bit and without it. Only the first time with the bit
counts, and what the walk shows of the id before and afterwards does not matter.

- `holdersOutside`: the ids that a walk shows with the bit and that are not in a list, as often as
  it shows them; `staleUids` is their first occurrences.
- `firstShown`: the place where a walk first shows an id with the bit. `pairwise_firstShown`: first
  occurrences stand in the order of these places.
- `staleUids_congr`, `staleUids_again`: what makes no difference to the list, and to the walk.
- `staleUids_difference`: who is stale, in which order, and what makes no difference.
-/

namespace UidPolicy

section Walks

variable {walk : List (Uid × MatchSet)} {bit : MatchSet} {replacement : List Uid}
  {uid u : Uid} {word : MatchSet}

/-! ## Holders -/

/-- The ids that a walk shows with the bit and that are not in the list, as often as it shows
them. -/
def holdersOutside (bit : MatchSet) (replacement : List Uid) (walk : List (Uid × MatchSet)) :
    List Uid :=
  (walk.filter fun e => e.2.contains bit && !replacement.contains e.1).map (·.1)

theorem staleUids_eq_firstOccurrences :
    staleUids walk bit replacement
      = firstOccurrences [] (holdersOutside bit replacement walk) := rfl

theorem holdersOutside_cons_of_pos (hbit : word.contains bit = true) (hout : uid ∉ replacement) :
    holdersOutside bit replacement ((uid, word) :: walk)
      = uid :: holdersOutside bit replacement walk := by
  rw [holdersOutside, List.filter_cons_of_pos (by simp [hbit, hout])]
  rfl

theorem holdersOutside_cons_of_neg (h : word.contains bit = true → uid ∈ replacement) :
    holdersOutside bit replacement ((uid, word) :: walk)
      = holdersOutside bit replacement walk := by
  rw [holdersOutside, List.filter_cons_of_neg (by simpa using h)]
  rfl

theorem holdersOutside_append (walk again : List (Uid × MatchSet)) :
    holdersOutside bit replacement (walk ++ again)
      = holdersOutside bit replacement walk ++ holdersOutside bit replacement again := by
  rw [holdersOutside, List.filter_append, List.map_append]
  rfl

theorem mem_holdersOutside : uid ∈ holdersOutside bit replacement walk ↔
    (∃ word, (uid, word) ∈ walk ∧ word.contains bit = true) ∧ uid ∉ replacement := by
  rw [← mem_staleUids, staleUids_eq_firstOccurrences, mem_firstOccurrences]
  simp

/-! ## Order -/

/-- The place where a walk first shows an id with the bit. An entry that shows it without the bit
does not count, even if it comes first. -/
def firstShown (bit : MatchSet) (walk : List (Uid × MatchSet)) (uid : Uid) : Nat :=
  walk.findIdx fun e => e.1 == uid && e.2.contains bit

theorem firstShown_cons_self (hbit : word.contains bit = true) :
    firstShown bit ((uid, word) :: walk) uid = 0 := by
  rw [firstShown, List.findIdx_cons]
  simp [hbit]

/-- What does not show the id with the bit puts the place off by one. -/
theorem firstShown_cons_of_not (h : word.contains bit = true → uid ≠ u) :
    firstShown bit ((uid, word) :: walk) u = firstShown bit walk u + 1 := by
  have hskip : (uid == u && word.contains bit) = false := by
    rw [Bool.and_eq_false_imp, beq_iff_eq]
    rintro rfl
    exact Bool.eq_false_iff.2 fun hbit => h hbit rfl
  rw [firstShown, List.findIdx_cons]
  simp only [hskip]
  rfl

theorem pairwise_cons_firstShown {l : List Uid}
    (hnot : ∀ u ∈ l, word.contains bit = true → uid ≠ u)
    (hl : l.Pairwise fun u v => firstShown bit walk u < firstShown bit walk v) :
    l.Pairwise fun u v =>
      firstShown bit ((uid, word) :: walk) u < firstShown bit ((uid, word) :: walk) v := by
  refine hl.imp_of_mem fun {u v} hu hv hlt => ?_
  rw [firstShown_cons_of_not (hnot u hu), firstShown_cons_of_not (hnot v hv)]
  exact Nat.succ_lt_succ hlt

/-- **First occurrences stand in the order in which they are shown.** -/
theorem pairwise_firstShown (bit : MatchSet) (replacement : List Uid)
    (walk : List (Uid × MatchSet)) (seen : List Uid) :
    (firstOccurrences seen (holdersOutside bit replacement walk)).Pairwise
      fun u v => firstShown bit walk u < firstShown bit walk v := by
  induction walk generalizing seen with
  | nil => exact .nil
  | cons e rest ih =>
    obtain ⟨uid, word⟩ := e
    by_cases hcounts : word.contains bit = true ∧ uid ∉ replacement
    case neg =>
      -- no holder behind the entry is an id that it shows with the bit
      have hreplaced : word.contains bit = true → uid ∈ replacement :=
        fun hbit => Classical.byContradiction fun hout => hcounts ⟨hbit, hout⟩
      rw [holdersOutside_cons_of_neg hreplaced]
      refine pairwise_cons_firstShown (fun u hu hbit => ?_) (ih seen)
      rintro rfl
      exact (mem_holdersOutside.1 (mem_firstOccurrences.1 hu).1).2 (hreplaced hbit)
    case pos =>
      obtain ⟨hbit, hout⟩ := hcounts
      rw [holdersOutside_cons_of_pos hbit hout, firstOccurrences]
      split
      · next hseen =>
        refine pairwise_cons_firstShown (fun u hu _ => ?_) (ih seen)
        rintro rfl
        exact (mem_firstOccurrences.1 hu).2 hseen
      · have hnew : ∀ u ∈ firstOccurrences (uid :: seen) (holdersOutside bit replacement rest),
            uid ≠ u := by
          rintro u hu rfl
          exact (mem_firstOccurrences.1 hu).2 (List.mem_cons_self ..)
        refine .cons (fun u hu => ?_)
          (pairwise_cons_firstShown (fun u hu _ => hnew u hu) (ih (uid :: seen)))
        rw [firstShown_cons_self hbit, firstShown_cons_of_not fun _ => hnew u hu]
        exact Nat.succ_pos _

end Walks

/-! ## What makes no difference -/

/-- Who is in the replacement counts, and not in which order or how often. -/
theorem staleUids_congr (walk : List (Uid × MatchSet)) (bit : MatchSet)
    {replacement replacement' : List Uid} (h : ∀ u, u ∈ replacement' ↔ u ∈ replacement) :
    staleUids walk bit replacement' = staleUids walk bit replacement := by
  have hsame : ∀ u, replacement'.contains u = replacement.contains u := by
    intro u
    rw [List.contains_eq_mem, List.contains_eq_mem, decide_eq_decide.2 (h u)]
  simp only [staleUids, hsame]

theorem firstOccurrences_of_seen {seen l : List Uid} (h : ∀ u ∈ l, u ∈ seen) :
    firstOccurrences seen l = [] := by
  refine List.eq_nil_iff_forall_not_mem.2 fun u hu => ?_
  obtain ⟨hl, hunseen⟩ := mem_firstOccurrences.1 hu
  exact hunseen (h u hl)

/-- A walk that goes on with entries of its own finds nothing new. -/
theorem staleUids_again {walk again : List (Uid × MatchSet)} (h : ∀ e ∈ again, e ∈ walk)
    (bit : MatchSet) (replacement : List Uid) :
    staleUids (walk ++ again) bit replacement = staleUids walk bit replacement := by
  have hseen : ∀ u ∈ holdersOutside bit replacement again,
      u ∈ holdersOutside bit replacement walk ++ [] := by
    intro u hu
    obtain ⟨⟨word, hagain, hbit⟩, hout⟩ := mem_holdersOutside.1 hu
    rw [List.append_nil]
    exact mem_holdersOutside.2 ⟨⟨word, h _ hagain, hbit⟩, hout⟩
  rw [staleUids_eq_firstOccurrences, holdersOutside_append, firstOccurrences_append,
    firstOccurrences_of_seen hseen, List.append_nil, ← staleUids_eq_firstOccurrences]

/-- **The stale ids are the ordered difference of a walk and a list.** Each is listed once; they are
the ids that the walk shows with the bit and that are not in the list, in the order in which the
walk first shows them so. The order and the repetitions of the list make no difference, and neither
does a walk that goes on with what it has shown. -/
theorem staleUids_difference (walk : List (Uid × MatchSet)) (bit : MatchSet)
    (replacement : List Uid) :
    (staleUids walk bit replacement).Nodup ∧
      (∀ uid, uid ∈ staleUids walk bit replacement ↔
        (∃ word, (uid, word) ∈ walk ∧ word.contains bit = true) ∧ uid ∉ replacement) ∧
      (staleUids walk bit replacement).Pairwise
        (fun u v => firstShown bit walk u < firstShown bit walk v) ∧
      (∀ replacement', (∀ u, u ∈ replacement' ↔ u ∈ replacement) →
        staleUids walk bit replacement' = staleUids walk bit replacement) ∧
      ∀ again, (∀ e ∈ again, e ∈ walk) →
        staleUids (walk ++ again) bit replacement = staleUids walk bit replacement :=
  ⟨nodup_staleUids walk bit replacement, fun _ => mem_staleUids,
    pairwise_firstShown bit replacement walk [], fun _ => staleUids_congr walk bit,
    fun _ hagain => staleUids_again hagain bit replacement⟩

/-- Id 2 is shown without the bit first, and with it only behind id 1. -/
example : staleUids
    [(2, .dozable), (1, .standby), (2, .standby ∪ .dozable), (3, .standby), (1, .standby)]
    .standby [3] = [1, 2] := by decide

end UidPolicy
