import UidPolicy.Rule

/-!
# Stale ids as a list

`staleUids` keeps the first occurrence of each id that it lets through.

- `firstOccurrences_eq`: leaving out what was seen and then every repetition; so
  `staleUids_eq` is a filter followed by the removal of duplicates.
- `firstOccurrences_append`: the first occurrences along two lists, one after the other.
- `mem_staleUids`, `nodup_staleUids`: who is stale, and that nobody is listed twice.
-/

namespace UidPolicy

/-- First occurrences are the unseen members without their repetitions. -/
theorem firstOccurrences_eq (seen l : List Uid) :
    firstOccurrences seen l = (l.filter fun u => !seen.contains u).eraseDups := by
  induction l generalizing seen with
  | nil => rfl
  | cons uid rest ih =>
    rw [firstOccurrences]
    by_cases hseen : uid ∈ seen
    · rw [if_pos hseen, ih, List.filter_cons_of_neg (by simpa using hseen)]
    · rw [if_neg hseen, ih, List.filter_cons_of_pos (by simpa using hseen),
        List.eraseDups_cons, List.filter_filter]
      -- seen from now on: what was seen before, and this id
      have hnow : (fun u => !(uid :: seen).contains u)
          = fun u => (!u == uid) && !seen.contains u := by
        funext u
        rw [List.contains_cons, Bool.not_or]
      rw [hnow]

theorem mem_firstOccurrences {seen l : List Uid} {uid : Uid} :
    uid ∈ firstOccurrences seen l ↔ uid ∈ l ∧ uid ∉ seen := by
  rw [firstOccurrences_eq, List.mem_eraseDups, List.mem_filter]
  simp

theorem firstOccurrences_congr {seen seen' : List Uid} (h : ∀ u, u ∈ seen ↔ u ∈ seen')
    (l : List Uid) : firstOccurrences seen l = firstOccurrences seen' l := by
  have hsame : (fun u => !seen.contains u) = fun u => !seen'.contains u := by
    funext u
    rw [List.contains_eq_mem, List.contains_eq_mem, decide_eq_decide.2 (h u)]
  rw [firstOccurrences_eq, firstOccurrences_eq, hsame]

theorem firstOccurrences_append (seen l l' : List Uid) :
    firstOccurrences seen (l ++ l')
      = firstOccurrences seen l ++ firstOccurrences (l ++ seen) l' := by
  induction l generalizing seen with
  | nil => rfl
  | cons uid rest ih =>
    rw [List.cons_append, firstOccurrences, firstOccurrences]
    split
    -- an id seen before is skipped on the left, and seen on the right whether or not it is counted
    -- again
    · next hseen =>
      rw [ih]
      refine congrArg _ (firstOccurrences_congr (fun u => ?_) l')
      by_cases hu : u = uid
      · simp [hu, hseen]
      · simp [hu]
    · rw [ih, List.cons_append]
      refine congrArg _ (congrArg _ (firstOccurrences_congr (fun u => ?_) l'))
      rw [List.mem_append, List.mem_cons, List.mem_append, List.mem_cons, or_assoc]
      exact or_left_comm

theorem nodup_firstOccurrences (seen l : List Uid) : (firstOccurrences seen l).Nodup := by
  induction l generalizing seen with
  | nil => exact List.nodup_nil
  | cons uid rest ih =>
    rw [firstOccurrences]
    split
    · exact ih seen
    · refine List.nodup_cons.2 ⟨fun hmem => ?_, ih (uid :: seen)⟩
      exact (mem_firstOccurrences.1 hmem).2 (List.mem_cons_self ..)

theorem staleUids_eq (walk : List (Uid × MatchSet)) (bit : MatchSet)
    (replacement : List Uid) :
    staleUids walk bit replacement
      = ((walk.filter fun e => e.2.contains bit && !replacement.contains e.1).map
          (·.1)).eraseDups := by
  rw [staleUids, firstOccurrences_eq]
  congr 1
  exact List.filter_eq_self.2 fun _ _ => rfl

theorem mem_staleUids {walk : List (Uid × MatchSet)} {bit : MatchSet} {replacement : List Uid}
    {uid : Uid} : uid ∈ staleUids walk bit replacement ↔
      (∃ word, (uid, word) ∈ walk ∧ word.contains bit = true) ∧ uid ∉ replacement := by
  rw [staleUids_eq, List.mem_eraseDups, List.mem_map]
  simp only [List.mem_filter, Bool.and_eq_true, Bool.not_eq_true', List.contains_eq_mem,
    decide_eq_false_iff_not]
  constructor
  · rintro ⟨⟨_, word⟩, ⟨hwalk, hbit, hout⟩, rfl⟩
    exact ⟨⟨word, hwalk, hbit⟩, hout⟩
  · rintro ⟨⟨word, hwalk, hbit⟩, hout⟩
    exact ⟨(uid, word), ⟨hwalk, hbit, hout⟩, rfl⟩

theorem nodup_staleUids (walk : List (Uid × MatchSet)) (bit : MatchSet)
    (replacement : List Uid) : (staleUids walk bit replacement).Nodup :=
  nodup_firstOccurrences _ _

end UidPolicy
