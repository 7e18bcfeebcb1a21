import UidPolicy.Path

/-!
# Where paths lead

Joining works on the raw text of paths, and what a path means is said by its components. These are
related by the segments of the text.

- `Path.segments_append`, `Path.segments_cases`: segments of a text with a separator.
  `Path.segments_eq_splitOn`: the segments are the parts between separators.
- `Path.names`: the components of a path without the one that it starts with.
- `Path.segments_join`, `Path.names_join`: what a path below another adds to it. The separator that
  joining puts in between, or finds there, adds nothing.
- `Path.components_join`: seen from an absolute path, a relative one leads to the components of the
  one and then those of the other.
-/

namespace UidPolicy

namespace Path

/-! ## Segments -/

theorem segments_of_not_mem {text : List Char} (h : '/' ∉ text) : segments text = [text] := by
  induction text with
  | nil => rfl
  | cons c rest ih =>
    have hc : c ≠ '/' := fun hc => h (hc ▸ List.mem_cons_self ..)
    rw [segments, if_neg hc, ih fun hrest => h (List.mem_cons_of_mem _ hrest)]

theorem segments_append (before after : List Char) :
    segments (before ++ '/' :: after) = segments before ++ segments after := by
  induction before with
  | nil => rw [List.nil_append, segments_separator, segments_nil, List.singleton_append]
  | cons c rest ih =>
    rw [List.cons_append, segments, segments]
    by_cases hc : c = '/'
    · rw [if_pos hc, if_pos hc, ih, List.cons_append]
    · rw [if_neg hc, if_neg hc, ih]
      cases hrest : segments rest with
      | nil => exact absurd hrest (segments_ne_nil rest)
      | cons segment more => rfl

/-- A text is its first segment, or that, a separator and the other segments. -/
theorem segments_cases (text : List Char) :
    '/' ∉ text ∧ segments text = [text] ∨
      ∃ first rest, '/' ∉ first ∧ text = first ++ '/' :: rest ∧
        segments text = first :: segments rest := by
  by_cases h : '/' ∈ text
  · obtain ⟨first, rest, rfl, hfirst⟩ := List.eq_append_cons_of_mem h
    refine .inr ⟨first, rest, hfirst, rfl, ?_⟩
    rw [segments_append, segments_of_not_mem hfirst, List.singleton_append]
  · exact .inl ⟨h, segments_of_not_mem h⟩

/-- **The segments are the parts between separators.** The definition reads character by character;
this is what it comes to. -/
theorem segments_eq_splitOn (text : List Char) : segments text = text.splitOn '/' := by
  induction text with
  | nil => rfl
  | cons c rest ih =>
    rw [List.splitOn, List.splitOnP_cons_eq_if_modifyHead, ← List.splitOn, ← ih, segments]
    by_cases hc : c = '/'
    · rw [if_pos hc, if_pos (beq_iff_eq.2 hc)]
    · rw [if_neg hc, if_neg fun h => hc (beq_iff_eq.1 h)]
      cases hrest : segments rest with
      | nil => exact absurd hrest (segments_ne_nil rest)
      | cons segment more => rfl

/-! ## Names -/

/-- The components of a path without the one that it starts with. -/
def names (path : String) : List Component := (segments path.toList).filterMap component?

theorem component?_eq_none_iff {segment : List Char} :
    component? segment = none ↔ segment = [] ∨ segment = ['.'] := by
  constructor
  · intro h
    rw [component?.eq_def] at h
    split at h
    · exact .inl rfl
    · exact .inr rfl
    · cases h
    · cases h
  · rintro (rfl | rfl) <;> rfl

/-- A segment is the name of an entry, unless it is empty or made of one dot or two. -/
theorem component?_eq_normal_iff {segment name : List Char} :
    component? segment = some (.normal name) ↔
      segment = name ∧ segment ≠ [] ∧ segment ≠ ['.'] ∧ segment ≠ ['.', '.'] := by
  constructor
  · intro h
    -- three segments have a meaning of their own, and any other is a name
    rw [component?.eq_def] at h
    split at h
    · cases h
    · cases h
    · cases h
    · next hempty hdot hdots =>
      cases h
      exact ⟨rfl, hempty, hdot, hdots⟩
  · rintro ⟨rfl, hempty, hdot, hdots⟩
    rw [component?.eq_def]
    split
    · exact absurd rfl hempty
    · exact absurd rfl hdot
    · exact absurd rfl hdots
    · rfl

theorem components_of_isAbsolute {path : String} (h : isAbsolute path = true) :
    components path = .root :: names path := by
  obtain ⟨rest, hpath⟩ : ∃ rest, path.toList = '/' :: rest := by
    rw [isAbsolute, beq_iff_eq, List.head?_eq_some_iff] at h
    exact h
  rw [components, names, hpath, segments_separator]
  obtain ⟨segment, more, hmore⟩ := List.exists_cons_of_ne_nil (segments_ne_nil rest)
  rw [hmore]
  rfl

/-! ## Joining -/

section Join

variable {base below : String}

/-- **What a path below another adds** are its segments. -/
theorem segments_join (base : String) (hbelow : isAbsolute below = false) :
    ∃ above, segments (join base below).toList = above ++ segments below.toList ∧
      above.filterMap component? = names base := by
  rw [join, if_neg (by rw [hbelow]; nofun), names]
  split
  · next hjoined =>
    rw [String.toList_append]
    cases hbase : base.toList.getLast? with
    | none =>
      rw [List.getLast?_eq_none_iff.1 hbase]
      exact ⟨[], rfl, rfl⟩
    | some c =>
      have hends : c = '/' := by
        rcases Bool.or_eq_true_iff.1 hjoined with hempty | hends
        · rw [String.isEmpty_iff.1 hempty] at hbase
          cases hbase
        · rw [endsInSeparator, hbase] at hends
          exact Option.some.inj (eq_of_beq hends)
      obtain ⟨above, habove⟩ := List.getLast?_eq_some_iff.1 hbase
      rw [habove, hends, List.append_assoc, List.singleton_append, segments_append,
        segments_append, List.filterMap_append]
      refine ⟨segments above, rfl, ?_⟩
      -- behind the separator at the end there is an empty segment
      exact (List.append_nil _).symm
  · rw [String.toList_append, String.toList_append, List.append_assoc]
    exact ⟨_, segments_append _ _, rfl⟩

theorem names_join (hbelow : isAbsolute below = false) :
    names (join base below) = names base ++ names below := by
  obtain ⟨above, hsegments, habove⟩ := segments_join base hbelow
  rw [names, hsegments, List.filterMap_append, habove]
  rfl

theorem isAbsolute_join (hbase : isAbsolute base = true) : isAbsolute (join base below) = true := by
  rw [join]
  split
  · next hbelow => exact hbelow
  · rw [isAbsolute, beq_iff_eq, List.head?_eq_some_iff] at hbase
    obtain ⟨rest, hrest⟩ := hbase
    split <;> simp [isAbsolute, hrest]

/-- **A relative path, seen from an absolute one**, leads to the components of both. An absolute one
would have replaced the path that it is seen from. -/
theorem components_join (hbase : isAbsolute base = true) (hbelow : isAbsolute below = false) :
    components (join base below) = components base ++ names below := by
  rw [components_of_isAbsolute (isAbsolute_join hbase), components_of_isAbsolute hbase,
    names_join hbelow, List.cons_append]

end Join

end Path

end UidPolicy
