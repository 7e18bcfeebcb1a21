import Mathlib.Data.Finset.Card
import UidPolicy.Proofs.Memory.Setting
import UidPolicy.Proofs.Reasons.Agreement
import UidPolicy.Proofs.Table

/-!
# Counting entries along walks

The sizes of the maps are counted along walks over their keys. A walk may have any order, repeat
keys and list keys without a value; and each read of it may meet another world than the one before,
so that a key may have a value at one read and none at the next. What is counted are the keys that
some read found a value of, each once.

- `Table.Reads`: what reads of some keys in a row find, each in the world that the one before left.
- `Table.WalkEnds`: how a walk over a map ends, with the keys that it found or with a fault.
- `SizesEnd`, `sizes_iff`: three such walks in a row are all there is to counting, on every
  backing. The first fault ends it, and nothing is counted then.
- `Store.found`: the keys that a walk over a map in memory finds. `Store.found_subset` and
  `Store.found_eq` compare them with the stored keys, `Store.found_congr` with another walk.
- `sizes_counted`: the sizes of any maps are what their walks find; for maps in memory this is said
  in terms of what they hold.
-/

namespace UidPolicy

open Memory (World Setting)

variable {W K V : Type}

/-! ## Distinct elements -/

theorem nodup_eraseDups [DecidableEq K] : ∀ l : List K, l.eraseDups.Nodup
  | [] => List.nodup_nil
  | k :: l => by
    rw [List.eraseDups_cons, List.nodup_cons]
    refine ⟨?_, nodup_eraseDups (l.filter fun k' => !k' == k)⟩
    simp
termination_by l => l.length
decreasing_by exact Nat.lt_succ_of_le (List.length_filter_le _ _)

theorem length_eraseDups [DecidableEq K] (l : List K) : l.eraseDups.length = l.toFinset.card := by
  rw [← List.toFinset_card_of_nodup (nodup_eraseDups l)]
  refine congrArg Finset.card (Finset.ext fun k => ?_)
  rw [List.mem_toFinset, List.mem_toFinset, List.mem_eraseDups]

/-! ## Walks over any map -/

namespace Table

/-- The reads of some keys in their order, each in the world that the one before left, and what they
find. -/
inductive Reads (t : Table W K V) : W → List K → List (K × Option V) → W → Prop where
  | nil (w : W) : t.Reads w [] [] w
  | cons {w w' w'' : W} {k : K} {ks : List K} {value : Option V} {answers : List (K × Option V)}
      {log : List Log.Event} : (t.get k).run w = ⟨.ok value, w', log⟩ →
      t.Reads w' ks answers w'' → t.Reads w (k :: ks) ((k, value) :: answers) w''

/-- The keys along the walk that have a value when they are read. Between the two a key may have
vanished, and it is then counted by nobody. -/
def foundKeys [DecidableEq K] (answers : List (K × Option V)) : Finset K :=
  ((answers.filter fun a => a.2.isSome).map (·.1)).toFinset

/-- How a walk over a map ends, and the world that it leaves: the three ways are all that there are,
and which one it is depends on the map alone. -/
inductive WalkEnds [DecidableEq K] (t : Table W K V) (w : W) :
    Except Fault (Finset K) → W → Prop where
  /-- The keys cannot be listed. -/
  | unlisted {w' : W} {e : Fault} {log : List Log.Event} :
      t.keys.run w = ⟨.error e, w', log⟩ → t.WalkEnds w (.error e) w'
  /-- A listed key cannot be read, and those before it could. -/
  | unread {w₁ w₂ w' : W} {ks rest : List K} {k : K} {answers : List (K × Option V)} {e : Fault}
      {log log' : List Log.Event} : t.keys.run w = ⟨.ok (ks ++ k :: rest), w₁, log⟩ →
      t.Reads w₁ ks answers w₂ → (t.get k).run w₂ = ⟨.error e, w', log'⟩ →
      t.WalkEnds w (.error e) w'
  /-- Every listed key is read. -/
  | complete {w₁ w' : W} {ks : List K} {answers : List (K × Option V)} {log : List Log.Event} :
      t.keys.run w = ⟨.ok ks, w₁, log⟩ → t.Reads w₁ ks answers w' →
      t.WalkEnds w (.ok (foundKeys answers)) w'

variable {t : Table W K V} {w w' : W}

theorem Reads.run_readAll {ks : List K} {answers : List (K × Option V)}
    (h : t.Reads w ks answers w') : ∃ log, (t.readAll ks).run w
      = ⟨.ok (answers.filterMap fun a => a.2.map fun v => (a.1, v)), w', log⟩ := by
  induction h with
  | nil w => exact ⟨[], rfl⟩
  | @cons w w₁ w' k ks value answers log hget _ ih =>
    obtain ⟨log', hrest⟩ := ih
    rw [readAll, Act.run_bind_ok hget, Act.run_bind_ok hrest]
    cases value with
    | none => exact ⟨_, rfl⟩
    | some v => exact ⟨_, rfl⟩

/-- A read that fails ends the reads, whatever was found before it. -/
theorem Reads.run_readAll_unread {ks : List K} {answers : List (K × Option V)} {w₁ : W} {k : K}
    {e : Fault} {log : List Log.Event} (h : t.Reads w ks answers w₁)
    (hget : (t.get k).run w₁ = ⟨.error e, w', log⟩) (rest : List K) :
    ∃ log, (t.readAll (ks ++ k :: rest)).run w = ⟨.error e, w', log⟩ := by
  induction h with
  | nil w => exact ⟨_, Act.run_bind_error hget⟩
  | cons hfirst _ ih =>
    obtain ⟨log', hrest⟩ := ih hget
    rw [List.cons_append, readAll, Act.run_bind_ok hfirst, Act.run_bind_error hrest]
    exact ⟨_, rfl⟩

/-- All keys are read, or there is a first one that is not. -/
theorem reads_or_unread (t : Table W K V) (ks : List K) (w : W) :
    (∃ answers w', t.Reads w ks answers w') ∨
      ∃ before k rest answers w₁ e w' log, ks = before ++ k :: rest ∧
        t.Reads w before answers w₁ ∧ (t.get k).run w₁ = ⟨.error e, w', log⟩ := by
  induction ks generalizing w with
  | nil => exact .inl ⟨[], w, .nil w⟩
  | cons k ks ih =>
    rcases hget : (t.get k).run w with ⟨e | value, w', log⟩
    · exact .inr ⟨[], k, ks, [], w, e, w', log, rfl, .nil w, hget⟩
    · rcases ih w' with
        ⟨answers, w'', hreads⟩ | ⟨before, k', rest, answers, w₁, e, w'', log', rfl, hreads, hfail⟩
      · exact .inl ⟨_, w'', .cons hget hreads⟩
      · exact .inr ⟨k :: before, k', rest, _, w₁, e, w'', log', rfl, .cons hget hreads, hfail⟩

variable [DecidableEq K]

theorem toFinset_map_fst (answers : List (K × Option V)) :
    ((answers.filterMap fun a => a.2.map fun v => (a.1, v)).map (·.1)).toFinset
      = foundKeys answers := by
  rw [foundKeys]
  refine congrArg List.toFinset ?_
  induction answers with
  | nil => rfl
  | cons a answers ih =>
    obtain ⟨k, value⟩ := a
    cases value with
    | none => exact ih
    | some v => exact congrArg (k :: ·) ih

/-- **Counting one map** is counting the keys that the walk finds. -/
theorem WalkEnds.run_distinctKeys {r : Except Fault (Finset K)} (h : t.WalkEnds w r w') :
    ∃ log, (NetMaps.distinctKeys t).run w = ⟨r.map Finset.card, w', log⟩ := by
  rw [NetMaps.distinctKeys, entries]
  cases h with
  | unlisted hkeys => exact ⟨_, Act.run_bind_error (Act.run_bind_error hkeys)⟩
  | unread hkeys hreads hget =>
    obtain ⟨log, hread⟩ := hreads.run_readAll_unread hget _
    have hentries := (Act.run_bind_ok (f := t.readAll) hkeys).trans (by rw [hread])
    exact ⟨_, Act.run_bind_error hentries⟩
  | complete hkeys hreads =>
    obtain ⟨log, hread⟩ := hreads.run_readAll
    have hentries := (Act.run_bind_ok (f := t.readAll) hkeys).trans (by rw [hread])
    rw [Act.run_bind_ok hentries, length_eraseDups, toFinset_map_fst]
    exact ⟨_, rfl⟩

theorem exists_walkEnds (t : Table W K V) (w : W) : ∃ r w', t.WalkEnds w r w' := by
  rcases hkeys : t.keys.run w with ⟨e | ks, w₁, log⟩
  · exact ⟨_, w₁, .unlisted hkeys⟩
  · rcases t.reads_or_unread ks w₁ with
      ⟨answers, w', hreads⟩ | ⟨before, k, rest, answers, w₂, e, w', log', rfl, hreads, hget⟩
    · exact ⟨_, w', .complete hkeys hreads⟩
    · exact ⟨_, w', .unread hkeys hreads hget⟩

end Table

/-! ## Three walks in a row -/

/-- How the counting of the three maps ends, and the world that it leaves. The maps are walked one
after the other, and the first walk that fails ends it. -/
inductive SizesEnd (b : Backing W) (w : W) : Except Fault NetMaps.Sizes → W → Prop where
  /-- The walk over the first map fails. -/
  | cookieTag {w' : W} {e : Fault} :
      b.cookieTag.WalkEnds w (.error e) w' → SizesEnd b w (.error e) w'
  /-- The walk over the second map fails. -/
  | uidOwner {w₁ w' : W} {tags : Finset UInt64} {e : Fault} :
      b.cookieTag.WalkEnds w (.ok tags) w₁ → b.uidOwner.WalkEnds w₁ (.error e) w' →
      SizesEnd b w (.error e) w'
  /-- The walk over the last map fails. -/
  | uidPermission {w₁ w₂ w' : W} {tags : Finset UInt64} {owners : Finset Uid} {e : Fault} :
      b.cookieTag.WalkEnds w (.ok tags) w₁ → b.uidOwner.WalkEnds w₁ (.ok owners) w₂ →
      b.uidPermission.WalkEnds w₂ (.error e) w' → SizesEnd b w (.error e) w'
  /-- All three find their keys. -/
  | counted {w₁ w₂ w' : W} {tags : Finset UInt64} {owners permissions : Finset Uid} :
      b.cookieTag.WalkEnds w (.ok tags) w₁ → b.uidOwner.WalkEnds w₁ (.ok owners) w₂ →
      b.uidPermission.WalkEnds w₂ (.ok permissions) w' →
      SizesEnd b w (.ok ⟨tags.card, owners.card, permissions.card⟩) w'

section Sizes

variable {b : Backing W} {w w' : W}

theorem SizesEnd.run_sizes {r : Except Fault NetMaps.Sizes} (h : SizesEnd b w r w') :
    ∃ log, (NetMaps.sizes b).run w = ⟨r, w', log⟩ := by
  rw [NetMaps.sizes]
  -- the ends are those of three binds in a row: each constructor says how far the counting got
  cases h with
  | cookieTag htags =>
    obtain ⟨log, hfail⟩ := htags.run_distinctKeys
    exact ⟨_, Act.run_bind_error hfail⟩
  | uidOwner htags howners =>
    obtain ⟨log, hcount⟩ := htags.run_distinctKeys
    obtain ⟨log', hfail⟩ := howners.run_distinctKeys
    rw [Act.run_bind_ok hcount, Act.run_bind_error hfail]
    exact ⟨_, rfl⟩
  | uidPermission htags howners hpermissions =>
    obtain ⟨log, hcount⟩ := htags.run_distinctKeys
    obtain ⟨log', hcount'⟩ := howners.run_distinctKeys
    obtain ⟨log'', hfail⟩ := hpermissions.run_distinctKeys
    rw [Act.run_bind_ok hcount, Act.run_bind_ok hcount', Act.run_bind_error hfail]
    exact ⟨_, rfl⟩
  | counted htags howners hpermissions =>
    obtain ⟨log, hcount⟩ := htags.run_distinctKeys
    obtain ⟨log', hcount'⟩ := howners.run_distinctKeys
    obtain ⟨log'', hcount''⟩ := hpermissions.run_distinctKeys
    rw [Act.run_bind_ok hcount, Act.run_bind_ok hcount', Act.run_bind_ok hcount'']
    exact ⟨_, rfl⟩

theorem exists_sizesEnd (b : Backing W) (w : W) : ∃ r w', SizesEnd b w r w' := by
  obtain ⟨e | tags, w₁, htags⟩ := b.cookieTag.exists_walkEnds w
  · exact ⟨_, w₁, .cookieTag htags⟩
  · obtain ⟨e | owners, w₂, howners⟩ := b.uidOwner.exists_walkEnds w₁
    · exact ⟨_, w₂, .uidOwner htags howners⟩
    · obtain ⟨e | permissions, w₃, hpermissions⟩ := b.uidPermission.exists_walkEnds w₂
      · exact ⟨_, w₃, .uidPermission htags howners hpermissions⟩
      · exact ⟨_, w₃, .counted htags howners hpermissions⟩

/-- **The sizes are what three walks in a row find**, and the first fault of them otherwise. -/
theorem sizes_iff (b : Backing W) (w : W) (r : Except Fault NetMaps.Sizes) (w' : W) :
    SizesEnd b w r w' ↔
      ((NetMaps.sizes b).run w).result = r ∧ ((NetMaps.sizes b).run w).world = w' := by
  constructor
  · intro h
    obtain ⟨log, hrun⟩ := h.run_sizes
    exact ⟨congrArg Outcome.result hrun, congrArg Outcome.world hrun⟩
  · -- the counting ends somehow, and a run has one end
    rintro ⟨rfl, rfl⟩
    obtain ⟨r, w', h⟩ := exists_sizesEnd b w
    obtain ⟨log, hrun⟩ := h.run_sizes
    rw [hrun]
    exact h

end Sizes

/-! ## Walks over maps in memory -/

namespace Store

variable [Ranked K]

theorem map_fst_live (s : Store K V) (ks : List K) :
    (s.live ks).map (·.1) = ks.filter fun k => (s.visible? k).isSome := by
  induction ks with
  | nil => rfl
  | cons k ks ih =>
    rw [live] at ih ⊢
    cases hseen : s.visible? k with
    | none =>
      rw [List.filterMap_cons_none (by rw [hseen]; rfl), List.filter_cons, hseen, ih]
      rfl
    | some v =>
      rw [List.filterMap_cons_some (by rw [hseen]; rfl), List.filter_cons, hseen, List.map_cons, ih]
      rfl

variable [DecidableEq K] {s s' : Store K V}

/-- The keys along the walk that have a value when they are read. -/
def found (s : Store K V) : Finset K :=
  (s.walk s.content.keys).toFinset.filter fun k => (s.visible? k).isSome = true

theorem mem_found {k : K} :
    k ∈ s.found ↔ k ∈ s.walk s.content.keys ∧ (s.visible? k).isSome = true := by
  rw [found, Finset.mem_filter, List.mem_toFinset]

theorem run_distinctKeys_zoom (p : Part W (Store K V)) {w : W}
    (hread : (p.get w).readErrno = none) :
    (NetMaps.distinctKeys (Store.table.zoom p)).run w = ⟨.ok (p.get w).found.card, w, []⟩ := by
  have hfound : (p.get w).seen.map (·.1)
      = ((p.get w).walk (p.get w).content.keys).filter fun k => ((p.get w).visible? k).isSome :=
    map_fst_live (p.get w) _
  rw [NetMaps.distinctKeys, Act.run_bind_ok (run_entries_zoom p hread), length_eraseDups, hfound,
    List.toFinset_filter]
  rfl

/-- Only stored keys are found. -/
theorem found_subset (s : Store K V) : s.found ⊆ s.content.keys.toFinset := by
  intro k hk
  obtain ⟨v, hseen⟩ := Option.isSome_iff_exists.1 (mem_found.1 hk).2
  rw [List.mem_toFinset, SortedMap.mem_keys, get?_of_visible? hseen]
  rfl

theorem card_keys (s : Store K V) : s.content.keys.toFinset.card = s.content.size := by
  rw [List.toFinset_card_of_nodup s.content.nodup_keys, SortedMap.keys, List.length_map,
    SortedMap.size]

/-- A walk that lists every stored key, none of which has vanished, finds them all. -/
theorem found_eq (hall : ∀ k ∈ s.content.keys, k ∈ s.walk s.content.keys ∧ s.vanished k = false) :
    s.found = s.content.keys.toFinset := by
  -- a key that is stored is listed and has not vanished, so a read of it finds its value
  refine s.found_subset.antisymm fun k hk => ?_
  rw [List.mem_toFinset] at hk
  obtain ⟨hlisted, hpresent⟩ := hall k hk
  refine mem_found.2 ⟨hlisted, ?_⟩
  rw [visible?, hpresent]
  exact SortedMap.mem_keys.1 hk

/-- The second map can be read and shows the same values, and its walk lists the same keys, in any
order and any number of times. -/
structure WalkedAgain (s s' : Store K V) : Prop where
  reads : s'.readErrno = none
  shows : ∀ k, s'.visible? k = s.visible? k
  lists : ∀ k, k ∈ s'.walk s'.content.keys ↔ k ∈ s.walk s.content.keys

theorem found_congr (h : s.WalkedAgain s') : s'.found = s.found := by
  refine Finset.ext fun k => ?_
  rw [mem_found, mem_found, h.shows, h.lists]

/-- A number of entries, compared with the walk and with what is stored. The walk may miss keys and
repeat others, so the number may be too small but never too large. -/
structure Counts (s : Store K V) (n : Nat) : Prop where
  /-- It is the number of distinct keys along the walk that have a value when they are read. -/
  distinct : n = s.found.card
  /-- It is never more than what is stored. -/
  atMost : n ≤ s.content.size
  /-- It is all that is stored, where the walk covers it and nothing has vanished. -/
  all : (∀ k ∈ s.content.keys, k ∈ s.walk s.content.keys ∧ s.vanished k = false) →
    n = s.content.size

theorem counts_found (s : Store K V) : s.Counts s.found.card where
  distinct := rfl
  atMost := by
    rw [← s.card_keys]
    exact Finset.card_le_card s.found_subset
  all hall := by rw [found_eq hall, card_keys]

end Store

/-- The sizes of the maps in memory, compared with what they hold. -/
structure SizesCount (s : Setting) (w : World) (n : NetMaps.Sizes) : Prop where
  answered : Answers (NetMaps.sizes s.backing) w n
  cookieTag : w.cookieTag.Counts n.cookieTag
  uidOwner : w.uidOwner.Counts n.uidOwner
  uidPermission : w.uidPermission.Counts n.uidPermission
  /-- Walks that repeat keys, or start again, do not change them: that is what the keys are kept
  apart for. -/
  again : ∀ (s' : Setting) (w' : World), w.cookieTag.WalkedAgain w'.cookieTag →
    w.uidOwner.WalkedAgain w'.uidOwner → w.uidPermission.WalkedAgain w'.uidPermission →
    Answers (NetMaps.sizes s'.backing) w' n

/-- The numbers of keys that the walks find. -/
def Memory.World.foundSizes (w : World) : NetMaps.Sizes :=
  ⟨w.cookieTag.found.card, w.uidOwner.found.card, w.uidPermission.found.card⟩

theorem answers_sizes (s : Setting) {w : World} (htags : w.cookieTag.readErrno = none)
    (howners : w.uidOwner.readErrno = none) (hpermissions : w.uidPermission.readErrno = none) :
    Answers (NetMaps.sizes s.backing) w w.foundSizes := by
  have hcookieTag : (NetMaps.distinctKeys s.backing.cookieTag).run w = _ :=
    Store.run_distinctKeys_zoom World.cookieTagPart htags
  have huidOwner : (NetMaps.distinctKeys s.backing.uidOwner).run w = _ :=
    Store.run_distinctKeys_zoom World.uidOwnerPart howners
  have huidPermission : (NetMaps.distinctKeys s.backing.uidPermission).run w = _ :=
    Store.run_distinctKeys_zoom World.uidPermissionPart hpermissions
  rw [Answers, NetMaps.sizes, Act.run_bind_ok hcookieTag, Act.run_bind_ok huidOwner,
    Act.run_bind_ok huidPermission]
  rfl

/-- **Sizes count distinct live entries.** On every backing, and whatever happens between the reads,
they are the numbers of keys that the walks find, and the first fault is all there is otherwise. Of
maps in memory whose reads do not fail they are the numbers of distinct keys with a value. -/
theorem sizes_counted (b : Backing W) (v : W) (s : Setting) (w : World) :
    (∀ r v', SizesEnd b v r v' ↔
      ((NetMaps.sizes b).run v).result = r ∧ ((NetMaps.sizes b).run v).world = v') ∧
      (w.cookieTag.readErrno = none → w.uidOwner.readErrno = none →
        w.uidPermission.readErrno = none → ∃ n, SizesCount s w n) := by
  refine ⟨sizes_iff b v, fun htags howners hpermissions => ⟨w.foundSizes, ?_⟩⟩
  refine
    { answered := answers_sizes s htags howners hpermissions
      cookieTag := w.cookieTag.counts_found
      uidOwner := w.uidOwner.counts_found
      uidPermission := w.uidPermission.counts_found
      again := fun s' w' htags' howners' hpermissions' => ?_ }
  have hsame : w'.foundSizes = w.foundSizes := by
    rw [World.foundSizes, World.foundSizes, Store.found_congr htags', Store.found_congr howners',
      Store.found_congr hpermissions']
  rw [← hsame]
  exact answers_sizes s' htags'.reads howners'.reads hpermissions'.reads

/-- Three maps whose walks start again: one of the rule records has vanished, and one key is listed
that has none. -/
def restartedWalks : World :=
  { World.empty with
    cookieTag := { World.empty.cookieTag with
      content := .ofList [(1, ⟨10001, 0⟩), (2, ⟨10002, 0⟩)]
      walk := fun ks => ks ++ ks }
    uidOwner := { World.empty.uidOwner with
      content := .ofList [(10001, ⟨0, 0, 8⟩), (10002, ⟨0, 0, 8⟩), (10003, ⟨0, 0, 8⟩)]
      vanished := fun uid => uid == 10002
      walk := fun ks => ks.drop 1 ++ [10009] ++ ks }
    uidPermission := { World.empty.uidPermission with content := .ofList [(10001, 8)] } }

theorem restartedWalks_counted :
    (restartedWalks.cookieTag.readErrno = none ∧ restartedWalks.uidOwner.readErrno = none ∧
        restartedWalks.uidPermission.readErrno = none) ∧
      (∃ n, SizesCount (.ofHost ⟨[], none⟩) restartedWalks n) ∧
      restartedWalks.foundSizes = ⟨2, 2, 1⟩ :=
  ⟨⟨rfl, rfl, rfl⟩,
    (sizes_counted (Memory.backing ⟨[], none⟩) restartedWalks (.ofHost ⟨[], none⟩)
      restartedWalks).2 rfl rfl rfl, by decide⟩

end UidPolicy
