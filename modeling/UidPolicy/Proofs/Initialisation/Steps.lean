import UidPolicy.Proofs.Controllers
import UidPolicy.Proofs.Memory.Clearing
import UidPolicy.Proofs.Memory.Setting

/-!
# The steps of an initialisation

An initialisation takes five steps, each of them on a place of its own: one key, or a whole map.

- `InitStep`: the steps. `InitStep.IsReset`: the place of a step is in its start-up state.
- `InitStep.fault?`: why a step fails, read off the world before the initialisation: its lock is
  poisoned, or a write is refused.
- `InitStep.reset`, `InitStep.stopped`: the world that a step leaves when it succeeds and when it
  fails. A step leaves the places of the others alone (`same_reset`, `fault?_reset`).
- `run_steps`: several steps in a row all succeed, or they stop at the first that fails.
- `isReset_foldl_reset`, `same_foldl_reset`: the places of the steps that were taken are reset,
  and the others are as they were.
-/

namespace UidPolicy

open Memory (World Setting)

/-- The walks over the two maps that an initialisation clears list what is stored. A walk that
misses a key leaves it behind, and no fault tells. -/
structure ExactWalks (w : World) : Prop where
  records : w.uidOwner.WalkExact
  discards : w.ingressDiscard.WalkExact

/-- The steps of an initialisation, in their order. Each takes one lock and changes one place, and
no place is changed by two of them. -/
inductive InitStep where
  | chains | selector | records | saver | discards
  deriving DecidableEq

namespace InitStep

/-- Every step, in order. -/
def all : List InitStep := [chains, selector, records, saver, discards]

/-- The name that the failure of a step is reported by. -/
def name : InitStep → String
  | chains => "reset uid rules configuration"
  | selector => "reset stats map selector"
  | records => "clear uid owner map"
  | saver => "disable data saver"
  | discards => "clear ingress discard map"

/-- The lock that a step takes. -/
def lock : InitStep → Lock
  | chains => .chainSwitch
  | selector => .statsSelector
  | records => .uidOwner
  | saver => .dataSaver
  | discards => .ingressDiscard

/-- What a step does while it holds its lock. -/
def body {W : Type} (b : Backing W) : InitStep → Op W Unit
  | chains => b.configuration.put ChainSwitch.key ChainSwitch.defaultWord
  | selector => b.configuration.put Stats.key Stats.mapA
  | records => b.uidOwner.clear
  | saver => do
    b.dataSaver.put DataSaver.key DataSaver.offFlag
    Act.emit ⟨.info, .dataSaver, "data saver updated", [("enabled", .flag false)]⟩
  | discards => b.ingressDiscard.clear

/-- The operation of a step. -/
def op {W : Type} (b : Backing W) (k : InitStep) : Op W Unit := do
  b.acquire k.lock
  k.body b

/-- Some steps with their names. -/
def named {W : Type} (b : Backing W) (steps : List InitStep) : List (String × Op W Unit) :=
  steps.map fun k => (k.name, k.op b)

theorem initSteps_eq {W : Type} (b : Backing W) : NetMaps.initSteps b = named b all := rfl

/-! ## Places -/

/-- The place of a step is the same in two worlds: its key or its map. Two steps share the
configuration, each with its own key. -/
def Same (w w' : World) : InitStep → Prop
  | chains => w'.configuration.cell ChainSwitch.key = w.configuration.cell ChainSwitch.key
  | selector => w'.configuration.cell Stats.key = w.configuration.cell Stats.key
  | records => w'.uidOwner = w.uidOwner
  | saver => w'.dataSaver.cell DataSaver.key = w.dataSaver.cell DataSaver.key
  | discards => w'.ingressDiscard = w.ingressDiscard

/-- The place of a step is in its start-up state: no chain enabled, map A selected, data saver
off, and nothing stored in the maps that are cleared. -/
def IsReset (w : World) : InitStep → Prop
  | chains => w.configuration.visible? ChainSwitch.key = some ChainSwitch.defaultWord
  | selector => w.configuration.visible? Stats.key = some Stats.mapA
  | records => w.uidOwner.content = ∅
  | saver => w.dataSaver.visible? DataSaver.key = some DataSaver.offFlag
  | discards => w.ingressDiscard.content = ∅

theorem Same.refl (w : World) (k : InitStep) : k.Same w w := by
  cases k <;> rfl

theorem Same.trans {w w' w'' : World} {k : InitStep} (h : k.Same w w') (h' : k.Same w' w'') :
    k.Same w w'' := by
  cases k <;> exact Eq.trans h' h

theorem IsReset.of_same {w w' : World} {k : InitStep} (h : k.IsReset w) (hsame : k.Same w w') :
    k.IsReset w' := by
  cases k with
  | chains => exact (Store.visible?_of_cell hsame).trans h
  | selector => exact (Store.visible?_of_cell hsame).trans h
  | saver => exact (Store.visible?_of_cell hsame).trans h
  | records => exact (congrArg Store.content hsame).trans h
  | discards => exact (congrArg Store.content hsame).trans h

/-! ## One step -/

/-- The first write of a step that is refused, as its fault. A clearing meets it at the first key
along the walk that refuses to go. -/
def refusal? (w : World) : InitStep → Option Fault
  | chains => w.configuration.writeFault? ChainSwitch.key
  | selector => w.configuration.writeFault? Stats.key
  | records => w.uidOwner.clearFault?
  | saver => w.dataSaver.writeFault? DataSaver.key
  | discards => w.ingressDiscard.clearFault?

/-- Why a step fails, if it does: its lock is poisoned, or else a write is refused. It is known
before the step is run, so the first step that fails can be told from the world. -/
def fault? (s : Setting) (w : World) (k : InitStep) : Option Fault :=
  if s.poisoned k.lock then some (.resource s!"{k.lock.name} poisoned" Errno.notRecoverable)
  else k.refusal? w

theorem fault?_eq_none {s : Setting} {w : World} {k : InitStep} :
    k.fault? s w = none ↔ s.poisoned k.lock = false ∧ k.refusal? w = none := by
  unfold fault?
  cases s.poisoned k.lock with
  | true => simp
  | false => simp

/-- The world after a step that succeeds. -/
def reset (w : World) : InitStep → World
  | chains => { w with
      configuration := w.configuration.write ChainSwitch.key (some ChainSwitch.defaultWord) }
  | selector => { w with configuration := w.configuration.write Stats.key (some Stats.mapA) }
  | records => { w with uidOwner := w.uidOwner.without w.uidOwner.enumerated }
  | saver => { w with dataSaver := w.dataSaver.write DataSaver.key (some DataSaver.offFlag) }
  | discards => { w with
      ingressDiscard := w.ingressDiscard.without w.ingressDiscard.enumerated }

/-- The world at the first write of a step that is refused: a put has done nothing, and a
clearing has deleted the keys before. -/
def atRefusal (w : World) : InitStep → World
  | records => { w with uidOwner := w.uidOwner.without w.uidOwner.beforeRefusal }
  | discards => { w with
      ingressDiscard := w.ingressDiscard.without w.ingressDiscard.beforeRefusal }
  | chains | selector | saver => w

/-- The world after a step that fails. Behind a poisoned lock nothing is done, and a clearing has
removed what came before the refusal. -/
def stopped (s : Setting) (w : World) (k : InitStep) : World :=
  if s.poisoned k.lock then w else k.atRefusal w

section Step

variable (s : Setting) (w : World)

theorem run_body (k : InitStep) :
    (k.refusal? w = none ∧ ∃ log, (k.body s.backing).run w = ⟨.ok (), k.reset w, log⟩) ∨
      ∃ e, k.refusal? w = some e ∧ (k.body s.backing).run w = ⟨.error e, k.atRefusal w, []⟩ := by
  -- three steps write one value and two clear a map; each is carried out or refused by its map
  cases k with
  | chains =>
    rcases Store.run_put_zoom_ends World.configurationPart ChainSwitch.key
      ChainSwitch.defaultWord (w := w) with ⟨hnone, hput⟩ | hfails
    · exact .inl ⟨hnone, [], hput⟩
    · exact .inr hfails
  | selector =>
    rcases Store.run_put_zoom_ends World.configurationPart Stats.key Stats.mapA (w := w) with
      ⟨hnone, hput⟩ | hfails
    · exact .inl ⟨hnone, [], hput⟩
    · exact .inr hfails
  | records =>
    rcases Store.run_clear_zoom_ends World.uidOwnerPart (w := w) with ⟨hnone, hclear⟩ | hfails
    · exact .inl ⟨hnone, [], hclear⟩
    · exact .inr hfails
  | saver =>
    rcases Store.run_put_zoom_ends World.dataSaverPart DataSaver.key DataSaver.offFlag
      (w := w) with ⟨hnone, hput⟩ | ⟨e, hfault, hput⟩
    · exact .inl ⟨hnone, _, Act.run_bind_ok hput⟩
    · exact .inr ⟨e, hfault, Act.run_bind_error hput⟩
  | discards =>
    rcases Store.run_clear_zoom_ends World.ingressDiscardPart (w := w) with
      ⟨hnone, hclear⟩ | hfails
    · exact .inl ⟨hnone, [], hclear⟩
    · exact .inr hfails

/-- **A step** succeeds and resets its place, or it fails with its fault. The two are told apart by
the world that it starts from. -/
theorem run_op (k : InitStep) :
    (k.fault? s w = none ∧ ∃ log, (k.op s.backing).run w = ⟨.ok (), k.reset w, log⟩) ∨
      ∃ e, k.fault? s w = some e ∧ (k.op s.backing).run w = ⟨.error e, k.stopped s w, []⟩ := by
  unfold fault? stopped op
  cases hlock : s.poisoned k.lock with
  | true =>
    rw [Backing.acquire_of_poisoned (b := s.backing) hlock]
    exact .inr ⟨_, rfl, rfl⟩
  | false =>
    rw [Backing.acquire_of_not_poisoned (b := s.backing) hlock, pure_bind]
    exact run_body s w k

variable {w} {j k : InitStep}

theorem same_reset (hne : j ≠ k) : j.Same w (k.reset w) := by
  -- two steps share the configuration map and differ in the key, the others have maps of their own
  cases k with
  | chains =>
    cases j with
    | chains => exact absurd rfl hne
    | selector => exact (Store.cell_write _ _ _ _).trans (if_neg (by decide))
    | records | saver | discards => rfl
  | selector =>
    cases j with
    | selector => exact absurd rfl hne
    | chains => exact (Store.cell_write _ _ _ _).trans (if_neg (by decide))
    | records | saver | discards => rfl
  | records => cases j <;> first | rfl | exact absurd rfl hne
  | saver => cases j <;> first | rfl | exact absurd rfl hne
  | discards => cases j <;> first | rfl | exact absurd rfl hne

theorem same_stopped (hne : j ≠ k) : j.Same w (k.stopped s w) := by
  unfold stopped atRefusal
  split
  · exact .refl w j
  · cases k <;> cases j <;> first | rfl | exact absurd rfl hne

/-- Whether another step fails is the same before and after a step: the failures of a place are not
touched by what is written to another. -/
theorem fault?_reset (hne : j ≠ k) : j.fault? s (k.reset w) = j.fault? s w := by
  have hrefusal : j.refusal? (k.reset w) = j.refusal? w := by
    cases k <;> cases j <;> first | rfl | exact absurd rfl hne
  rw [fault?, fault?, hrefusal]

theorem exactWalks_reset (hwalks : ExactWalks w) (k : InitStep) : ExactWalks (k.reset w) := by
  -- removals do not change the order in which a map is walked over
  cases k with
  | chains | selector | saver => exact ⟨hwalks.records, hwalks.discards⟩
  | records =>
    refine ⟨?_, hwalks.discards⟩
    intro ks uid
    show uid ∈ (w.uidOwner.without w.uidOwner.enumerated).walk ks ↔ _
    rw [Store.walk_without]
    exact hwalks.records ks uid
  | discards =>
    refine ⟨hwalks.records, ?_⟩
    intro ks key
    show key ∈ (w.ingressDiscard.without w.ingressDiscard.enumerated).walk ks ↔ _
    rw [Store.walk_without]
    exact hwalks.discards ks key

/-- After a step its place is reset. -/
theorem isReset_reset (hwalks : ExactWalks w) (k : InitStep) : k.IsReset (k.reset w) := by
  cases k with
  | chains | selector | saver => exact Store.visible?_write_self _ _ _
  | records => exact Store.content_without_enumerated hwalks.records
  | discards => exact Store.content_without_enumerated hwalks.discards

/-- A step whose place is reset already changes nothing. -/
theorem reset_of_isReset (hwalks : ExactWalks w) (h : k.IsReset w) : k.reset w = w := by
  cases k with
  | chains | selector =>
    have hsame := Store.write_of_visible? (s := w.configuration) h
    show { w with configuration := w.configuration.write _ _ } = w
    rw [hsame]
  | records =>
    show { w with uidOwner := w.uidOwner.without w.uidOwner.enumerated } = w
    rw [Store.enumerated_of_empty hwalks.records h, Store.without]
  | saver =>
    have hsame := Store.write_of_visible? (s := w.dataSaver) h
    show { w with dataSaver := w.dataSaver.write _ _ } = w
    rw [hsame]
  | discards =>
    show { w with ingressDiscard := w.ingressDiscard.without w.ingressDiscard.enumerated } = w
    rw [Store.enumerated_of_empty hwalks.discards h, Store.without]

end Step

/-! ## Several steps -/

section Steps

variable (s : Setting) {w : World}

theorem same_foldl_reset {steps : List InitStep} {j : InitStep} (hj : j ∉ steps) :
    j.Same w (steps.foldl reset w) := by
  induction steps generalizing w with
  | nil => exact .refl w j
  | cons k rest ih =>
    have hne : j ≠ k := fun h => hj (h ▸ List.mem_cons_self ..)
    exact (same_reset hne).trans (ih fun h => hj (List.mem_cons_of_mem _ h))

/-- **Several steps in a row** all succeed, or they stop at the first that fails. Which one that
is can be read off the world before them. -/
theorem run_steps {steps : List InitStep} (hnodup : steps.Nodup) :
    ((∀ k ∈ steps, k.fault? s w = none) ∧ ∃ log,
        (NetMaps.runSteps (named s.backing steps)).run w
          = ⟨.ok (), steps.foldl reset w, log⟩) ∨
      ∃ before k after cause log, steps = before ++ k :: after ∧
        (∀ j ∈ before, j.fault? s w = none) ∧ k.fault? s w = some cause ∧
        (NetMaps.runSteps (named s.backing steps)).run w
          = ⟨.error (.initFailed s!"{k.name}: {cause.message}"),
              k.stopped s (before.foldl reset w), log⟩ := by
  induction steps generalizing w with
  | nil => exact .inl ⟨nofun, [], rfl⟩
  | cons k rest ih =>
    have hk := (List.nodup_cons.1 hnodup).1
    rw [named, List.map_cons, ← named]
    rcases run_op s w k with ⟨hnone, log, hrun⟩ | ⟨cause, hcause, hrun⟩
    -- a step does not make a later one fail, and does not save it: its own place is all that it
    -- changes
    · have hrest : ∀ j ∈ rest, j.fault? s (k.reset w) = j.fault? s w := by
        intro j hj
        exact fault?_reset s fun h => hk (h ▸ hj)
      have hfirst : ∀ {l : List InitStep}, (∀ j ∈ l, j ∈ rest) →
          (∀ j ∈ l, j.fault? s (k.reset w) = none) → ∀ j ∈ k :: l, j.fault? s w = none := by
        intro l hl hall j hj
        rcases List.mem_cons.1 hj with rfl | hj
        · exact hnone
        · exact (hrest j (hl j hj)).symm.trans (hall j hj)
      rw [NetMaps.runSteps_cons_ok hrun]
      rcases ih (w := k.reset w) (List.nodup_cons.1 hnodup).2 with
        ⟨hall, log', hrun'⟩ | ⟨before, j, after, cause, log', hsplit, hbefore, hcause, hrun'⟩
      · rw [hrun']
        exact .inl ⟨hfirst (fun _ hj => hj) hall, _, rfl⟩
      · rw [hrun']
        have hmem : ∀ i ∈ before, i ∈ rest := by
          intro i hi
          rw [hsplit]
          exact List.mem_append_left _ hi
        have hj : j ∈ rest := by
          rw [hsplit]
          exact List.mem_append_right _ (List.mem_cons_self ..)
        exact .inr ⟨k :: before, j, after, cause, _, congrArg (k :: ·) hsplit,
          hfirst hmem hbefore, (hrest j hj).symm.trans hcause, rfl⟩
    -- the first step stops, and no later one is tried
    · obtain ⟨log, hstop⟩ := NetMaps.runSteps_cons_error k.name hrun
        (named s.backing rest)
      exact .inr ⟨[], k, rest, cause, log, rfl, nofun, hcause, hstop⟩

variable {s} {steps : List InitStep}

theorem exactWalks_foldl_reset (hwalks : ExactWalks w) : ExactWalks (steps.foldl reset w) := by
  induction steps generalizing w with
  | nil => exact hwalks
  | cons k rest ih => exact ih (exactWalks_reset hwalks k)

/-- After some steps the place of each of them is reset: the last step on it did so. -/
theorem isReset_foldl_reset (hwalks : ExactWalks w) {j : InitStep} (hj : j ∈ steps) :
    j.IsReset (steps.foldl reset w) := by
  induction steps generalizing w with
  | nil => exact absurd hj List.not_mem_nil
  | cons k rest ih =>
    by_cases hrest : j ∈ rest
    · exact ih (exactWalks_reset hwalks k) hrest
    · obtain rfl : j = k := (List.mem_cons.1 hj).resolve_right hrest
      exact (isReset_reset hwalks j).of_same (same_foldl_reset hrest)

theorem foldl_reset_of_isReset (hwalks : ExactWalks w) (h : ∀ k ∈ steps, k.IsReset w) :
    steps.foldl reset w = w := by
  induction steps with
  | nil => rfl
  | cons k rest ih =>
    rw [List.foldl_cons, reset_of_isReset hwalks (h k (List.mem_cons_self ..))]
    exact ih fun j hj => h j (List.mem_cons_of_mem _ hj)

end Steps

end InitStep

end UidPolicy
