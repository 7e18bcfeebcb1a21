import UidPolicy.Control.Backing
import UidPolicy.Proofs.Batch
import UidPolicy.Proofs.Memory.Store

/-!
# Looking between two writes

A backing can be watched: the same operations run on it, and the world is noted after every
single write.

- `Recorded`: a world with the worlds that were noted on the way to it.
- `Backing.recorded`: the watched backing. A put or a delete notes the world that it leaves
  behind, whether or not it succeeds; a read notes nothing.
- `Steps`: a list of worlds, each the next one's predecessor in a relation.
- `ShadowsAt`: a watched operation answers, ends and reports like the operation itself, and
  what it notes are steps from the start to the end. `ShadowsAt.bind` and `ShadowsAt.batch`
  carry this through programs.
-/

namespace UidPolicy

/-- A world, and the worlds that were noted on the way to it, oldest first. They are what another
process could have read at any moment in between. -/
structure Recorded (W : Type) where
  now : W
  past : List W

namespace Recorded

variable {W : Type}

/-- The world that is now, as a part. -/
def nowPart : Part (Recorded W) W :=
  { get := Recorded.now, set := fun w r => { r with now := w } }

end Recorded

/-- The operation on the world that is now; the world it leaves behind is noted. It is meant for one
write: what an operation does in several is noted write by write. -/
def Act.noted {ε W α : Type} (x : Act ε W α) : Act ε (Recorded W) α := fun r =>
  let o := x r.now
  ⟨o.result, ⟨o.world, r.past ++ [o.world]⟩, o.events⟩

/-- The watched map: every single write is noted, and every removal. -/
def Table.recorded {W K V : Type} (t : Table W K V) : Table (Recorded W) K V where
  get k := (t.get k).zoom Recorded.nowPart
  put k v := (t.put k v).noted
  delete k := (t.delete k).noted
  keys := t.keys.zoom Recorded.nowPart

/-- The watched backing. -/
def Backing.recorded {W : Type} (b : Backing W) : Backing (Recorded W) where
  configuration := b.configuration.recorded
  uidOwner := b.uidOwner.recorded
  uidPermission := b.uidPermission.recorded
  cookieTag := b.cookieTag.recorded
  dataSaver := b.dataSaver.recorded
  ingressDiscard := b.ingressDiscard.recorded
  barrier := b.barrier.zoom Recorded.nowPart
  indexOf name := (b.indexOf name).zoom Recorded.nowPart
  nameOf index := (b.nameOf index).zoom Recorded.nowPart
  poisoned := b.poisoned

/-! ## Operations that change nothing -/

/-- The operation leaves every world as it is. -/
def Act.Still {ε W α : Type} (x : Act ε W α) : Prop := ∀ w, (x.run w).world = w

theorem Act.Still.zoom {ε W S α : Type} {x : Act ε S α} (hx : x.Still) (p : Part W S) :
    (x.zoom p).Still := by
  intro w
  rw [Act.run_zoom, hx, p.set_get]

theorem Store.still_get {K V : Type} [Ranked K] [DecidableEq K] (k : K) :
    (Store.get k : Op (Store K V) _).Still := by
  intro s
  show (Store.get k s).world = s
  rw [Store.get]
  cases s.readErrno with
  | none => rfl
  | some errno => rfl

theorem Store.still_keys {K V : Type} [Ranked K] :
    (Store.keys : Op (Store K V) _).Still := fun _ => rfl

/-! ## Steps -/

/-- From the first world to the last along a list of worlds, each of them in the relation to
the one before it. -/
inductive Steps {W : Type} (R : W → W → Prop) : W → List W → W → Prop where
  | nil {w : W} : Steps R w [] w
  | cons {w w' w'' : W} {l : List W} : R w w' → Steps R w' l w'' → Steps R w (w' :: l) w''

namespace Steps

variable {W : Type} {R R' : W → W → Prop} {w w' w'' : W} {l l' : List W}

theorem append (h : Steps R w l w') (h' : Steps R w' l' w'') : Steps R w (l ++ l') w'' := by
  induction h with
  | nil => exact h'
  | cons hstep _ ih => exact .cons hstep (ih h')

theorem mono (himp : ∀ w w', R w w' → R' w w') (h : Steps R w l w') : Steps R' w l w' := by
  induction h with
  | nil => exact .nil
  | cons hstep _ ih => exact .cons (himp _ _ hstep) ih

theorem getLast_eq (h : Steps R w l w') : (w :: l).getLast (List.cons_ne_nil _ _) = w' := by
  induction h with
  | nil => rfl
  | cons _ _ ih =>
    rw [List.getLast_cons (List.cons_ne_nil _ _)]
    exact ih

/-- What every step keeps holds of every world of the list. -/
theorem invariant {P : W → Prop} (hkeep : ∀ w w', R w w' → P w → P w') (h : Steps R w l w')
    (hw : P w) : ∀ x ∈ w :: l, P x := by
  induction h with
  | nil =>
    intro x hx
    rw [List.mem_singleton.1 hx]
    exact hw
  | cons hstep _ ih =>
    intro x hx
    rcases List.mem_cons.1 hx with rfl | hx
    · exact hw
    · exact ih (hkeep _ _ hstep hw) x hx

/-- A value that a step either keeps or makes the target changes once at most: before the
change it is what it was in the first world, after it it is the target. -/
theorem changes_once {α : Type} {f : W → α} {target : α}
    (hstep : ∀ w w', R w w' → f w' = f w ∨ f w' = target) (h : Steps R w l w') :
    ∃ before after, w :: l = before ++ after ∧
      (∀ x ∈ before, f x = f w) ∧ (∀ x ∈ after, f x = target) := by
  induction h with
  | @nil w =>
    refine ⟨[w], [], rfl, ?_, fun x hx => absurd hx List.not_mem_nil⟩
    intro x hx
    rw [List.mem_singleton.1 hx]
  | @cons w w' w'' l hfirst _ ih =>
    obtain ⟨before, after, hsplit, hbefore, hafter⟩ := ih
    rcases hstep w w' hfirst with hsame | hreached
    · refine ⟨w :: before, after, by rw [hsplit]; rfl, ?_, hafter⟩
      intro x hx
      rcases List.mem_cons.1 hx with rfl | hx
      · rfl
      · rw [hbefore x hx, hsame]
    · -- the change is made, so both parts of the rest have the target
      refine ⟨[w], w' :: l, rfl, ?_, ?_⟩
      · intro x hx
        rw [List.mem_singleton.1 hx]
      · intro x hx
        rw [hsplit] at hx
        rcases List.mem_append.1 hx with hx | hx
        · rw [hbefore x hx, hreached]
        · exact hafter x hx

end Steps

/-! ## Watched operations -/

/-- From a recorded world, the watched operation answers, ends and reports like the operation
itself; what it notes are steps from the start to the end. -/
def ShadowsAt {W α : Type} (R : W → W → Prop) (x : Op (Recorded W) α) (y : Op W α)
    (r : Recorded W) : Prop :=
  ∃ trace, x.run r = ⟨(y.run r.now).result, ⟨(y.run r.now).world, r.past ++ trace⟩,
      (y.run r.now).events⟩ ∧
    Steps R r.now trace (y.run r.now).world

namespace ShadowsAt

variable {W α β : Type} {R R' : W → W → Prop} {r : Recorded W}

theorem mono {x : Op (Recorded W) α} {y : Op W α} (himp : ∀ w w', R w w' → R' w w')
    (h : ShadowsAt R x y r) : ShadowsAt R' x y r := by
  obtain ⟨trace, hrun, hsteps⟩ := h
  exact ⟨trace, hrun, hsteps.mono himp⟩

theorem pure (a : α) : ShadowsAt R (Pure.pure a) (Pure.pure a) r :=
  ⟨[], by rw [Act.run_pure, Act.run_pure, List.append_nil], .nil⟩

theorem fail (e : Fault) : ShadowsAt R (Act.fail e : Op _ α) (Act.fail e) r :=
  ⟨[], by rw [Act.run_fail, Act.run_fail, List.append_nil], .nil⟩

theorem emit (e : Log.Event) : ShadowsAt R (Act.emit e) (Act.emit e) r :=
  ⟨[], by rw [Act.run_emit, Act.run_emit, List.append_nil], .nil⟩

/-- A read notes nothing. -/
theorem read {y : Op W α} (hy : y.Still) : ShadowsAt R (y.zoom Recorded.nowPart) y r := by
  refine ⟨[], by rw [Act.run_zoom, List.append_nil]; rfl, ?_⟩
  rw [hy]
  exact .nil

/-- A write notes the world that it leaves behind. -/
theorem write {y : Op W α} (hy : R r.now (y.run r.now).world) : ShadowsAt R y.noted y r :=
  ⟨[(y.run r.now).world], rfl, .cons hy .nil⟩

/-- What follows may rely on the answer of the first operation and on the world it left: which steps
it makes may depend on both. -/
theorem bind {x : Op (Recorded W) α} {y : Op W α} {f : α → Op (Recorded W) β} {g : α → Op W β}
    (hx : ShadowsAt R x y r)
    (hf : ∀ a r', (y.run r.now).result = .ok a → r'.now = (y.run r.now).world →
      ShadowsAt R (f a) (g a) r') :
    ShadowsAt R (x >>= f) (y >>= g) r := by
  obtain ⟨trace, hrun, hsteps⟩ := hx
  cases hy : (y.run r.now).result with
  | error e =>
    -- nothing follows, neither here nor there
    rw [hy] at hrun
    refine ⟨trace, ?_, ?_⟩
    · rw [Act.run_bind_error hrun, Act.run_bind_of_error hy]
    · rw [Act.run_bind_of_error hy]
      exact hsteps
  | ok a =>
    rw [hy] at hrun
    obtain ⟨trace', hrun', hsteps'⟩ := hf a ⟨(y.run r.now).world, r.past ++ trace⟩ hy rfl
    refine ⟨trace ++ trace', ?_, ?_⟩
    · rw [Act.run_bind_ok hrun, Act.run_bind_of_ok hy, hrun', List.append_assoc]
    · rw [Act.run_bind_of_ok hy]
      exact hsteps.append hsteps'

theorem attempt {x : Op (Recorded W) α} {y : Op W α} (h : ShadowsAt R x y r) :
    ShadowsAt R (x.attempt : Op _ (Except Fault α)) y.attempt r := by
  obtain ⟨trace, hrun, hsteps⟩ := h
  refine ⟨trace, ?_, hsteps⟩
  rw [Act.run_attempt, Act.run_attempt, hrun]

/-- A batch is watched turn by turn. -/
theorem batch {step : Uid → Op (Recorded W) Unit} {step' : Uid → Op W Unit}
    (report : Uid → Fault → Log.Event) {l : List Uid}
    (hstep : ∀ uid ∈ l, ∀ r, ShadowsAt R (step uid) (step' uid) r) (o : BatchOutcome) :
    ShadowsAt R (Batch.run step report l o) (Batch.run step' report l o) r := by
  induction l generalizing o r with
  | nil => exact .pure o
  | cons uid rest ih =>
    have hrest : ∀ u ∈ rest, ∀ r, ShadowsAt R (step u) (step' u) r :=
      fun u hu => hstep u (List.mem_cons_of_mem _ hu)
    refine .bind (hstep uid (List.mem_cons_self ..) r).attempt fun a r' _ _ => ?_
    cases a with
    | ok _ => exact ih hrest (o.record uid true)
    | error e => exact .bind (.emit (report uid e)) fun _ _ _ _ => ih hrest (o.record uid false)

/-- Walking over the live entries notes nothing. -/
theorem entries {K V : Type} {t : Table W K V} (hget : ∀ k, (t.get k).Still)
    (hkeys : t.keys.Still) : ShadowsAt R t.recorded.entries t.entries r := by
  have hreadAll : ∀ (ks : List K) (r : Recorded W),
      ShadowsAt R (t.recorded.readAll ks) (t.readAll ks) r := by
    intro ks
    induction ks with
    | nil => exact fun r => .pure []
    | cons k ks ih =>
      intro r
      refine .bind (.read (hget k)) fun value r' _ _ => ?_
      exact .bind (ih r') fun rest r'' _ _ => .pure _
  exact .bind (.read hkeys) fun ks r' _ _ => hreadAll ks r'

end ShadowsAt

end UidPolicy
