import UidPolicy.Control.Backing

/-!
# What a batch leaves behind

`Batch.run` gives every id of its list a turn, whatever became of the turns before.

- `Batch.worldAfter`: the world after all turns, a fold of the single operation.
- `Batch.failures`: the ids whose own turn fails, in the order of the turns.
- `Batch.run_eq`: a batch always answers. Its world is the fold, its failed ids are those it
  started with and the failures, and every id of the list is either applied or failed.
- `Batch.Does`: an operation that is such a batch, with something before it or after it.
- `Batch.worldAfter_induction`: what every turn keeps, the batch keeps.
-/

namespace UidPolicy

namespace Batch

variable {W : Type}

/-- The world after each id of a list had its turn. A turn that fails does not end the batch, so the
next one starts from whatever it has left. -/
def worldAfter (step : Uid → Op W Unit) : List Uid → W → W
  | [], w => w
  | uid :: rest, w => worldAfter step rest ((step uid).run w).world

/-- The ids whose turn fails, in the order of the turns. -/
def failures (step : Uid → Op W Unit) : List Uid → W → List Uid
  | [], _ => []
  | uid :: rest, w =>
    match ((step uid).run w).result with
    | .ok () => failures step rest ((step uid).run w).world
    | .error _ => uid :: failures step rest ((step uid).run w).world

theorem failures_cons_ok {step : Uid → Op W Unit} {uid : Uid} {w : W}
    (h : ((step uid).run w).result = .ok ()) (rest : List Uid) :
    failures step (uid :: rest) w = failures step rest ((step uid).run w).world := by
  rw [failures, h]

theorem failures_cons_error {step : Uid → Op W Unit} {uid : Uid} {w : W} {e : Fault}
    (h : ((step uid).run w).result = .error e) (rest : List Uid) :
    failures step (uid :: rest) w
      = uid :: failures step rest ((step uid).run w).world := by
  rw [failures, h]

/-- **A batch always answers**, with its failures appended to those it started with, and
accounts for every id. -/
theorem run_eq (step : Uid → Op W Unit) (report : Uid → Fault → Log.Event) (l : List Uid)
    (o : BatchOutcome) (w : W) :
    ∃ outcome log, (Batch.run step report l o).run w = ⟨.ok outcome, worldAfter step l w, log⟩ ∧
      outcome.failed = o.failed ++ failures step l w ∧
      outcome.applied + (failures step l w).length = o.applied + l.length := by
  induction l generalizing o w with
  | nil => exact ⟨o, [], rfl, (List.append_nil _).symm, rfl⟩
  | cons uid rest ih =>
    have hturn : ((step uid).attempt : Op W _).run w = _ := Act.run_attempt (step uid) w
    -- either way the rest of the list has its turns, in the world that this turn has left
    cases hr : ((step uid).run w).result with
    | ok a =>
      rw [hr] at hturn
      obtain ⟨outcome, log, hrun, hfailed, happlied⟩ :=
        ih (o.record uid true) ((step uid).run w).world
      refine ⟨outcome, ((step uid).run w).events ++ log, ?_, ?_, ?_⟩
      · rw [Batch.run, Act.run_bind_ok hturn]
        show Outcome.mk ((Batch.run step report rest (o.record uid true)).run _).result _ _ = _
        rw [hrun]
        rfl
      · rw [failures_cons_ok hr, hfailed]
        rfl
      · rw [failures_cons_ok hr, happlied, BatchOutcome.record_true, List.length_cons]
        show o.applied + 1 + rest.length = o.applied + (rest.length + 1)
        omega
    | error e =>
      rw [hr] at hturn
      obtain ⟨outcome, log, hrun, hfailed, happlied⟩ :=
        ih (o.record uid false) ((step uid).run w).world
      -- the report comes between the events of this turn and those of the rest
      refine ⟨outcome, ((step uid).run w).events ++ ([report uid e] ++ log), ?_, ?_, ?_⟩
      · rw [Batch.run, Act.run_bind_ok hturn]
        show Outcome.mk
          ((Act.emit (report uid e) >>= fun _ =>
            Batch.run step report rest (o.record uid false)).run _).result _ _ = _
        rw [Act.run_bind_ok (Act.run_emit (report uid e) _), hrun]
        rfl
      · rw [failures_cons_error hr, hfailed, BatchOutcome.record_false]
        show o.failed ++ [uid] ++ _ = _
        rw [List.append_assoc]
        rfl
      · rw [failures_cons_error hr, List.length_cons, List.length_cons]
        have : (o.record uid false).applied = o.applied := rfl
        omega

/-- The operation gives each id of the list its turn, reports whose turn fails and accounts for
all of them. -/
def Does (x : Op W BatchOutcome) (step : Uid → Op W Unit) (uids : List Uid) (w : W) : Prop :=
  ∃ outcome log, x.run w = ⟨.ok outcome, worldAfter step uids w, log⟩ ∧
    outcome.failed = failures step uids w ∧
    outcome.applied + outcome.failed.length = uids.length

theorem does_run (step : Uid → Op W Unit) (report : Uid → Fault → Log.Event)
    (after : BatchOutcome → Log.Event) (uids : List Uid) (w : W) :
    Does (do
      let outcome ← Batch.run step report uids .empty
      Act.emit (after outcome)
      pure outcome) step uids w := by
  obtain ⟨outcome, log, hrun, hfailed, haccounted⟩ := run_eq step report uids .empty w
  have hstart : BatchOutcome.empty.failed = [] ∧ BatchOutcome.empty.applied = 0 := ⟨rfl, rfl⟩
  rw [hstart.1, List.nil_append] at hfailed
  rw [hstart.2, Nat.zero_add, ← hfailed] at haccounted
  refine ⟨outcome, log ++ ([after outcome] ++ []), ?_, hfailed, haccounted⟩
  rw [Act.run_bind_ok hrun]
  rfl

/-- What an operation looks up before a batch leaves the batch as it is. -/
theorem Does.after {α : Type} {x : Op W α} {f : α → Op W BatchOutcome} {step : Uid → Op W Unit}
    {uids : List Uid} {w : W} {a : α} {log : List Log.Event} (hx : x.run w = ⟨.ok a, w, log⟩)
    (hf : Does (f a) step uids w) : Does (x >>= f) step uids w := by
  obtain ⟨outcome, log', hrun, hreport⟩ := hf
  -- a look-up leaves the world as it was, so the batch starts where the operation did
  exact ⟨outcome, log ++ log', by rw [Act.run_bind_ok hx, hrun], hreport⟩

/-- What every turn keeps, the batch keeps. -/
theorem worldAfter_induction {step : Uid → Op W Unit} {P : W → Prop} {l : List Uid} {w : W}
    (hstart : P w) (hstep : ∀ uid ∈ l, ∀ w, P w → P ((step uid).run w).world) :
    P (worldAfter step l w) := by
  induction l generalizing w with
  | nil => exact hstart
  | cons uid rest ih =>
    exact ih (hstep uid (List.mem_cons_self ..) w hstart)
      fun u hu => hstep u (List.mem_cons_of_mem _ hu)

end Batch

end UidPolicy
