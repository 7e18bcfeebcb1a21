import UidPolicy.Proofs.Batch
import UidPolicy.Proofs.Firewall.Mutation
import UidPolicy.Proofs.Memory.Setting
import UidPolicy.Proofs.Reasons.Agreement

/-!
# Batches as single calls

A batch takes its lock once and works through its list; a single call checks its arguments and takes
the lock for itself. Where the lock can be had, the batch is the calls, one after the other.

- `SingleCall`: a call for one id. `worldAfter`, `answers`: what a list of calls leaves behind, and
  what each of them answers at its turn. `failed`, `answered`: the ids of those that fail, and the
  number of the others.
- `worldAfter_answering`, `answers_answering`: calls that change nothing when they fail may as well
  not be made.
- `RunsAs`: an operation that does what a list of calls does, reports those that fail and counts the
  others.
- `Batch.Does.runsAs`: a batch runs as the calls that are its turns.
- `batches_in_turn`: every batch runs as single calls, on any maps whose failed writes change
  nothing, whichever reads and writes fail.
-/

namespace UidPolicy

open Memory (World)

/-- A call that serves one id: the public operation that a batch could have been replaced by, its
own lock included. -/
structure SingleCall (W : Type) where
  uid : Uid
  act : Op W Unit

namespace SingleCall

variable {W : Type}

/-! ## Lists of calls -/

/-- The world after some calls, each made where the one before it ended. A call that fails does not
keep the next ones from being made. -/
def worldAfter : List (SingleCall W) → W → W
  | [], w => w
  | c :: rest, w => worldAfter rest (c.act.run w).world

/-- What each call answers at its turn. -/
def answers : List (SingleCall W) → W → List (Uid × Except Fault Unit)
  | [], _ => []
  | c :: rest, w => (c.uid, (c.act.run w).result) :: answers rest (c.act.run w).world

/-- The ids whose call fails at its turn, in the order of the turns. -/
def failed (calls : List (SingleCall W)) (w : W) : List Uid :=
  ((answers calls w).filter fun a => !a.2.isOk).map (·.1)

/-- The number of the calls that do not fail. -/
def answered (calls : List (SingleCall W)) (w : W) : Nat :=
  (answers calls w).countP fun a => a.2.isOk

/-- The calls that do not fail at their turn. -/
def answering : List (SingleCall W) → W → List (SingleCall W)
  | [], _ => []
  | c :: rest, w =>
    if (c.act.run w).result.isOk then c :: answering rest (c.act.run w).world
    else answering rest (c.act.run w).world

variable {calls : List (SingleCall W)}

theorem worldAfter_append (calls calls' : List (SingleCall W)) (w : W) :
    worldAfter (calls ++ calls') w = worldAfter calls' (worldAfter calls w) := by
  induction calls generalizing w with
  | nil => rfl
  | cons c rest ih => exact ih _

theorem answers_append (calls calls' : List (SingleCall W)) (w : W) :
    answers (calls ++ calls') w = answers calls w ++ answers calls' (worldAfter calls w) := by
  induction calls generalizing w with
  | nil => rfl
  | cons c rest ih => exact congrArg (_ :: ·) (ih _)

theorem failed_append (calls calls' : List (SingleCall W)) (w : W) :
    failed (calls ++ calls') w = failed calls w ++ failed calls' (worldAfter calls w) := by
  rw [failed, answers_append, List.filter_append, List.map_append]
  rfl

theorem length_answers (calls : List (SingleCall W)) (w : W) :
    (answers calls w).length = calls.length := by
  induction calls generalizing w with
  | nil => rfl
  | cons c rest ih => exact congrArg (· + 1) (ih _)

theorem answered_add_failed (calls : List (SingleCall W)) (w : W) :
    answered calls w + (failed calls w).length = calls.length := by
  rw [answered, failed, List.length_map, ← List.countP_eq_length_filter, ← length_answers calls w,
    List.length_eq_countP_add_countP fun a => a.2.isOk]
  simp only [Bool.not_eq_true, Bool.decide_eq_false]

/-- Calls that change nothing when they fail may as well not be made: the others find what they
would have found. -/
theorem worldAfter_answering (hatomic : ∀ c ∈ calls, c.act.Atomic) (w : W) :
    worldAfter (answering calls w) w = worldAfter calls w := by
  induction calls generalizing w with
  | nil => rfl
  | cons c rest ih =>
    have hrest := ih fun c hc => hatomic c (List.mem_cons_of_mem _ hc)
    rw [answering, worldAfter]
    cases hresult : (c.act.run w).result with
    | ok _ => exact hrest _
    | error e =>
      rw [hatomic c (List.mem_cons_self ..) w e hresult]
      exact hrest w

theorem answers_answering (hatomic : ∀ c ∈ calls, c.act.Atomic) (w : W) :
    answers (answering calls w) w = (answers calls w).filter fun a => a.2.isOk := by
  induction calls generalizing w with
  | nil => rfl
  | cons c rest ih =>
    have hrest := ih fun c hc => hatomic c (List.mem_cons_of_mem _ hc)
    rw [answering, answers]
    cases hresult : (c.act.run w).result with
    | ok _ =>
      refine Eq.trans ?_ (congrArg ((c.uid, .ok ()) :: ·) (hrest _))
      show (c.uid, (c.act.run w).result) :: _ = _
      rw [hresult]
    | error e =>
      -- the failed call has left the world to the rest as it found it, made or not
      rw [hatomic c (List.mem_cons_self ..) w e hresult]
      exact hrest w

/-! ## One operation for each id of a list -/

section Each

variable (step : Uid → Op W Unit)

/-- The calls that give each id of a list its turn. -/
def each (uids : List Uid) : List (SingleCall W) := uids.map fun uid => ⟨uid, step uid⟩

theorem worldAfter_each (uids : List Uid) (w : W) :
    worldAfter (each step uids) w = Batch.worldAfter step uids w := by
  induction uids generalizing w with
  | nil => rfl
  | cons uid rest ih => exact ih _

theorem failed_each (uids : List Uid) (w : W) :
    failed (each step uids) w = Batch.failures step uids w := by
  induction uids generalizing w with
  | nil => rfl
  | cons uid rest ih =>
    cases hresult : ((step uid).run w).result with
    | ok _ =>
      rw [Batch.failures_cons_ok hresult, ← ih]
      show ((_ :: _).filter _).map _ = _
      rw [hresult]
      rfl
    | error e =>
      rw [Batch.failures_cons_error hresult, ← ih]
      show ((_ :: _).filter _).map _ = _
      rw [hresult]
      rfl

theorem length_each (uids : List Uid) : (each step uids).length = uids.length :=
  List.length_map _

theorem atomic_each {step : Uid → Op W Unit} (hstep : ∀ uid, (step uid).Atomic)
    (uids : List Uid) : ∀ c ∈ each step uids, c.act.Atomic := by
  intro c hc
  obtain ⟨uid, -, rfl⟩ := List.mem_map.1 hc
  exact hstep uid

end Each

end SingleCall

open SingleCall (each)

/-- The operation does what the calls do, one after the other. It takes its lock once, and the calls
take it again and again; nothing else is different. -/
structure RunsAs {W : Type} (x : Op W BatchOutcome) (calls : List (SingleCall W)) (w : W) :
    Prop where
  /-- It leaves the same maps. -/
  world : (x.run w).world = SingleCall.worldAfter calls w
  /-- It answers. It reports the ids whose call fails at its turn, and counts the others. -/
  reports : ∃ outcome, Answers x w outcome ∧ outcome.failed = SingleCall.failed calls w ∧
    outcome.applied = SingleCall.answered calls w
  /-- Without the calls that fail the others leave the same maps, and answer the same: a failure
  affects nobody else. -/
  isolated :
    SingleCall.worldAfter (SingleCall.answering calls w) w = SingleCall.worldAfter calls w ∧
    SingleCall.answers (SingleCall.answering calls w) w
      = (SingleCall.answers calls w).filter fun a => a.2.isOk

/-- An operation that accounts for all calls counts those that answer. -/
theorem RunsAs.of_run {W : Type} {x : Op W BatchOutcome} {calls : List (SingleCall W)} {w : W}
    {outcome : BatchOutcome} {log : List Log.Event}
    (hrun : x.run w = ⟨.ok outcome, SingleCall.worldAfter calls w, log⟩)
    (hfailed : outcome.failed = SingleCall.failed calls w)
    (haccounted : outcome.applied + outcome.failed.length = calls.length)
    (hatomic : ∀ c ∈ calls, c.act.Atomic) : RunsAs x calls w where
  world := by rw [hrun]
  reports := by
    refine ⟨outcome, by rw [Answers, hrun], hfailed, ?_⟩
    rw [hfailed, ← SingleCall.answered_add_failed calls w] at haccounted
    exact Nat.add_right_cancel haccounted
  isolated :=
    ⟨SingleCall.worldAfter_answering hatomic w, SingleCall.answers_answering hatomic w⟩

/-! ## The batches -/

section Batches

variable {W : Type} {b : Backing W} {w : W}

theorem Act.Still.run_eq {α : Type} {x : Op W α} (hx : x.Still) {a : α} (ha : Answers x w a) :
    x.run w = ⟨.ok a, w, (x.run w).events⟩ := by
  calc x.run w = ⟨(x.run w).result, (x.run w).world, (x.run w).events⟩ := rfl
    _ = ⟨.ok a, w, (x.run w).events⟩ := by rw [show (x.run w).result = .ok a from ha, hx w]

/-- A batch of calls that are its turns runs as these calls. -/
theorem Batch.Does.runsAs {x : Op W BatchOutcome} {step : Uid → Op W Unit} {uids : List Uid}
    (hx : Batch.Does x step uids w) (hatomic : ∀ uid, (step uid).Atomic) :
    RunsAs x (each step uids) w := by
  obtain ⟨outcome, log, hrun, hfailed, haccounted⟩ := hx
  rw [← SingleCall.worldAfter_each] at hrun
  rw [← SingleCall.failed_each] at hfailed
  rw [← SingleCall.length_each step uids] at haccounted
  exact .of_run hrun hfailed haccounted (SingleCall.atomic_each hatomic uids)

theorem Permissions.set_of_open (hopen : b.poisoned .permission = false) (mask : UInt8)
    (uid : Uid) : set b uid mask = setLocked b mask uid := by
  rw [set, Backing.acquire_of_not_poisoned hopen]
  exact pure_bind _ _

theorem Permissions.does_setAll (hopen : b.poisoned .permission = false) (mask : UInt8)
    (uids : List Uid) : Batch.Does (setAll b mask uids) (setLocked b mask) uids w := by
  rw [setAll, Backing.acquire_of_not_poisoned hopen, pure_bind]
  exact Batch.does_run _ _ _ uids w

/-! ## Batches in turn -/

/-- Every batch over a list of ids runs as single calls, on every orderly backing. -/
structure BatchesInTurn (b : Backing W) (w : W) (uids : List Uid) : Prop where
  /-- A restriction to an interface that can be resolved, or to any, whose index is zero. -/
  restrict : ∀ name index, Answers (Firewall.restrictionIndex b name) w index →
    RunsAs (Firewall.addInterfaceRules b name uids)
      (each (fun uid => Firewall.addRule b uid .iif index) uids) w
  /-- Lifting the restrictions. -/
  lift : RunsAs (Firewall.removeInterfaceRules b uids)
    (each (fun uid => Firewall.removeRule b uid .iif) uids) w
  /-- Storing a mask. Several of the ids may be of one application, whose entry each of their turns
  writes. -/
  permit : ∀ mask, RunsAs (Permissions.setAll b mask uids)
    (each (fun uid => Permissions.set b uid mask) uids) w
  /-- A replacement whose walk succeeds: the stale ids lose the match, then the listed gain it. -/
  replace : ∀ (c : Chain) (walk : List (Uid × OwnerEntry)), Answers b.uidOwner.entries w walk →
    RunsAs (Firewall.replaceChain b c uids)
      (each (fun uid => Firewall.removeRule b uid c.bit) (c.staleOn walk uids)
        ++ each (fun uid => Firewall.addRule b uid c.bit 0) uids) w

/-- **A batch is its single calls, one after the other**, on any maps whose failed writes change
nothing: whichever reads and writes fail, it leaves the same maps, reports the ids whose call
fails at its turn and counts the others. -/
theorem batches_in_turn (hb : b.Orderly) (hrules : b.poisoned .uidOwner = false)
    (hpermissions : b.poisoned .permission = false) (w : W) (uids : List Uid) :
    BatchesInTurn b w uids where
  restrict name index hindex := by
    -- a single call checks its arguments and takes the lock: the interface match may come with any
    -- index, and the lock is open
    simp only [Firewall.addRule_of_open hrules (.inr rfl)]
    exact (Firewall.does_addInterfaceRules hrules
      ((Firewall.still_restrictionIndex hb name).run_eq hindex) uids).runsAs
      (Firewall.atomic_addLocked hb .iif index)
  lift := by
    simp only [Firewall.removeRule_of_open hrules]
    exact (Firewall.does_removeInterfaceRules hrules uids w).runsAs
      (Firewall.atomic_removeLocked hb .iif)
  permit mask := by
    simp only [Permissions.set_of_open hpermissions]
    exact (Permissions.does_setAll hpermissions mask uids).runsAs
      (Permissions.atomic_setLocked hb mask)
  replace c walk hwalk := by
    simp only [Firewall.removeRule_of_open hrules, Firewall.addRule_of_open hrules (.inl rfl)]
    -- a replacement is two batches in a row, and the calls are those of the one and then of the
    -- other
    obtain ⟨outcome, log, hrun, hfailed, haccounted⟩ :=
      Firewall.run_replaceChain_of_walk hrules c (hb.uidOwner.still_entries.run_eq hwalk) uids
    rw [← SingleCall.worldAfter_each, ← SingleCall.worldAfter_each,
      ← SingleCall.worldAfter_append] at hrun
    rw [← SingleCall.worldAfter_each, ← SingleCall.failed_each, ← SingleCall.failed_each,
      ← SingleCall.failed_append] at hfailed
    refine .of_run hrun hfailed ?_ fun call hcall => ?_
    · rw [haccounted, List.length_append, SingleCall.length_each, SingleCall.length_each]
    · rcases List.mem_append.1 hcall with hcall | hcall
      · exact SingleCall.atomic_each (Firewall.atomic_removeLocked hb c.bit) _ call hcall
      · exact SingleCall.atomic_each (Firewall.atomic_addLocked hb c.bit 0) _ call hcall

end Batches

/-- The hypotheses hold on the maps in memory, whatever they hold and whichever writes fail. -/
theorem assortedWorld_batches :
    ((Memory.backing ⟨[("wlan0", 3)], none⟩).Orderly ∧
        (Memory.backing ⟨[("wlan0", 3)], none⟩).poisoned .uidOwner = false ∧
        (Memory.backing ⟨[("wlan0", 3)], none⟩).poisoned .permission = false) ∧
      BatchesInTurn (Memory.backing ⟨[("wlan0", 3)], none⟩) Firewall.assortedWorld
        [10003, 10002, 10006, 10002] := by
  have horderly : (Memory.backing ⟨[("wlan0", 3)], none⟩).Orderly :=
    Memory.Setting.orderly (.ofHost ⟨[("wlan0", 3)], none⟩)
  exact ⟨⟨horderly, rfl, rfl⟩, batches_in_turn horderly rfl rfl _ _⟩

/-- Writes of the first id fail, and the third has no entry. -/
example :
    SingleCall.failed
        (each (fun uid => Firewall.removeRule (Memory.backing ⟨[], none⟩) uid .iif)
          [10003, 10002, 10006, 10002]) Firewall.assortedWorld
      = [10003, 10006] := rfl

end UidPolicy
