import Mathlib.Logic.Function.Iterate
import UidPolicy.Proofs.Memory.Run
import UidPolicy.Proofs.Stats.Reset

/-!
# The selector over whole runs

Only swaps and resets change the selector, and every swap that changes it calls the barrier. So
the calls of the barrier tell where the selector is.

- `Turn.Resets`: the turn carries out a reset, on its own or as a step of an initialisation.
- `Toggled`: from one world to another, the selector changed to the other one once per call of
  the barrier. A turn without a reset toggles (`Turn.toggled`), a reset selects map A and calls
  no barrier (`Turn.selector_of_resets`).
- `Accounted`: where the selector is after a run, by the calls of the barrier since the start or
  since the last reset.
- `selector_protocol`: how every turn of a run treats the selector and the barrier, and what
  follows for the run.
-/

namespace UidPolicy

open Memory (World Setting)

/-- The stored selector names one of the two maps. A swap refuses every other value, so this has to
be kept from the start. -/
def Memory.World.Selects (w : World) : Prop :=
  w.selector = some Stats.mapA ∨ w.selector = some Stats.mapB

/-! ## Toggling -/

/-- From one world to another, the selector changed to the other one once per call of the
barrier. -/
def Toggled (w w' : World) : Prop :=
  ∃ calls, w'.barrierCalls = w.barrierCalls + calls ∧
    w'.selector = (fun selector => selector.bind Stats.other?)^[calls] w.selector

namespace Toggled

variable {w w' w'' : World}

theorem of_same (hcalls : w'.barrierCalls = w.barrierCalls) (hsel : w'.selector = w.selector) :
    Toggled w w' := ⟨0, hcalls, hsel⟩

theorem trans (h : Toggled w w') (h' : Toggled w' w'') : Toggled w w'' := by
  obtain ⟨m, hcalls, hsel⟩ := h
  obtain ⟨n, hcalls', hsel'⟩ := h'
  refine ⟨n + m, by omega, ?_⟩
  rw [Function.iterate_add_apply, ← hsel]
  exact hsel'

/-- Toggling leads from a map to a map. -/
theorem selects (h : Toggled w w') (hw : w.Selects) : w'.Selects := by
  obtain ⟨calls, -, hsel⟩ := h
  rw [World.Selects, hsel]
  clear hsel
  induction calls with
  | zero => exact hw
  | succ n ih =>
    rw [Function.iterate_succ_apply']
    rcases ih with hA | hB
    · rw [hA]
      exact .inr rfl
    · rw [hB]
      exact .inl rfl

end Toggled

/-! ## One turn -/

namespace Turn

variable {t : Turn} {w : World}

/-- The turn carries out a reset of the selector, on its own or as a step of an
initialisation. -/
def Resets (w : World) (t : Turn) : Prop :=
  ∃ part, t.request.resetPart t.setting.backing = some part ∧
    (part.run (t.start w)).result = .ok ()

/-- The ways that a swap can end. There is no way in which the barrier is called and the selector
stays. -/
inductive SwapEnds (w : World) (t : Turn) : Prop where
  /-- It fails and changes nothing. -/
  | refused (e : Fault) :
      (t.outcome w).result = .error e → t.after w = t.start w → SwapEnds w t
  /-- The other selector is stored, then the barrier is called once, in the world with that
  selector. The answer is the new selector, or the barrier's error. -/
  | flipped (current next : UInt32) :
      w.selector = some current → Stats.other? current = some next →
      (t.outcome w).result
        = (t.setting.barrier ((t.start w).selecting next)).map (fun _ => .word next) →
      t.after w = { (t.start w).selecting next with barrierCalls := w.barrierCalls + 1 } →
      SwapEnds w t

theorem swapEnds (hswap : t.request = .swapStats) : t.SwapEnds w := by
  have hrequest : t.request.run t.setting.backing
      = Reply.word <$> Stats.swap t.setting.backing := by
    rw [hswap]
    rfl
  have hrun := outcome_map hrequest w
  rcases Stats.swap_cases t.setting (t.start w) with
    ⟨e, hresult, hworld⟩ | ⟨current, next, hsel, hother, hresult, hworld⟩
  · refine .refused e ?_ ?_
    · rw [hrun, hresult]
      rfl
    · rw [after, hrun, hworld]
  -- the turn answers as the swap does, wrapped as a word, and leaves the same world
  · refine .flipped current next hsel hother ?_ ?_
    · rw [hrun, hresult]
      cases t.setting.barrier ((t.start w).selecting next) with
      | ok a => rfl
      | error e => rfl
    · rw [after, hrun, hworld]
      rfl

/-- Only a swap calls the barrier. -/
theorem barrierCalls_of_ne (hswap : t.request ≠ .swapStats) :
    (t.after w).barrierCalls = w.barrierCalls :=
  Request.within t.setting.orderly (fun l _ => t.setting.writes_keep_calls l)
    (fun h => absurd h hswap) (t.start w)

/-- A reset selects map A and calls no barrier. -/
theorem selector_of_resets (hreset : t.Resets w) :
    (t.after w).selector = some Stats.mapA ∧ (t.after w).barrierCalls = w.barrierCalls := by
  obtain ⟨part, hpart, hdone⟩ := hreset
  constructor
  · rw [after, outcome, Request.selector_run_of_some t.setting (t.start w) hpart]
    -- what an initialisation does after the reset cannot undo it, so the part up to there decides
    rcases Request.resetPart_cases t.setting (t.start w) hpart with ⟨e, hfail, -⟩ | ⟨-, hA⟩
    · rw [hfail] at hdone
      cases hdone
    · exact hA
  · refine barrierCalls_of_ne fun hswap => ?_
    rw [hswap] at hpart
    cases hpart

/-- **A turn without a reset toggles** the selector once per call of the barrier. Only a swap calls
it, and only after it has stored the other selector. -/
theorem toggled (hreset : ¬t.Resets w) : Toggled w (t.after w) := by
  by_cases hswap : t.request = .swapStats
  · cases swapEnds (w := w) hswap with
    | refused e hresult hworld =>
      rw [hworld]
      exact .of_same rfl rfl
    | flipped current next hsel hother hresult hworld =>
      rw [hworld]
      refine ⟨1, rfl, ?_⟩
      show ((t.start w).selecting next).selector = w.selector.bind Stats.other?
      rw [World.selector_selecting, hsel]
      exact hother.symm
  · refine .of_same (barrierCalls_of_ne hswap) ?_
    cases hpart : t.request.resetPart t.setting.backing with
    | none => exact Request.selector_run_of_none t.setting (t.start w) hpart hswap
    | some part =>
      -- there is a reset, and it fails
      rw [after, outcome, Request.selector_run_of_some t.setting (t.start w) hpart]
      rcases Request.resetPart_cases t.setting (t.start w) hpart with ⟨e, -, hsame⟩ | ⟨hdone, -⟩
      · exact hsame
      · exact absurd ⟨part, hpart, hdone⟩ hreset

/-- After a turn the selector names a map if it did before. -/
theorem selects (hw : w.Selects) : (t.after w).Selects := by
  by_cases hreset : t.Resets w
  · exact .inl (selector_of_resets hreset).1
  · exact (toggled hreset).selects hw

end Turn

/-! ## Runs -/

/-- Where the selector is after a run: since the last reset, or since the start if there was none,
it was toggled once per call of the barrier. -/
inductive Accounted (w : World) (ts : List Turn) : Prop where
  /-- No turn carries out a reset, and the selector was toggled once per barrier call. -/
  | sinceStart : EachTurn (fun w t => ¬t.Resets w) w ts → Toggled w (afterTurns w ts) →
      Accounted w ts
  /-- A last turn carries out a reset, which selects map A, and from then on the selector was
  toggled once per barrier call. -/
  | sinceReset (before : List Turn) (t : Turn) (rest : List Turn) :
      ts = before ++ t :: rest → t.Resets (afterTurns w before) →
      EachTurn (fun w t => ¬t.Resets w) (t.after (afterTurns w before)) rest →
      (t.after (afterTurns w before)).selector = some Stats.mapA →
      Toggled (t.after (afterTurns w before)) (afterTurns w ts) → Accounted w ts

/-- Every run is accounted for, by induction on it: the last reset of a run is the first turn's
only if no later turn carries out one. -/
theorem accounted (w : World) (ts : List Turn) : Accounted w ts := by
  induction ts generalizing w with
  | nil => exact .sinceStart trivial (.of_same rfl rfl)
  | cons t ts ih =>
    cases ih (t.after w) with
    | sinceStart hnone htoggled =>
      by_cases hreset : t.Resets w
      · exact .sinceReset [] t ts rfl hreset hnone (Turn.selector_of_resets hreset).1 htoggled
      · exact .sinceStart ⟨hreset, hnone⟩ ((Turn.toggled hreset).trans htoggled)
    | sinceReset before t' rest hsplit hreset hnone hA htoggled =>
      exact .sinceReset (t :: before) t' rest (congrArg (t :: ·) hsplit) hreset hnone hA htoggled

/-- How a turn treats the selector and the barrier. -/
structure Turn.Follows (w : World) (t : Turn) : Prop where
  /-- The selector still names a map. -/
  selects : (t.after w).Selects
  /-- A swap is refused, or it flips and then calls the barrier. -/
  swap : t.request = .swapStats → t.SwapEnds w
  /-- No other request calls the barrier. -/
  others : t.request ≠ .swapStats → (t.after w).barrierCalls = w.barrierCalls

/-- **The protocol of the selector**, for every run from a world whose selector names a map,
with any failures and any ends of the barrier: every turn follows it, the calls of the barrier
account for the selector, and a swap of a selector that is missing or names no map fails and
changes nothing. -/
theorem selector_protocol {w : World} (hw : w.Selects) (ts : List Turn) :
    EachTurn Turn.Follows w ts ∧ Accounted w ts ∧
      ∀ (w' : World) (t : Turn), t.request = .swapStats → ¬w'.Selects →
        (∃ e, (t.outcome w').result = .error e) ∧ t.after w' = t.start w' := by
  refine ⟨?_, accounted w ts, ?_⟩
  · refine eachTurn_of_invariant (I := World.Selects) (fun _ _ => Turn.selects) ?_ hw ts
    intro w' t hw'
    exact ⟨Turn.selects hw', Turn.swapEnds, Turn.barrierCalls_of_ne⟩
  · intro w' t hswap hnone
    cases Turn.swapEnds (w := w') hswap with
    | refused e hresult hworld => exact ⟨⟨e, hresult⟩, hworld⟩
    | flipped current next hsel hother hresult hworld =>
      rcases Stats.other?_eq_some.1 hother with ⟨rfl, -⟩ | ⟨rfl, -⟩
      · exact absurd (.inl hsel) hnone
      · exact absurd (.inr hsel) hnone

/-- A swap whose barrier fails, an initialisation that fails after its reset, a swap that is not
stored, and a swap that succeeds. -/
def troubledTurns : List Turn :=
  let barrierFails : Setting := .ofHost ⟨[], some Errno.noEntry⟩
  let saverFails : Memory.Faults :=
    { Memory.Faults.none with dataSaver := { Store.Faults.none with failing _ := true } }
  let selectorFails : Memory.Faults :=
    { Memory.Faults.none with configuration := { Store.Faults.none with failing _ := true } }
  [⟨.none, barrierFails, .swapStats⟩, ⟨saverFails, .ofHost ⟨[], none⟩, .init⟩,
    ⟨selectorFails, .ofHost ⟨[], none⟩, .swapStats⟩, .plain .swapStats]

theorem troubledTurns_protocol :
    (World.empty.selecting Stats.mapB).Selects ∧
      (EachTurn Turn.Follows (World.empty.selecting Stats.mapB) troubledTurns ∧
        Accounted (World.empty.selecting Stats.mapB) troubledTurns ∧
        ∀ (w' : World) (t : Turn), t.request = .swapStats → ¬w'.Selects →
          (∃ e, (t.outcome w').result = .error e) ∧ t.after w' = t.start w') :=
  ⟨.inr (World.selector_selecting _ _),
    selector_protocol (.inr (World.selector_selecting _ _)) troubledTurns⟩

/-- A reset counts when it is not part of an initialisation, too: after a swap and a reset, the
selector is not where the one call of the barrier would have it. -/
theorem directReset_not_toggled :
    (World.empty.selecting Stats.mapA).Selects ∧
      EachTurn (fun _ t => t.request ≠ .init) (World.empty.selecting Stats.mapA)
        [.plain .swapStats, .plain .resetStats] ∧
      ¬Toggled (World.empty.selecting Stats.mapA)
        (afterTurns (World.empty.selecting Stats.mapA)
          [.plain .swapStats, .plain .resetStats]) := by
  refine ⟨.inl (World.selector_selecting _ _), ⟨nofun, nofun, trivial⟩, ?_⟩
  rintro ⟨calls, hcalls, hsel⟩
  have hone : 1 = 0 + calls := hcalls
  obtain rfl : calls = 1 := by omega
  have hB : some Stats.mapA = some Stats.mapB := hsel
  exact absurd hB (by decide)

end UidPolicy
