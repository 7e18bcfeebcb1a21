import UidPolicy.Proofs.Request
import UidPolicy.Proofs.Stats.Selector

/-!
# What resets the selector, and what leaves it alone

- `Setting.writes_keep_selector`, `Setting.writes_keep_calls`: a write to a place changes neither
  the selector, unless the place is the selector's, nor the count of barrier calls.
- `Stats.reset_cases`: a reset selects map A, or fails and changes nothing.
- `NetMaps.untilReset`: an initialisation up to its reset of the selector. What follows there
  may fail, and leaves the selector alone (`NetMaps.within_sinceReset`).
- `Request.resetPart`: the part of a request that ends with a reset. A request without one
  leaves the selector alone, a swap apart (`Request.selector_run_of_none`).
-/

namespace UidPolicy

open Memory (World Setting)

/-! ## What leaves the selector alone -/

namespace Memory.Setting

variable (s : Setting)

/-- No write to a map calls the barrier. -/
theorem writes_keep_calls (l : Lock) : s.backing.WritesWithin (.keeping World.barrierCalls) l := by
  cases l with
  | uidOwner | permission | ingressDiscard => exact ⟨fun _ _ _ => rfl, fun _ _ => rfl⟩
  | dataSaver | chainSwitch | statsSelector => exact fun _ _ => rfl

theorem put_keeps_selector {k : UInt32} (hk : k ≠ Stats.key) (v : UInt32) :
    (s.backing.configuration.put k v).Within (.keeping World.selector) := by
  intro w
  show ((s.backing.configuration.put k v).run w).world.selector = w.selector
  rw [s.configuration_backing]
  rcases Store.put_zoom_cases World.configurationPart k v w with ⟨e, hput⟩ | hput
  · rw [hput]
  · rw [hput]
    show (w.configuration.write k (some v)).content.get? Stats.key = w.selector
    rw [Store.get?_content_write, if_neg hk.symm]
    rfl

/-- Only writes to the selector's own place change it. -/
theorem writes_keep_selector {l : Lock} (hl : l ≠ .statsSelector) :
    s.backing.WritesWithin (.keeping World.selector) l := by
  cases l with
  | uidOwner | permission | ingressDiscard => exact ⟨fun _ _ _ => rfl, fun _ _ => rfl⟩
  | dataSaver => exact fun _ _ => rfl
  | chainSwitch => exact s.put_keeps_selector (by decide)
  | statsSelector => exact absurd rfl hl

end Memory.Setting

/-! ## Resets -/

/-- **A reset** fails and changes nothing, or map A is selected, whatever was stored. -/
theorem Stats.reset_cases (s : Setting) (w : World) :
    (∃ e, (reset s.backing).run w = ⟨.error e, w, []⟩) ∨
      ((reset s.backing).run w).result = .ok () ∧
        ((reset s.backing).run w).world.selector = some mapA := by
  rw [reset]
  rcases s.backing.acquire_bind_cases .statsSelector _ with ⟨e, hrefused⟩ | hopen
  · exact .inl ⟨e, hrefused w⟩
  · rw [hopen, s.configuration_backing]
    rcases Store.put_zoom_cases World.configurationPart key mapA w with hfail | hput
    · exact .inl hfail
    · rw [hput]
      refine .inr ⟨rfl, ?_⟩
      show (w.configuration.write key (some mapA)).content.get? key = some mapA
      rw [Store.get?_content_write, if_pos rfl]

namespace NetMaps

section Steps

variable {W : Type}

theorem runSteps_append (l l' : List (String × Op W Unit)) :
    runSteps (l ++ l') = runSteps l >>= fun _ => runSteps l' := by
  induction l with
  | nil => exact (pure_bind () fun _ => runSteps l').symm
  | cons first rest ih =>
    rw [List.cons_append, runSteps, runSteps, bind_assoc]
    congr
    funext ended
    -- a failed step ends both sides alike, with its own message
    cases ended with
    | ok a => exact ih
    | error e => rfl

theorem runSteps_cons_cases (name : String) (step : Op W Unit) (rest : List (String × Op W Unit))
    (w : W) :
    (∃ e e', (step.run w).result = .error e ∧
        ((runSteps ((name, step) :: rest)).run w).result = .error e' ∧
        ((runSteps ((name, step) :: rest)).run w).world = (step.run w).world) ∨
      (step.run w).result = .ok () ∧
        ((runSteps ((name, step) :: rest)).run w).result
          = ((runSteps rest).run (step.run w).world).result ∧
        ((runSteps ((name, step) :: rest)).run w).world
          = ((runSteps rest).run (step.run w).world).world := by
  rcases hr : step.run w with ⟨e | a, w', log⟩
  · obtain ⟨log', hrun⟩ := runSteps_cons_error name hr rest
    exact .inl ⟨e, _, rfl, by rw [hrun], by rw [hrun]⟩
  · rw [runSteps_cons_ok hr rest]
    exact .inr ⟨rfl, rfl, rfl⟩

/-- The steps of an initialisation up to the reset of the selector. If one of them fails the
selector is not reset. -/
def untilReset (b : Backing W) : List (String × Op W Unit) := (initSteps b).take 2

/-- The steps of an initialisation after the reset of the selector. -/
def sinceReset (b : Backing W) : List (String × Op W Unit) := (initSteps b).drop 2

theorem init_eq (b : Backing W) :
    init b = runSteps (untilReset b) >>= fun _ => runSteps (sinceReset b) >>= fun _ =>
      Act.emit ⟨.info, .netMaps, "netd maps initialized", []⟩ := by
  rw [← bind_assoc, ← runSteps_append, untilReset, sinceReset, List.take_append_drop]
  rfl

end Steps

variable (s : Setting) (w : World)

/-- Up to the reset of the selector, an initialisation selects map A, or it fails and leaves
the selector as it is. -/
theorem untilReset_cases :
    (∃ e, ((runSteps (untilReset s.backing)).run w).result = .error e ∧
        ((runSteps (untilReset s.backing)).run w).world.selector = w.selector) ∨
      ((runSteps (untilReset s.backing)).run w).result = .ok () ∧
        ((runSteps (untilReset s.backing)).run w).world.selector = some Stats.mapA := by
  have hchains : ((ChainSwitch.reset s.backing).run w).world.selector = w.selector :=
    ChainSwitch.within_reset (s.writes_keep_selector nofun) w
  -- two steps: the first writes the other word of the map, so the selector is the old one when the
  -- second begins
  rw [show untilReset s.backing = [("reset uid rules configuration", ChainSwitch.reset s.backing),
    ("reset stats map selector", Stats.reset s.backing)] from rfl]
  obtain ⟨_, e, -, hresult, hworld⟩ | ⟨-, hresult, hworld⟩ := runSteps_cons_cases
    "reset uid rules configuration" (ChainSwitch.reset s.backing)
    [("reset stats map selector", Stats.reset s.backing)] w
  · rw [hresult, hworld]
    exact .inl ⟨e, rfl, hchains⟩
  · rw [hresult, hworld, ← hchains]
    generalize ((ChainSwitch.reset s.backing).run w).world = w'
    have hsteps := runSteps_cons_cases "reset stats map selector" (Stats.reset s.backing) [] w'
    rcases Stats.reset_cases s w' with ⟨e, hreset⟩ | ⟨hreset, hselected⟩
    · rw [hreset] at hsteps
      obtain ⟨_, e', -, hresult, hworld⟩ | ⟨hdone, -⟩ := hsteps
      · exact .inl ⟨e', hresult, by rw [hworld]⟩
      · cases hdone
    · rw [hreset] at hsteps
      obtain ⟨_, _, hfail, -⟩ | ⟨-, hresult, hworld⟩ := hsteps
      · cases hfail
      · refine .inr ⟨hresult, ?_⟩
        rw [hworld]
        exact hselected

/-- After its reset of the selector, an initialisation leaves the selector alone. -/
theorem within_sinceReset :
    (runSteps (sinceReset s.backing)).Within (.keeping World.selector) := by
  refine within_runSteps fun step hstep => ?_
  replace hstep : step ∈ [("clear uid owner map", Firewall.clear s.backing),
    ("disable data saver", DataSaver.set s.backing false),
    ("clear ingress discard map", IngressDiscard.clear s.backing)] := hstep
  simp only [List.mem_cons, List.not_mem_nil, or_false] at hstep
  rcases hstep with rfl | rfl | rfl
  · exact Firewall.within_clear s.orderly (s.writes_keep_selector (l := .uidOwner) nofun).2
  · exact DataSaver.within_set (s.writes_keep_selector nofun) false
  · exact IngressDiscard.within_clear s.orderly (s.writes_keep_selector nofun)

end NetMaps

namespace Request

/-- The part of a request that ends with a reset of the selector, if it has one. What follows
in an initialisation may fail without undoing the reset. -/
def resetPart {W : Type} (b : Backing W) : Request → Option (Op W Unit)
  | resetStats => some (Stats.reset b)
  | init => some (NetMaps.runSteps (NetMaps.untilReset b))
  | _ => none

variable (s : Setting) (w : World) {r : Request}

/-- A request without a reset leaves the selector as it is, a swap apart. -/
theorem selector_run_of_none (hpart : r.resetPart s.backing = none) (hswap : r ≠ .swapStats) :
    ((r.run s.backing).run w).world.selector = w.selector := by
  -- of the requests that write at the selector's place, one is a swap and the others are the two
  -- resets
  have hplaces : Lock.statsSelector ∉ r.written := by
    cases r with
    | swapStats => exact absurd rfl hswap
    | resetStats | init => cases hpart
    | _ => simp [written]
  refine within s.orderly (S := .keeping World.selector) (fun l hl => ?_)
    (fun h => absurd h hswap) w
  refine s.writes_keep_selector fun h => ?_
  rw [h] at hl
  exact hplaces hl

/-- A request with a reset leaves the selector where its part up to the reset does. -/
theorem selector_run_of_some {part : Op World Unit} (hpart : r.resetPart s.backing = some part) :
    ((r.run s.backing).run w).world.selector = (part.run w).world.selector := by
  cases r with
  | resetStats =>
    cases hpart
    rw [run, Act.run_map]
  | init =>
    cases hpart
    -- the rest of the initialisation and its log line keep the selector, whether they fail or not
    have hafter : (NetMaps.runSteps (NetMaps.sinceReset s.backing) >>= fun _ =>
        Act.emit ⟨.info, .netMaps, "netd maps initialized", []⟩).Within
        (.keeping World.selector) :=
      (NetMaps.within_sinceReset s).bind fun _ => (Act.Still.emit _).within _
    rw [run, Act.run_map, NetMaps.init_eq]
    obtain ⟨-, -, -, hworld⟩ | ⟨-, -, -, hworld⟩ := Act.run_bind_cases
      (NetMaps.runSteps (NetMaps.untilReset s.backing))
      (fun _ => NetMaps.runSteps (NetMaps.sinceReset s.backing) >>= fun _ =>
        Act.emit ⟨.info, .netMaps, "netd maps initialized", []⟩) w
    · rw [hworld]
      exact hafter _
    · rw [hworld]
  | _ => cases hpart

/-- Up to its reset, a request selects map A, or it fails and leaves the selector as it is. -/
theorem resetPart_cases {part : Op World Unit} (hpart : r.resetPart s.backing = some part) :
    (∃ e, (part.run w).result = .error e ∧ (part.run w).world.selector = w.selector) ∨
      (part.run w).result = .ok () ∧ (part.run w).world.selector = some Stats.mapA := by
  cases r with
  | resetStats =>
    cases hpart
    rcases Stats.reset_cases s w with ⟨e, hrun⟩ | hdone
    · exact .inl ⟨e, by rw [hrun], by rw [hrun]⟩
    · exact .inr hdone
  | init =>
    cases hpart
    exact NetMaps.untilReset_cases s w
  | _ => cases hpart

end Request

end UidPolicy
