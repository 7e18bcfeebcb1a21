import UidPolicy.Proofs.Memory.Setting
import UidPolicy.Proofs.Request

/-!
# The selector and its swaps

An error tells the caller that nothing has happened: the six maps and the count of barrier calls
are as they were, whatever failed and for whatever reason. This is `Request.atomic`, together
with the one request for which it is not so: a swap whose barrier fails has changed the selector,
and nothing else.

- `World.selector`: the stored selector. `World.selecting` is the world with another one and
  with nothing else changed.
- `Stats.flip_cases`: a flip is refused and changes nothing, or it stores the other selector.
  `Stats.swap_of_flip` is what a swap does after a flip.
- `Stats.swap_cases`: a swap is refused and changes nothing, or it flips and then calls the
  barrier once, in the flipped world. How that call ends decides the answer.
- `Request.failed_unchanged`: what a failed request leaves behind.
-/

namespace UidPolicy

open Memory (World Setting)

namespace Memory.World

/-- The stored selector. Stored by this program it is one of two, and by another one it may be
anything. -/
def selector (w : World) : Option UInt32 := w.configuration.content.get? Stats.key

def selecting (w : World) (selector : UInt32) : World :=
  { w with configuration :=
    { w.configuration with content := w.configuration.content.insert Stats.key selector } }

@[simp] theorem selector_selecting (w : World) (selector : UInt32) :
    (w.selecting selector).selector = some selector := by
  rw [World.selector, selecting, SortedMap.get?_insert, if_pos rfl]

/-- Where reads find a selector, a write of it changes the selector only. -/
theorem write_eq_selecting {w : World} {current : UInt32}
    (hseen : w.configuration.visible? Stats.key = some current) (selector : UInt32) :
    { w with configuration := w.configuration.write Stats.key (some selector) }
      = w.selecting selector := by
  rw [selecting, Store.write_of_seen hseen]

end Memory.World

namespace Stats

theorem other?_eq_some {current next : UInt32} :
    other? current = some next ↔
      current = mapA ∧ next = mapB ∨ current = mapB ∧ next = mapA := by
  rw [other?]
  by_cases hA : current = mapA
  · rw [if_pos hA, Option.some.injEq]
    -- the selectors of the maps differ, so only one of the two cases can be meant
    have hB : current ≠ mapB := by
      rw [hA]
      decide
    constructor
    · intro hnext
      exact .inl ⟨hA, hnext.symm⟩
    · intro hcases
      exact (hcases.resolve_right fun hc => hB hc.1).2.symm
  · rw [if_neg hA]
    by_cases hB : current = mapB
    · rw [if_pos hB, Option.some.injEq]
      constructor
      · intro hnext
        exact .inr ⟨hB, hnext.symm⟩
      · intro hcases
        exact (hcases.resolve_left fun hc => hA hc.1).2.symm
    · rw [if_neg hB]
      constructor
      · intro hnone
        cases hnone
      · intro hcases
        exact hcases.elim (fun hc => absurd hc.1 hA) fun hc => absurd hc.1 hB

section Swap

variable (s : Setting) (w : World)

theorem active_cases :
    (∃ e, (active s.backing).run w = ⟨.error e, w, []⟩) ∨
      ∃ current, w.configuration.visible? key = some current ∧
        (active s.backing).run w = ⟨.ok current, w, []⟩ := by
  rw [active, s.configuration_backing]
  rcases Store.get_zoom_bind_cases World.configurationPart key _ w with hfail | hrun
  · exact .inl hfail
  · rw [hrun]
    cases hseen : (World.configurationPart.get w).visible? key with
    | none => exact .inl ⟨_, rfl⟩
    | some current => exact .inr ⟨current, hseen, rfl⟩

/-- Storing a selector where reads find one fails and changes nothing, or it changes the
selector only. -/
theorem put_cases {current : UInt32} (hseen : w.configuration.visible? key = some current)
    (next : UInt32) :
    (∃ e, (s.backing.configuration.put key next).run w = ⟨.error e, w, []⟩) ∨
      (s.backing.configuration.put key next).run w = ⟨.ok (), w.selecting next, []⟩ := by
  rw [← World.write_eq_selecting hseen]
  exact Store.put_zoom_cases World.configurationPart key next w

/-- **A flip** is refused, or it stores the selector of the other map. -/
theorem flip_cases :
    (∃ e, (flip s.backing).run w = ⟨.error e, w, []⟩) ∨
      ∃ current next, w.selector = some current ∧ other? current = some next ∧
        (flip s.backing).run w = ⟨.ok next, w.selecting next, []⟩ := by
  rw [flip]
  rcases s.backing.acquire_bind_cases .statsSelector _ with ⟨e, hrefused⟩ | hopen
  · exact .inl ⟨e, hrefused w⟩
  · rw [hopen]
    rcases active_cases s w with ⟨e, hactive⟩ | ⟨current, hseen, hactive⟩
    · exact .inl ⟨e, Act.run_bind_error hactive⟩
    · rw [Act.run_bind_ok hactive]
      -- a third value is refused before anything is written
      cases hother : other? current with
      | none => exact .inl ⟨_, rfl⟩
      | some next =>
        dsimp only
        rcases put_cases s w hseen next with ⟨e, hput⟩ | hput
        · rw [Act.run_bind_error hput]
          exact .inl ⟨e, rfl⟩
        · rw [Act.run_bind_ok hput]
          exact .inr ⟨current, next, Store.get?_of_visible? hseen, hother, rfl⟩

/-- After a flip the barrier is called once, and how that call ends decides the answer. -/
theorem swap_of_flip {next : UInt32}
    (hflip : (flip s.backing).run w = ⟨.ok next, w.selecting next, []⟩) :
    ((swap s.backing).run w).result = (s.barrier (w.selecting next)).map (fun _ => next) ∧
      ((swap s.backing).run w).world
        = { w.selecting next with barrierCalls := w.barrierCalls + 1 } := by
  have hcall : s.backing.barrier.run (w.selecting next)
      = ⟨s.barrier (w.selecting next),
          { w.selecting next with barrierCalls := w.barrierCalls + 1 }, []⟩ := rfl
  rw [swap, Act.run_bind_ok hflip, Act.run_attempt_bind hcall]
  cases s.barrier (w.selecting next) with
  | ok a => exact ⟨rfl, rfl⟩
  | error e => exact ⟨rfl, rfl⟩

/-- **A swap** is refused, or it flips and then calls the barrier once, in the flipped world. If the
barrier fails the flip is not taken back. -/
theorem swap_cases :
    (∃ e, ((swap s.backing).run w).result = .error e ∧ ((swap s.backing).run w).world = w) ∨
      ∃ current next, w.selector = some current ∧ other? current = some next ∧
        ((swap s.backing).run w).result
          = (s.barrier (w.selecting next)).map (fun _ => next) ∧
        ((swap s.backing).run w).world
          = { w.selecting next with barrierCalls := w.barrierCalls + 1 } := by
  rcases flip_cases s w with ⟨e, hflip⟩ | ⟨current, next, hsel, hother, hflip⟩
  · exact .inl ⟨e, by rw [swap, Act.run_bind_error hflip], by rw [swap, Act.run_bind_error hflip]⟩
  · exact .inr ⟨current, next, hsel, hother, swap_of_flip s w hflip⟩

end Swap

end Stats

/-! ## What a failed request leaves behind -/

open Memory (World Setting)

/-- **A failed request leaves everything as it was**, for every setting, every world and every
request but the initialisation and the two that clear a map. The exception is a swap whose
barrier failed: the selector has changed to the other one, the barrier was called once after
that, and nothing else has changed. -/
theorem Request.failed_unchanged (s : Setting) (w : World) {r : Request} (hinit : r ≠ .init)
    (hrules : r ≠ .mutate .clear) (hdiscards : r ≠ .clearDiscards) {e : Fault}
    (hfail : ((r.run s.backing).run w).result = .error e) :
    ((r.run s.backing).run w).world = w ∨
      r = .swapStats ∧ ∃ current next, w.selector = some current ∧
        Stats.other? current = some next ∧ s.barrier (w.selecting next) = .error e ∧
        ((r.run s.backing).run w).world
          = { w.selecting next with barrierCalls := w.barrierCalls + 1 } := by
  by_cases hswap : r = .swapStats
  · subst hswap
    have hrun : (swapStats.run s.backing).run w = _ := Act.run_map Reply.word _ w
    rw [hrun] at hfail ⊢
    rcases Stats.swap_cases s w with ⟨-, -, hsame⟩ | ⟨current, next, hsel, hother, hend, hflipped⟩
    · exact .inl hsame
    · refine .inr ⟨rfl, current, next, hsel, hother, ?_, hflipped⟩
      -- the flip itself went through, so the error is the barrier's
      replace hfail : (((Stats.swap s.backing).run w).result.map Reply.word) = .error e := hfail
      rw [hend] at hfail
      cases hbarrier : s.barrier (w.selecting next) with
      | ok a =>
        rw [hbarrier] at hfail
        cases hfail
      | error e' =>
        rw [hbarrier] at hfail
        cases hfail
        rfl
  · exact .inl (Request.atomic s.orderly hinit hrules hdiscards hswap w e hfail)

/-- The maps hold selector A; the barrier fails once map B is selected. -/
def strandedSwap : Setting × World where
  fst := {
    interfaces := []
    poisoned _ := false
    barrier w :=
      if w.selector = some Stats.mapB then
        .error (.resource "synchronize_kernel_rcu" Errno.noEntry)
      else .ok () }
  snd := World.empty.selecting Stats.mapA

/-- Here the swap fails after its change: the selector is B and the barrier was called. -/
theorem strandedSwap_failed :
    (Request.swapStats ≠ .init ∧ Request.swapStats ≠ .mutate .clear ∧
        Request.swapStats ≠ .clearDiscards) ∧
      ((Request.swapStats.run strandedSwap.1.backing).run strandedSwap.2).result
        = .error (.resource "synchronize_kernel_rcu" Errno.noEntry) ∧
      (((Request.swapStats.run strandedSwap.1.backing).run strandedSwap.2).world
          = strandedSwap.2 ∨
        Request.swapStats = .swapStats ∧ ∃ current next,
          strandedSwap.2.selector = some current ∧ Stats.other? current = some next ∧
          strandedSwap.1.barrier (strandedSwap.2.selecting next)
            = .error (.resource "synchronize_kernel_rcu" Errno.noEntry) ∧
          ((Request.swapStats.run strandedSwap.1.backing).run strandedSwap.2).world
            = { strandedSwap.2.selecting next with
                barrierCalls := strandedSwap.2.barrierCalls + 1 }) := by
  have hfail : ((Request.swapStats.run strandedSwap.1.backing).run strandedSwap.2).result
      = .error (.resource "synchronize_kernel_rcu" Errno.noEntry) := rfl
  exact ⟨⟨nofun, nofun, nofun⟩, hfail,
    Request.failed_unchanged strandedSwap.1 strandedSwap.2 (r := .swapStats)
      nofun nofun nofun hfail⟩

end UidPolicy
