import UidPolicy.Command.Run
import UidPolicy.Proofs.Locks
import UidPolicy.Proofs.Stats.Protocol

/-!
# The selector on the command line

One command shows the active statistics map, another one swaps the maps and shows the new one. They
tell selectors apart in different ways: a swap knows the selectors of the two maps and refuses all
others, while whatever is not the selector of map A is shown as map B. So the two commands agree as
long as the selector that they read is that of a map, and no longer.

- `Command.activeShown`, `Command.swapShown`: what the commands show, given the name of a map.
- `Stats.RefusesSelector`: a swap is refused for the selector that it finds, and changes nothing.
  `Stats.not_refusesSelector` and `Stats.refusesSelector_of_unknown` say when.
- `CommandsAgree`: what is shown is the stored selector, and a swap goes on from there.
- `selectorCommands_agree_iff`: where they agree, what they do elsewhere, and that they agree at
  every point of a run that starts from the selector of a map.
- `unknownSelector_disagree`: a third selector is shown as map B, and refused.
-/

namespace UidPolicy

open Memory (World Setting)

/-! ## What is shown -/

namespace Command

/-- What the command for the active map shows. -/
def activeShown (format : OutputFormat) (name : String) : Printed :=
  emit format (.object [("active", .string name)]) name

/-- What a swap shows. -/
def swapShown (format : OutputFormat) (name : String) : Printed :=
  emit format (.object [("active", .string name)]) s!"active stats map: {name}"

theorem activeShown_ne (format : OutputFormat) :
    activeShown format "A" ≠ activeShown format "B" := by
  cases format <;> decide

theorem statsMapName_of_ne {selector : UInt32} (h : selector ≠ Stats.mapA) :
    statsMapName selector = "B" := if_neg h

end Command

open Command (activeShown swapShown statsMapName)

theorem answers_map_iff {W α β : Type} (f : α → β) (x : Op W α) (w : W) (b : β) :
    Answers (f <$> x) w b ↔ ∃ a, Answers x w a ∧ b = f a := by
  rw [Answers, Act.run_map]
  constructor
  · intro h
    cases hx : (x.run w).result with
    | error e =>
      rw [hx] at h
      cases h
    | ok a =>
      rw [hx] at h
      exact ⟨a, hx, (Except.ok.inj h).symm⟩
  · rintro ⟨a, ha, rfl⟩
    exact congrArg (Except.map f) ha

/-! ## Reading and swapping -/

namespace Stats

/-- A swap is refused for the selector that it finds, and changes nothing. The fault names the
value, so it can be told from other refusals. -/
def RefusesSelector (s : Setting) (w : World) : Prop :=
  (∃ text, ((swap s.backing).run w).result = .error (.invalidArgument text)) ∧
    ((swap s.backing).run w).world = w

section Reading

variable (s : Setting) {w : World} {current next : UInt32}

theorem answers_active_iff : Answers (active s.backing) w current ↔
    w.configuration.readErrno = none ∧ w.configuration.visible? key = some current := by
  rw [Answers, active, s.configuration_backing]
  -- two things can go wrong, in this order: the read itself, and that nothing is there
  cases hread : w.configuration.readErrno with
  | some errno =>
    rw [Act.run_bind_error (Store.run_get_zoom_unreadable World.configurationPart key hread)]
    constructor
    · intro h
      cases h
    · rintro ⟨h, -⟩
      cases h
  | none =>
    rw [Act.run_bind_ok (Store.run_get_zoom World.configurationPart key hread)]
    show _ ↔ _ ∧ (World.configurationPart.get w).visible? key = _
    cases hseen : (World.configurationPart.get w).visible? key with
    | none =>
      constructor
      · intro h
        cases h
      · rintro ⟨-, h⟩
        cases h
    | some current' =>
      constructor
      · intro h
        cases h
        exact ⟨rfl, rfl⟩
      · rintro ⟨-, h⟩
        cases h
        rfl

variable (hactive : Answers (active s.backing) w current)

include hactive

theorem selector_of_answers : w.selector = some current :=
  Store.get?_of_visible? ((answers_active_iff s).1 hactive).2

theorem run_active_of_answers : (active s.backing).run w = ⟨.ok current, w, []⟩ := by
  rcases active_cases s w with ⟨e, hfail⟩ | ⟨current', -, hrun⟩
  · rw [Answers, hfail] at hactive
    cases hactive
  · rw [Answers, hrun] at hactive
    cases hactive
    exact hrun

/-- Where a selector is answered, another one in its place is answered. -/
theorem answers_active_selecting (next : UInt32) (calls : Nat) :
    Answers (active s.backing) { w.selecting next with barrierCalls := calls } next := by
  obtain ⟨hread, hseen⟩ := (answers_active_iff s).1 hactive
  have hwritten : (w.selecting next).configuration
      = w.configuration.write key (some next) :=
    (congrArg World.configuration (World.write_eq_selecting hseen next)).symm
  -- a read that found a value finds the one written over it, and the calls of the barrier are no
  -- part of the map
  refine (answers_active_iff s).2 ⟨hread, ?_⟩
  show (w.selecting next).configuration.visible? key = some next
  rw [hwritten, Store.visible?_write_self]

/-- A flip to the selector of the other map goes through, or the lock or the write fails. -/
theorem flip_ends (hother : other? current = some next) :
    (∃ context errno, (flip s.backing).run w = ⟨.error (.resource context errno), w, []⟩) ∨
      (flip s.backing).run w = ⟨.ok next, w.selecting next, []⟩ := by
  have hseen := ((answers_active_iff s).1 hactive).2
  have hrun := run_active_of_answers s hactive
  -- past the lock and the read, which is known to succeed, only the write is left to fail
  cases hlock : s.poisoned .statsSelector with
  | true => exact .inl ⟨_, _, Backing.run_acquire_poisoned hlock _ w⟩
  | false =>
    rw [flip, Backing.acquire_of_not_poisoned hlock, pure_bind, Act.run_bind_ok hrun, hother]
    dsimp only
    cases hfault : w.configuration.writeFault? key with
    | some e =>
      obtain ⟨context, errno, rfl⟩ := Store.resource_of_writeFault? hfault
      have hput := Store.run_put_zoom_fault World.configurationPart next hfault
      rw [s.configuration_backing, Act.run_bind_error hput]
      exact .inl ⟨context, errno, rfl⟩
    | none =>
      have haccept : w.configuration.refuses key = false := by
        rw [Store.refuses, hfault]
        rfl
      have hput := Store.run_put_zoom World.configurationPart next haccept
      rw [s.configuration_backing, Act.run_bind_ok hput, ← World.write_eq_selecting hseen]
      exact .inr rfl

theorem not_refusesSelector (hother : other? current = some next) : ¬RefusesSelector s w := by
  rintro ⟨⟨text, hresult⟩, hworld⟩
  rcases flip_ends s hactive hother with ⟨context, errno, hflip⟩ | hflip
  · rw [swap, Act.run_bind_error hflip] at hresult
    cases hresult
  · -- the barrier was called, so something has changed
    rw [(swap_of_flip s w hflip).2] at hworld
    have hcalls : w.barrierCalls + 1 = w.barrierCalls := congrArg World.barrierCalls hworld
    omega

/-- A selector that is not that of a map is refused, unless the lock is in the way. -/
theorem refusesSelector_of_unknown (hunknown : other? current = none)
    (hopen : s.poisoned .statsSelector = false) : RefusesSelector s w := by
  have hrun := run_active_of_answers s hactive
  have hflip : ∃ text, (flip s.backing).run w = ⟨.error (.invalidArgument text), w, []⟩ := by
    rw [flip, Backing.acquire_of_not_poisoned hopen, pure_bind, Act.run_bind_ok hrun, hunknown]
    exact ⟨_, rfl⟩
  obtain ⟨text, hflip⟩ := hflip
  rw [RefusesSelector, swap, Act.run_bind_error hflip]
  exact ⟨⟨text, rfl⟩, rfl⟩

theorem swap_of_answers (hswap : Answers (swap s.backing) w next) :
    other? current = some next ∧
      Answers (active s.backing) ((swap s.backing).run w).world next := by
  rcases swap_cases s w with ⟨e, hfail, -⟩ | ⟨current', next', hsel, hother, hresult, hworld⟩
  · rw [Answers, hfail] at hswap
    cases hswap
  -- the flip started from the selector that is read, so the new one is its other
  · rw [selector_of_answers s hactive] at hsel
    cases hsel
    rw [Answers, hresult] at hswap
    cases hbarrier : s.barrier (w.selecting next') with
    | error e =>
      rw [hbarrier] at hswap
      cases hswap
    | ok a =>
      rw [hbarrier] at hswap
      cases hswap
      rw [hworld]
      exact ⟨hother, answers_active_selecting s hactive next' _⟩

end Reading

end Stats

/-! ## Agreement -/

/-- What a swap does for the commands where the other map has a name: it is not refused for the
selector, and when it succeeds the other name is shown, by the swap and from then on. -/
structure SwapShows (s : Setting) (w : World) (other : String) : Prop where
  accepted : ¬Stats.RefusesSelector s w
  shown : ∀ format p, Answers (Command.run s.backing format .statsSwap) w p →
    p = swapShown format other
  after : ∀ format p, Answers (Command.run s.backing format .statsSwap) w p → ∀ format',
    Answers (Command.run s.backing format' .statsActive)
      ((Command.run s.backing format .statsSwap).run w).world (activeShown format' other)

/-- The two commands agree on the selector of a world: what the one shows is what the other goes on
from, or refuses. -/
structure CommandsAgree (s : Setting) (w : World) : Prop where
  /-- Whatever is shown, it is the name of a map exactly if its selector is stored. -/
  named : ∀ format p, Answers (Command.run s.backing format .statsActive) w p →
    (p = activeShown format "A" ↔ w.selector = some Stats.mapA) ∧
      (p = activeShown format "B" ↔ w.selector = some Stats.mapB)
  /-- A swap goes on from the map that is shown. -/
  swapped : ∀ format,
    (Answers (Command.run s.backing format .statsActive) w (activeShown format "A") →
      SwapShows s w "B") ∧
    (Answers (Command.run s.backing format .statsActive) w (activeShown format "B") →
      SwapShows s w "A")

section Agree

variable (s : Setting) {w : World} {current next : UInt32}

/-- The command for the active map shows the name of the selector that it reads. -/
theorem answers_statsActive_iff (format : OutputFormat) (p : Printed) :
    Answers (Command.run s.backing format .statsActive) w p ↔
      ∃ current, Answers (Stats.active s.backing) w current ∧
        p = activeShown format (statsMapName current) :=
  answers_map_iff _ (Stats.active s.backing) w p

/-- A swap that succeeds shows the name of the selector that it answers. -/
theorem answers_statsSwap_iff (format : OutputFormat) (p : Printed) :
    Answers (Command.run s.backing format .statsSwap) w p ↔
      ∃ next, Answers (Stats.swap s.backing) w next ∧ p = swapShown format (statsMapName next) :=
  answers_map_iff _ (Stats.swap s.backing) w p

theorem world_statsSwap (format : OutputFormat) (w : World) :
    ((Command.run s.backing format .statsSwap).run w).world
      = ((Stats.swap s.backing).run w).world :=
  congrArg Outcome.world (Act.run_map _ (Stats.swap s.backing) w)

/-- Where the selector of a map is read, a swap shows the other map. -/
theorem swapShows (hactive : Answers (Stats.active s.backing) w current)
    (hother : Stats.other? current = some next) : SwapShows s w (statsMapName next) := by
  -- all three from the swap that lies under the command: its answer, and the selector that it
  -- leaves
  constructor
  case accepted => exact Stats.not_refusesSelector s hactive hother
  case shown =>
    intro format p hshown
    obtain ⟨next', hswap, rfl⟩ := (answers_statsSwap_iff s format p).1 hshown
    obtain ⟨hnext, -⟩ := Stats.swap_of_answers s hactive hswap
    rw [hother] at hnext
    cases hnext
    rfl
  case after =>
    intro format p hshown format'
    obtain ⟨next', hswap, -⟩ := (answers_statsSwap_iff s format p).1 hshown
    obtain ⟨hnext, hthen⟩ := Stats.swap_of_answers s hactive hswap
    rw [hother] at hnext
    cases hnext
    rw [world_statsSwap]
    exact (answers_statsActive_iff s format' _).2 ⟨_, hthen, rfl⟩

/-- The commands agree on a selector that is that of a map, or that cannot be read. With any other
value stored, the one shows map B and the other refuses. -/
theorem commandsAgree_of_known
    (hknown : ∀ word, Answers (Stats.active s.backing) w word →
      word = Stats.mapA ∨ word = Stats.mapB) : CommandsAgree s w := by
  -- the two names differ in both formats, so on the selectors of maps what is shown tells which one
  -- it is
  have hsame : ∀ {format word} word', word' = Stats.mapA ∨ word' = Stats.mapB →
      Answers (Stats.active s.backing) w word →
      activeShown format (statsMapName word) = activeShown format (statsMapName word') →
      word = word' := by
    intro format word word' hword' hactive hshown
    rcases hknown word hactive with rfl | rfl <;> rcases hword' with rfl | rfl
    · rfl
    · exact absurd hshown (Command.activeShown_ne format)
    · exact absurd hshown.symm (Command.activeShown_ne format)
    · rfl
  constructor
  case named =>
    intro format p hshown
    obtain ⟨word, hactive, rfl⟩ := (answers_statsActive_iff s format p).1 hshown
    rw [Stats.selector_of_answers s hactive, Option.some.injEq, Option.some.injEq]
    constructor
    · exact ⟨hsame Stats.mapA (.inl rfl) hactive, fun h => h ▸ rfl⟩
    · exact ⟨hsame Stats.mapB (.inr rfl) hactive, fun h => h ▸ rfl⟩
  case swapped =>
    intro format
    constructor
    · intro hshown
      obtain ⟨word, hactive, hname⟩ := (answers_statsActive_iff s format _).1 hshown
      obtain rfl := hsame Stats.mapA (.inl rfl) hactive hname.symm
      exact swapShows s hactive rfl
    · intro hshown
      obtain ⟨word, hactive, hname⟩ := (answers_statsActive_iff s format _).1 hshown
      obtain rfl := hsame Stats.mapB (.inr rfl) hactive hname.symm
      exact swapShows s hactive rfl

end Agree

/-- What the commands do with a selector that is not that of a map: it is shown as map B, and a swap
refuses it. -/
structure ShownThenRefused (s : Setting) (w : World) : Prop where
  shown : ∀ format, Answers (Command.run s.backing format .statsActive) w (activeShown format "B")
  refused : s.poisoned .statsSelector = false → Stats.RefusesSelector s w

theorem shownThenRefused (s : Setting) {w : World} {word : UInt32}
    (hactive : Answers (Stats.active s.backing) w word) (hA : word ≠ Stats.mapA)
    (hB : word ≠ Stats.mapB) : ShownThenRefused s w where
  shown format := by
    refine (answers_statsActive_iff s format _).2 ⟨word, hactive, ?_⟩
    rw [Command.statsMapName_of_ne hA]
  refused hopen := by
    have hunknown : Stats.other? word = none := by rw [Stats.other?, if_neg hA, if_neg hB]
    exact Stats.refusesSelector_of_unknown s hactive hunknown hopen

/-- **The commands agree exactly on the selectors of the two maps**, in every setting and in both
formats. Any other selector that is read is shown as map B and then refused. From the selector of a
map the commands agree at every turn of every run. -/
theorem selectorCommands_agree_iff (s : Setting) (w : World) :
    (CommandsAgree s w ↔ ∀ word, Answers (Stats.active s.backing) w word →
        word = Stats.mapA ∨ word = Stats.mapB) ∧
      (∀ word, Answers (Stats.active s.backing) w word → word ≠ Stats.mapA → word ≠ Stats.mapB →
        ShownThenRefused s w) ∧
      (w.Selects → ∀ ts, EachTurn (fun w t => CommandsAgree t.setting (t.start w)) w ts) := by
  refine ⟨⟨?_, commandsAgree_of_known s⟩, fun word => shownThenRefused s, fun hw ts => ?_⟩
  · intro hagree word hactive
    by_cases hA : word = Stats.mapA
    · exact .inl hA
    · -- it is shown as map B, so it has to be the selector of map B
      have hshown := (answers_statsActive_iff s .text _).2 ⟨word, hactive, rfl⟩
      rw [Command.statsMapName_of_ne hA] at hshown
      have hB := (hagree.named .text _ hshown).2.1 rfl
      rw [Stats.selector_of_answers s hactive] at hB
      exact .inr (Option.some.inj hB)
  · refine eachTurn_of_invariant (I := World.Selects) (fun _ _ => Turn.selects) ?_ hw ts
    intro w' t hw'
    refine commandsAgree_of_known t.setting fun word hactive => ?_
    have hstart : (t.start w').selector = some word :=
      Stats.selector_of_answers t.setting hactive
    -- what the maps hold is not changed by the choice of failures
    have hsel : w'.selector = some word := hstart
    rw [World.Selects, hsel, Option.some.injEq, Option.some.injEq] at hw'
    exact hw'

/-- The selector of map B, with a barrier that fails. -/
theorem strandedSelector_agree :
    Answers (Stats.active (Setting.ofHost ⟨[], some Errno.noEntry⟩).backing)
        (World.empty.selecting Stats.mapB) Stats.mapB ∧
      (World.empty.selecting Stats.mapB).Selects ∧
      CommandsAgree (.ofHost ⟨[], some Errno.noEntry⟩) (World.empty.selecting Stats.mapB) ∧
      EachTurn (fun w t => CommandsAgree t.setting (t.start w)) (World.empty.selecting Stats.mapB)
        troubledTurns := by
  have hall := selectorCommands_agree_iff (.ofHost ⟨[], some Errno.noEntry⟩)
    (World.empty.selecting Stats.mapB)
  have hselects : (World.empty.selecting Stats.mapB).Selects := .inr (World.selector_selecting _ _)
  refine ⟨rfl, hselects, hall.1.2 fun word hword => ?_, hall.2.2 hselects troubledTurns⟩
  exact .inr (Except.ok.inj hword).symm

/-- A third selector is shown as map B, and then a swap is refused. -/
theorem unknownSelector_disagree :
    ShownThenRefused (.ofHost ⟨[], none⟩) (World.empty.selecting 2) ∧
      (Setting.ofHost ⟨[], none⟩).poisoned .statsSelector = false ∧
      (World.empty.selecting 2).selector ≠ some Stats.mapB ∧
      ¬CommandsAgree (.ofHost ⟨[], none⟩) (World.empty.selecting 2) := by
  have hactive : Answers (Stats.active (Setting.ofHost ⟨[], none⟩).backing)
      (World.empty.selecting 2) 2 := rfl
  have hwrong := shownThenRefused (.ofHost ⟨[], none⟩) hactive (by decide) (by decide)
  refine ⟨hwrong, rfl, by decide, fun hagree => ?_⟩
  exact ((hagree.swapped .text).2 (hwrong.shown .text)).accepted (hwrong.refused rfl)

end UidPolicy
