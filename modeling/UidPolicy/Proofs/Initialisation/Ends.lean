import UidPolicy.Proofs.Initialisation.Steps
import UidPolicy.Proofs.Reasons.Agreement

/-!
# The two ends of an initialisation

An initialisation reaches one state, whatever was there before, or it stops at the first of its
steps that fails.

- `StartUp`: the state that it reaches. No id has a reason there, no id is on a chain, and a
  second initialisation changes nothing.
- `Stops`: where it stops, and what it has done by then.
- `Spared`: what it never touches.
- `init_ends`: the two ends, and which of them it comes to.
-/

namespace UidPolicy

open Memory (World Setting)

/-- What an initialisation never touches: two of the six maps, every other key of two more, and the
count of the barrier's calls. -/
structure Spared (w w' : World) : Prop where
  permissions : w'.uidPermission = w.uidPermission
  tags : w'.cookieTag = w.cookieTag
  configuration : ∀ key, key ≠ ChainSwitch.key → key ≠ Stats.key →
    w'.configuration.cell key = w.configuration.cell key
  saver : ∀ key, key ≠ DataSaver.key → w'.dataSaver.cell key = w.dataSaver.cell key
  barrier : w'.barrierCalls = w.barrierCalls

/-- The state that an initialisation reaches, whatever was there before. It is told twice, by what
is stored and by what can be asked afterwards. -/
structure StartUp (s : Setting) (w : World) : Prop where
  /-- No chain is enabled, map A is selected, data saver is off, and there are neither rule
  records nor discard rules. -/
  places : ∀ k : InitStep, k.IsReset w
  /-- Where the maps can be read, no id has a reason to be blocked. -/
  reasons : w.configuration.readErrno = none → w.uidOwner.readErrno = none →
    w.dataSaver.readErrno = none → ∀ uid, Answers (NetMaps.reasons s.backing uid) w .empty
  /-- No id is on a chain. -/
  holders : ∀ c, Answers (Firewall.uidsWithRule s.backing c) w []
  allowed : ∀ c, c.isAllowList = true → Answers (Firewall.uidsAllowed s.backing c) w []
  denied : ∀ c, c.isAllowList = false → Answers (Firewall.uidsDenied s.backing c) w []
  /-- A second initialisation succeeds and changes nothing. -/
  again : ((NetMaps.init s.backing).run w).result = .ok () ∧
    ((NetMaps.init s.backing).run w).world = w

/-- What the step that fails has done: a put nothing, and a clearing has deleted the keys that
are enumerated before the first refused one, behind a poisoned lock none. -/
def InitStep.Interrupted (s : Setting) (w w' : World) : InitStep → Prop
  | chains => chains.Same w w'
  | selector => selector.Same w w'
  | saver => saver.Same w w'
  | records => ∀ uid, w'.uidOwner.cell uid =
      if s.poisoned .uidOwner = false ∧ uid ∈ w.uidOwner.beforeRefusal then (none, false)
      else w.uidOwner.cell uid
  | discards => ∀ key, w'.ingressDiscard.cell key =
      if s.poisoned .ingressDiscard = false ∧ key ∈ w.ingressDiscard.beforeRefusal
      then (none, false) else w.ingressDiscard.cell key

/-- An initialisation of a world stops at a step: those before it succeed, it fails, and those
after it are not made. -/
structure Stops (s : Setting) (w w' : World) (e : Fault) (before : List InitStep)
    (k : InitStep) (after : List InitStep) : Prop where
  order : InitStep.all = before ++ k :: after
  earlier : ∀ j ∈ before, j.fault? s w = none ∧ j.IsReset w'
  /-- The error names the step and gives its cause. -/
  error : ∃ cause, k.fault? s w = some cause ∧ e = .initFailed s!"{k.name}: {cause.message}"
  interrupted : k.Interrupted s w w'
  later : ∀ j ∈ after, j.Same w w'

namespace Spared

variable {w w' w'' : World}

theorem refl (w : World) : Spared w w := ⟨rfl, rfl, fun _ _ _ => rfl, fun _ _ => rfl, rfl⟩

theorem trans (h : Spared w w') (h' : Spared w' w'') : Spared w w'' where
  permissions := h'.permissions.trans h.permissions
  tags := h'.tags.trans h.tags
  configuration key hchains hsel :=
    (h'.configuration key hchains hsel).trans (h.configuration key hchains hsel)
  saver key hkey := (h'.saver key hkey).trans (h.saver key hkey)
  barrier := h'.barrier.trans h.barrier

theorem reset (w : World) (k : InitStep) : Spared w (k.reset w) := by
  cases k with
  | chains =>
    refine { refl w with configuration := fun key hchains _ => ?_ }
    exact (Store.cell_write _ _ _ _).trans (if_neg hchains)
  | selector =>
    refine { refl w with configuration := fun key _ hsel => ?_ }
    exact (Store.cell_write _ _ _ _).trans (if_neg hsel)
  | saver =>
    refine { refl w with saver := fun key hkey => ?_ }
    exact (Store.cell_write _ _ _ _).trans (if_neg hkey)
  | records | discards => exact ⟨rfl, rfl, fun _ _ _ => rfl, fun _ _ => rfl, rfl⟩

theorem stopped (s : Setting) (w : World) (k : InitStep) : Spared w (k.stopped s w) := by
  unfold InitStep.stopped InitStep.atRefusal
  split
  · exact refl w
  · cases k with
    | chains | selector | saver => exact refl w
    | records | discards => exact ⟨rfl, rfl, fun _ _ _ => rfl, fun _ _ => rfl, rfl⟩

theorem foldl_reset (w : World) (steps : List InitStep) :
    Spared w (steps.foldl InitStep.reset w) := by
  induction steps generalizing w with
  | nil => exact refl w
  | cons k rest ih => exact (reset w k).trans (ih (k.reset w))

end Spared

section Ends

variable (s : Setting) {w : World}

theorem run_init_ok (h : ∀ k : InitStep, k.fault? s w = none) :
    ∃ log, (NetMaps.init s.backing).run w
      = ⟨.ok (), InitStep.all.foldl InitStep.reset w, log⟩ := by
  have hnodup : InitStep.all.Nodup := by decide
  rcases InitStep.run_steps s (w := w) hnodup with
    ⟨-, log, hrun⟩ | ⟨before, k, after, cause, log, -, -, hcause, -⟩
  · rw [← InitStep.initSteps_eq] at hrun
    rw [NetMaps.init, Act.run_bind_ok hrun]
    exact ⟨_, rfl⟩
  · rw [h k] at hcause
    cases hcause

/-- With a step that fails, the initialisation ends with the first of them. The steps before it have
done their work, and it is not taken back. -/
theorem run_init_error {j : InitStep} {e : Fault} (h : j.fault? s w = some e) :
    ∃ before k after cause log, InitStep.all = before ++ k :: after ∧
      (∀ j ∈ before, j.fault? s w = none) ∧ k.fault? s w = some cause ∧
      (NetMaps.init s.backing).run w
        = ⟨.error (.initFailed s!"{k.name}: {cause.message}"),
            k.stopped s (before.foldl InitStep.reset w), log⟩ := by
  have hnodup : InitStep.all.Nodup := by decide
  rcases InitStep.run_steps s (w := w) hnodup with
    ⟨hall, -⟩ | ⟨before, k, after, cause, log, hsplit, hbefore, hcause, hrun⟩
  · have hj : j ∈ InitStep.all := by cases j <;> decide
    rw [hall j hj] at h
    cases h
  · rw [← InitStep.initSteps_eq] at hrun
    rw [NetMaps.init, Act.run_bind_error hrun]
    exact ⟨before, k, after, cause, log, hsplit, hbefore, hcause, rfl⟩

/-! ## The start-up state -/

theorem blockedReasons_startUp (uid : Uid) :
    blockedReasons uid (MatchSet.ofSwitchWord ChainSwitch.defaultWord) .empty false
      = .empty := by
  unfold blockedReasons
  split
  · rfl
  · decide

theorem startUp_of_isReset (hwalks : ExactWalks w) (hreset : ∀ k : InitStep, k.IsReset w)
    (hfault : ∀ k : InitStep, k.fault? s w = none) : StartUp s w := by
  have hunseen : ∀ uid, w.uidOwner.visible? uid = none := by
    intro uid
    have hempty : w.uidOwner.content = ∅ := hreset .records
    rw [Store.visible?, hempty, SortedMap.get?_empty, ite_self]
  have hlock : s.poisoned .uidOwner = false :=
    (InitStep.fault?_eq_none.1 (hfault .records)).1
  have hholders : ∀ c, Answers (Firewall.uidsWithRule s.backing c) w [] := by
    intro c
    have hkeys : s.backing.uidOwner.keys.run w = ⟨.ok w.uidOwner.enumerated, w, []⟩ :=
      Store.run_keys_zoom World.uidOwnerPart
    rw [Store.enumerated_of_empty hwalks.records (hreset .records)] at hkeys
    -- a walk over an empty map comes to no key
    have hentries : s.backing.uidOwner.entries.run w = ⟨.ok [], w, []⟩ := Act.run_bind_ok hkeys
    rw [Answers, Firewall.uidsWithRule, Backing.acquire_of_not_poisoned (b := s.backing) hlock,
      pure_bind, Act.run_bind_ok hentries]
    rfl
  refine ⟨hreset, ?_, hholders, ?_, ?_, ?_⟩
  · intro hconfig howner hsaver uid
    have hrun := run_reasons s.host uid hconfig howner hsaver (hreset .chains)
    have hoff : saverOn w = false := by
      have hflag : w.dataSaver.visible? DataSaver.key = some DataSaver.offFlag := hreset .saver
      rw [saverOn, hflag]
      rfl
    rw [hunseen, hoff, ruleWord_none, blockedReasons_startUp] at hrun
    exact (answers_iff hrun).2 rfl
  · intro c hallow
    rw [Firewall.uidsAllowed, if_pos hallow]
    exact hholders c
  · intro c hdeny
    rw [Firewall.uidsDenied, if_neg (by rw [hdeny]; exact Bool.false_ne_true)]
    exact hholders c
  -- a second initialisation resets what is reset already
  · obtain ⟨log, hrun⟩ := run_init_ok s hfault
    rw [InitStep.foldl_reset_of_isReset hwalks fun k _ => hreset k] at hrun
    rw [hrun]
    exact ⟨rfl, rfl⟩

/-- After an initialisation that succeeds no step would fail: what a step meets at a reset place it
has met before. -/
theorem fault?_initialised (hwalks : ExactWalks w) (h : ∀ k : InitStep, k.fault? s w = none)
    (k : InitStep) : k.fault? s (InitStep.all.foldl InitStep.reset w) = none := by
  obtain ⟨hlock, hrefusal⟩ := InitStep.fault?_eq_none.1 (h k)
  have hk : k ∈ InitStep.all := by cases k <;> decide
  have hreset := InitStep.isReset_foldl_reset hwalks hk
  have hwalks' : ExactWalks (InitStep.all.foldl InitStep.reset w) :=
    InitStep.exactWalks_foldl_reset hwalks
  refine InitStep.fault?_eq_none.2 ⟨hlock, ?_⟩
  cases k with
  | chains | selector | saver => exact hrefusal
  -- nothing is left to delete
  | records =>
    show List.findSome? _ (Store.enumerated _) = none
    rw [Store.enumerated_of_empty hwalks'.records hreset]
    rfl
  | discards =>
    show List.findSome? _ (Store.enumerated _) = none
    rw [Store.enumerated_of_empty hwalks'.discards hreset]
    rfl

/-! ## Stopping -/

/-- What a step that stops has done, seen from the world before the earlier steps. -/
theorem interrupted_stopped {before : List InitStep} {k : InitStep} (hk : k ∉ before) :
    k.Interrupted s w (k.stopped s (before.foldl InitStep.reset w)) := by
  have hsame : k.Same w (before.foldl InitStep.reset w) := InitStep.same_foldl_reset hk
  unfold InitStep.stopped
  cases hlock : s.poisoned k.lock with
  | true =>
    -- behind a poisoned lock a step has not even begun
    have hclosed : ∀ P : Prop, ¬(s.poisoned k.lock = false ∧ P) := by
      rintro P ⟨hopen, -⟩
      exact absurd (hlock.symm.trans hopen) (by decide)
    cases k with
    | chains | selector | saver => exact hsame
    | records =>
      intro uid
      refine Eq.trans ?_ (if_neg (hclosed _)).symm
      exact congrArg (Store.cell · uid) hsame
    | discards =>
      intro key
      refine Eq.trans ?_ (if_neg (hclosed _)).symm
      exact congrArg (Store.cell · key) hsame
  | false =>
    cases k with
    | chains | selector | saver => exact hsame
    | records =>
      intro uid
      -- the earlier steps have other places, so the walk is that of the world before them
      replace hlock : s.poisoned .uidOwner = false := hlock
      replace hsame : (before.foldl InitStep.reset w).uidOwner = w.uidOwner := hsame
      show (Store.without (before.foldl InitStep.reset w).uidOwner _).cell uid = _
      rw [hsame, Store.cell_without]
      simp only [hlock, true_and]
    | discards =>
      intro key
      replace hlock : s.poisoned .ingressDiscard = false := hlock
      replace hsame : (before.foldl InitStep.reset w).ingressDiscard = w.ingressDiscard := hsame
      show (Store.without (before.foldl InitStep.reset w).ingressDiscard _).cell key = _
      rw [hsame, Store.cell_without]
      simp only [hlock, true_and]

/-- **The two ends of an initialisation**, for every setting and every world whose walks list
what is stored. It succeeds exactly if no step fails, and then everything is at its start; or it
stops at the first step that fails. Either way it spares the permissions, the tags and all other
keys. -/
theorem init_ends (hwalks : ExactWalks w) :
    (((NetMaps.init s.backing).run w).result = .ok () ↔
        ∀ k : InitStep, k.fault? s w = none) ∧
      (((NetMaps.init s.backing).run w).result = .ok () →
        StartUp s ((NetMaps.init s.backing).run w).world) ∧
      (∀ e, ((NetMaps.init s.backing).run w).result = .error e →
        ∃ before k after, Stops s w ((NetMaps.init s.backing).run w).world e before k after) ∧
      Spared w ((NetMaps.init s.backing).run w).world := by
  by_cases hfault : ∀ k : InitStep, k.fault? s w = none
  · obtain ⟨log, hrun⟩ := run_init_ok s hfault
    rw [hrun]
    refine ⟨⟨fun _ => hfault, fun _ => rfl⟩, fun _ => ?_, nofun, .foldl_reset w _⟩
    refine startUp_of_isReset s (InitStep.exactWalks_foldl_reset hwalks) ?_
      (fault?_initialised s hwalks hfault)
    exact fun k => InitStep.isReset_foldl_reset hwalks (by cases k <;> decide)
  -- some step would fail; the first of these is where the initialisation stops
  · obtain ⟨j, hj⟩ := Classical.not_forall.1 hfault
    obtain ⟨e, he⟩ := Option.ne_none_iff_exists'.1 hj
    obtain ⟨before, k, after, cause, log, hsplit, hbefore, hcause, hrun⟩ := run_init_error s he
    have hnodup : (before ++ k :: after).Nodup := hsplit ▸ by decide
    rw [hrun]
    refine ⟨⟨nofun, fun h => absurd h hfault⟩, nofun, ?_, ?_⟩
    · rintro e' ⟨⟩
      obtain ⟨-, hnodup', hapart⟩ := List.nodup_append.1 hnodup
      have hk : k ∉ before := fun h => hapart k h k (List.mem_cons_self ..) rfl
      refine ⟨before, k, after, hsplit, ?_, ⟨cause, hcause, rfl⟩, interrupted_stopped s hk, ?_⟩
      · intro j hj
        -- what an earlier step has reset, the step that stops leaves as it is
        have hne : j ≠ k := fun h => hk (h ▸ hj)
        exact ⟨hbefore j hj,
          (InitStep.isReset_foldl_reset hwalks hj).of_same (InitStep.same_stopped s hne)⟩
      · intro j hj
        have hne : j ≠ k := fun h => (List.nodup_cons.1 hnodup').1 (h ▸ hj)
        have hj' : j ∉ before := fun h => hapart j h j (List.mem_cons_of_mem _ hj) rfl
        exact (InitStep.same_foldl_reset hj').trans (InitStep.same_stopped s hne)
    · exact (Spared.foldl_reset w before).trans (.stopped s _ k)

end Ends

/-- Records along a walk that repeats itself, one of them vanished, and three discard rules, the
second of which cannot be removed. -/
def litteredWorld : World :=
  { World.empty with
    uidOwner := { World.empty.uidOwner with
      content := .ofList [(10001, ⟨7, 3, 0x10000000084⟩), (10002, ⟨0, 0, 0x4⟩)]
      vanished := fun u => u == 10002
      walk := fun ks => ks.reverse ++ ks }
    ingressDiscard := { World.empty.ingressDiscard with
      content := .ofList [(⟨1⟩, .single 4), (⟨2⟩, .single 5), (⟨3⟩, ⟨4, 5⟩)]
      failing := fun k => k == ⟨2⟩ } }

/-- An initialisation that clears the records and stops among the discard rules. -/
theorem litteredWorld_ends :
    ExactWalks litteredWorld ∧
      (((NetMaps.init (Setting.ofHost ⟨[], none⟩).backing).run litteredWorld).result = .ok () ↔
          ∀ k : InitStep, k.fault? (.ofHost ⟨[], none⟩) litteredWorld = none) ∧
        (((NetMaps.init (Setting.ofHost ⟨[], none⟩).backing).run litteredWorld).result = .ok () →
          StartUp (.ofHost ⟨[], none⟩)
            ((NetMaps.init (Setting.ofHost ⟨[], none⟩).backing).run litteredWorld).world) ∧
        (∀ e, ((NetMaps.init (Setting.ofHost ⟨[], none⟩).backing).run litteredWorld).result
            = .error e →
          ∃ before k after, Stops (.ofHost ⟨[], none⟩) litteredWorld
            ((NetMaps.init (Setting.ofHost ⟨[], none⟩).backing).run litteredWorld).world
            e before k after) ∧
        Spared litteredWorld
          ((NetMaps.init (Setting.ofHost ⟨[], none⟩).backing).run litteredWorld).world := by
  have hwalks : ExactWalks litteredWorld := by
    refine ⟨fun ks u => ?_, fun ks k => Iff.rfl⟩
    show u ∈ ks.reverse ++ ks ↔ u ∈ ks
    rw [List.mem_append, List.mem_reverse, or_self]
  exact ⟨hwalks, init_ends _ hwalks⟩

/-- The first step that fails there, and the discard rules that it removes. -/
example : InitStep.all.find? (fun k => (k.fault? (.ofHost ⟨[], none⟩) litteredWorld).isSome)
      = some .discards ∧
    litteredWorld.ingressDiscard.beforeRefusal = [⟨1⟩] := by
  decide

end UidPolicy
