import UidPolicy.Proofs.Reasons.Monotone

/-!
# Reasons for system ids

A system id has no reasons, whatever the words say. The words are read all the same, and all three
of them before it is asked whose id it is. So a question about a system id is answered exactly where
one about any other id is, and it fails where a word is missing or cannot be read: before the
initialisation, for one.

- `World.reasonsFault?`: the fault of the first of the three reads that fails.
  `World.reasonsFault?_eq_none_iff` and `run_reasons_of_fault` are what follows for every id.
- `Exempt`, `Unanswered`: nothing is held against an id, or all questions about it fail alike.
- `systemIds_exempt_iff`: which of the two it is for a system id.
- `uninitialised_unanswered`: before the initialisation no system id is exempt.
-/

namespace UidPolicy

open Memory (World Setting)

/-! ## The reads -/

/-- Why the reasons cannot be computed, if they cannot: the fault of the first read that fails. The
chain-enable word is read first, then the rule record, then the data saver flag. -/
def Memory.World.reasonsFault? (w : World) : Option Fault :=
  (ChainSwitch.readFault? w).or
    ((w.uidOwner.readErrno.or w.dataSaver.readErrno).map (.resource "in-memory map read"))

/-- No read fails exactly where the maps are readable. -/
theorem Memory.World.reasonsFault?_eq_none_iff {w : World} :
    w.reasonsFault? = none ↔ w.Readable := by
  rw [World.reasonsFault?, Option.or_eq_none_iff, Option.map_eq_none_iff, Option.or_eq_none_iff,
    ChainSwitch.readFault?]
  constructor
  · rintro ⟨hword, howner, hsaver⟩
    -- of the configuration there are two faults, that it cannot be read and that the word is
    -- missing
    cases hread : w.configuration.readErrno with
    | some errno =>
      rw [hread] at hword
      cases hword
    | none =>
      rw [hread] at hword
      exact ⟨hread, howner, hsaver, Option.isSome_iff_ne_none.2 (by simpa using hword)⟩
  · intro hw
    rw [hw.configuration, hw.uidOwner, hw.dataSaver]
    exact ⟨if_pos hw.word, rfl, rfl⟩

/-- **A read that fails** ends the computation of the reasons, for every id: the words are read
before the id is looked at. -/
theorem run_reasons_of_fault (s : Setting) {w : World} {e : Fault}
    (hfault : w.reasonsFault? = some e) (uid : Uid) :
    (NetMaps.reasons s.backing uid).run w = ⟨.error e, w, []⟩ := by
  rw [World.reasonsFault?] at hfault
  rw [NetMaps.reasons]
  cases hread : ChainSwitch.readFault? w with
  | some e' =>
    -- the first read ends it, and the record is not looked at
    rw [hread] at hfault
    cases hfault
    exact Act.run_bind_error (Act.run_bind_error (ChainSwitch.run_word_of_fault s hread))
  | none =>
    rw [hread] at hfault
    obtain ⟨word, -, hword⟩ := ChainSwitch.run_word_of_seen s hread
    have henabled : (ChainSwitch.enabled s.backing).run w
        = ⟨.ok (MatchSet.ofSwitchWord word), w, []⟩ := Act.run_bind_ok hword
    rw [Act.run_bind_ok henabled]
    cases howner : w.uidOwner.readErrno with
    | some errno =>
      rw [howner] at hfault
      cases hfault
      have hrecord : (Firewall.record s.backing uid).run w = _ :=
        RuleChange.run_record_unreadable s.host uid howner
      rw [Act.run_bind_error hrecord]
      rfl
    | none =>
      rw [howner] at hfault
      have hrecord : (Firewall.record s.backing uid).run w = _ :=
        RuleChange.run_record s.host uid howner
      cases hsaver : w.dataSaver.readErrno with
      | none =>
        -- then no read fails
        rw [hsaver] at hfault
        cases hfault
      | some errno =>
        rw [hsaver] at hfault
        cases hfault
        have hflag : (DataSaver.isOn s.backing).run w = _ :=
          Act.run_bind_error
            (Store.run_get_zoom_unreadable World.dataSaverPart DataSaver.key hsaver)
        rw [Act.run_bind_ok hrecord, Act.run_bind_error hflag]
        rfl

/-! ## System ids -/

/-- Nothing is held against an id: it has no reason, it is not blocked on any network, and it is not
restricted on metered ones. -/
structure Exempt {W : Type} (b : Backing W) (w : W) (uid : Uid) : Prop where
  reasons : Answers (NetMaps.reasons b uid) w .empty
  unblocked : ∀ metered, Answers (NetMaps.isBlocked b uid metered) w false
  unrestricted : Answers (NetMaps.isRestricted b uid) w false

/-- All questions about an id fail, and alike, since all of them ask for the reasons first. -/
structure Unanswered {W : Type} (b : Backing W) (w : W) (uid : Uid) (e : Fault) : Prop where
  reasons : ((NetMaps.reasons b uid).run w).result = .error e
  blocked : ∀ metered, ((NetMaps.isBlocked b uid metered).run w).result = .error e
  restricted : ((NetMaps.isRestricted b uid).run w).result = .error e

section Questions

variable (s : Setting) {w : World} {uid : Uid}

theorem unanswered_of_fault {e : Fault} (hfault : w.reasonsFault? = some e) (uid : Uid) :
    Unanswered s.backing w uid e := by
  have hrun := run_reasons_of_fault s hfault uid
  constructor
  case reasons => rw [hrun]
  case blocked =>
    intro metered
    rw [NetMaps.isBlocked, Act.run_bind_error hrun]
  case restricted => rw [NetMaps.isRestricted, Act.run_bind_error hrun]

theorem reasonsOf_of_isSystem (hsystem : Uid.isSystem uid = true) (w : World) :
    w.reasonsOf uid = .empty := by
  rw [World.reasonsOf, blockedReasons, if_pos hsystem]

theorem exempt_of_readable (hw : w.Readable) (hsystem : Uid.isSystem uid = true) :
    Exempt s.backing w uid := by
  have hrun := hw.run_reasons s uid
  rw [reasonsOf_of_isSystem hsystem] at hrun
  constructor
  case reasons => rw [Answers, hrun]
  case unblocked =>
    intro metered
    rw [Answers, NetMaps.isBlocked, Act.run_bind_ok hrun]
    cases metered <;> rfl
  case unrestricted =>
    rw [Answers, NetMaps.isRestricted, Act.run_bind_ok hrun]
    rfl

end Questions

/-- **System ids are exempt exactly where the maps can be read**, in every setting and for every
user. Where a read fails nothing is answered about them, and all questions fail with the fault of
the first read that does. -/
theorem systemIds_exempt_iff (s : Setting) (w : World) {uid : Uid}
    (hsystem : uid % 100000 < 10000) :
    (Exempt s.backing w uid ↔ w.Readable) ∧
      (¬w.Readable → ∃ e, w.reasonsFault? = some e ∧ Unanswered s.backing w uid e) := by
  have hunreadable : ¬w.Readable →
      ∃ e, w.reasonsFault? = some e ∧ Unanswered s.backing w uid e := by
    intro hw
    rw [← World.reasonsFault?_eq_none_iff] at hw
    obtain ⟨e, hfault⟩ := Option.ne_none_iff_exists'.1 hw
    exact ⟨e, hfault, unanswered_of_fault s hfault uid⟩
  refine ⟨⟨fun hexempt => ?_, fun hw => exempt_of_readable s hw (decide_eq_true hsystem)⟩,
    hunreadable⟩
  refine Classical.byContradiction fun hw => ?_
  obtain ⟨e, -, hfails⟩ := hunreadable hw
  have hboth := hexempt.reasons.symm.trans hfails.reasons
  cases hboth

/-- The restricted maps, with an entry that denies a system id of the second user on an enabled
chain and for its user. -/
def deniedSystemWorld : World :=
  { restrictedWorld with
    uidOwner := { restrictedWorld.uidOwner with content := .ofList [(101000, ⟨0, 0, 0x202⟩)] } }

/-- The entry does not count. -/
theorem deniedSystemWorld_exempt :
    (101000 : Uid) % 100000 < 10000 ∧
      (Exempt (Setting.ofHost ⟨[], none⟩).backing deniedSystemWorld 101000 ↔
        deniedSystemWorld.Readable) ∧
      Exempt (Setting.ofHost ⟨[], none⟩).backing deniedSystemWorld 101000 := by
  have hsystem : (101000 : Uid) % 100000 < 10000 := by decide
  have hreadable : deniedSystemWorld.Readable := ⟨rfl, rfl, rfl, by decide⟩
  have hiff := (systemIds_exempt_iff (.ofHost ⟨[], none⟩) deniedSystemWorld hsystem).1
  exact ⟨hsystem, hiff, hiff.2 hreadable⟩

/-- Before the initialisation there is no chain-enable word, and nothing is answered about a system
id. -/
theorem uninitialised_unanswered :
    (1000 : Uid) % 100000 < 10000 ∧
      Unanswered (Setting.ofHost ⟨[], none⟩).backing World.empty 1000
        (.resource "read uid rules configuration" Errno.noEntry) ∧
      ¬Exempt (Setting.ofHost ⟨[], none⟩).backing World.empty 1000 := by
  have hfails : Unanswered (Setting.ofHost ⟨[], none⟩).backing World.empty 1000
      (.resource "read uid rules configuration" Errno.noEntry) :=
    unanswered_of_fault _ rfl 1000
  refine ⟨by decide, hfails, fun hexempt => ?_⟩
  have hboth := hexempt.reasons.symm.trans hfails.reasons
  cases hboth

end UidPolicy
