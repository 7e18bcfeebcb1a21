import UidPolicy.Proofs.Firewall.History
import UidPolicy.Proofs.Memory.Run

/-!
# What every stored entry has

The rule records are written one entry at a time, so a property of the stored entries survives a
request if every change that the request asks for keeps it.

- `EveryEntry P`: every stored entry has `P`. `RuleChange.Keeps P`: the change makes of an entry
  that has `P` one that has it, and so of no entry.
- `Turn.everyEntry`: what every change of a turn keeps, the turn keeps. Deletions keep it anyway.
- `Mutation.changeAt_cases`: of the changes that a call asks for, only those that set or clear a
  given word may be irregular.
- `Turn.addRule_ends`, `Turn.removeRule_ends`: how these two calls end.
-/

namespace UidPolicy

open Memory (World Setting)

/-- Every stored entry has a property. Which properties are kept is asked of the changes of one
entry; calls and batches only put such changes together. -/
def EveryEntry (P : OwnerEntry → Prop) (s : Store Uid OwnerEntry) : Prop :=
  ∀ u x, s.content.get? u = some x → P x

/-- What a change makes of an entry with a property, or of no entry, has the property. It is all
that a proof about a run has to show of a change. -/
def RuleChange.Keeps (P : OwnerEntry → Prop) (ch : RuleChange) : Prop :=
  ∀ e x, (∀ y, e = some y → P y) → ch.apply e = some x → P x

section Keeps

variable {P : OwnerEntry → Prop}

/-! ## One write -/

theorem EveryEntry.write {s : Store Uid OwnerEntry} (hs : EveryEntry P s) {uid : Uid}
    {value : Option OwnerEntry} (hvalue : ∀ x, value = some x → P x) :
    EveryEntry P (s.write uid value) := by
  intro u x hx
  rw [Store.get?_content_write] at hx
  split at hx
  · exact hvalue x hx
  · exact hs u x hx

/-- A change of what is seen keeps what the change keeps. -/
theorem EveryEntry.change {s : Store Uid OwnerEntry} (hs : EveryEntry P s) {ch : RuleChange}
    (hkeeps : ch.Keeps P) (uid : Uid) : EveryEntry P (s.write uid (ch.apply (s.visible? uid))) :=
  hs.write fun x hx =>
    hkeeps _ x (fun _ hy => hs uid _ (Store.get?_of_visible? hy)) hx

/-! ## One request -/

variable (s : Setting)

theorem RuleChange.perform_backing (ch : RuleChange) (uid : Uid) :
    ch.perform s.backing uid = ch.perform (Memory.backing s.host) uid := by
  cases ch with
  | grant => rfl
  | revoke => rfl

theorem RuleChange.Keeps.within_perform {ch : RuleChange} (hkeeps : ch.Keeps P) (uid : Uid) :
    (ch.perform s.backing uid).Within (.preserving fun w => EveryEntry P w.uidOwner) := by
  intro w hw
  rw [ch.perform_backing]
  rcases ch.perform_cases s.host uid (w := w) with hsame | ⟨-, hwritten⟩
  · rw [hsame]
    exact hw
  · rw [hwritten]
    exact hw.change hkeeps uid

theorem within_delete_everyEntry (uid : Uid) :
    (s.backing.uidOwner.delete uid).Within (.preserving fun w => EveryEntry P w.uidOwner) := by
  intro w hw
  rw [s.uidOwner_backing]
  rcases Store.delete_zoom_cases World.uidOwnerPart uid w with ⟨e, hdelete⟩ | hdelete
  · rw [hdelete]
    exact hw
  · rw [hdelete]
    exact hw.write fun x hx => nomatch hx

theorem Request.within_everyEntry {r : Request} (hkeeps : ∀ m, r = .mutate m →
      ∀ h uid ch, m.changeAt h uid = some ch → ch.Keeps P) :
    (r.run s.backing).Within (.preserving fun w => EveryEntry P w.uidOwner) := by
  refine within_of_changes s.orderly ?_ (fun _ => within_delete_everyEntry s) ?_ fun _ _ hw => hw
  · intro m hm h uid ch hch
    exact (hkeeps m hm h uid ch hch).within_perform s uid
  · -- the other places are in other maps
    intro l _ hl
    cases l with
    | uidOwner => exact absurd rfl hl
    | permission | ingressDiscard => exact ⟨fun _ _ _ hw => hw, fun _ _ hw => hw⟩
    | dataSaver | chainSwitch | statsSelector => exact fun _ _ hw => hw

/-- **What every change of a turn keeps, the turn keeps**, also where it fails halfway through a
batch. -/
theorem Turn.everyEntry {t : Turn} {w : World} (hkeeps : ∀ m, t.request = .mutate m →
      ∀ h uid ch, m.changeAt h uid = some ch → ch.Keeps P) (hw : EveryEntry P w.uidOwner) :
    EveryEntry P (t.after w).uidOwner :=
  Request.within_everyEntry t.setting hkeeps (t.start w) hw

end Keeps

/-! ## Which changes are asked for -/

/-- A call sets or clears the word that it is given, or it asks for a regular change. -/
theorem Mutation.changeAt_cases {m : Mutation} {h : Memory.Host} {uid : Uid} {ch : RuleChange}
    (hch : m.changeAt h uid = some ch) :
    (∃ added i, m = .addRule uid added i ∧ ch = .grant added i) ∨
      (∃ cleared, m = .removeRule uid cleared ∧ ch = .revoke cleared) ∨ ch.Regular := by
  have hlockdown : MatchSet.lockdownVpn.Customary := .inr (.inr rfl)
  have hiif : MatchSet.iif.Customary := .inr (.inl rfl)
  -- only the first two calls take a word from their caller; the words of all the others are known
  cases m with
  | addRule target added i =>
    obtain ⟨⟨rfl, -⟩, hgrant⟩ := Option.ite_none_right_eq_some.1 hch
    exact .inl ⟨added, i, rfl, (Option.some.inj hgrant).symm⟩
  | removeRule target cleared =>
    obtain ⟨rfl, hrevoke⟩ := Option.ite_none_right_eq_some.1 hch
    exact .inr (.inl ⟨cleared, rfl, (Option.some.inj hrevoke).symm⟩)
  | setUidRule chain target verdict =>
    obtain ⟨-, hch⟩ := Option.ite_none_right_eq_some.1 hch
    refine .inr (.inr ?_)
    split at hch
    · cases hch
      exact RuleChange.regular_grant chain.customary_bit 0
    · cases hch
      exact RuleChange.regular_revoke chain.customary_bit
  | replaceChain chain uids =>
    refine .inr (.inr ?_)
    rw [changeAt] at hch
    split at hch
    · cases hch
      exact RuleChange.regular_grant chain.customary_bit 0
    · cases hch
      exact RuleChange.regular_revoke chain.customary_bit
  | setLockdown target add =>
    obtain ⟨-, hch⟩ := Option.ite_none_right_eq_some.1 hch
    refine .inr (.inr ?_)
    cases add with
    | true =>
      cases hch
      exact RuleChange.regular_grant hlockdown 0
    | false =>
      cases hch
      exact RuleChange.regular_revoke hlockdown
  | addInterfaceRules name uids =>
    rw [changeAt] at hch
    cases hname : h.restriction name with
    | none =>
      rw [hname] at hch
      cases hch
    | some index =>
      rw [hname] at hch
      obtain ⟨-, hch⟩ := Option.ite_none_right_eq_some.1 hch
      cases hch
      exact .inr (.inr (RuleChange.regular_grant hiif index))
  | removeInterfaceRules uids =>
    obtain ⟨-, hch⟩ := Option.ite_none_right_eq_some.1 hch
    cases hch
    exact .inr (.inr (RuleChange.regular_revoke hiif))
  | clear =>
    cases hch
    -- clearing revokes every match there is
    exact .inr (.inr fun _ => .inr rfl)

/-! ## Setting and clearing a given word -/

/-- One change with its lock fails and changes nothing, or the changed entry is written. -/
theorem RuleChange.locked_ends (s : Setting) (ch : RuleChange) (uid : Uid) (w : World) :
    (∃ e, (s.backing.acquire .uidOwner >>= fun _ => ch.perform s.backing uid).run w
        = ⟨.error e, w, []⟩) ∨
      ch.applies (w.uidOwner.visible? uid) = true ∧
        ∃ log, (s.backing.acquire .uidOwner >>= fun _ => ch.perform s.backing uid).run w
          = ⟨.ok (), { w with
              uidOwner := w.uidOwner.write uid (ch.apply (w.uidOwner.visible? uid)) }, log⟩ := by
  rcases s.backing.acquire_bind_cases .uidOwner fun _ => ch.perform s.backing uid with
    ⟨e, hrefused⟩ | hopen
  · exact .inl ⟨e, hrefused w⟩
  · rw [hopen, ch.perform_backing]
    exact (ch.perform_ends s.host uid).imp_right fun hdone => hdone.2

namespace Turn

variable {t : Turn} {w : World} {uid : Uid}

/-- How a turn ends that asks for one change of one entry: it fails and changes nothing, or the
changed entry is written. -/
def EndsAs (t : Turn) (w : World) (ch : RuleChange) (uid : Uid) : Prop :=
  (∃ e, (t.outcome w).result = .error e ∧ t.after w = t.start w) ∨
    (t.outcome w).result = .ok .done ∧ ch.applies ((t.start w).uidOwner.visible? uid) = true ∧
      (t.after w).uidOwner
        = (t.start w).uidOwner.write uid (ch.apply ((t.start w).uidOwner.visible? uid))

theorem endsAs_of {ch : RuleChange} {x : Op World Unit}
    (hrequest : t.request.run t.setting.backing = (fun _ => Reply.done) <$> x)
    (hends : (∃ e, x.run (t.start w) = ⟨.error e, t.start w, []⟩) ∨
      ch.applies ((t.start w).uidOwner.visible? uid) = true ∧
        ∃ log, x.run (t.start w) = ⟨.ok (), { t.start w with
          uidOwner := (t.start w).uidOwner.write uid
            (ch.apply ((t.start w).uidOwner.visible? uid)) }, log⟩) :
    t.EndsAs w ch uid := by
  have hrun := outcome_map hrequest w
  rcases hends with ⟨e, hfail⟩ | ⟨happlies, log, hdone⟩
  · rw [hfail] at hrun
    refine .inl ⟨e, ?_, ?_⟩
    · rw [hrun]
      rfl
    · rw [after, hrun]
  · rw [hdone] at hrun
    refine .inr ⟨?_, happlies, ?_⟩
    · rw [hrun]
      rfl
    · rw [after, hrun]

theorem addRule_ends {added : MatchSet} {i : UInt32}
    (hrequest : t.request = .mutate (.addRule uid added i)) :
    t.EndsAs w (.grant added i) uid := by
  refine endsAs_of (x := Firewall.addRule t.setting.backing uid added i) ?_ ?_
  · rw [hrequest]
    rfl
  · rw [Firewall.addRule]
    by_cases hvalid : i = 0 ∨ added = .iif
    · rw [Firewall.validateAdd_ok hvalid]
      exact (RuleChange.grant added i).locked_ends t.setting uid (t.start w)
    · rw [OwnerRecord.validateAdd, if_pos (not_or.1 hvalid)]
      exact .inl ⟨_, rfl⟩

theorem removeRule_ends {cleared : MatchSet}
    (hrequest : t.request = .mutate (.removeRule uid cleared)) :
    t.EndsAs w (.revoke cleared) uid := by
  refine endsAs_of (x := Firewall.removeRule t.setting.backing uid cleared) ?_ ?_
  · rw [hrequest]
    rfl
  · exact (RuleChange.revoke cleared).locked_ends t.setting uid (t.start w)

end Turn

end UidPolicy
