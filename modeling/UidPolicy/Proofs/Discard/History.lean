import UidPolicy.Proofs.Discard.Octets
import UidPolicy.Proofs.Memory.Clearing
import UidPolicy.Proofs.Memory.Run
import UidPolicy.Proofs.Separation

/-!
# Discard rules over a run

An address has the rule of every equivalent address. Over a run, the rule is decided by the last
turn that successfully set or removed it. A clearing removes every rule, unless it stops at a key
whose writes fail: then it has removed the rules that it came to before.

- `DiscardEvent`, `Turn.discardLog`: what a turn does to the discard rules.
- `Turn.get?_discard`: a turn settles every rule by its log.
- `Memory.World.Discards`: what an address is answered whenever the rules can be read.
- `DiscardsTracked`: the answers for every address, and how single requests end, at one point of
  a run. `discards_tracked`: this at every point of every run that starts without rules.
-/

namespace UidPolicy

open Memory (World Setting)

/-! ## What turns do -/

/-- What can be done to the discard rules. A run of turns is told as a list of these, with those
left out that have changed nothing. -/
inductive DiscardEvent where
  /-- The rule of an address names one interface. -/
  | stored (addr : IpAddress) (index : UInt32)
  /-- The rule of an address is gone. -/
  | removed (addr : IpAddress)
  /-- All rules are gone. -/
  | cleared
  /-- A clearing has stopped, and the rules under some keys are gone. -/
  | stopped (gone : List DiscardKey)
  deriving DecidableEq, Repr

namespace DiscardEvent

/-- Whether the rule of an address is involved. Equivalent addresses have one rule, so what concerns
one of them concerns the others. -/
def concerns (addr : IpAddress) : DiscardEvent → Bool
  | stored a _ | removed a => a.Equivalent addr
  | cleared => true
  | stopped gone => addr.discardKey ∈ gone

/-- The rule that is left. -/
def left : DiscardEvent → Option DiscardRule
  | stored _ index => some ⟨index, index⟩
  | removed _ | cleared | stopped _ => none

end DiscardEvent

/-- The rule of an address after some events, the last one that concerns it counting. -/
def settledRule (addr : IpAddress) (events : List DiscardEvent) (rule : Option DiscardRule) :
    Option DiscardRule := settled (DiscardEvent.concerns addr) DiscardEvent.left events rule

namespace Turn

/-- What a turn does to the discard rules. A clearing that stops is told by the keys that were
removed before the refusal. -/
def discardLog (w : World) (t : Turn) : List DiscardEvent :=
  match t.request, (t.outcome w).result with
  | .setDiscard addr iface, .ok _ =>
    (t.setting.host.indexOf iface).toList.map fun index => .stored addr index
  | .removeDiscard addr, .ok _ => [.removed addr]
  | .clearDiscards, .ok _ => [.cleared]
  | .clearDiscards, .error _ =>
    -- behind a poisoned lock nothing is enumerated
    [.stopped (if t.setting.poisoned .ingressDiscard then []
      else (t.start w).ingressDiscard.beforeRefusal)]
  | _, _ => []

end Turn

/-! ## The operations -/

namespace IngressDiscard

variable (s : Setting) (addr : IpAddress) {w : World}

theorem ingressDiscard_backing :
    s.backing.ingressDiscard = Store.table.zoom World.ingressDiscardPart := rfl

theorem set_unresolved {iface : String} (hname : s.host.indexOf iface = none) :
    (set s.backing addr iface).run w = ⟨.error (.notFound s!"interface {iface}"), w, []⟩ := by
  have hlookup : (s.backing.indexOf iface).run w = ⟨.ok none, w, []⟩ := by
    rw [← hname]
    rfl
  have hindex : (Firewall.interfaceIndex s.backing iface).run w
      = ⟨.error (.notFound s!"interface {iface}"), w, []⟩ := by
    rw [Firewall.interfaceIndex, Act.run_bind_ok hlookup]
    rfl
  rw [set, Act.run_bind_error hindex]

/-- Setting a rule fails and changes nothing, or the index of the name is stored. -/
theorem set_cases {iface : String} {index : UInt32} (hname : s.host.indexOf iface = some index) :
    (∃ e, ((set s.backing addr iface).run w).result = .error e ∧
        ((set s.backing addr iface).run w).world = w) ∨
      ((set s.backing addr iface).run w).result = .ok () ∧
        ((set s.backing addr iface).run w).world = { w with
          ingressDiscard := w.ingressDiscard.write addr.discardKey (some (.single index)) } := by
  have hlookup : (s.backing.indexOf iface).run w = ⟨.ok (some index), w, []⟩ := by
    rw [← hname]
    rfl
  have hindex : (Firewall.interfaceIndex s.backing iface).run w = ⟨.ok index, w, []⟩ := by
    rw [Firewall.interfaceIndex, Act.run_bind_ok hlookup]
    rfl
  -- from here on there are two places to fail at, the lock and the write, and nothing is changed at
  -- either
  rw [set, Act.run_bind_ok hindex]
  rcases s.backing.acquire_bind_cases .ingressDiscard _ with ⟨e, hlocked⟩ | hopen
  · rw [hlocked]
    exact .inl ⟨e, rfl, rfl⟩
  · rw [hopen, ingressDiscard_backing]
    rcases Store.put_zoom_cases World.ingressDiscardPart addr.discardKey (.single index) w with
      ⟨e, hput⟩ | hput
    · rw [Act.run_bind_error hput]
      exact .inl ⟨e, rfl, rfl⟩
    · rw [Act.run_bind_ok hput]
      exact .inr ⟨rfl, rfl⟩

/-- **Removing a rule**, with a free lock, takes it away, or it fails, writes to the key being
refused, and changes nothing. Whether there was a rule does not matter. -/
theorem remove_free (hfree : s.poisoned .ingressDiscard = false) :
    (w.ingressDiscard.refuses addr.discardKey = false ∧
        ((remove s.backing addr).run w).result = .ok () ∧
        ((remove s.backing addr).run w).world = { w with
          ingressDiscard := w.ingressDiscard.write addr.discardKey none }) ∨
      w.ingressDiscard.refuses addr.discardKey = true ∧
        ∃ e, ((remove s.backing addr).run w).result = .error e ∧
          ((remove s.backing addr).run w).world = w := by
  have hlock : s.backing.poisoned .ingressDiscard = false := hfree
  rw [remove, Backing.acquire_of_not_poisoned hlock, pure_bind, ingressDiscard_backing]
  cases hrefuse : w.ingressDiscard.refuses addr.discardKey with
  | false =>
    rw [Act.run_bind_ok (Store.run_delete_zoom World.ingressDiscardPart hrefuse)]
    exact .inl ⟨rfl, rfl, rfl⟩
  | true =>
    obtain ⟨e, hdelete⟩ := Store.run_delete_zoom_refused World.ingressDiscardPart hrefuse
    rw [Act.run_bind_error hdelete]
    exact .inr ⟨rfl, e, rfl, rfl⟩

/-- **Clearing**, with a free lock, removes all that is enumerated, or what comes before the first
refused key. -/
theorem clear_free (hfree : s.poisoned .ingressDiscard = false) :
    (w.ingressDiscard.clearFault? = none ∧
        (clear s.backing).run w = ⟨.ok (), { w with
          ingressDiscard := w.ingressDiscard.without w.ingressDiscard.enumerated }, []⟩) ∨
      ∃ e, w.ingressDiscard.clearFault? = some e ∧
        (clear s.backing).run w = ⟨.error e, { w with
          ingressDiscard := w.ingressDiscard.without w.ingressDiscard.beforeRefusal }, []⟩ := by
  have hlock : s.backing.poisoned .ingressDiscard = false := hfree
  rw [clear, Backing.acquire_of_not_poisoned hlock, pure_bind, ingressDiscard_backing]
  exact Store.run_clear_zoom_ends World.ingressDiscardPart

/-- Behind a poisoned lock the rules do not change. -/
theorem locked {s : Setting} {α : Type} (hlocked : s.poisoned .ingressDiscard = true)
    (f : Unit → Op World α) :
    ∃ e, (s.backing.acquire .ingressDiscard >>= f).run w = ⟨.error e, w, []⟩ := by
  have hlock : s.backing.poisoned .ingressDiscard = true := hlocked
  rw [Backing.acquire_of_poisoned hlock]
  exact ⟨_, rfl⟩

end IngressDiscard

/-! ## Turns -/

/-- A write under the key of one address settles the rules of all that are equivalent to it. -/
theorem get?_write_discardKey (store : Store DiscardKey DiscardRule) (a addr : IpAddress)
    (event : DiscardEvent) (hevent : event.concerns addr = decide (a.Equivalent addr)) :
    (store.write a.discardKey event.left).content.get? addr.discardKey
      = settledRule addr [event] (store.content.get? addr.discardKey) := by
  rw [Store.get?_content_write, settledRule, settled_singleton, hevent]
  by_cases hsame : a.Equivalent addr
  · rw [if_pos (IpAddress.discardKey_eq_iff.2 hsame).symm, if_pos (decide_eq_true hsame)]
  · rw [if_neg fun h => hsame (IpAddress.discardKey_eq_iff.1 h.symm),
      if_neg (by simpa using hsame)]

/-- Removing what an exact walk enumerates settles every rule. -/
theorem get?_without_enumerated {store : Store DiscardKey DiscardRule} (hwalk : store.WalkExact)
    (addr : IpAddress) :
    (store.without store.enumerated).content.get? addr.discardKey
      = settledRule addr [.cleared] (store.content.get? addr.discardKey) := by
  rw [Store.content_without_enumerated hwalk, SortedMap.get?_empty]
  rfl

/-- So does removing some keys. -/
theorem get?_without (store : Store DiscardKey DiscardRule) (gone : List DiscardKey)
    (addr : IpAddress) :
    (store.without gone).content.get? addr.discardKey
      = settledRule addr [.stopped gone] (store.content.get? addr.discardKey) := by
  have hcell := congrArg Prod.fst (Store.cell_without store gone addr.discardKey)
  rw [settledRule, settled_singleton, DiscardEvent.concerns]
  refine hcell.trans ?_
  by_cases hgone : addr.discardKey ∈ gone
  · rw [if_pos hgone, if_pos (decide_eq_true hgone)]
    rfl
  · rw [if_neg hgone, if_neg (by simpa using hgone)]
    rfl

namespace Turn

/-- A turn that does not write to the discard rules leaves them as they are. -/
theorem ingressDiscard_after {t : Turn} (hplace : .ingressDiscard ∉ t.request.written)
    (w : World) : (t.after w).ingressDiscard.content = w.ingressDiscard.content := by
  have hagree : World.AgreeAt .ingressDiscard (t.start w) (t.after w) :=
    Request.agreeAt_after hplace
  have hstore : (t.start w).ingressDiscard = (t.after w).ingressDiscard := hagree
  rw [← hstore]
  rfl

/-- **A turn settles every rule by its log**, the initialisation apart, which may stop before it
comes to the rules. -/
theorem get?_discard {t : Turn} (hinit : t.request ≠ .init)
    (hwalk : t.faults.ingressDiscard.WalkExact) (w : World) (addr : IpAddress) :
    (t.after w).ingressDiscard.content.get? addr.discardKey
      = settledRule addr (t.discardLog w) (w.ingressDiscard.content.get? addr.discardKey) := by
  -- three requests have events; for each the log has one exactly if the map was changed
  obtain ⟨f, s, r⟩ := t
  cases r with
  | init => exact absurd rfl hinit
  | setDiscard a iface =>
    rw [discardLog, after, outcome_map (x := IngressDiscard.set s.backing a iface) rfl, start]
    dsimp only
    cases hname : s.host.indexOf iface with
    | none =>
      -- without an index there is no event and no write
      rw [IngressDiscard.set_unresolved s a hname]
      rfl
    | some index =>
      rcases IngressDiscard.set_cases s a (w := w.under f) hname with
        ⟨e, hresult, hworld⟩ | ⟨hresult, hworld⟩
      · rw [hresult, hworld]
        rfl
      · rw [hresult, hworld]
        dsimp only [Except.map]
        rw [hname]
        exact get?_write_discardKey _ a addr (.stored a index) rfl
  | removeDiscard a =>
    rw [discardLog, after, outcome_map (x := IngressDiscard.remove s.backing a) rfl, start]
    dsimp only
    cases hlock : s.poisoned .ingressDiscard with
    | true =>
      rw [IngressDiscard.remove]
      obtain ⟨e, hlocked⟩ := IngressDiscard.locked (w := w.under f) hlock _
      rw [hlocked]
      rfl
    | false =>
      rcases IngressDiscard.remove_free s a (w := w.under f) hlock with
        ⟨-, hresult, hworld⟩ | ⟨-, e, hresult, hworld⟩
      · rw [hresult, hworld]
        exact get?_write_discardKey _ a addr (.removed a) rfl
      · rw [hresult, hworld]
        rfl
  | clearDiscards =>
    rw [discardLog, after, outcome_map (x := IngressDiscard.clear s.backing) rfl, start]
    dsimp only
    cases hlock : s.poisoned .ingressDiscard with
    | true =>
      rw [IngressDiscard.clear]
      obtain ⟨e, hlocked⟩ := IngressDiscard.locked (w := w.under f) hlock _
      rw [hlocked]
      rfl
    | false =>
      -- a clearing that goes through removes every rule; one that stops has removed what it came to
      -- before, and that is its event
      rcases IngressDiscard.clear_free s (w := w.under f) hlock with ⟨-, hclear⟩ | ⟨e, -, hclear⟩
      · have hexact : (w.under f).ingressDiscard.WalkExact := hwalk
        rw [hclear]
        exact get?_without_enumerated hexact addr
      · rw [hclear]
        exact get?_without ..
  | _ =>
    rw [ingressDiscard_after (by simp [Request.written])]
    rfl

end Turn

/-! ## Keys whose writes fail -/

/-- The discard rules come about by writes that are not refused. So a key whose writes fail has no
rule, as long as the failures stay the same. -/
def Memory.World.discardsWritten : Scope World where
  allows w w' := w.ingressDiscard.Written w'.ingressDiscard
  refl _ := .refl
  trans h h' := h.trans h'

theorem Memory.Setting.writes_written (s : Setting) (l : Lock) :
    s.backing.WritesWithin World.discardsWritten l := by
  cases l with
  | uidOwner | permission => exact ⟨fun _ _ _ => .refl, fun _ _ => .refl⟩
  | dataSaver | chainSwitch | statsSelector => exact fun _ _ => .refl
  | ingressDiscard =>
    exact ⟨Store.written_put_zoom World.ingressDiscardPart,
      Store.written_delete_zoom World.ingressDiscardPart⟩

/-- While the failures stay the same, no rule comes under a key whose writes fail. -/
theorem get?_of_refused {f : Store.Faults DiscardKey} {k : DiscardKey} {w : World}
    (hrefuse : (w.ingressDiscard.under f).refuses k = true) {ts : List Turn}
    (hsame : ∀ t ∈ ts, t.faults.ingressDiscard = f) :
    (afterTurns w ts).ingressDiscard.content.get? k = w.ingressDiscard.content.get? k := by
  induction ts generalizing w with
  | nil => rfl
  | cons t ts ih =>
    have hfaults : t.faults.ingressDiscard = f := hsame t (List.mem_cons_self ..)
    have hwritten : (t.start w).ingressDiscard.Written (t.after w).ingressDiscard :=
      Request.within t.setting.orderly (fun l _ => t.setting.writes_written l)
        (fun _ _ => .refl) (t.start w)
    have hstart : (t.start w).ingressDiscard = w.ingressDiscard.under f := by
      rw [← hfaults]
      rfl
    rw [hstart] at hwritten
    -- which keys are refused depends on the failures only
    have hnext : ((t.after w).ingressDiscard.under f).refuses k = true := hrefuse
    have hrest := ih hnext fun t' ht' => hsame t' (List.mem_cons_of_mem _ ht')
    exact hrest.trans (hwritten.get?_of_refuses hrefuse)

theorem clearFault?_eq_none {store : Store DiscardKey DiscardRule} (hwalk : store.WalkExact)
    (haccept : ∀ k, store.refuses k = true → store.content.get? k = none) :
    store.clearFault? = none := by
  rw [Store.clearFault?, List.findSome?_eq_none_iff]
  intro k hk
  have hstored : (store.content.get? k).isSome = true := SortedMap.mem_keys.1 ((hwalk _ k).1 hk)
  cases hfault : store.writeFault? k with
  | none => rfl
  | some e =>
    have hrefuse : store.refuses k = true := by
      rw [Store.refuses, hfault]
      rfl
    rw [haccept k hrefuse] at hstored
    cases hstored

/-! ## How single turns end -/

namespace Turn

variable {t : Turn} {addr : IpAddress}

/-- A rule for a name without an index is refused as not found, and nothing changes. -/
theorem setDiscard_unresolved {iface : String} (hset : t.request = .setDiscard addr iface)
    (hname : t.setting.host.indexOf iface = none) (w : World) :
    (t.outcome w).result = .error (.notFound s!"interface {iface}") ∧ t.after w = t.start w := by
  have hrun : t.request.run t.setting.backing
      = (fun _ => .done) <$> IngressDiscard.set t.setting.backing addr iface := by
    rw [hset]
    rfl
  rw [after, outcome_map hrun, IngressDiscard.set_unresolved t.setting addr hname]
  exact ⟨rfl, rfl⟩

/-- The removal of a rule, with a free lock, succeeds exactly if writes to its key do. -/
theorem removeDiscard_done_iff (hremove : t.request = .removeDiscard addr)
    (hfree : t.setting.poisoned .ingressDiscard = false) (w : World) :
    (t.outcome w).result = .ok .done ↔
      (t.start w).ingressDiscard.refuses addr.discardKey = false := by
  have hrun : t.request.run t.setting.backing
      = (fun _ => .done) <$> IngressDiscard.remove t.setting.backing addr := by
    rw [hremove]
    rfl
  rw [outcome_map hrun]
  rcases IngressDiscard.remove_free t.setting addr (w := t.start w) hfree with
    ⟨haccept, hdone, -⟩ | ⟨hrefuse, e, hfail, -⟩
  · rw [hdone]
    exact ⟨fun _ => haccept, fun _ => rfl⟩
  · rw [hfail]
    constructor
    · intro hdone
      cases hdone
    · intro haccept
      exact absurd (haccept.symm.trans hrefuse) Bool.false_ne_true

/-- A clearing, with a free lock and an exact walk, succeeds where no stored key is refused. -/
theorem clearDiscards_done {w : World} (hclear : t.request = .clearDiscards)
    (hfree : t.setting.poisoned .ingressDiscard = false)
    (hwalk : (t.start w).ingressDiscard.WalkExact)
    (haccept : ∀ k, (t.start w).ingressDiscard.refuses k = true →
      (t.start w).ingressDiscard.content.get? k = none) :
    (t.outcome w).result = .ok .done := by
  have hrun : t.request.run t.setting.backing
      = (fun _ => .done) <$> IngressDiscard.clear t.setting.backing := by
    rw [hclear]
    rfl
  have hnone := clearFault?_eq_none hwalk haccept
  rw [outcome_map hrun]
  rcases IngressDiscard.clear_free t.setting (w := t.start w) hfree with
    ⟨-, hdone⟩ | ⟨e, hsome, -⟩
  · rw [hdone]
    rfl
  · rw [hnone] at hsome
    cases hsome

end Turn

/-! ## Runs -/

/-- Whenever the discard rules can be read, this is the rule of an address. -/
def Memory.World.Discards (w : World) (addr : IpAddress) (rule : Option DiscardRule) : Prop :=
  ∀ (s : Setting) (f : Memory.Faults), f.ingressDiscard.Readable →
    ((IngressDiscard.get s.backing addr).run (w.under f)).result = .ok rule

theorem discards_iff (w : World) (addr : IpAddress) (rule : Option DiscardRule) :
    w.Discards addr rule ↔ rule = w.ingressDiscard.content.get? addr.discardKey := by
  refine Memory.answers_iff_eq (x := fun s => IngressDiscard.get s.backing addr)
    (P := fun f => f.ingressDiscard.Readable) ⟨rfl, fun _ => rfl⟩ fun s f hf => ?_
  have hget : (s.backing.ingressDiscard.get addr.discardKey).run (w.under f)
      = ⟨.ok ((w.under f).ingressDiscard.visible? addr.discardKey), w.under f, []⟩ :=
    Store.run_get_zoom World.ingressDiscardPart addr.discardKey hf.1
  rw [IngressDiscard.get, hget, ← Store.visible?_under w.ingressDiscard hf]
  rfl

/-- The rule that the last event for an address leaves, from no rules at the start. -/
def lastRule (events : List DiscardEvent) (addr : IpAddress) : Option DiscardRule :=
  (events.reverse.find? (DiscardEvent.concerns addr)).bind DiscardEvent.left

/-- The discard rules after a run that started without rules. Sets and removals may fail for a key,
and a clearing may stop at one; the rules are tracked all the same. -/
structure DiscardsTracked (w : World) (ts : List Turn) : Prop where
  /-- Rules are kept under keys that tell equivalent addresses from all others. -/
  keys : ∀ a b : IpAddress, a.discardKey = b.discardKey ↔ a.Equivalent b
  /-- An address has the rule that the last event for it has left. -/
  found : ∀ addr, (afterTurns w ts).Discards addr (lastRule (logged Turn.discardLog w ts) addr)
  /-- A rule for a name without an index is refused as not found, and nothing changes. -/
  unresolved : ∀ (t : Turn) addr iface, t.request = .setDiscard addr iface →
    t.setting.host.indexOf iface = none →
      (t.outcome (afterTurns w ts)).result = .error (.notFound s!"interface {iface}") ∧
        t.after (afterTurns w ts) = t.start (afterTurns w ts)
  /-- The removal of a rule that does not exist succeeds exactly if writes to its key do. -/
  absent : ∀ (t : Turn) addr, t.request = .removeDiscard addr →
    t.setting.poisoned .ingressDiscard = false → (afterTurns w ts).Discards addr none →
      ((t.outcome (afterTurns w ts)).result = .ok .done ↔
        (t.start (afterTurns w ts)).ingressDiscard.refuses addr.discardKey = false)
  /-- While the failures stay the same, no clearing stops. -/
  steady : ∀ f : Store.Faults DiscardKey, (∀ t ∈ ts, t.faults.ingressDiscard = f) →
    ∀ t : Turn, t.faults.ingressDiscard = f → f.WalkExact → t.request = .clearDiscards →
      t.setting.poisoned .ingressDiscard = false →
        (t.outcome (afterTurns w ts)).result = .ok .done

/-- **The discard rules over a run.** Whatever the failures and the settings of its turns are, and
whatever else is asked for, initialisations apart, a run that starts without rules keeps track of
the last event for every address. -/
theorem discards_tracked {w : World} {ts : List Turn} (hempty : w.ingressDiscard.content = ∅)
    (hinit : ∀ t ∈ ts, t.request ≠ .init)
    (hwalk : ∀ t ∈ ts, t.faults.ingressDiscard.WalkExact) : DiscardsTracked w ts := by
  constructor
  case keys =>
    intro a b
    exact IpAddress.discardKey_eq_iff
  case found =>
    intro addr
    have hrun : _ = settledRule addr (logged Turn.discardLog w ts) _ :=
      afterTurns_settled (fun w => w.ingressDiscard.content.get? addr.discardKey)
        (fun t ht w => Turn.get?_discard (hinit t ht) (hwalk t ht) w addr) w
    -- nothing was stored at the start, so it is the log alone that settles the rule
    rw [discards_iff, hrun, hempty, SortedMap.get?_empty, settledRule, settled, lastRule]
    cases (logged Turn.discardLog w ts).reverse.find? (DiscardEvent.concerns addr) with
    | none => rfl
    | some event => rfl
  case unresolved =>
    intro t addr iface hset hname
    exact Turn.setDiscard_unresolved hset hname _
  case absent =>
    intro t addr hremove hfree _
    exact Turn.removeDiscard_done_iff hremove hfree _
  case steady =>
    rintro _ hsame t rfl hexact hclear hfree
    refine Turn.clearDiscards_done hclear hfree hexact fun k hrefuse => ?_
    -- a key whose writes are refused all along has kept what it had, which is nothing
    have hkept := get?_of_refused (w := w) (k := k) hrefuse hsame
    rw [hempty, SortedMap.get?_empty] at hkept
    exact hkept

/-- A turn on a host with one interface. Writes of the rule of one address fail. -/
def refusingTurn (refused : IpAddress) (r : Request) : Turn where
  faults := { Memory.Faults.none with
    ingressDiscard := { Store.Faults.none with failing := fun k => k = refused.discardKey } }
  setting := .ofHost ⟨[("wlan0", 3)], none⟩
  request := r

/-- The rules of 10.0.0.1 and of 10.0.0.2 are set, and a clearing stops at the second one. -/
def stoppedClearing : List Turn :=
  [refusingTurn (.v6 1) (.setDiscard (.v4 0x0a000001) "wlan0"),
    refusingTurn (.v6 1) (.setDiscard (.v4 0x0a000002) "wlan0"),
    refusingTurn (.v4 0x0a000002) .clearDiscards]

/-- Of the two rules the second is left, and it is that of ::ffff:10.0.0.2 as well. -/
theorem stoppedClearing_tracked :
    (World.empty.ingressDiscard.content = ∅ ∧ (∀ t ∈ stoppedClearing, t.request ≠ .init) ∧
        ∀ t ∈ stoppedClearing, t.faults.ingressDiscard.WalkExact) ∧
      DiscardsTracked World.empty stoppedClearing ∧
      lastRule (logged Turn.discardLog World.empty stoppedClearing) (.v4 0x0a000001) = none ∧
      lastRule (logged Turn.discardLog World.empty stoppedClearing) (.v6 0xffff0a000002)
        = some ⟨3, 3⟩ := by
  have hinit : ∀ t ∈ stoppedClearing, t.request ≠ .init := by
    simp only [stoppedClearing, List.forall_mem_cons]
    exact ⟨nofun, nofun, nofun, fun _ h => absurd h List.not_mem_nil⟩
  have hwalk : ∀ t ∈ stoppedClearing, t.faults.ingressDiscard.WalkExact := by
    simp only [stoppedClearing, List.forall_mem_cons]
    exact ⟨fun _ _ => Iff.rfl, fun _ _ => Iff.rfl, fun _ _ => Iff.rfl,
      fun _ h => absurd h List.not_mem_nil⟩
  exact ⟨⟨rfl, hinit, hwalk⟩, discards_tracked rfl hinit hwalk, by decide, by decide⟩

/-- **What failures of single keys make of it.** The removal of a rule that does not exist can
fail. A clearing that did not succeed can have removed one rule and left another. -/
theorem refused_keys_show :
    (¬∀ (t : Turn) (addr : IpAddress), t.request = .removeDiscard addr →
        t.setting.poisoned .ingressDiscard = false → World.empty.Discards addr none →
          (t.outcome World.empty).result = .ok .done) ∧
      logged Turn.discardLog World.empty stoppedClearing
        = [.stored (.v4 0x0a000001) 3, .stored (.v4 0x0a000002) 3,
            .stopped [(IpAddress.v4 0x0a000001).discardKey]] ∧
      (afterTurns World.empty stoppedClearing).Discards (.v4 0x0a000001) none ∧
      (afterTurns World.empty stoppedClearing).Discards (.v4 0x0a000002) (some ⟨3, 3⟩) := by
  refine ⟨fun hremovals => ?_, by decide, ?_, ?_⟩
  · have habsent : World.empty.Discards (.v4 0x0a000001) none := (discards_iff ..).2 rfl
    have hdone := hremovals (refusingTurn (.v4 0x0a000001) (.removeDiscard (.v4 0x0a000001)))
      (.v4 0x0a000001) rfl rfl habsent
    cases hdone
  · rw [discards_iff]
    decide
  · rw [discards_iff]
    decide

end UidPolicy
