import UidPolicy.Proofs.Memory.Run
import UidPolicy.Proofs.Separation
import UidPolicy.Proofs.Switch.Calls

/-!
# The chain-enable word over a run

A call that switches a chain may fail at the lock, at the read or at the write; then the word stays.
Over a run the bit of every chain is that of the last call for it that went through, and the bits
that belong to no chain are those at the start.

- `ChainSwitch.switchFault?_under`: whether a switch goes through depends on the world only in
  whether there is a word. As switching neither brings a word about nor removes it, calls do not
  decide each other's answers.
- `Turn.switchLog`: the switch that a turn reports as successful. `Turn.switchBit?_after`: it
  settles every bit of the word.
- `Turn.Commute`: two turns answer alike in either order, and leave the same maps behind.
- `SwitchTracked`, `switch_tracked`: the word, what is shown of it, and the order of calls, after
  every run from a world with a word.
-/

namespace UidPolicy

open Memory (World Setting)

/-! ## One turn -/

namespace ChainSwitch

/-- Failures that are chosen for a turn hide the word or show it, whatever it is. -/
theorem readFault?_under (f : Memory.Faults) {w w' : World}
    (hword : w.switchWord.isSome = w'.switchWord.isSome) :
    readFault? (w.under f) = readFault? (w'.under f) := by
  have hvisible : ∀ v : World, ((v.under f).configuration.visible? key).isSome
      = (!f.configuration.vanished key && v.switchWord.isSome) := by
    intro v
    show (if f.configuration.vanished key then none else v.switchWord).isSome = _
    cases f.configuration.vanished key with
    | true => rfl
    | false => rfl
  rw [readFault?, readFault?, hvisible, hvisible, hword]
  rfl

/-- So they refuse a switch or let it through. -/
theorem switchFault?_under (s : Setting) (f : Memory.Faults) {w w' : World}
    (hword : w.switchWord.isSome = w'.switchWord.isSome) :
    switchFault? s (w.under f) = switchFault? s (w'.under f) := by
  rw [switchFault?, switchFault?, readFault?_under f hword]
  rfl

/-- Where the map can be read, the word is shown. -/
theorem chainsShown_of_readable (s : Setting) {f : Memory.Faults}
    (hf : f.configuration.Readable) {w : World} {word : UInt32}
    (hword : w.switchWord = some word) :
    ChainsShown s.backing (w.under f) fun c => (MatchSet.ofSwitchWord word).contains c.bit := by
  have hseen : (w.under f).configuration.visible? key = some word :=
    (Store.visible?_under _ hf _).trans hword
  have hread : readFault? (w.under f) = none := by
    have hreads : (w.under f).configuration.readErrno = none := hf.1
    rw [readFault?, hreads, hseen]
    rfl
  obtain ⟨current, hcurrent, hshown⟩ := chainsShown_of_seen s hread
  cases hcurrent.symm.trans hseen
  exact hshown

end ChainSwitch

namespace Turn

/-- The switch that a turn reports as successful. The word after a run is determined by these, and a
switch that fails leaves no trace in it. -/
def switchLog (w : World) (t : Turn) : List (Chain × Bool) :=
  match t.request, (t.outcome w).result with
  | .setChain chain on, .ok _ => [(chain, on)]
  | _, _ => []

section Switching

variable {t : Turn} {chain : Chain} {on : Bool} (hrequest : t.request = .setChain chain on)
  {w : World}

include hrequest

theorem outcome_of_fault {e : Fault}
    (hfault : ChainSwitch.switchFault? t.setting (t.start w) = some e) :
    t.outcome w = ⟨.error e, t.start w, []⟩ := by
  rw [outcome_map (x := ChainSwitch.setEnabled t.setting.backing chain on) (by rw [hrequest]; rfl),
    ChainSwitch.run_setEnabled_of_fault t.setting hfault]
  rfl

theorem outcome_of_seen (hgo : ChainSwitch.switchFault? t.setting (t.start w) = none) :
    ∃ word log, w.switchWord = some word ∧
      t.outcome w = ⟨.ok .done, (t.start w).switched (chain.switchAfter on word), log⟩ := by
  obtain ⟨word, log, hseen, hdone⟩ :=
    ChainSwitch.run_setEnabled_of_seen t.setting hgo chain on
  have hstored : (t.start w).switchWord = some word := Store.get?_of_visible? hseen
  refine ⟨word, log, hstored, ?_⟩
  rw [outcome_map (x := ChainSwitch.setEnabled t.setting.backing chain on) (by rw [hrequest]; rfl),
    hdone]
  rfl

/-- Switching a chain neither brings a word about nor removes it. -/
theorem isSome_switchWord_after : (t.after w).switchWord.isSome = w.switchWord.isSome := by
  cases hfault : ChainSwitch.switchFault? t.setting (t.start w) with
  | some e =>
    rw [after, outcome_of_fault hrequest hfault]
    rfl
  | none =>
    obtain ⟨word, log, hword, hdone⟩ := outcome_of_seen hrequest hfault
    rw [after, hdone, World.switchWord_switched, hword]
    rfl

/-- It answers what stands in its way, and that the other calls do not decide. -/
theorem result_switch : (t.outcome w).result
    = (ChainSwitch.switchFault? t.setting (t.start w)).elim (.ok .done) .error := by
  cases hfault : ChainSwitch.switchFault? t.setting (t.start w) with
  | some e => rw [outcome_of_fault hrequest hfault, Option.elim_some]
  | none =>
    obtain ⟨word, log, -, hdone⟩ := outcome_of_seen hrequest hfault
    rw [hdone, Option.elim_none]

end Switching

/-- Two turns answer alike in either order, and leave the same maps behind, whatever failures are
chosen next. -/
structure Commute (t t' : Turn) (w : World) : Prop where
  first : (t.outcome (t'.after w)).result = (t.outcome w).result
  second : (t'.outcome (t.after w)).result = (t'.outcome w).result
  maps : ∀ f, (t'.after (t.after w)).under f = (t.after (t'.after w)).under f

section Pairs

variable {t t' : Turn} {chain chain' : Chain} {on on' : Bool}
  (hrequest : t.request = .setChain chain on) (hrequest' : t'.request = .setChain chain' on')

include hrequest

/-- What stands in the way of a turn does not depend on a switch before it. -/
theorem switchFault?_after (t' : Turn) (w : World) :
    ChainSwitch.switchFault? t'.setting (t'.start (t.after w))
      = ChainSwitch.switchFault? t'.setting (t'.start w) :=
  ChainSwitch.switchFault?_under t'.setting t'.faults (isSome_switchWord_after hrequest)

include hrequest'

theorem result_after (w : World) : (t'.outcome (t.after w)).result = (t'.outcome w).result := by
  rw [result_switch hrequest', result_switch hrequest', switchFault?_after hrequest]

theorem under_after_of_fault {w : World} {e : Fault}
    (hfault : ChainSwitch.switchFault? t.setting (t.start w) = some e) (f : Memory.Faults) :
    (t'.after (t.after w)).under f = (t.after (t'.after w)).under f := by
  have hfirst : t.after w = t.start w := congrArg Outcome.world (outcome_of_fault hrequest hfault)
  -- what stands in its way is still there after the other switch
  have hfault' : ChainSwitch.switchFault? t.setting (t.start (t'.after w)) = some e :=
    (switchFault?_after hrequest' t w).trans hfault
  have hlast : t.after (t'.after w) = t.start (t'.after w) :=
    congrArg Outcome.world (outcome_of_fault hrequest hfault')
  rw [hfirst, hlast]
  rfl

/-- Of two switches that both go through, the maps show the word of the second. -/
theorem under_after_of_seen {w : World}
    (hgo : ChainSwitch.switchFault? t.setting (t.start w) = none)
    (hgo' : ChainSwitch.switchFault? t'.setting (t'.start w) = none) :
    ∃ word, w.switchWord = some word ∧ ∀ f, (t'.after (t.after w)).under f
      = (w.switched (chain'.switchAfter on' (chain.switchAfter on word))).under f := by
  obtain ⟨word, log, hword, hdone⟩ := outcome_of_seen hrequest hgo
  obtain ⟨word', log', hword', hdone'⟩ :=
    outcome_of_seen hrequest' ((switchFault?_after hrequest t' w).trans hgo')
  have hfirst : t.after w = (t.start w).switched (chain.switchAfter on word) :=
    congrArg Outcome.world hdone
  have hlast : t'.after (t.after w)
      = (t'.start (t.after w)).switched (chain'.switchAfter on' word') :=
    congrArg Outcome.world hdone'
  -- the second switch starts from the word that the first one stored
  rw [hfirst, World.switchWord_switched] at hword'
  cases hword'
  refine ⟨word, hword, fun f => ?_⟩
  rw [hlast, hfirst, ← World.switched_switched w (chain.switchAfter on word)]
  rfl

/-- **Different chains may be switched in either order**, whichever of the calls go through: each
reads the word and stores it with one bit decided. -/
theorem commute (hne : chain ≠ chain') (w : World) : t.Commute t' w := by
  refine ⟨result_after hrequest' hrequest w, result_after hrequest hrequest' w, fun f => ?_⟩
  -- where one of them is refused both orders come to the other one alone; where both go through,
  -- their words have to commute
  cases hfault : ChainSwitch.switchFault? t.setting (t.start w) with
  | some e => exact under_after_of_fault hrequest hrequest' hfault f
  | none =>
    cases hfault' : ChainSwitch.switchFault? t'.setting (t'.start w) with
    | some e => exact (under_after_of_fault hrequest' hrequest hfault' f).symm
    | none =>
      obtain ⟨word, hword, hforth⟩ := under_after_of_seen hrequest hrequest' hfault hfault'
      obtain ⟨word', hword', hback⟩ := under_after_of_seen hrequest' hrequest hfault' hfault
      cases hword.symm.trans hword'
      rw [hforth, hback, Chain.switchAfter_comm hne]

end Pairs

end Turn

/-! ## Bits -/

/-- The bit at a position of the chain-enable word, if there is a word. -/
def Memory.World.switchBit? (w : World) (i : Nat) : Option Bool :=
  w.switchWord.map fun word => word.toBitVec.getLsbD i

/-- What a log of switches makes of the bit at a position, the last one for its chain counting. -/
def ChainSwitch.settledBit (i : Nat) (log : List (Chain × Bool)) (bit : Option Bool) :
    Option Bool :=
  settled (fun e => e.1.position = i) (fun e => some e.2) log bit

namespace Turn

/-- A turn that does not write the word leaves it as it is. -/
theorem switchWord_after {t : Turn} (hplace : .chainSwitch ∉ t.request.written) (w : World) :
    (t.after w).switchWord = w.switchWord := by
  have hagree : World.AgreeAt .chainSwitch (t.start w) (t.after w) := Request.agreeAt_after hplace
  exact (congrArg Store.Spot.stored hagree).symm

/-- **A turn settles every bit by its log**, unless it writes the whole word, as an initialisation
or a reset does. -/
theorem switchBit?_after {t : Turn} (hinit : t.request ≠ .init) (hreset : t.request ≠ .resetChains)
    (i : Nat) (w : World) :
    (t.after w).switchBit? i = ChainSwitch.settledBit i (t.switchLog w) (w.switchBit? i) := by
  cases hrequest : t.request with
  | setChain chain on =>
    cases hfault : ChainSwitch.switchFault? t.setting (t.start w) with
    | some e =>
      have hdone := outcome_of_fault hrequest hfault
      rw [switchLog, after, hrequest, hdone]
      rfl
    | none =>
      obtain ⟨word, log, hword, hdone⟩ := outcome_of_seen hrequest hfault
      have hlog : t.switchLog w = [(chain, on)] := by
        rw [switchLog, hrequest, hdone]
      have hworld : (t.after w).switchWord = some (chain.switchAfter on word) := by
        rw [after, hdone, World.switchWord_switched]
      rw [hlog, ChainSwitch.settledBit, settled_singleton, World.switchBit?, World.switchBit?,
        hworld, hword, Option.map_some, Option.map_some, Chain.getLsbD_switchAfter]
      -- the switch moves the bit at its position and no other, and so does its entry of the log
      by_cases hi : chain.position = i
      · simp [hi]
      · simp [hi]
  | init => exact absurd hrequest hinit
  | resetChains => exact absurd hrequest hreset
  | _ =>
    have hlog : t.switchLog w = [] := by rw [switchLog, hrequest]
    rw [hlog, World.switchBit?, switchWord_after (by rw [hrequest]; simp [Request.written])]
    rfl

end Turn

/-! ## Runs -/

/-- The chain-enable word after a run that started with a word, whatever the word and whichever
turns fail. -/
structure SwitchTracked (word : UInt32) (w : World) (ts : List Turn) : Prop where
  /-- There is still a word. A chain's bit is as the last switch of the chain that went through has
  it, and as at the start if there was none. The bits of no chain are as at the start. -/
  stored : ∃ word', (afterTurns w ts).switchWord = some word' ∧
    (∀ (c : Chain) (i : Nat), c.bit.has i = true → word'.toBitVec.getLsbD i
      = settled (fun e => e.1 = c) (·.2) (logged Turn.switchLog w ts) (word.toBitVec.getLsbD i)) ∧
    ∀ i, (∀ c : Chain, c.bit.has i = false) →
      word'.toBitVec.getLsbD i = word.toBitVec.getLsbD i
  /-- Where the map can be read, this is what every way of asking about the chains answers. -/
  shown : ∀ (s : Setting) (f : Memory.Faults), f.configuration.Readable →
    ChainsShown s.backing ((afterTurns w ts).under f) fun c =>
      settled (fun e => e.1 = c) (·.2) (logged Turn.switchLog w ts)
        ((MatchSet.ofSwitchWord word).contains c.bit)
  /-- Whatever fails, the ways of asking answer alike: there is no failure that only one of them
  notices. -/
  agreed : ∀ (s : Setting) (f : Memory.Faults),
    (∃ on, ChainsShown s.backing ((afterTurns w ts).under f) on) ∨
      ∃ e, ChainsHidden s.backing ((afterTurns w ts).under f) e
  /-- From here, different chains may be switched in either order. -/
  commute : ∀ (t t' : Turn) (c c' : Chain) (on on' : Bool), t.request = .setChain c on →
    t'.request = .setChain c' on' → c ≠ c' → t.Commute t' (afterTurns w ts)
  /-- A chain has the same bits in the word as in rule words. -/
  narrowed : ∀ (c : Chain) (i : Nat), c.switchBit.toBitVec.getLsbD i = c.bit.has i
  /-- As a set of matches, a word has the bits that it has. -/
  widened : ∀ (word : UInt32) (i : Nat),
    (MatchSet.ofSwitchWord word).has i = word.toBitVec.getLsbD i

section Tracked

variable {word : UInt32} {w : World} (hstart : w.switchWord = some word) {ts : List Turn}
  (hplain : ∀ t ∈ ts, t.request ≠ .init ∧ t.request ≠ .resetChains)

include hstart hplain

/-- After a run there is a word, and its bits are settled by the log. -/
theorem switchWord_afterTurns : ∃ word', (afterTurns w ts).switchWord = some word' ∧
    ∀ i, word'.toBitVec.getLsbD i = settled (fun e => e.1.position = i) (·.2)
      (logged Turn.switchLog w ts) (word.toBitVec.getLsbD i) := by
  -- bit by bit over the run; that there still is a word is what any one of the bits says
  have hbit : ∀ i, (afterTurns w ts).switchBit? i
      = some (settled (fun e => e.1.position = i) (·.2) (logged Turn.switchLog w ts)
          (word.toBitVec.getLsbD i)) := by
    intro i
    have hrun : _ = ChainSwitch.settledBit i (logged Turn.switchLog w ts) _ :=
      afterTurns_settled (fun w => w.switchBit? i)
        (fun t ht w => t.switchBit?_after (hplain t ht).1 (hplain t ht).2 i w) w
    have hfirst : w.switchBit? i = some (word.toBitVec.getLsbD i) := by
      rw [World.switchBit?, hstart, Option.map_some]
    rw [hrun, hfirst, ChainSwitch.settledBit, settled_map]
  have hsome := hbit 0
  rw [World.switchBit?, Option.map_eq_some_iff] at hsome
  obtain ⟨word', hword', -⟩ := hsome
  refine ⟨word', hword', fun i => ?_⟩
  have hi := hbit i
  rw [World.switchBit?, hword'] at hi
  exact Option.some.inj hi

/-- **The chain-enable word over a run.** Whatever the failures and the settings of its turns are,
and whatever else is asked for but to reset the whole word, a run keeps track of the last switch of
every chain that went through. -/
theorem switch_tracked : SwitchTracked word w ts := by
  obtain ⟨word', hword', hbits⟩ := switchWord_afterTurns hstart hplain
  -- bits are settled by position and the statement speaks of chains: no two chains share a position
  have hchain : ∀ c : Chain, (fun e : Chain × Bool => decide (e.1.position = c.position))
      = fun e => decide (e.1 = c) := by
    intro c
    funext e
    exact decide_eq_decide.2 ⟨Chain.position_injective, congrArg Chain.position⟩
  constructor
  case stored =>
    refine ⟨word', hword', fun c i hi => ?_, fun i hnone => ?_⟩
    · rw [c.has_bit, decide_eq_true_iff] at hi
      rw [← hi, hbits, hchain]
    · rw [hbits]
      refine settled_of_unfit (fun e _ => ?_) _
      rw [← e.1.has_bit, hnone]
  case shown =>
    intro s f hf
    have hshown := ChainSwitch.chainsShown_of_readable s hf hword'
    have hon : (fun c : Chain => (MatchSet.ofSwitchWord word').contains c.bit)
        = fun c => settled (fun e => e.1 = c) (·.2) (logged Turn.switchLog w ts)
            ((MatchSet.ofSwitchWord word).contains c.bit) := by
      funext c
      rw [c.contains_bit, c.contains_bit, MatchSet.has_ofSwitchWord, MatchSet.has_ofSwitchWord,
        hbits, hchain]
    rwa [hon] at hshown
  case agreed =>
    intro s f
    exact chainsShown_or_hidden s _
  case commute =>
    intro t t' c c' on on' hrequest hrequest' hne
    exact Turn.commute hrequest hrequest' hne _
  case narrowed =>
    intro c i
    rw [c.has_bit, c.switchBit_eq, BitVec.getLsbD_twoPow, decide_eq_true c.position_lt,
      Bool.true_and]
  case widened => exact MatchSet.has_ofSwitchWord

end Tracked

/-- Switches of chains at both ends of the word. The second meets a read that fails, the fourth a
write. -/
def switchings : List Turn :=
  [.plain (.setChain .meteredDenyAdmin true),
    { Turn.plain (.setChain .meteredAllow false) with
      faults := { Memory.Faults.none with
        configuration := { Store.Faults.none with readErrno := some Errno.inputOutput } } },
    .plain (.setChain .dozable true),
    { Turn.plain (.setChain .dozable false) with
      faults := { Memory.Faults.none with
        configuration := { Store.Faults.none with writeErrno := some Errno.inputOutput } } }]

/-- A word with a chain's bit and the top bit, which is no chain's. -/
def switchedWorld : World := World.empty.switched 0x80000001

/-- After them, two more chains are enabled. -/
theorem switchings_tracked :
    switchedWorld.switchWord = some 0x80000001 ∧
      (∀ t ∈ switchings, t.request ≠ .init ∧ t.request ≠ .resetChains) ∧
      SwitchTracked 0x80000001 switchedWorld switchings ∧
      logged Turn.switchLog switchedWorld switchings
        = [(.meteredDenyAdmin, true), (.dozable, true)] ∧
      (afterTurns switchedWorld switchings).switchWord = some 0x80002005 := by
  have hstart : switchedWorld.switchWord = some 0x80000001 := World.switchWord_switched _ _
  have hplain : ∀ t ∈ switchings, t.request ≠ .init ∧ t.request ≠ .resetChains := by
    intro t ht
    simp only [switchings, List.mem_cons, List.not_mem_nil, or_false] at ht
    rcases ht with rfl | rfl | rfl | rfl <;> exact ⟨nofun, nofun⟩
  exact ⟨hstart, hplain, switch_tracked hstart hplain, by decide, by decide⟩

end UidPolicy
