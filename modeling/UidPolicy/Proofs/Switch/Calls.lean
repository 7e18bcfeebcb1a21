import UidPolicy.Command.Run
import UidPolicy.Proofs.Locks
import UidPolicy.Proofs.Memory.Setting
import UidPolicy.Proofs.Reasons.Agreement
import UidPolicy.Proofs.Reasons.Order

/-!
# Calls on the chain-enable word

Every call on the chain-enable word first reads it, and a call that switches a chain then writes
it. Whether the two go through is decided by the lock, by the chosen failures and by whether there
is a word at all; the chain and the bits of the word have no part in it.

- `World.switchWord`, `World.switched`: the stored word, and the world with another one.
- `ChainSwitch.readFault?`: why the word cannot be read, if it cannot. `run_word_of_fault` and
  `run_word_of_seen` are the two ends of reading it.
- `ChainSwitch.switchFault?`: why no chain can be switched, if none can. `run_setEnabled_of_fault`
  and `run_setEnabled_of_seen` are the two ends of switching one.
- `Command.chainTable`: the listing of the chains, given which of them are enabled.
- `ChainsShown`, `ChainsHidden`: the three ways of asking about chains agree on which are enabled,
  or they fail alike. It is always one of the two (`chainsShown_or_hidden`).
-/

namespace UidPolicy

open Memory (World Setting)

namespace Memory.World

/-- The stored chain-enable word. A map that was never initialised may have none, and then no chain
can be switched. -/
def switchWord (w : World) : Option UInt32 := w.configuration.content.get? ChainSwitch.key

/-- The world after this chain-enable word was stored. -/
def switched (w : World) (word : UInt32) : World :=
  { w with configuration := w.configuration.write ChainSwitch.key (some word) }

@[simp] theorem switchWord_switched (w : World) (word : UInt32) :
    (w.switched word).switchWord = some word := by
  rw [switchWord, switched, Store.get?_content_write, if_pos rfl]

theorem switched_switched (w : World) (word word' : UInt32) :
    (w.switched word).switched word' = w.switched word' := by
  rw [switched, switched, switched, Store.write_write]

end Memory.World

/-! ## Reading the word and switching a chain -/

namespace ChainSwitch

/-- Why the word cannot be read, if it cannot: reads fail, or there is no word. -/
def readFault? (w : World) : Option Fault :=
  match w.configuration.readErrno with
  | some errno => some (.resource "in-memory map read" errno)
  | none =>
    if (w.configuration.visible? key).isSome then none
    else some (.resource "read uid rules configuration" Errno.noEntry)

/-- Why no chain can be switched, if none can: the lock, the read, the write, in this order. -/
def switchFault? (s : Setting) (w : World) : Option Fault :=
  if s.poisoned .chainSwitch then some Lock.chainSwitch.poisonFault
  else (readFault? w).or (w.configuration.writeFault? key)

variable (s : Setting) {w : World}

theorem run_word_of_fault {e : Fault} (hfault : readFault? w = some e) :
    (word s.backing).run w = ⟨.error e, w, []⟩ := by
  rw [word, s.configuration_backing]
  rw [readFault?] at hfault
  -- the cases of the fault are those of the read: an error of the map, and a word that is not there
  cases hread : w.configuration.readErrno with
  | some errno =>
    rw [hread] at hfault
    cases hfault
    exact Act.run_bind_error (Store.run_get_zoom_unreadable World.configurationPart key hread)
  | none =>
    rw [hread] at hfault
    cases hfound : w.configuration.visible? key with
    | some current =>
      rw [hfound] at hfault
      cases hfault
    | none =>
      rw [hfound] at hfault
      cases hfault
      have hget : ((Store.table.zoom World.configurationPart).get key).run w
          = ⟨.ok none, w, []⟩ := by
        rw [Store.run_get_zoom World.configurationPart key hread, ← hfound]
        rfl
      exact Act.run_bind_ok hget

theorem run_word_of_seen (hseen : readFault? w = none) :
    ∃ current, w.configuration.visible? key = some current ∧
      (word s.backing).run w = ⟨.ok current, w, []⟩ := by
  rw [readFault?] at hseen
  cases hread : w.configuration.readErrno with
  | some errno =>
    rw [hread] at hseen
    cases hseen
  | none =>
    rw [hread] at hseen
    cases hfound : w.configuration.visible? key with
    | none =>
      rw [hfound] at hseen
      cases hseen
    | some current => exact ⟨current, rfl, run_word s.host hread hfound⟩

/-- A switch that does not go through changes nothing. -/
theorem run_setEnabled_of_fault {e : Fault} (hfault : switchFault? s w = some e) (chain : Chain)
    (on : Bool) : (setEnabled s.backing chain on).run w = ⟨.error e, w, []⟩ := by
  rw [switchFault?] at hfault
  rw [setEnabled]
  dsimp only
  -- in the order in which the call meets them: the lock, the read and the write
  cases hlock : s.poisoned .chainSwitch with
  | true =>
    rw [hlock] at hfault
    cases hfault
    exact Backing.run_acquire_poisoned hlock _ w
  | false =>
    rw [hlock] at hfault
    rw [Backing.acquire_of_not_poisoned hlock, pure_bind]
    cases hread : readFault? w with
    | some e' =>
      rw [hread] at hfault
      cases hfault
      exact Act.run_bind_error (run_word_of_fault s hread)
    | none =>
      rw [hread] at hfault
      obtain ⟨current, -, hword⟩ := run_word_of_seen s hread
      have hput := Store.run_put_zoom_fault World.configurationPart
        (chain.switchAfter on current) hfault
      rw [Act.run_bind_ok hword]
      exact Act.run_bind_error hput

/-- A switch that goes through stores the word with the chain switched. -/
theorem run_setEnabled_of_seen (hgo : switchFault? s w = none) (chain : Chain) (on : Bool) :
    ∃ current log, w.configuration.visible? key = some current ∧
      (setEnabled s.backing chain on).run w
        = ⟨.ok (), w.switched (chain.switchAfter on current), log⟩ := by
  rw [switchFault?] at hgo
  rw [setEnabled]
  dsimp only
  cases hlock : s.poisoned .chainSwitch with
  | true =>
    rw [hlock] at hgo
    cases hgo
  | false =>
    rw [hlock] at hgo
    obtain ⟨hread, hwrite⟩ := Option.or_eq_none_iff.1 hgo
    obtain ⟨current, hseen, hword⟩ := run_word_of_seen s hread
    have haccept : w.configuration.refuses key = false := by
      rw [Store.refuses, hwrite]
      rfl
    have hput := Store.run_put_zoom World.configurationPart (chain.switchAfter on current) haccept
    rw [Backing.acquire_of_not_poisoned hlock, pure_bind, Act.run_bind_ok hword]
    exact ⟨current, _, hseen, Act.run_bind_ok hput⟩

end ChainSwitch

/-! ## Asking which chains are enabled -/

/-- The listing of the chains where these are enabled. -/
def Command.chainTable (format : OutputFormat) (on : Chain → Bool) : Printed :=
  emit format
    (.array (Chain.all.map fun c => .object [("chain", .string c.serialized),
      ("id", .number c.id), ("allow_list", .bool c.isAllowList), ("enabled", .bool (on c))]))
    ("\n".intercalate (statusLine "CHAIN" "ID" "KIND" "STATE" :: Chain.all.map fun c =>
      statusLine c.name (toString c.id) (if c.isAllowList then "allow" else "deny")
        (if on c then "enabled" else "disabled")))

/-- A chain that is asked for, the set of the enabled chains and the listing all say that these are
the enabled ones. -/
structure ChainsShown {W : Type} (b : Backing W) (w : W) (on : Chain → Bool) : Prop where
  asked : ∀ c, Answers (ChainSwitch.isEnabled b c) w (on c)
  listed : ∃ m, Answers (ChainSwitch.enabled b) w m ∧ ∀ c : Chain, m.contains c.bit = on c
  printed : ∀ format, Answers (Command.run b format .chainStatus) w (Command.chainTable format on)

/-- All three ways of asking fail alike, with the fault of the one read that they share. -/
structure ChainsHidden {W : Type} (b : Backing W) (w : W) (e : Fault) : Prop where
  asked : ∀ c, ((ChainSwitch.isEnabled b c).run w).result = .error e
  listed : ((ChainSwitch.enabled b).run w).result = .error e
  printed : ∀ format, ((Command.run b format .chainStatus).run w).result = .error e

section Asking

variable (s : Setting) {w : World}

theorem chainsHidden_of_fault {e : Fault} (hfault : ChainSwitch.readFault? w = some e) :
    ChainsHidden s.backing w e := by
  have hword := ChainSwitch.run_word_of_fault s hfault
  have henabled : (ChainSwitch.enabled s.backing).run w = ⟨.error e, w, []⟩ :=
    Act.run_bind_error hword
  constructor
  case asked =>
    intro c
    rw [ChainSwitch.isEnabled, Act.run_bind_error hword]
  case listed => rw [henabled]
  case printed =>
    intro format
    rw [Command.run, Act.run_bind_error henabled]

/-- Where the word can be read, the enabled chains are those whose bit it has. -/
theorem chainsShown_of_seen (hseen : ChainSwitch.readFault? w = none) :
    ∃ current, w.configuration.visible? ChainSwitch.key = some current ∧
      ChainsShown s.backing w fun c => (MatchSet.ofSwitchWord current).contains c.bit := by
  obtain ⟨current, hfound, hword⟩ := ChainSwitch.run_word_of_seen s hseen
  have henabled : (ChainSwitch.enabled s.backing).run w
      = ⟨.ok (MatchSet.ofSwitchWord current), w, []⟩ := Act.run_bind_ok hword
  refine ⟨current, hfound, ?_⟩
  constructor
  case asked =>
    intro c
    -- the call masks the word with 32 bits, the set is read with 64; on the bit of a chain they
    -- agree
    rw [Answers, ChainSwitch.isEnabled, Act.run_bind_ok hword, ← Chain.and_switchBit_ne_zero]
    rfl
  case listed => exact ⟨_, congrArg Outcome.result henabled, fun _ => rfl⟩
  case printed =>
    intro format
    rw [Answers, Command.run, Act.run_bind_ok henabled]
    rfl

/-- **The three ways of asking agree**, whether or not the word can be read. -/
theorem chainsShown_or_hidden (w : World) :
    (∃ on, ChainsShown s.backing w on) ∨ ∃ e, ChainsHidden s.backing w e := by
  cases hread : ChainSwitch.readFault? w with
  | some e => exact .inr ⟨e, chainsHidden_of_fault s hread⟩
  | none =>
    obtain ⟨current, -, hshown⟩ := chainsShown_of_seen s hread
    exact .inl ⟨_, hshown⟩

end Asking

end UidPolicy
