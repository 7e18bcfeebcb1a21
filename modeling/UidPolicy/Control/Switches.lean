import UidPolicy.Chain
import UidPolicy.Control.Backing

/-!
# Switches

Three words that are not about one user id or address.

One word of the configuration map says which chains are enabled, in the bits that the chains
have in rule words.

* `ChainSwitch.word` — the stored word; without one the read is a fault.
* `ChainSwitch.enabled` — the enabled chains as matches.
* `ChainSwitch.setEnabled`, `isEnabled` — one chain.
* `ChainSwitch.reset` — no chain enabled.

Data saver has a flag in a map of its own.

* `DataSaver.set` — turns data saver on or off.
* `DataSaver.isOn` — whether it is on; a missing flag means off.

Traffic is counted in one of two maps, and a selector in the configuration map says which.
After a swap, the kernel barrier makes sure that no packet is still counted in the old map.

* `Stats.active` — the selector.
* `Stats.swap` — selects the other map and waits for the barrier.
* `Stats.reset` — selects map A.
-/

namespace UidPolicy

/-! ## The chain-enable word -/

/-- The bit of a chain in the chain-enable word.  It is the bit of the rule word cut to 32 bits,
which loses none that belongs to a chain. -/
def Chain.switchBit (c : Chain) : UInt32 := c.bit.bits.toUInt32

/-- The matches of a chain-enable word. -/
def MatchSet.ofSwitchWord (word : UInt32) : MatchSet := ⟨word.toUInt64⟩

namespace ChainSwitch

variable {W : Type}

/-- The configuration key of the chain-enable word. -/
def key : UInt32 := 0

/-- The chain-enable word without an enabled chain. -/
def defaultWord : UInt32 := 0

/-- The stored word.  It is written at start-up, so its absence is a fault. -/
def word (b : Backing W) : Op W UInt32 := do
  match ← b.configuration.get key with
  | some w => pure w
  | none => Act.fail (.resource "read uid rules configuration" Errno.noEntry)

/-- The enabled chains, as matches. -/
def enabled (b : Backing W) : Op W MatchSet := do
  let w ← word b
  pure (MatchSet.ofSwitchWord w)

/-- Enables or disables a chain.  The other bits of the word are written back as they were read,
those that belong to no chain too. -/
def setEnabled (b : Backing W) (chain : Chain) (on : Bool) : Op W Unit := do
  b.acquire .chainSwitch
  let current ← word b
  let updated := if on then current ||| chain.switchBit else current &&& ~~~chain.switchBit
  b.configuration.put key updated
  Act.emit ⟨.info, .chainSwitch, "firewall chain toggled",
    [("chain", .text chain.name), ("enabled", .flag on), ("config", .number updated.toNat)]⟩

def isEnabled (b : Backing W) (chain : Chain) : Op W Bool := do
  let w ← word b
  pure (w &&& chain.switchBit != 0)

def reset (b : Backing W) : Op W Unit := do
  b.acquire .chainSwitch
  b.configuration.put key defaultWord

end ChainSwitch

/-! ## The data saver switch -/

namespace DataSaver

variable {W : Type}

/-- The key of the flag. -/
def key : UInt32 := 0

def offFlag : UInt8 := 0

def onFlag : UInt8 := 1

def set (b : Backing W) (on : Bool) : Op W Unit := do
  b.acquire .dataSaver
  b.dataSaver.put key (if on then onFlag else offFlag)
  Act.emit ⟨.info, .dataSaver, "data saver updated", [("enabled", .flag on)]⟩

/-- Whether data saver is on.  A missing flag means that it is off, and any flag but the one for off
means that it is on. -/
def isOn (b : Backing W) : Op W Bool := do
  let flag ← b.dataSaver.get key
  pure (flag.any fun v => v != offFlag)

end DataSaver

/-! ## The statistics selector -/

namespace Stats

variable {W : Type}

/-- The configuration key of the selector. -/
def key : UInt32 := 1

def mapA : UInt32 := 0

def mapB : UInt32 := 1

def active (b : Backing W) : Op W UInt32 := do
  match ← b.configuration.get key with
  | some selector => pure selector
  | none => Act.fail (.resource "read stats map selector" Errno.noEntry)

/-- The selector of the other map.  A third value is that of no map, and there is nothing to go on
to from it. -/
def other? (selector : UInt32) : Option UInt32 :=
  if selector = mapA then some mapB
  else if selector = mapB then some mapA
  else none

/-- Stores the selector of the other map and answers it.  The lock is held for this only, and not
while the barrier is waited for. -/
def flip (b : Backing W) : Op W UInt32 := do
  b.acquire .statsSelector
  let current ← active b
  match other? current with
  | none =>
    Act.fail (.invalidArgument s!"stats map selector holds {current}, expected {mapA} or {mapB}")
  | some next => do
    b.configuration.put key next
    pure next

/-- Selects the other map and waits for the barrier.  When the barrier fails, the selector
has already changed. -/
def swap (b : Backing W) : Op W UInt32 := do
  let next ← flip b
  -- readers that started earlier may still use the old map, so the swap is over only after the
  -- barrier
  match ← b.barrier.attempt with
  | .error e => do
    Act.emit ⟨.error, .stats, "stats map swapped but kernel barrier failed",
      [("selector", .number next.toNat), ("error", .text e.message)]⟩
    Act.fail e
  | .ok () => do
    Act.emit ⟨.info, .stats, "active stats map swapped", [("selector", .number next.toNat)]⟩
    pure next

/-- Selects map A. -/
def reset (b : Backing W) : Op W Unit := do
  b.acquire .statsSelector
  b.configuration.put key mapA

end Stats

end UidPolicy
