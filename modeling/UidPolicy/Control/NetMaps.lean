import UidPolicy.BlockedReasons
import UidPolicy.Control.Stored
import UidPolicy.Control.Switches

/-!
# The maps together

* `NetMaps.init` — resets what the controllers own: the chain-enable word, the selector, the
  rule records, data saver, the ingress discard rules, in this order.
* `NetMaps.reasons`, `isBlocked`, `isRestricted` — why and whether an id is blocked.
* `NetMaps.sizes` — the entry counts.
-/

namespace UidPolicy

namespace NetMaps

variable {W : Type}

/-- The steps of the initialisation, each with the name that its failure is reported by.  Their
order is that in which an initialisation that stops has reset the maps. -/
def initSteps (b : Backing W) : List (String × Op W Unit) :=
  [("reset uid rules configuration", ChainSwitch.reset b),
   ("reset stats map selector", Stats.reset b),
   ("clear uid owner map", Firewall.clear b),
   ("disable data saver", DataSaver.set b false),
   ("clear ingress discard map", IngressDiscard.clear b)]

/-- Runs named steps in order and stops at the first that fails.  What the steps before it have done
is not undone. -/
def runSteps : List (String × Op W Unit) → Op W Unit
  | [] => pure ()
  | (name, step) :: rest => do
    match ← step.attempt with
    | .ok () => runSteps rest
    | .error e => do
      Act.emit ⟨.error, .netMaps, "netd map initialization failed",
        [("step", .text name), ("error", .text e.message)]⟩
      Act.fail (.initFailed s!"{name}: {e.message}")

/-- Resets what the controllers own to its start-up state.  The permissions and the tagged
sockets stay. -/
def init (b : Backing W) : Op W Unit := do
  runSteps (initSteps b)
  Act.emit ⟨.info, .netMaps, "netd maps initialized", []⟩

/-- Why traffic of an id is dropped.  The three reads are not one snapshot, and they are made before
it is known whether the id is that of a system service. -/
def reasons (b : Backing W) (uid : Uid) : Op W BlockedReasons := do
  let enabled ← ChainSwitch.enabled b
  let current ← Firewall.record b uid
  let saver ← DataSaver.isOn b
  -- an id without a record is one whose word is empty
  pure (blockedReasons uid enabled ((current.map (·.rule)).getD .empty) saver)

/-- Whether traffic of an id is dropped on a network. -/
def isBlocked (b : Backing W) (uid : Uid) (metered : Bool) : Op W Bool := do
  let r ← reasons b uid
  pure (r.isBlocked metered)

/-- Whether there is a reason that counts on metered networks only. -/
def isRestricted (b : Backing W) (uid : Uid) : Op W Bool := do
  let r ← reasons b uid
  pure (!r.metered.isEmpty)

/-- The entry counts of the maps. -/
structure Sizes where
  cookieTag : Nat
  uidOwner : Nat
  uidPermission : Nat
  deriving DecidableEq, Repr, Inhabited

/-- The number of distinct keys with a value along a walk.  Keys that have lost their value since
they were listed are not counted. -/
def distinctKeys {K V : Type} [DecidableEq K] (t : Table W K V) : Op W Nat := do
  let walk ← t.entries
  pure (walk.map (·.1)).eraseDups.length

/-- Counts the entries.  A walk may repeat keys, so distinct keys are counted. -/
def sizes (b : Backing W) : Op W Sizes := do
  -- the maps are walked one after the other: the numbers need not be of one moment
  let cookieTag ← distinctKeys b.cookieTag
  let uidOwner ← distinctKeys b.uidOwner
  let uidPermission ← distinctKeys b.uidPermission
  pure ⟨cookieTag, uidOwner, uidPermission⟩

end NetMaps

end UidPolicy
