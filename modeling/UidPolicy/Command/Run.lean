import UidPolicy.Command.Basic
import UidPolicy.Control.NetMaps
import UidPolicy.Text.Json

/-!
# Running commands

* `Printed` — what a command writes, and whether a batch was applied only in part.
* `Command.run` — runs a command on a backing.

A command that fails writes nothing; a batch that is applied in part writes its result and
then fails.
-/

namespace UidPolicy

/-- What a command that ran to its end leaves on standard output.  A batch that was applied in part
has something to show and fails all the same. -/
structure Printed where
  stdout : String
  /-- Why the command fails although it wrote its result. -/
  partialFailure : Option String
  deriving DecidableEq, Repr, Inhabited

def versionText : String := "0.1.0"

/-- What the command for the version prints. -/
def versionLine : Printed := ⟨s!"netmaps {versionText}\n", none⟩

namespace Command

variable {W : Type}

/-- A result in the form asked for.  Both forms are given by the command, so neither is made from
the other. -/
def emit (format : OutputFormat) (value : Json) (text : String) : Printed :=
  match format with
  | .json => ⟨value.pretty ++ "\n", none⟩
  | .text => ⟨text ++ "\n", none⟩

/-- The result of a command that has nothing to show but its success. -/
def done (format : OutputFormat) (what : String) : Printed :=
  emit format (.object [("ok", .bool true), ("op", .string what)]) what

/-- Ids separated by commas, in brackets. -/
def uidList (uids : List Uid) : String :=
  "[" ++ ", ".intercalate (uids.map toString) ++ "]"

def uidArray (uids : List Uid) : Json := .array (uids.map fun u => .number u.toNat)

/-- The result of a batch; a batch that is applied in part fails after it is shown. -/
def emitBatch (format : OutputFormat) (what : String) (o : BatchOutcome) : Op W Printed := do
  let value := Json.object [("applied", .number o.applied), ("failed", uidArray o.failed)]
  let text :=
    if o.failed.isEmpty then s!"{what}: {o.applied} applied"
    else s!"{what}: {o.applied} applied, failed uids: {uidList o.failed}"
  let printed := emit format value text
  if o.isComplete then pure printed
  else
    Act.emit ⟨.warn, .commands, "batch partially applied",
      [("what", .text what), ("failed", .number o.failed.length)]⟩
    pure { printed with partialFailure := some s!"{what}: {o.failed.length} uid(s) failed" }

def padRight (width : Nat) (s : String) : String :=
  s ++ String.ofList (List.replicate (width - s.length) ' ')

def padLeft (width : Nat) (s : String) : String :=
  String.ofList (List.replicate (width - s.length) ' ') ++ s

def statusLine (chain id kind state : String) : String :=
  s!"{padRight 20 chain} {padLeft 3 id}  {padRight 6 kind}  {padRight 8 state}"

def chainLine (enabled : MatchSet) (c : Chain) : String :=
  statusLine c.name (toString c.id) (if c.isAllowList then "allow" else "deny")
    (if enabled.contains c.bit then "enabled" else "disabled")

def chainRow (enabled : MatchSet) (c : Chain) : Json :=
  .object [("chain", .string c.serialized), ("id", .number c.id),
    ("allow_list", .bool c.isAllowList), ("enabled", .bool (enabled.contains c.bit))]

/-- The name of a statistics map by its selector. -/
def statsMapName (selector : UInt32) : String :=
  if selector = Stats.mapA then "A" else "B"

def hexByte (b : UInt8) : String :=
  let ds := Nat.toDigits 16 b.toNat
  "0x" ++ String.ofList (List.replicate (2 - ds.length) '0' ++ ds)

def nameArray (names : List String) : Json := .array (names.map .string)

def onOff (on : Bool) : String := if on then "on" else "off"

def discardText (addr : IpAddress) : Option DiscardRule → String
  | some r =>
    if r.iif1 = r.iif2 then s!"{addr.render}: iif {r.iif1}"
    else s!"{addr.render}: iif {r.iif1} or {r.iif2}"
  | none => s!"{addr.render}: no rule"

def discardJson : Option DiscardRule → Json
  | some r => .object [("iif1", .number r.iif1.toNat), ("iif2", .number r.iif2.toNat)]
  | none => .null

/-- Runs a command on a backing.  The backing may be that of the kernel or one in memory: a command
knows of neither. -/
def run (b : Backing W) (format : OutputFormat) : Command → Op W Printed
  | version => pure versionLine
  | init => do
    NetMaps.init b
    pure (done format "maps initialized")
  | ruleAdd chain uid => do
    Firewall.addRule b uid chain.bit 0
    pure (done format s!"uid {uid} added to {chain.name}")
  | ruleRemove chain uid => do
    Firewall.removeRule b uid chain.bit
    pure (done format s!"uid {uid} removed from {chain.name}")
  | ruleSet chain uid verdict => do
    Firewall.setUidRule b chain uid verdict
    pure (done format s!"uid {uid} set to {verdict.word} on {chain.name}")
  | ruleGet chain uid => do
    let verdict ← Firewall.getUidRule b chain uid
    pure (emit format
      (.object [("chain", .string chain.serialized), ("rule", .string verdict.word),
        ("uid", .number uid.toNat)])
      verdict.word)
  | chainReplace chain uids => do
    let outcome ← Firewall.replaceChain b chain uids
    emitBatch format s!"replace {chain.name}" outcome
  | chainEnable chain => do
    ChainSwitch.setEnabled b chain true
    pure (done format s!"{chain.name} enabled")
  | chainDisable chain => do
    ChainSwitch.setEnabled b chain false
    pure (done format s!"{chain.name} disabled")
  | chainStatus => do
    let enabled ← ChainSwitch.enabled b
    pure (emit format (.array (Chain.all.map (chainRow enabled)))
      ("\n".intercalate
        (statusLine "CHAIN" "ID" "KIND" "STATE" :: Chain.all.map (chainLine enabled))))
  | chainList chain => do
    let uids ← Firewall.uidsWithRule b chain
    pure (emit format
      (.object [("chain", .string chain.serialized), ("uids", uidArray uids)])
      ("\n".intercalate (uids.map toString)))
  | lockdownAdd uid => do
    Firewall.setLockdown b uid true
    pure (done format s!"lockdown added for uid {uid}")
  | lockdownRemove uid => do
    Firewall.setLockdown b uid false
    pure (done format s!"lockdown removed for uid {uid}")
  | ifaceAdd iface uids => do
    let outcome ← Firewall.addInterfaceRules b iface uids
    let name := iface.getD "any"
    emitBatch format s!"iface {name}" outcome
  | ifaceRemove uids => do
    let outcome ← Firewall.removeInterfaceRules b uids
    emitBatch format "iface remove" outcome
  | statsSwap => do
    let active ← Stats.swap b
    pure (emit format (.object [("active", .string (statsMapName active))])
      s!"active stats map: {statsMapName active}")
  | statsActive => do
    let active ← Stats.active b
    pure (emit format (.object [("active", .string (statsMapName active))])
      (statsMapName active))
  | permSet mask uids => do
    let outcome ← Permissions.setAll b mask uids
    emitBatch format s!"permission {hexByte mask}" outcome
  | permGet uid => do
    let perm ← Permissions.get b uid
    pure (emit format
      (.object [("mask", .number perm.bits.toNat), ("permissions", nameArray perm.names),
        ("uid", .number uid.toNat)])
      (hexByte perm.bits ++ " [" ++ ", ".intercalate perm.names ++ "]"))
  | discardSet addr iface => do
    IngressDiscard.set b addr iface
    pure (done format s!"discard {addr.render} unless via {iface}")
  | discardRemove addr => do
    IngressDiscard.remove b addr
    pure (done format s!"discard rule for {addr.render} removed")
  | discardGet addr => do
    let rule ← IngressDiscard.get b addr
    pure (emit format
      (.object [("addr", .string addr.render), ("rule", discardJson rule)])
      (discardText addr rule))
  | dataSaverOn => do
    DataSaver.set b true
    pure (done format s!"data saver {onOff true}")
  | dataSaverOff => do
    DataSaver.set b false
    pure (done format s!"data saver {onOff false}")
  | dataSaverStatus => do
    let on ← DataSaver.isOn b
    pure (emit format (.object [("enabled", .bool on)]) (onOff on))
  | blocked uid metered => do
    let reasons ← NetMaps.reasons b uid
    let isBlocked ← NetMaps.isBlocked b uid metered
    let verdict := if isBlocked then "blocked" else "allowed"
    pure (emit format
      (.object [("blocked", .bool isBlocked), ("metered", .bool metered),
        ("reason_names", nameArray reasons.names), ("reasons", .number reasons.bits.toNat),
        ("uid", .number uid.toNat)])
      (if reasons.names.isEmpty then verdict
       else verdict ++ " [" ++ ", ".intercalate reasons.names ++ "]"))
  | sizes => do
    let s ← NetMaps.sizes b
    pure (emit format
      (.object [("cookie_tag", .number s.cookieTag), ("uid_owner", .number s.uidOwner),
        ("uid_permission", .number s.uidPermission)])
      (s!"cookie_tag:     {s.cookieTag}\nuid_owner:      {s.uidOwner}\n"
        ++ s!"uid_permission: {s.uidPermission}"))

end Command

end UidPolicy
