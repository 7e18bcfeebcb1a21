import UidPolicy.Cli.Invocation
import UidPolicy.Command.Run
import UidPolicy.Config.Load
import UidPolicy.Log.Line
import UidPolicy.Pinned.Maps

/-!
# The program

One run of the program: read the command line and the configuration, set up logging, open the
pinned maps, run the command and close the maps.

* `Failure` — why a run fails; `Failure.chain` is its text and its causes, and
  `Failure.render` shows them together.
* `Environment` — the files and the log filter that a process finds.
* `Program.configure` — the configuration and the subscriber.
* `Program.operate` — a command over the configured maps.
* `Program.run` — the whole.
-/

namespace UidPolicy

/-- Why a run of the program fails.  The stages come in this order, and a failure at one of them is
the end. -/
inductive Failure where
  | config (path : String) (cause : Config.Error)
  | logging (cause : Log.AlreadyInstalled)
  | maps (cause : PinnedMaps.Error)
  /-- The command fails. -/
  | command (fault : Fault)
  /-- The command was applied in part, and has shown its result. -/
  | applied (message : String)
  deriving DecidableEq, Repr, Inhabited

/-- The text of a failure and of what caused it, outermost first. -/
def Failure.chain : Failure → List String
  | config path cause => s!"loading {path}" :: cause.chain
  | logging cause => [cause.message]
  | maps cause => cause.chain
  | command fault => [fault.message]
  | applied message => [message]

/-- The lines of what caused a failure; more than one cause is numbered. -/
def Failure.causeLines : List String → List String
  | [] => []
  | [cause] => ["", "Caused by:", "    " ++ cause]
  | causes => "" :: "Caused by:" :: causes.zipIdx.map fun e => s!"    {e.2}: {e.1}"

/-- A failure as the operator sees it. -/
def Failure.render (f : Failure) : String :=
  let head := "Error: " ++ f.chain.headD ""
  "\n".intercalate (head :: causeLines f.chain.tail)

/-- What a process finds. -/
structure Environment where
  files : Files
  /-- The log filter, if one is set. -/
  logFilter : Option String
  deriving Inhabited

/-- What a run shows: to the operator, in the log and to the shell. -/
structure Report where
  stdout : String
  failure : Option Failure
  format : Log.Format
  log : List Log.Line
  deriving Inhabited

namespace Program

def serviceSpan : Log.Span where
  name := "service"
  level := .info
  component := .agent
  fields := [("service.name", "netmaps"), ("service.version", versionText)]

/-- Reads the configuration and sets up logging.  Only at its usual place may the file be
missing, and the command line comes before the file. -/
def configure (current : Option Log.Subscriber) (env : Environment) (i : Cli.Invocation) :
    Except Failure (Config × Log.Subscriber) := do
  let allowMissing := i.config == Config.defaultPath
  let config ← ((Config.loadOrDefault i.config allowMissing).run env.files).result.mapError
    (Failure.config i.config)
  let subscriber ← (Log.Subscriber.install current (i.logLevel.getD config.logLevel)
    (i.logFormat.getD config.logFormat) env.logFilter).mapError Failure.logging
  pure (config, subscriber)

/-- The answer of a command: what it prints, and why it fails all the same. -/
def answer : Except Failure Printed → String × Option Failure
  | .ok p => (p.stdout, p.partialFailure.map Failure.applied)
  | .error f => ("", some f)

/-- Runs a command over the configured maps, which are closed at the end.  What was written stays,
whatever the command answers. -/
def overMaps (config : Config) (format : OutputFormat) (command : Command) :
    Act Failure Kernel Printed := do
  let maps ← (PinnedMaps.openFor config command.isReadOnly).mapError Failure.maps
  -- The maps are closed whatever comes out.
  let printed ← ((command.run maps.backing format).mapError Failure.command).attempt
  Act.modify maps.close
  Act.ofExcept printed

/-- Runs a command; the one for the version needs no maps. -/
def operate (config : Config) (format : OutputFormat) (command : Command) :
    Act Failure Kernel Printed :=
  if command = .version then pure versionLine else overMaps config format command

/-- A run of the program, and the machine after it.  The command for the version needs no
configuration either. -/
def run (env : Environment) (i : Cli.Invocation) (k : Kernel) : Report × Kernel :=
  if i.command = .version then (⟨versionLine.stdout, none, .json, []⟩, k)
  else
    match configure none env i with
    | .error f => (⟨"", some f, .json, []⟩, k)
    | .ok (config, subscriber) =>
      let o := (operate config i.output i.command).run k
      let (stdout, failure) := answer o.result
      (⟨stdout, failure, subscriber.format, subscriber.lines serviceSpan o.events⟩, o.world)

end Program

end UidPolicy
