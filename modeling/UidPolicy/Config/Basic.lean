import UidPolicy.Fault
import UidPolicy.Log.Event
import UidPolicy.Path
import UidPolicy.Pinned.Mode

/-!
# Configuration

Where the pinned maps are, how they are locked, and how much is logged.

* `Config` — the settings, `Config.default` their values when nothing is said.
* `Config.validate` — the root of the BPF file system is an absolute path, and the directory
  of the maps is one name.
* `Config.pinRoot` — the directory of the pinned maps.
* `Config.modes` — how a command opens the maps.
-/

namespace UidPolicy

structure Config where
  logLevel : Log.Level
  logFormat : Log.Format
  /-- The root of the BPF file system. -/
  bpfFs : String
  /-- The directory of the pinned maps, below that root. -/
  pinDir : String
  /-- Whether a writer waits for another one to finish. -/
  waitForWriter : Bool
  deriving DecidableEq, Repr, Inhabited

namespace Config

/-- Where the configuration is looked for when no path is given. -/
def defaultPath : String := "/etc/netmaps/config.yaml"

def default : Config where
  logLevel := .info
  logFormat := .json
  bpfFs := "/sys/fs/bpf"
  pinDir := "netd_shared"
  waitForWriter := false

/-- Why a file cannot be read as text. -/
inductive ReadError where
  | system (errno : Errno)
  /-- The path holds a NUL character, which no file name can. -/
  | pathWithNul
  | notText
  deriving DecidableEq, Repr, Inhabited

def ReadError.message : ReadError → String
  | system errno => errno.message
  | pathWithNul => "file name contained an unexpected NUL byte"
  | notText => "stream did not contain valid UTF-8"

/-- Why there is no configuration. -/
inductive Error where
  | read (cause : ReadError)
  /-- The text is no configuration document. -/
  | document
  /-- A setting has an unacceptable value. -/
  | setting (field reason : String)
  deriving DecidableEq, Repr, Inhabited

def Error.message : Error → String
  | read cause => s!"I/O error reading config: {cause.message}"
  | document => "YAML parse error"
  | setting field reason => s!"validation error: {field}: {reason}"

/-- The texts of an error and of what caused it, outermost first. -/
def Error.chain : Error → List String
  | read cause => [(Error.read cause).message, cause.message]
  | e => [e.message]

/-- Whether a path means one entry of the directory that it is looked at from.  Dots and empty
segments are skipped, as they are when the path is opened. -/
def isSingleName (path : String) : Bool :=
  match Path.components path with
  | [.normal _] => true
  | _ => false

def validate (c : Config) : Except Error Unit :=
  if !Path.isAbsolute c.bpfFs then
    .error (.setting "maps.bpf_fs" s!"'{c.bpfFs}' must be an absolute path")
  else if !isSingleName c.pinDir then
    .error (.setting "maps.pin_dir" s!"'{c.pinDir}' must be a single directory name")
  else .ok ()

/-- The directory of the pinned maps. -/
def pinRoot (c : Config) : String := Path.join c.bpfFs c.pinDir

/-- How a command opens the maps: one that only reads takes no lock, and every other is the
only writer. -/
def modes (c : Config) (readOnly : Bool) : Access × Sharing :=
  if readOnly then (.readOnly, .lockless)
  else (.readWrite, if c.waitForWriter then .singleWait else .single)

end Config

end UidPolicy
