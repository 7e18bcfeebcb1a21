/-!
# Log events

What an operation reports while it runs.  An event has a level, the component that reports
it, a message and named fields; how it is shown is not its business.

* `Level` — how grave an event is, and `Level.rank` for comparing two levels.
* `Component` — who reports; `Component.target` is the path that log filters match.
* `Event` — one report.
* `Level.word`, `Level.parse` — a level in lower case, and read whatever the case of its ASCII
  letters; `warning` is a second word for `warn`.
* `Format` — structured lines or text; `Format.word`, `Format.parse` likewise, with `pretty`
  as a second word for `text`.
-/

namespace UidPolicy

namespace Log

inductive Level where
  | error | warn | info | debug | trace
  deriving DecidableEq, Repr, Inhabited

namespace Level

/-- Graver levels have a smaller rank. -/
def rank : Level → Nat
  | error => 1
  | warn => 2
  | info => 3
  | debug => 4
  | trace => 5

def label : Level → String
  | error => "ERROR"
  | warn => "WARN"
  | info => "INFO"
  | debug => "DEBUG"
  | trace => "TRACE"

end Level

/-- The part of the program that reports an event. -/
inductive Component where
  | firewall | chainSwitch | stats | permissions | ingress | dataSaver | netMaps
  | pinnedHash | pinnedArray | loader | barrier | interfaces
  | config | configFile
  | agent | startup | commands
  deriving DecidableEq, Repr, Inhabited

/-- The path that log filters match a component by. -/
def Component.target : Component → String
  | firewall => "application::firewall_chain_service_impl"
  | chainSwitch => "application::config_service_impl"
  | stats => "application::stats_map_service_impl"
  | permissions => "application::permission_service_impl"
  | ingress => "application::ingress_discard_service_impl"
  | dataSaver => "application::data_saver_service_impl"
  | netMaps => "application::net_maps"
  | pinnedHash => "adapters::ebpf::pinned_map"
  | pinnedArray => "adapters::ebpf::pinned_array"
  | loader => "adapters::ebpf::loader"
  | barrier => "adapters::ebpf::kernel_sync"
  | interfaces => "adapters::ebpf::interface_resolver"
  | config => "infrastructure::config"
  | configFile => "infrastructure::config::common"
  | agent => "netmaps"
  | startup => "netmaps::startup"
  | commands => "netmaps::commands"

/-- The value of a named field of an event. -/
inductive FieldValue where
  | number (n : Nat)
  | flag (b : Bool)
  | text (s : String)
  deriving DecidableEq, Repr, Inhabited

structure Event where
  level : Level
  component : Component
  message : String
  fields : List (String × FieldValue)
  deriving DecidableEq, Repr, Inhabited

end Log

/-! ## Words of levels and formats -/

namespace Log

/-- A word that is not one of the words expected. -/
structure UnknownWord where
  /-- What the word was to name. -/
  what : String
  text : String
  expected : String
  deriving DecidableEq, Repr, Inhabited

/-- The text of the error; the word stands in it as it was written. -/
def UnknownWord.message (e : UnknownWord) : String :=
  s!"invalid {e.what} '{e.text}': expected {e.expected}"

namespace Level

def all : List Level := [error, warn, info, debug, trace]

def word : Level → String
  | error => "error"
  | warn => "warn"
  | info => "info"
  | debug => "debug"
  | trace => "trace"

def ofWord? : String → Option Level
  | "error" => some error
  | "warn" | "warning" => some warn
  | "info" => some info
  | "debug" => some debug
  | "trace" => some trace
  | _ => none

/-- The level of a word, whatever the case of its ASCII letters. -/
def parse (text : String) : Except UnknownWord Level :=
  match ofWord? (text.map Char.toLower) with
  | some level => .ok level
  | none => .error ⟨"log level", text, "error|warn|info|debug|trace"⟩

end Level

inductive Format where
  | json
  /-- Text for people. -/
  | text
  deriving DecidableEq, Repr, Inhabited

namespace Format

def all : List Format := [json, text]

def word : Format → String
  | json => "json"
  | text => "text"

def ofWord? : String → Option Format
  | "json" => some json
  | "text" | "pretty" => some text
  | _ => none

/-- The format of a word, whatever the case of its ASCII letters. -/
def parse (input : String) : Except UnknownWord Format :=
  match ofWord? (input.map Char.toLower) with
  | some format => .ok format
  | none => .error ⟨"log format", input, "json|text"⟩

end Format

end Log

end UidPolicy
