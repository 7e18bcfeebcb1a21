import UidPolicy.Config.Basic
import UidPolicy.Yaml.Document

/-!
# Configuration documents

A document is a mapping of the sections `agent` and `maps`; what it leaves out has its default
value.  A section that is left out, or that is empty, has default values only.  A key that is
unknown or there twice, or a value of the wrong form, makes the whole document unacceptable.

* `Config.fields?` — the entries of a mapping by name.
* `Config.text?`, `flag?`, `choice?` — values: any text; a plain truth value; one of some words.
* `Config.ofDocument?` — the configuration of a document; `Config.read?` that of a text.
* `Config.parse` — the configuration of a text, checked.  `Config.parseBy` is the check on what
  any reader of texts finds.
-/

namespace UidPolicy

namespace Config

open Yaml

/-- The text of a node, however it is written. -/
def text? (d : Document) (node : Node) : Option String :=
  match d.content? node with
  | some (.scalar _ _ text) => some text
  | _ => none

/-- The entries of a mapping by name, each name once and among those expected.  A node that is
left out has none. -/
def fields? (d : Document) (expected : List String) (node : Node) :
    Option (List (String × Node)) :=
  match d.content? node with
  | some (.mapping entries) => do
    let fields ← entries.mapM fun (key, value) => (text? d key).map fun name => (name, value)
    let names := fields.map (·.1)
    if names.all expected.contains && names.eraseDups.length = names.length then some fields
    else none
  | some (.scalar _ .plain "") => some []
  | _ => none

def fieldOr? {α : Type} (fields : List (String × Node)) (name : String) (default : α)
    (read : Node → Option α) : Option α :=
  match fields.find? fun e => e.1 = name with
  | some (_, node) => read node
  | none => some default

def flagTag : TagName := TagName.ofText "tag:yaml.org,2002:bool"

/-- A truth value: a plain word in one of three spellings.  A literal block that is tagged as
one counts as plain. -/
def flag? (d : Document) (node : Node) : Option Bool :=
  match d.content? node with
  | some (.scalar tag style text) =>
    if style = .plain || (style = .literal && tag = some flagTag) then
      if ["true", "True", "TRUE"].contains text then some true
      else if ["false", "False", "FALSE"].contains text then some false
      else none
    else none
  | _ => none

/-- The spellings of the value that means nothing. -/
def nullWords : List String := ["", "~", "null", "Null", "NULL"]

/-- The text after the exclamation mark of a local tag; a tag that is not text is none. -/
def localName? : Option TagName → Option String
  | some (mark :: name) =>
    if [mark] = TagName.mark then String.fromUTF8? ⟨name.toArray⟩ else none
  | _ => none

/-- One of some words: as a text, or as a local tag of a value that means nothing. -/
def choice? {α : Type} (d : Document) (choices : List α) (word : α → String) (node : Node) :
    Option α :=
  match d.content? node with
  | some (.scalar tag style text) =>
    match localName? tag with
    | some name =>
      if style = .plain && nullWords.contains text then choices.find? fun c => word c == name
      else none
    | none => choices.find? fun c => word c == text
  | _ => none

/-- The configuration of a document. -/
def ofDocument? (d : Document) : Option Config := do
  let sections ← fields? d ["agent", "maps"] d.root
  let agent ← fieldOr? sections "agent" [] (fields? d ["log_level", "log_format"])
  let maps ← fieldOr? sections "maps" [] (fields? d ["bpf_fs", "pin_dir", "wait_for_writer"])
  pure
    { logLevel := ← fieldOr? agent "log_level" default.logLevel
        (choice? d Log.Level.all Log.Level.word)
      logFormat := ← fieldOr? agent "log_format" default.logFormat
        (choice? d Log.Format.all Log.Format.word)
      bpfFs := ← fieldOr? maps "bpf_fs" default.bpfFs (text? d)
      pinDir := ← fieldOr? maps "pin_dir" default.pinDir (text? d)
      waitForWriter := ← fieldOr? maps "wait_for_writer" default.waitForWriter (flag? d) }

/-- The configuration of a text; none if the text is no configuration document. -/
def read? (text : String) : Option Config := (Document.parse? text).bind ofDocument?

/-- What a reader finds in a text, checked. -/
def parseBy (read : String → Option Config) (text : String) : Except Error Config := do
  match read text with
  | none => throw .document
  | some c => do
    c.validate
    pure c

def parse (text : String) : Except Error Config := parseBy read? text

end Config

end UidPolicy
