import UidPolicy.Log.Filter
import UidPolicy.Text.Json

/-!
# Log lines

* `Subscriber` — what becomes of events: the filter and the format.
* `Subscriber.install` — sets one up, once.  The filter of the environment comes before the
  level of the settings, if it can be read.
* `Line` — an event that is let through, with the span that it is shown in.
* `Subscriber.lines` — the lines of a run within a span.
* `Line.json` — a line as structured output; the fields of the event stand beside its level and
  its message.
* `Line.render` — a line in a format.
-/

namespace UidPolicy

namespace Log

/-- What becomes of events. -/
structure Subscriber where
  filter : Filter
  format : Format
  deriving DecidableEq, Repr, Inhabited

/-- There is a subscriber already.  A process has one for good, so a second one is refused and the
first one stays. -/
structure AlreadyInstalled where
  deriving DecidableEq, Repr, Inhabited

def AlreadyInstalled.message (_ : AlreadyInstalled) : String :=
  "failed to install logging subscriber: a global default trace dispatcher has already been set"

namespace Subscriber

/-- Sets up the subscriber of a process, where there is none yet. -/
def install (current : Option Subscriber) (level : Level) (format : Format)
    (environment : Option String) : Except AlreadyInstalled Subscriber :=
  match current with
  | some _ => .error ⟨⟩
  | none => .ok ⟨(environment.bind Filter.parse?).getD (.ofLimit (some level)), format⟩

end Subscriber

/-- An event that is let through, and the span that it is shown in. -/
structure Line where
  event : Event
  span : Option Span
  deriving DecidableEq, Repr, Inhabited

/-- The lines of a run within a span. -/
def Subscriber.lines (s : Subscriber) (span : Span) (events : List Event) : List Line :=
  (events.filter fun e => s.filter.lets span e).map fun e =>
    ⟨e, if s.filter.shows span then some span else none⟩

def FieldValue.json : FieldValue → Json
  | number n => .number n
  | flag b => .bool b
  | text s => .string s

def Span.json (s : Span) : Json :=
  .object ((s.fields.map fun field => (field.1, Json.string field.2)) ++ [("name", .string s.name)])

def Line.json (l : Line) : Json :=
  .object ([("level", Json.string l.event.level.label), ("message", .string l.event.message)]
    ++ (l.event.fields.map fun field => (field.1, field.2.json))
    ++ (l.span.map fun s => ("span", s.json)).toList)

def FieldValue.render : FieldValue → String
  | number n => toString n
  | flag b => toString b
  | text s => s

def Line.text (l : Line) : String :=
  let fields := l.event.fields.map fun field => s!", {field.1}: {field.2.render}"
  s!"{l.event.level.label} {l.event.component.target}: {l.event.message}" ++ String.join fields

def Line.render (l : Line) : Format → String
  | .json => l.json.compact
  | .text => l.text

end Log

end UidPolicy
