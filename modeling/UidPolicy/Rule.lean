import UidPolicy.Fault
import UidPolicy.MatchSet
import UidPolicy.Uid

/-!
# Rules

What is known about one user id: its rule word, and the interface that its interface match
refers to.

* `OwnerRecord` — word and interface index.
* `OwnerRecord.withMatch`, `withoutMatch` — add or clear matches.  The index follows the
  interface match only when that match comes alone.
* `OwnerRecord.validateAdd` — an index other than zero needs the interface match alone.
* `OwnerEntry` — the stored form, with its padding.
* `Verdict` — whether a chain lets a user id through.
* `Verdict.parse` — a verdict by its word, whatever the case of its ASCII letters.
* `staleUids` — the ids that hold a bit and are not in the list that replaces the holders,
  each once, in the order in which they were first seen to hold it.
-/

namespace UidPolicy

/-! ## Records -/

/-- What is known about one user id.  A record without matches says the same as no record, so it is
not stored. -/
structure OwnerRecord where
  /-- The interface that the interface match refers to; zero is any interface. -/
  iif : UInt32
  rule : MatchSet
  deriving DecidableEq, Repr, Inhabited

/-- A stored record: interface index, padding, rule word.  The padding aligns the word to eight
bytes; it is read from the kernel and means nothing, but it is part of the stored bytes. -/
structure OwnerEntry where
  iif : UInt32
  pad : UInt32
  rule : UInt64
  deriving DecidableEq, Repr, Inhabited

namespace OwnerRecord

/-- The record of a user id about which nothing is known. -/
def empty : OwnerRecord := ⟨0, .empty⟩

/-- Whether an addition is acceptable: an index other than zero needs the interface match
alone. -/
def validateAdd (added : MatchSet) (iif : UInt32) : Except RuleError Unit :=
  if iif ≠ 0 ∧ added ≠ .iif then
    .error (.indexWithoutIif iif ("|".intercalate added.names))
  else .ok ()

/-- The record with matches added.  The index that comes with them is taken over only if they are
the interface match and nothing else. -/
def withMatch (r : OwnerRecord) (added : MatchSet) (iif : UInt32) : OwnerRecord where
  iif := if added = .iif then iif else r.iif
  rule := r.rule ∪ added

/-- The record with matches cleared.  The index is set to zero only if they are the interface match
and nothing else, as in `withMatch`. -/
def withoutMatch (r : OwnerRecord) (cleared : MatchSet) : OwnerRecord where
  iif := if cleared = .iif then 0 else r.iif
  rule := r.rule \ cleared

def isEmpty (r : OwnerRecord) : Bool := r.rule.isEmpty

/-- The stored form of a record, with padding zero. -/
def toEntry (r : OwnerRecord) : OwnerEntry := ⟨r.iif, 0, r.rule.bits⟩

/-- The record of a stored form; padding is dropped and unknown bits are kept. -/
def ofEntry (e : OwnerEntry) : OwnerRecord := ⟨e.iif, ⟨e.rule⟩⟩

@[simp] theorem ofEntry_toEntry (r : OwnerRecord) : ofEntry r.toEntry = r := rfl

@[simp] theorem pad_toEntry (r : OwnerRecord) : r.toEntry.pad = 0 := rfl

end OwnerRecord

/-! ## Verdicts -/

inductive Verdict where
  | allow | deny
  deriving DecidableEq, Repr, Inhabited

/-- A word that is no verdict.  It is kept in lower case, which is how the message quotes it. -/
structure UnknownVerdict where
  text : String
  deriving DecidableEq, Repr, Inhabited

def UnknownVerdict.message (e : UnknownVerdict) : String :=
  s!"unknown rule '{e.text}', expected allow or deny"

namespace Verdict

def word : Verdict → String
  | allow => "allow"
  | deny => "deny"

/-- The verdict of a word; the case of ASCII letters does not count. -/
def parse (text : String) : Except UnknownVerdict Verdict :=
  let lower := text.map Char.toLower
  if lower = "allow" then .ok allow
  else if lower = "deny" then .ok deny
  else .error ⟨lower⟩

end Verdict

/-! ## Stale ids -/

/-- The members of a list that are not among those seen, each once, in order of their first
occurrence. -/
def firstOccurrences (seen : List Uid) : List Uid → List Uid
  | [] => []
  | uid :: rest =>
    if uid ∈ seen then firstOccurrences seen rest
    else uid :: firstOccurrences (uid :: seen) rest

/-- The ids that hold `bit` in a walk over the records and are not in `replacement`.  A walk
may show an id several times; the id counts from the first time it is seen with the bit. -/
def staleUids (walk : List (Uid × MatchSet)) (bit : MatchSet) (replacement : List Uid) :
    List Uid :=
  firstOccurrences []
    ((walk.filter fun e => e.2.contains bit && !replacement.contains e.1).map (·.1))

end UidPolicy
