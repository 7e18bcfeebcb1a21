import UidPolicy.SortedMap
import UidPolicy.Text.Digits

/-!
# IP addresses

* `IpAddress` — an IPv4 or an IPv6 address as one word.
* `IpAddress.parse?` — the address of a text: four decimal groups, or up to eight
  hexadecimal groups with at most one `::` and an optional IPv4 address as the last two
  groups.
* `IpAddress.render` — the canonical text: lower case, no leading zeros, the first longest
  run of two or more zero groups as `::`, mapped IPv4 addresses with decimal groups.
* `DiscardKey` — the address of an ingress discard rule in its stored form, sixteen bytes.
* `IpAddress.discardKey` — the stored form; an IPv4 address shares it with the IPv6 address
  that maps it.
* `DiscardRule` — the two interfaces on which traffic to an address may come in; anywhere else
  it is dropped.
-/

namespace UidPolicy

/-- An IP address, its first group in the highest bits. -/
inductive IpAddress where
  | v4 (word : BitVec 32)
  | v6 (word : BitVec 128)
  deriving DecidableEq, Repr, Inhabited

namespace IpAddress

/-! ## Reading -/

def decimalDigit? (c : Char) : Option Nat :=
  (hexDigit? c).filter (· < 10)

/-- The digits that a text starts with, as values, and the rest. -/
def digits (digit? : Char → Option Nat) : List Char → List Nat × List Char
  | [] => ([], [])
  | c :: rest =>
    match digit? c with
    | none => ([], c :: rest)
    | some d =>
      let (ds, rest') := digits digit? rest
      (d :: ds, rest')

/-- The number that a list of digits writes in a base. -/
def ofDigits (base : Nat) (ds : List Nat) : Nat := ds.foldl (fun n d => base * n + d) 0

/-- A decimal group of an IPv4 address: one to three digits without a leading zero, at most
255. -/
def readOctet? (text : List Char) : Option (Nat × List Char) :=
  let (ds, rest) := digits decimalDigit? text
  if ds.isEmpty || ds.length > 3 || (ds.length > 1 && ds.head? == some 0) then none
  else
    let n := ofDigits 10 ds
    if n > 255 then none else some (n, rest)

/-- A hexadecimal group of an IPv6 address: one to four digits. -/
def readGroup? (text : List Char) : Option (Nat × List Char) :=
  let (ds, rest) := digits hexDigit? text
  if ds.isEmpty || ds.length > 4 then none else some (ofDigits 16 ds, rest)

/-- What stands before every group but the first. -/
def readSeparator? (sep : Char) (first : Bool) : List Char → Option (List Char)
  | text => if first then some text
    else match text with
      | c :: rest => if c = sep then some rest else none
      | [] => none

def readV4? (text : List Char) : Option (BitVec 32 × List Char) := do
  let (a, text) ← readOctet? text
  let (b, text) ← readSeparator? '.' false text >>= readOctet?
  let (c, text) ← readSeparator? '.' false text >>= readOctet?
  let (d, text) ← readSeparator? '.' false text >>= readOctet?
  pure (BitVec.ofNat 32 (((a * 256 + b) * 256 + c) * 256 + d), text)

/-- The groups of a part of an IPv6 address, at most `limit` of them. -/
structure Groups where
  groups : List Nat
  /-- Whether the last two groups were written as an IPv4 address. -/
  endsInV4 : Bool
  rest : List Char

/-- Reads groups as long as there are some, at most `limit`.  Where two groups still have
room, an IPv4 address may stand for them, and ends the part. -/
def readGroups (first : Bool) : (limit : Nat) → List Char → Groups
  | 0, text => ⟨[], false, text⟩
  | limit + 1, text =>
    let v4 := if limit ≥ 1 then readSeparator? ':' first text >>= readV4? else none
    match v4 with
    | some (word, rest) => ⟨[word.toNat / 65536, word.toNat % 65536], true, rest⟩
    | none =>
      match readSeparator? ':' first text >>= readGroup? with
      | some (group, rest) =>
        let more := readGroups false limit rest
        { more with groups := group :: more.groups }
      | none => ⟨[], false, text⟩

/-- The word of eight groups. -/
def ofGroups (groups : List Nat) : BitVec 128 :=
  BitVec.ofNat 128 (ofDigits 65536 groups)

/-- Eight groups, or fewer with one `::` in the place of the zero groups left out.  It stands for
one group at least. -/
def readV6? (text : List Char) : Option (BitVec 128 × List Char) :=
  let head := readGroups true 8 text
  if head.groups.length = 8 then some (ofGroups head.groups, head.rest)
  -- an IPv4 address ends the text, so nothing can be left out behind it
  else if head.endsInV4 then none
  else
    match head.rest with
    | ':' :: ':' :: rest =>
      let tail := readGroups true (7 - head.groups.length) rest
      let zeros := 8 - head.groups.length - tail.groups.length
      some (ofGroups (head.groups ++ List.replicate zeros 0 ++ tail.groups), tail.rest)
    | _ => none

def parse? (text : String) : Option IpAddress :=
  let (addr, rest) :=
    match readV4? text.toList with
    | some (word, rest) => (some (v4 word), rest)
    | none =>
      match readV6? text.toList with
      | some (word, rest) => (some (v6 word), rest)
      | none => (none, [])
  -- the whole text has to be the address
  if rest.isEmpty then addr else none

/-! ## Writing -/

def groups (word : BitVec 128) : List Nat :=
  (List.range 8).map fun i => word.toNat >>> (16 * (7 - i)) % 65536

def renderV4 (word : BitVec 32) : String :=
  let n := word.toNat
  s!"{n / 16777216}.{n / 65536 % 256}.{n / 256 % 256}.{n % 256}"

def hex (n : Nat) : String := String.ofList (Nat.toDigits 16 n)

structure ZeroRun where
  start : Nat
  length : Nat
  deriving Inhabited

/-- The first longest run of zero groups, scanning from place `i` with `current` the run that
ends there and `longest` the best one so far. -/
def longestZeroRun (i : Nat) (current longest : ZeroRun) : List Nat → ZeroRun
  | [] => longest
  | g :: rest =>
    if g = 0 then
      let current := ⟨if current.length = 0 then i else current.start, current.length + 1⟩
      -- of runs of one length the first is kept
      let longest := if current.length > longest.length then current else longest
      longestZeroRun (i + 1) current longest rest
    else longestZeroRun (i + 1) ⟨0, 0⟩ longest rest

def renderV6 (word : BitVec 128) : String :=
  if word.toNat / 4294967296 = 0xffff then
    s!"::ffff:{renderV4 (BitVec.ofNat 32 (word.toNat % 4294967296))}"
  else
    let gs := groups word
    let part (l : List Nat) : String := ":".intercalate (l.map hex)
    let run := longestZeroRun 0 ⟨0, 0⟩ ⟨0, 0⟩ gs
    -- a single zero group is written out, as leaving it out would save nothing
    if run.length > 1 then
      s!"{part (gs.take run.start)}::{part (gs.drop (run.start + run.length))}"
    else part gs

/-- The canonical text of an address. -/
def render : IpAddress → String
  | v4 word => renderV4 word
  | v6 word => renderV6 word

end IpAddress

/-! ## Ingress discard rules -/

/-- An address in its stored form: sixteen bytes, the first one in the highest bits.  An IPv4
address is stored as the IPv6 address that it maps to. -/
structure DiscardKey where
  word : BitVec 128
  deriving DecidableEq, Repr, Inhabited

namespace DiscardKey

instance : Ranked DiscardKey where
  rank k := k.word.toNat
  rank_injective := by
    rintro ⟨a⟩ ⟨b⟩ h
    exact congrArg _ (BitVec.eq_of_toNat_eq h)

def hexDigits (k : DiscardKey) : String :=
  let ds := Nat.toDigits 16 k.word.toNat
  String.ofList (List.replicate (32 - ds.length) '0' ++ ds)

end DiscardKey

/-- The stored form of an address. -/
def IpAddress.discardKey : IpAddress → DiscardKey
  | v4 word => ⟨BitVec.ofNat 128 (0xffff * 4294967296 + word.toNat)⟩
  | v6 word => ⟨word⟩

/-- The interfaces on which traffic to an address may come in.  There is room for two, and the
program uses the same one for both. -/
structure DiscardRule where
  iif1 : UInt32
  iif2 : UInt32
  deriving DecidableEq, Repr, Inhabited

/-- The rule that names one interface. -/
def DiscardRule.single (iif : UInt32) : DiscardRule := ⟨iif, iif⟩

end UidPolicy
