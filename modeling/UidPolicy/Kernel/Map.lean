import UidPolicy.Kernel.Bytes

/-!
# Kernel maps

* `MapName` — the six maps, with the names of their pins.
* `MapKind` — the kinds of maps by number.
* `Shape` — kind, sizes and capacity of a map; `MapName.shape` is the usual one.
* `WalkOrder` — the order in which a walk visits the keys, which is the map's own.
* `KMap` — a map of the kernel; `KMap.hasRoom` says which writes it has room for and
  `KMap.next?` which key a walk comes to next.
-/

namespace UidPolicy

/-- The maps that the program shares with the kernel.  A name says what a map is for and where its
pin is; which map of the machine it is, the pin says. -/
inductive MapName where
  | configuration | uidOwner | uidPermission | cookieTag | dataSaver | ingressDiscard
  deriving DecidableEq, Repr, Inhabited

/-- The kind of a map, by its number.  Kernels newer than the program may have kinds that it does
not know, so any number can be met. -/
abbrev MapKind := Nat

namespace MapKind

def hash : MapKind := 1

/-- An array; every index below its capacity always has a value. -/
def array : MapKind := 2

/-- A hash map that may drop the entry used least recently.  It is opened like any hash map. -/
def lruHash : MapKind := 9

def last : MapKind := 33

def isKnown (kind : MapKind) : Bool := 0 < kind && kind ≤ last

end MapKind

structure Shape where
  kind : MapKind
  keySize : Nat
  valueSize : Nat
  capacity : Nat
  deriving DecidableEq, Repr, Inhabited

namespace MapName

def all : List MapName :=
  [configuration, uidOwner, uidPermission, cookieTag, dataSaver, ingressDiscard]

def word : MapName → String
  | configuration => "configuration"
  | uidOwner => "uid_owner"
  | uidPermission => "uid_permission"
  | cookieTag => "cookie_tag"
  | dataSaver => "data_saver"
  | ingressDiscard => "ingress_discard"

def pin : MapName → String
  | configuration => "map_netd_configuration_map"
  | uidOwner => "map_netd_uid_owner_map"
  | uidPermission => "map_netd_uid_permission_map"
  | cookieTag => "map_netd_cookie_tag_map"
  | dataSaver => "map_netd_data_saver_enabled_map"
  | ingressDiscard => "map_netd_ingress_discard_map"

/-- The position of a map in `all`, which numbers the maps of the usual machine. -/
def place : MapName → Nat
  | configuration => 0
  | uidOwner => 1
  | uidPermission => 2
  | cookieTag => 3
  | dataSaver => 4
  | ingressDiscard => 5

def capacity : MapName → Nat
  | configuration => 2
  | uidOwner => 4000
  | uidPermission => 4000
  | cookieTag => 10000
  | dataSaver => 1
  | ingressDiscard => 100

def shape (name : MapName) : Shape :=
  match name with
  | configuration => ⟨.array, 4, 4, name.capacity⟩
  | uidOwner => ⟨.hash, 4, 16, name.capacity⟩
  | uidPermission => ⟨.hash, 4, 1, name.capacity⟩
  | cookieTag => ⟨.hash, 8, 8, name.capacity⟩
  | dataSaver => ⟨.array, 4, 1, name.capacity⟩
  | ingressDiscard => ⟨.hash, 16, 8, name.capacity⟩

theorem pin_injective {a b : MapName} (h : a.pin = b.pin) : a = b := by
  revert h
  cases a <;> cases b <;> decide

end MapName

/-- The order in which a walk visits the keys of a map.  A hash map promises none: where a key
stands depends on how its bytes are hashed and on what was written before it, and a write may
move the others.  So the order is a function of the content and of the number of writes so far,
and all that is known of it is that each key of the content has one place. -/
structure WalkOrder where
  /-- The keys of a content in their order, after so many writes. -/
  keys : Nat → SortedMap Bytes Bytes → List Bytes
  perm : ∀ writes content, (keys writes content).Perm content.keys

namespace WalkOrder

/-- Keys ascend, whatever was written. -/
def ascending : WalkOrder := ⟨fun _ content => content.keys, fun _ _ => .refl _⟩

instance : Inhabited WalkOrder := ⟨ascending⟩

/-- Keys descend after an odd number of writes and ascend after an even one, so that every write
turns a walk round. -/
def alternating : WalkOrder where
  keys writes content := if writes % 2 = 0 then content.keys else content.keys.reverse
  perm writes content := by
    split
    · exact .refl _
    · exact List.reverse_perm _

end WalkOrder

/-- A map of the kernel.  What it holds are bytes, and only their lengths are the business of the
kernel. -/
structure KMap where
  /-- The number that the kernel has given to the map. -/
  id : UInt32
  shape : Shape
  content : SortedMap Bytes Bytes
  /-- How often the content was written. -/
  writes : Nat
  order : WalkOrder

namespace KMap

/-- The slots of an array, all zero.  An index is a key of four bytes like that of any other map. -/
def zeroSlots (capacity valueSize : Nat) : SortedMap Bytes Bytes :=
  .ofList ((List.range capacity).map fun i =>
    (Stored.encode (UInt32.ofNat i), Bytes.zeros valueSize))

/-- A new map: an array has all its slots, and every other map is empty. -/
def new (id : UInt32) (shape : Shape) (order : WalkOrder) : KMap where
  id := id
  shape := shape
  content :=
    if shape.kind = .array then zeroSlots shape.capacity shape.valueSize else ∅
  writes := 0
  order := order

instance : Inhabited KMap := ⟨new 0 default default⟩

/-- Whether a write to a key has room: an array has room for its indexes, and every other map
for the keys it holds and for new ones while it is not full. -/
def hasRoom (m : KMap) (key : Bytes) : Bool :=
  if m.shape.kind = .array then decide (key.number < m.shape.capacity)
  else m.content.contains key || decide (m.content.size < m.shape.capacity)

/-- The keys in the order in which a walk visits them, as long as nothing is written. -/
def walked (m : KMap) : List Bytes := m.order.keys m.writes m.content

theorem walked_perm (m : KMap) : m.walked.Perm m.content.keys := m.order.perm _ _

theorem length_walked (m : KMap) : m.walked.length = m.content.keys.length :=
  m.walked_perm.length_eq

/-- The key after a given one.  Without a key before it, it is the first one; and so it is when
that key is gone, because nothing is left then that says how far the walk had come. -/
def next? (m : KMap) (previous : Option Bytes) : Option Bytes :=
  match previous with
  | none => m.walked.head?
  | some p =>
    if m.content.contains p then m.walked[m.walked.idxOf p + 1]? else m.walked.head?

/-- The map after a write to its content.  Every write counts, as the order of a walk may depend on
it. -/
def withContent (m : KMap) (f : SortedMap Bytes Bytes → SortedMap Bytes Bytes) : KMap :=
  { m with content := f m.content, writes := m.writes + 1 }

end KMap

end UidPolicy
