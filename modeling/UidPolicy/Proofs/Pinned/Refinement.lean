import UidPolicy.Pinned.Maps
import UidPolicy.Proofs.Pinned.Hash
import UidPolicy.Proofs.Pinned.Opening
import UidPolicy.Proofs.Pinned.Slots

/-!
# Opened maps and maps in memory

What is proved of the controllers over maps in memory is to hold over opened maps of the kernel, so
the two have to answer alike. The kernel is any machine: its maps have any numbers, hold anything
that fits their shapes, and walk over their keys in any order, which every write may change.

- `Pinned.onHash_of_openHash`, `Pinned.onArray_of_openArray`: what the machine has under a handle
  that was opened.
- `opened_refine`: an opened hash map answers any calls as a map in memory does, and an opened
  array as its slots do.
-/

namespace UidPolicy

open TableReply (Agree)

/-- The kernel takes no key of another length than that of the map, so every stored key can be read
as one. -/
def KMap.KeysSized (m : KMap) : Prop :=
  ∀ b, (m.content.get? b).isSome → b.size = m.shape.keySize

theorem KMap.keysSized_new {id : UInt32} {shape : Shape} {order : WalkOrder}
    (hkind : shape.kind ≠ .array) : (KMap.new id shape order).KeysSized := by
  intro b hb
  rw [KMap.new, if_neg hkind] at hb
  cases hb

/-- An array has all its slots, and indexes have 32 bits. No call removes a slot, so an array that
was made by the kernel keeps them. -/
structure KMap.SlotsFilled (m : KMap) : Prop where
  small : m.shape.capacity ≤ UInt32.size
  slots : ∀ i : UInt32, i.toNat < m.shape.capacity → (m.content.get? (Stored.encode i)).isSome

theorem KMap.slotsFilled_new {id : UInt32} {shape : Shape} {order : WalkOrder}
    (hkind : shape.kind = .array) (hsmall : shape.capacity ≤ UInt32.size) :
    (KMap.new id shape order).SlotsFilled where
  small := hsmall
  slots i hi := by
    have hi : i.toNat < shape.capacity := hi
    rw [KMap.new, if_pos hkind]
    show ((zeroSlots shape.capacity shape.valueSize).get? (Stored.encode i)).isSome
    rw [get?_zeroSlots hi]
    rfl

/-- The value in a slot, read from its bytes. -/
def KMap.slot (V : Type) [Stored V] (m : KMap) (i : UInt32) : V :=
  Stored.decode ((m.content.get? (Stored.encode i)).getD (.zeros 0))

namespace Pinned

variable {K V : Type} [Stored K] [Stored V] {path : String} {sharing : Sharing}
  {start : Kernel} {h : Handle}

theorem Expected.of_check {e : Expected} {name : String} {shape : Shape}
    (hcheck : e.check name shape = .ok ()) : shape.kind ∈ e.kinds ∧ e.keySize = shape.keySize := by
  unfold Expected.check at hcheck
  -- the checks come in order: first the kind of the map, then the length of its keys
  split at hcheck
  · cases hcheck
  · next hkind =>
    split at hcheck
    · cases hcheck
    · next hkey => exact ⟨by simpa using hkind, not_not.1 hkey⟩

/-- **A hash map that is opened for reading and writing**, and what its bytes stand for. The keys
of the type have the length of the stored ones, or the opening would have been refused. -/
theorem onHash_of_openHash [Ranked K] [DecidableEq K] {k : Kernel}
    (hopened : ((openHash K V path .readWrite sharing).run start).result = .ok h)
    (hworld : ((openHash K V path .readWrite sharing).run start).world = k)
    (hquiet : k.interference = []) (hkind : (k.maps h.map).shape.kind = .hash)
    (hkeys : (k.maps h.map).KeysSized) :
    h.access = .readWrite ∧
      h.OnHash (k.maps h.map).shape.capacity k k ((k.maps h.map).content.decoded K V) := by
  subst hworld
  obtain ⟨hgranted, hcheck⟩ :=
    Wish.granted_of_opening ⟨expectedHash K V, path, .readWrite, sharing⟩ hopened
  have hsize := (Expected.of_check hcheck).2
  refine ⟨hgranted.access, hquiet, hkind, rfl, ?_, fun _ _ => rfl⟩
  -- keys of the right length are the forms of keys, as every such byte string is
  exact standsFor_decoded fun b hb => (hkeys b hb).trans hsize.symm

/-- **An array that is opened for reading and writing**, and its slots: the checks of the opening
are what makes the handle fit the map. -/
theorem onArray_of_openArray {k : Kernel}
    (hopened : ((openArray V path .readWrite sharing).run start).result = .ok h)
    (hworld : ((openArray V path .readWrite sharing).run start).world = k)
    (hquiet : k.interference = []) (hslots : (k.maps h.map).SlotsFilled) :
    h.access = .readWrite ∧
      h.OnArray (k.maps h.map).shape.capacity k k ((k.maps h.map).slot V) := by
  subst hworld
  obtain ⟨hgranted, hcheck⟩ :=
    Wish.granted_of_opening ⟨expectedArray V, path, .readWrite, sharing⟩ hopened
  have hkind := List.mem_singleton.1 (Expected.of_check hcheck).1
  refine ⟨hgranted.access, hquiet, hkind, rfl, hgranted.capacity, hslots.small, fun i hi => ?_,
    fun _ _ => rfl⟩
  obtain ⟨value, hvalue⟩ := Option.isSome_iff_exists.1 (hslots.slots i hi)
  rw [KMap.slot, hvalue]
  rfl

end Pinned

section Refinement

variable (K V : Type) [Ranked K] [DecidableEq K] [Stored K] [Stored V]

/-- **Opened maps refine maps in memory.** A map is opened for reading and writing, and nobody
interferes. Then any calls on a hash map are answered as those on a map in memory without failures
that starts with what the bytes stand for and has room for as many keys; and any calls on an array
are answered by its slots. In the end the contents are the same again, and other maps are as they
were. -/
theorem opened_refine :
    (∀ (path : String) (sharing : Sharing) (start k : Kernel) (h : Handle) (s : Store K V),
        ((Pinned.openHash K V path .readWrite sharing).run start).result = .ok h →
        ((Pinned.openHash K V path .readWrite sharing).run start).world = k →
        k.interference = [] → (k.maps h.map).shape.kind = .hash → (k.maps h.map).KeysSized →
        s.Faultless → (∀ ks, (s.walk ks).Perm ks) →
        s.content = (k.maps h.map).content.decoded K V →
        ∀ calls : List (TableCall K V),
          List.Forall₂ Agree ((h.hashTable K V).answers calls k).1
              ((Store.bounded h.name (k.maps h.map).shape.capacity).answers calls s).1 ∧
            h.OnHash (k.maps h.map).shape.capacity k ((h.hashTable K V).answers calls k).2
              ((Store.bounded h.name (k.maps h.map).shape.capacity).answers calls s).2.content) ∧
      ∀ (path : String) (sharing : Sharing) (start k : Kernel) (h : Handle),
        ((Pinned.openArray V path .readWrite sharing).run start).result = .ok h →
        ((Pinned.openArray V path .readWrite sharing).run start).world = k →
        k.interference = [] → (k.maps h.map).SlotsFilled →
        ∀ calls : List (TableCall UInt32 V),
          ((h.arrayTable V).answers calls k).1
              = TableCall.slotReplies h.name (k.maps h.map).shape.capacity
                  ((k.maps h.map).slot V) calls ∧
            h.OnArray (k.maps h.map).shape.capacity k ((h.arrayTable V).answers calls k).2
              (calls.foldl (TableCall.slotsAfter (k.maps h.map).shape.capacity)
                ((k.maps h.map).slot V)) := by
  constructor
  · intro path sharing start k h s hopened hworld hquiet hkind hkeys hs hwalk hcontent calls
    obtain ⟨haccess, hk⟩ := Pinned.onHash_of_openHash hopened hworld hquiet hkind hkeys
    rw [← hcontent] at hk
    have hhandle := Handle.models_hashTable (K := K) (V := V) haccess
      (k.maps h.map).shape.capacity k
    -- both sides model the same content at the start, so they answer alike and model the same in
    -- the end
    obtain ⟨hanswers, c, hkernel, -, hstore⟩ :=
      hhandle.agree (Store.models_bounded h.name _) hk ⟨⟨hs, hwalk⟩, rfl⟩ calls
    refine ⟨hanswers, ?_⟩
    rw [hstore]
    exact hkernel
  · intro path sharing start k h hopened hworld hquiet hslots calls
    obtain ⟨haccess, hk⟩ := Pinned.onArray_of_openArray hopened hworld hquiet hslots
    exact hk.answers haccess calls

end Refinement

/-- A machine with room for two discard rules only, whose maps are numbered downwards from a
thousand and walked over in another direction after every write. -/
def crampedKernel : Kernel :=
  { Kernel.fresh with
    maps := fun map =>
      let usual := Kernel.fresh.maps map
      .new (1000 - usual.id)
        (if map = MapName.ingressDiscard.place then ⟨.hash, 16, 8, 2⟩ else usual.shape)
        .alternating }

/-- Opening its discard rules for reading and writing. -/
def openDiscards : Pinned.Opening Handle :=
  Pinned.openHash DiscardKey DiscardRule
    (Path.join Config.default.pinRoot MapName.ingressDiscard.pin) .readWrite .single

/-- Opening its configuration for reading and writing. -/
def openSwitches : Pinned.Opening Handle :=
  Pinned.openArray UInt32 (Path.join Config.default.pinRoot MapName.configuration.pin) .readWrite
    .single

def discardsOpened : Kernel := (openDiscards.run crampedKernel).world

def switchesOpened : Kernel := (openSwitches.run crampedKernel).world

/-- The handle on the discard rules. -/
def crampedDiscards : Handle :=
  ⟨MapName.ingressDiscard.place, MapName.ingressDiscard.pin, .readWrite, .handle 0, 2⟩

/-- The handle on the configuration. -/
def crampedConfiguration : Handle :=
  ⟨MapName.configuration.place, MapName.configuration.pin, .readWrite, .handle 0, 2⟩

/-- Three rules where there is room for two, which are found in either direction: every key of a map
that is full is told apart from one that is refused. -/
def discardCalls : List (TableCall DiscardKey DiscardRule) :=
  [.put ⟨1⟩ (.single 4), .put ⟨2⟩ (.single 4), .put ⟨3⟩ (.single 4), .keys, .put ⟨1⟩ (.single 5),
    .entries, .delete ⟨2⟩, .clear, .put ⟨2⟩ (.single 4), .keys]

/-- Slots inside and outside of an array. -/
def configurationCalls : List (TableCall UInt32 UInt32) :=
  [.put 1 7, .put 2 7, .get 1, .get 2, .delete 1, .clear, .entries]

theorem opened_crampedDiscards :
    (openDiscards.run crampedKernel).result = .ok crampedDiscards ∧
      discardsOpened.interference = [] ∧
      discardsOpened.maps crampedDiscards.map = .new 984 ⟨.hash, 16, 8, 2⟩ .alternating := by
  refine ⟨by decide +kernel, by decide +kernel, rfl⟩

theorem opened_crampedConfiguration :
    (openSwitches.run crampedKernel).result = .ok crampedConfiguration ∧
      switchesOpened.interference = [] ∧
      switchesOpened.maps crampedConfiguration.map
        = .new 989 MapName.configuration.shape .alternating := by
  refine ⟨by decide +kernel, by decide +kernel, rfl⟩

theorem crampedKernel_refines :
    ((openDiscards.run crampedKernel).result = .ok crampedDiscards ∧
        discardsOpened.interference = [] ∧
        (discardsOpened.maps crampedDiscards.map).shape.kind = .hash ∧
        (discardsOpened.maps crampedDiscards.map).KeysSized ∧
        (Store.empty : Store DiscardKey DiscardRule).Faultless ∧
        (∀ ks, ((Store.empty : Store DiscardKey DiscardRule).walk ks).Perm ks) ∧
        (openSwitches.run crampedKernel).result = .ok crampedConfiguration ∧
        switchesOpened.interference = [] ∧
        (switchesOpened.maps crampedConfiguration.map).SlotsFilled) ∧
      (List.Forall₂ Agree
          ((crampedDiscards.hashTable DiscardKey DiscardRule).answers discardCalls
            discardsOpened).1
          ((Store.bounded crampedDiscards.name 2).answers discardCalls Store.empty).1 ∧
        crampedDiscards.OnHash 2 discardsOpened
          ((crampedDiscards.hashTable DiscardKey DiscardRule).answers discardCalls
            discardsOpened).2
          ((Store.bounded crampedDiscards.name 2).answers discardCalls Store.empty).2.content) ∧
      ((crampedConfiguration.arrayTable UInt32).answers configurationCalls switchesOpened).1
          = TableCall.slotReplies crampedConfiguration.name 2
              ((switchesOpened.maps crampedConfiguration.map).slot UInt32) configurationCalls ∧
        crampedConfiguration.OnArray 2 switchesOpened
          ((crampedConfiguration.arrayTable UInt32).answers configurationCalls switchesOpened).2
          (configurationCalls.foldl (TableCall.slotsAfter 2)
            ((switchesOpened.maps crampedConfiguration.map).slot UInt32)) := by
  obtain ⟨hdiscards, hquiet, hmap⟩ := opened_crampedDiscards
  obtain ⟨hconfiguration, hquiet', hmap'⟩ := opened_crampedConfiguration
  have hkind : (discardsOpened.maps crampedDiscards.map).shape.kind = .hash := by rw [hmap]; rfl
  have hkeys : (discardsOpened.maps crampedDiscards.map).KeysSized :=
    hmap ▸ KMap.keysSized_new (by decide)
  have hslots : (switchesOpened.maps crampedConfiguration.map).SlotsFilled :=
    hmap' ▸ KMap.slotsFilled_new rfl (by decide)
  have hcontent : (Store.empty : Store DiscardKey DiscardRule).content
      = (discardsOpened.maps crampedDiscards.map).content.decoded DiscardKey DiscardRule := by
    rw [hmap]; rfl
  have hperm : ∀ ks, ((Store.empty : Store DiscardKey DiscardRule).walk ks).Perm ks :=
    fun ks => .refl ks
  have hcapacity : (discardsOpened.maps crampedDiscards.map).shape.capacity = 2 := by rw [hmap]; rfl
  have hlength : (switchesOpened.maps crampedConfiguration.map).shape.capacity = 2 := by
    rw [hmap']; rfl
  have hhash := (opened_refine DiscardKey DiscardRule).1 _ _ crampedKernel discardsOpened
    crampedDiscards Store.empty hdiscards rfl hquiet hkind hkeys Store.faultless_empty hperm
    hcontent discardCalls
  have harray := (opened_refine DiscardKey UInt32).2 _ _ crampedKernel switchesOpened
    crampedConfiguration hconfiguration rfl hquiet' hslots configurationCalls
  rw [hcapacity] at hhash
  rw [hlength] at harray
  exact ⟨⟨hdiscards, hquiet, hkind, hkeys, Store.faultless_empty, hperm, hconfiguration, hquiet',
    hslots⟩, hhash, harray⟩

/-- The walks of the machine turn round, but nothing is lost of them. -/
example : ((crampedDiscards.hashTable DiscardKey DiscardRule).answers discardCalls
      discardsOpened).1.filterMap (fun
        | .ok (.keys keys) => some (keys.map DiscardKey.word)
        | .ok (.entries entries) => some (entries.map fun e => e.1.word)
        | _ => none) = [[1, 2], [2, 1], [2]] := by decide +kernel

end UidPolicy
