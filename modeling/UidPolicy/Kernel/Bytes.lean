import UidPolicy.Ip
import UidPolicy.Rule
import UidPolicy.Uid

/-!
# Stored bytes

Kernel maps hold byte strings.  A byte string is kept as its length and the number that it
spells, and a type that is stored in a map has one number for each of its values.

* `byteStrings` — how many byte strings of a length there are.
* `Bytes` — a byte string; ordered by length and then by number.
* `Stored` — how the values of a type are stored.
* `Stored.encode`, `Stored.decode` — to and from the stored form; `decode_encode` and
  `encode_decode`.
-/

namespace UidPolicy

def byteStrings : Nat → Nat
  | 0 => 1
  | size + 1 => 256 * byteStrings size

theorem byteStrings_pos (size : Nat) : 0 < byteStrings size := by
  induction size with
  | zero => exact Nat.one_pos
  | succ size ih => exact Nat.mul_pos (by decide) ih

theorem byteStrings_le {s t : Nat} (h : s ≤ t) : byteStrings s ≤ byteStrings t := by
  induction h with
  | refl => exact Nat.le_refl _
  | step _ ih =>
    rw [byteStrings]
    omega

/-- A byte string, as its length and the number that it spells: so two of them are equal if both
are, and an order of byte strings comes with that of numbers. -/
structure Bytes where
  size : Nat
  number : Nat
  number_lt : number < byteStrings size
  deriving DecidableEq

namespace Bytes

def zeros (size : Nat) : Bytes := ⟨size, 0, byteStrings_pos size⟩

instance : Inhabited Bytes := ⟨zeros 0⟩

/-- Byte strings of one length lie between two bounds, so those of different lengths never
share a rank. -/
theorem rank_injective {a b : Bytes}
    (h : byteStrings a.size + a.number = byteStrings b.size + b.number) : a = b := by
  obtain ⟨s, n, hn⟩ := a
  obtain ⟨t, m, hm⟩ := b
  simp only at h hn hm
  have key : ∀ {s t n m : Nat}, n < byteStrings s →
      byteStrings s + n = byteStrings t + m → ¬ s < t := by
    intro s t n m hn h hst
    have hp : 256 * byteStrings s ≤ byteStrings t := byteStrings_le hst
    omega
  have hst : s = t :=
    Nat.le_antisymm (Nat.not_lt.1 (key hm h.symm)) (Nat.not_lt.1 (key hn h))
  subst hst
  have hnm : n = m := by omega
  subst hnm
  rfl

instance : Ranked Bytes where
  rank b := byteStrings b.size + b.number
  rank_injective := rank_injective

end Bytes

/-- How the values of a type are stored: in how many bytes, and as which number.  The types are
plain data, so that there is nothing else to a value: it reads back from its number, and every
number that fits the length is the number of a value. -/
class Stored (α : Type) where
  /-- The number of bytes. -/
  size : Nat
  toNumber : α → Nat
  ofNumber : Nat → α
  toNumber_lt : ∀ a, toNumber a < byteStrings size
  ofNumber_toNumber : ∀ a, ofNumber (toNumber a) = a
  toNumber_ofNumber : ∀ n, n < byteStrings size → toNumber (ofNumber n) = n

namespace Stored

variable {α : Type} [Stored α]

def encode (a : α) : Bytes := ⟨size α, toNumber a, toNumber_lt a⟩

def decode (b : Bytes) : α := ofNumber b.number

@[simp] theorem decode_encode (a : α) : decode (encode a) = a := ofNumber_toNumber a

theorem encode_decode {b : Bytes} (h : b.size = size α) : encode (decode b : α) = b := by
  obtain ⟨s, n, hn⟩ := b
  obtain rfl : s = size α := h
  simp only [encode, decode, Bytes.mk.injEq, true_and]
  exact toNumber_ofNumber n hn

theorem encode_injective {a b : α} (h : encode a = encode b) : a = b := by
  have := congrArg (decode (α := α)) h
  simpa using this

/-! ## The types that are stored -/

instance : Stored UInt8 where
  size := 1
  toNumber := UInt8.toNat
  ofNumber := UInt8.ofNat
  toNumber_lt := (·.toNat_lt)
  ofNumber_toNumber _ := UInt8.ofNat_toNat
  toNumber_ofNumber _ h := UInt8.toNat_ofNat_of_lt' h

instance : Stored UInt32 where
  size := 4
  toNumber := UInt32.toNat
  ofNumber := UInt32.ofNat
  toNumber_lt := (·.toNat_lt)
  ofNumber_toNumber _ := UInt32.ofNat_toNat
  toNumber_ofNumber _ h := UInt32.toNat_ofNat_of_lt' h

instance : Stored UInt64 where
  size := 8
  toNumber := UInt64.toNat
  ofNumber := UInt64.ofNat
  toNumber_lt := (·.toNat_lt)
  ofNumber_toNumber _ := UInt64.ofNat_toNat
  toNumber_ofNumber _ h := UInt64.toNat_ofNat_of_lt' h

/-- An address is stored with its first byte in the highest place, so that addresses ascend
byte by byte. -/
instance : Stored DiscardKey where
  size := 16
  toNumber k := k.word.toNat
  ofNumber n := ⟨BitVec.ofNat 128 n⟩
  toNumber_lt k := k.word.isLt
  ofNumber_toNumber k := by simp
  toNumber_ofNumber _ h := (BitVec.toNat_ofNat _ _).trans (Nat.mod_eq_of_lt h)

/-- Two words of 32 bits, the first one in the low half. -/
def pairNumber (low high : UInt32) : Nat := low.toNat + 0x100000000 * high.toNat

theorem pairNumber_lt (low high : UInt32) : pairNumber low high < 0x10000000000000000 := by
  have := low.toNat_lt
  have := high.toNat_lt
  simp only [pairNumber]
  omega

theorem low_pairNumber (low high : UInt32) : UInt32.ofNat (pairNumber low high) = low := by
  apply UInt32.toNat_inj.1
  have := low.toNat_lt
  simp only [UInt32.toNat_ofNat', pairNumber]
  omega

theorem high_pairNumber (low high : UInt32) :
    UInt32.ofNat (pairNumber low high / 0x100000000) = high := by
  apply UInt32.toNat_inj.1
  have := low.toNat_lt
  have := high.toNat_lt
  simp only [UInt32.toNat_ofNat', pairNumber]
  omega

theorem pairNumber_ofNat {n : Nat} (h : n < 0x10000000000000000) :
    pairNumber (UInt32.ofNat n) (UInt32.ofNat (n / 0x100000000)) = n := by
  simp only [pairNumber, UInt32.toNat_ofNat']
  omega

instance : Stored TagEntry where
  size := 8
  toNumber e := pairNumber e.uid e.tag
  ofNumber n := ⟨.ofNat n, .ofNat (n / 0x100000000)⟩
  toNumber_lt e := pairNumber_lt e.uid e.tag
  ofNumber_toNumber e := by rw [low_pairNumber, high_pairNumber]
  toNumber_ofNumber _ h := pairNumber_ofNat h

instance : Stored DiscardRule where
  size := 8
  toNumber r := pairNumber r.iif1 r.iif2
  ofNumber n := ⟨.ofNat n, .ofNat (n / 0x100000000)⟩
  toNumber_lt r := pairNumber_lt r.iif1 r.iif2
  ofNumber_toNumber r := by rw [low_pairNumber, high_pairNumber]
  toNumber_ofNumber _ h := pairNumber_ofNat h

instance : Stored OwnerEntry where
  size := 16
  toNumber e := pairNumber e.iif e.pad + 0x10000000000000000 * e.rule.toNat
  ofNumber n := ⟨.ofNat n, .ofNat (n / 0x100000000), .ofNat (n / 0x10000000000000000)⟩
  toNumber_lt e := by
    have := pairNumber_lt e.iif e.pad
    have := e.rule.toNat_lt
    show _ < 0x100000000000000000000000000000000
    omega
  ofNumber_toNumber e := by
    obtain ⟨iif, pad, rule⟩ := e
    have h1 := iif.toNat_lt
    have h2 := pad.toNat_lt
    have h3 := rule.toNat_lt
    simp only [OwnerEntry.mk.injEq]
    refine ⟨UInt32.toNat_inj.1 ?_, UInt32.toNat_inj.1 ?_, UInt64.toNat_inj.1 ?_⟩ <;>
      simp only [UInt32.toNat_ofNat', UInt64.toNat_ofNat', pairNumber] <;> omega
  toNumber_ofNumber n h := by
    have h : n < 0x100000000000000000000000000000000 := h
    simp only [UInt32.toNat_ofNat', UInt64.toNat_ofNat', pairNumber]
    omega

end Stored

end UidPolicy
