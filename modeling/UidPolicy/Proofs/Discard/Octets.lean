import UidPolicy.Ip

/-!
# Addresses octet by octet

An IPv4 address `a.b.c.d` also is the IPv6 address `::ffff:a.b.c.d`. Addresses are equivalent if
they are the same IPv6 address, and then they share their discard rule.

- `IpAddress.octets`: the octets of a number, the first one in the highest bits. `octetRange` is
  how many numbers so many octets can tell apart.
- `octets_injective`, `octets_append`: octets determine a number in their range, and octets in a
  row are those of the numbers put together.
- `IpAddress.mapped`: the sixteen octets of an address as an IPv6 address.
- `discardKey_eq_iff`: two addresses have one key exactly if they are equivalent.
-/

namespace UidPolicy

namespace IpAddress

/-- The last octets of a number, the highest one first. -/
def octets : (count : Nat) → Nat → List Nat
  | 0, _ => []
  | count + 1, n => octets count (n / 256) ++ [n % 256]

/-- How many numbers so many octets can tell apart. Defined by recursion, like the octets, so that
no powers have to be compared. -/
def octetRange : (count : Nat) → Nat
  | 0 => 1
  | count + 1 => octetRange count * 256

/-- Octets determine the number. -/
theorem octets_injective {count n m : Nat} (hn : n < octetRange count) (hm : m < octetRange count)
    (h : octets count n = octets count m) : n = m := by
  induction count generalizing n m with
  | zero =>
    rw [octetRange] at hn hm
    omega
  | succ count ih =>
    obtain ⟨hhigh, hlow⟩ := List.append_inj' h rfl
    have hlast : n % 256 = m % 256 := List.head_eq_of_cons_eq hlow
    have hrest : n / 256 = m / 256 := by
      rw [octetRange] at hn hm
      exact ih (by omega) (by omega) hhigh
    omega

/-- The octets of two numbers put together are those of the one and then those of the other, as long
as the second one fits into its place. -/
theorem octets_append (count high : Nat) {rest low : Nat} (hlow : low < octetRange rest) :
    octets (count + rest) (high * octetRange rest + low)
      = octets count high ++ octets rest low := by
  induction rest generalizing low with
  | zero =>
    rw [octetRange] at hlow
    have hzero : low = 0 := by omega
    rw [hzero, octetRange, Nat.mul_one, octets, List.append_nil]
    rfl
  | succ rest ih =>
    rw [octetRange] at hlow
    -- the lowest octet is that of `low`, and what is left of both sides is one range shorter
    have hdiv : (high * octetRange (rest + 1) + low) / 256
        = high * octetRange rest + low / 256 := by
      rw [octetRange, ← Nat.mul_assoc]
      omega
    have hmod : (high * octetRange (rest + 1) + low) % 256 = low % 256 := by
      rw [octetRange, ← Nat.mul_assoc]
      omega
    rw [← Nat.add_assoc, octets, octets, hdiv, hmod, ih (by omega), List.append_assoc]

/-- The sixteen octets of an address as an IPv6 address. An IPv4 address comes after ten octets
of zeros and two of ones. -/
def mapped : IpAddress → List Nat
  | v4 word => List.replicate 10 0 ++ [0xff, 0xff] ++ octets 4 word.toNat
  | v6 word => octets 16 word.toNat

/-- The addresses are the same as IPv6 addresses: an IPv4 address stands for its mapped form, and
for nothing else. -/
def Equivalent (a b : IpAddress) : Prop := a.mapped = b.mapped

instance (a b : IpAddress) : Decidable (a.Equivalent b) := inferInstanceAs (Decidable (_ = _))

/-- The key of an address has the octets of the address as an IPv6 address, in their order. -/
theorem octets_discardKey (a : IpAddress) : octets 16 a.discardKey.word.toNat = a.mapped := by
  cases a with
  | v6 word => rfl
  | v4 word =>
    have hword : word.toNat < octetRange 4 := word.isLt
    have hkey : (v4 word).discardKey.word.toNat = 0xffff * octetRange 4 + word.toNat := by
      refine (BitVec.toNat_ofNat _ _).trans (Nat.mod_eq_of_lt ?_)
      have hsmall : word.toNat < 4294967296 := word.isLt
      omega
    have hfirst : octets 12 0xffff = List.replicate 10 0 ++ [0xff, 0xff] := by decide
    have happend := octets_append 12 0xffff hword
    rw [hkey, mapped, ← hfirst]
    exact happend

/-- **Two addresses have one key exactly if they are equivalent.** -/
theorem discardKey_eq_iff {a b : IpAddress} : a.discardKey = b.discardKey ↔ a.Equivalent b := by
  rw [Equivalent, ← octets_discardKey, ← octets_discardKey]
  constructor
  · intro h
    rw [h]
  · intro h
    -- sixteen octets are the whole key
    have hwords := octets_injective a.discardKey.word.isLt b.discardKey.word.isLt h
    exact congrArg DiscardKey.mk (BitVec.eq_of_toNat_eq hwords)

/-- The octets of 10.0.0.1, written as it is and as it is mapped. -/
example : mapped (v4 0x0a000001) = mapped (v6 0xffff0a000001) := by decide

end IpAddress

end UidPolicy
