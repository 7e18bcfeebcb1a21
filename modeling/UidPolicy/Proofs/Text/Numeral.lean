import Mathlib.Data.List.Induction
import UidPolicy.Text.Digits

/-!
# What decimal integers look like

- `Decimal.Writes`: a text of digits writes a number, digit by digit from the left.
- `Decimal.natural?_eq_some_iff`: reading a text of digits answers the number that it writes.
- `Decimal.writes_iff`: a number above zero is written by its decimal notation, with any number of
  zeros before it, and by nothing else.
- `Decimal.WritesSigned`: the same with an optional sign. `integer?_eq_some_iff` and
  `within?_eq_some_iff`: reading answers the integer that is written, if it lies in the bounds.
-/

namespace UidPolicy

namespace Decimal

/-! ## Digits -/

/-- The digits write the number. A digit writes its own value, and one that is put behind others
adds its own to ten times theirs. Leading zeros are allowed. -/
inductive Writes : List Char → Nat → Prop where
  | digit {k : Nat} (hk : k < 10) : Writes [k.digitChar] k
  | snoc {digits : List Char} {n k : Nat} (h : Writes digits n) (hk : k < 10) :
      Writes (digits ++ [k.digitChar]) (10 * n + k)

theorem exists_digitChar {c : Char} (hc : c.isDigit = true) :
    ∃ k < 10, c = k.digitChar ∧ c.toNat - '0'.toNat = k := by
  obtain ⟨hlow, hhigh⟩ := Char.isDigit_iff_toNat.1 hc
  have hzero : '0'.toNat = 48 := rfl
  have hnine : '9'.toNat = 57 := rfl
  have hlt : c.toNat - '0'.toNat < 10 := by omega
  refine ⟨_, hlt, Char.toNat_inj.1 ?_, rfl⟩
  rw [Nat.toNat_digitChar_of_lt_ten hlt]
  omega

theorem value_digitChar {k : Nat} (hk : k < 10) : k.digitChar.toNat - '0'.toNat = k := by
  rw [Nat.toNat_digitChar_of_lt_ten hk]
  exact Nat.add_sub_cancel_left 48 k

theorem value_append_singleton (digits : List Char) (c : Char) :
    value (digits ++ [c]) = 10 * value digits + (c.toNat - '0'.toNat) := by
  rw [value, List.foldl_append]
  rfl

theorem Writes.natural? {text : List Char} {n : Nat} (h : Writes text n) :
    (text ≠ [] ∧ text.all Char.isDigit = true) ∧ value text = n := by
  -- a digit more makes the value ten times as large before it is added, in the text as in the
  -- number
  induction h with
  | @digit k hk =>
    have hdigit : k.digitChar.isDigit = true := by
      rw [Nat.isDigit_digitChar, decide_eq_true hk]
    refine ⟨⟨List.cons_ne_nil _ _, by rw [List.all_cons, hdigit, List.all_nil]; rfl⟩, ?_⟩
    have hvalue : value [k.digitChar] = 0 + (k.digitChar.toNat - '0'.toNat) := rfl
    rw [hvalue, value_digitChar hk, Nat.zero_add]
  | @snoc digits n k _ hk ih =>
    obtain ⟨⟨-, hall⟩, hvalue⟩ := ih
    have hdigit : k.digitChar.isDigit = true := by
      rw [Nat.isDigit_digitChar, decide_eq_true hk]
    refine ⟨⟨by simp, ?_⟩, ?_⟩
    · rw [List.all_append, hall, List.all_cons, hdigit, List.all_nil]
      rfl
    · rw [value_append_singleton, hvalue, value_digitChar hk]

/-- Every text of digits writes the number that its value is. -/
theorem writes_value {text : List Char} (hne : text ≠ []) (hall : text.all Char.isDigit = true) :
    Writes text (value text) := by
  induction text using List.reverseRecOn with
  | nil => exact absurd rfl hne
  | append_singleton digits c ih =>
    rw [List.all_append, Bool.and_eq_true, List.all_cons, List.all_nil, Bool.and_true] at hall
    obtain ⟨hdigits, hc⟩ := hall
    obtain ⟨k, hk, rfl, hvalue⟩ := exists_digitChar hc
    rw [value_append_singleton, hvalue]
    -- a single digit is the base case of the notation, as no text of no digits writes a number
    by_cases hfirst : digits = []
    · rw [hfirst]
      show Writes [k.digitChar] (10 * 0 + k)
      rw [Nat.mul_zero, Nat.zero_add]
      exact .digit hk
    · exact .snoc (ih hfirst hdigits) hk

/-- **Reading digits** answers the number that they write. -/
theorem natural?_eq_some_iff {text : List Char} {n : Nat} :
    natural? text = some n ↔ Writes text n := by
  rw [natural?, Option.ite_none_right_eq_some]
  constructor
  · rintro ⟨⟨hne, hall⟩, hvalue⟩
    rw [← Option.some.inj hvalue]
    exact writes_value hne hall
  · intro h
    obtain ⟨hdigits, hvalue⟩ := h.natural?
    exact ⟨hdigits, congrArg some hvalue⟩

/-! ## Decimal notation -/

theorem Writes.zero_cons {digits : List Char} {n : Nat} (h : Writes digits n) :
    Writes ('0' :: digits) n := by
  induction h with
  | @digit k hk =>
    have hzero : Writes ['0'] 0 := .digit (k := 0) (by decide)
    have hmore := hzero.snoc hk
    rwa [Nat.mul_zero, Nat.zero_add] at hmore
  | snoc _ hk ih => exact ih.snoc hk

theorem Writes.zeros_append {digits : List Char} {n : Nat} (h : Writes digits n) (zeros : Nat) :
    Writes (List.replicate zeros '0' ++ digits) n := by
  induction zeros with
  | zero => exact h
  | succ zeros ih => exact ih.zero_cons

theorem writes_toDigits (n : Nat) : Writes (Nat.toDigits 10 n) n := by
  induction n using Nat.strongRecOn with
  | _ n ih =>
    rw [Nat.toDigits_eq_if (by decide)]
    split
    · next hlt => exact .digit hlt
    · next hge =>
      have hsmaller : n / 10 < n := by omega
      have hmore := (ih _ hsmaller).snoc (Nat.mod_lt n (by decide))
      rwa [Nat.div_add_mod] at hmore

theorem Writes.eq_zeros {digits : List Char} (h : Writes digits 0) :
    ∃ zeros, digits = List.replicate zeros '0' := by
  generalize hn : 0 = n at h
  induction h with
  | digit => exact ⟨1, by rw [← hn]; rfl⟩
  | @snoc digits n k _ _ ih =>
    obtain ⟨zeros, hzeros⟩ := ih (by omega)
    have hk : k = 0 := by omega
    exact ⟨zeros + 1, by rw [hzeros, hk, List.replicate_succ']; rfl⟩

/-- **A number above zero is written by its decimal notation**, with zeros before it, and by nothing
else. -/
theorem writes_iff {text : List Char} {n : Nat} (hn : 0 < n) :
    Writes text n ↔ ∃ zeros, text = List.replicate zeros '0' ++ Nat.toDigits 10 n := by
  constructor
  · intro h
    induction h with
    | digit hk => exact ⟨0, by rw [Nat.toDigits_of_lt_base hk]; rfl⟩
    | @snoc digits n k h hk ih =>
      rcases Nat.eq_zero_or_pos n with rfl | hpos
      · -- the digits before are zeros that the notation of the last one does not have
        obtain ⟨zeros, hzeros⟩ := h.eq_zeros
        refine ⟨zeros, ?_⟩
        rw [hzeros, Nat.mul_zero, Nat.zero_add, Nat.toDigits_of_lt_base hk]
      · obtain ⟨zeros, hzeros⟩ := ih hpos
        refine ⟨zeros, ?_⟩
        rw [hzeros, List.append_assoc, ← Nat.toDigits_of_lt_base hk,
          Nat.toDigits_append_toDigits (by decide) hpos hk]
  · rintro ⟨zeros, rfl⟩
    exact (writes_toDigits n).zeros_append zeros

/-! ## Signs -/

/-- The text writes the integer: digits, or a sign and digits. A plus is as good as a minus, and
there is one sign at most. -/
inductive WritesSigned : List Char → Int → Prop where
  | plain {digits : List Char} {n : Nat} (h : Writes digits n) : WritesSigned digits n
  | plus {digits : List Char} {n : Nat} (h : Writes digits n) : WritesSigned ('+' :: digits) n
  | minus {digits : List Char} {n : Nat} (h : Writes digits n) : WritesSigned ('-' :: digits) (-n)

/-- A text that writes a number is made of digits, and there is one. -/
theorem Writes.digits {text : List Char} {n : Nat} (h : Writes text n) :
    text ≠ [] ∧ ∀ c ∈ text, c.isDigit = true := by
  obtain ⟨⟨hne, hall⟩, -⟩ := h.natural?
  exact ⟨hne, List.all_eq_true.1 hall⟩

/-- **Reading an integer** answers the integer that the text writes. -/
theorem integer?_eq_some_iff {text : List Char} {n : Int} :
    integer? text = some n ↔ WritesSigned text n := by
  constructor
  · intro h
    rw [integer?.eq_def] at h
    split at h
    · obtain ⟨m, hm, rfl⟩ := Option.map_eq_some_iff.1 h
      exact .plus (natural?_eq_some_iff.1 hm)
    · obtain ⟨m, hm, rfl⟩ := Option.map_eq_some_iff.1 h
      obtain ⟨k, hk, hcast⟩ := Option.bind_eq_some_iff.1 hm
      cases hcast
      exact .minus (natural?_eq_some_iff.1 hk)
    · obtain ⟨m, hm, rfl⟩ := Option.map_eq_some_iff.1 h
      exact .plain (natural?_eq_some_iff.1 hm)
  · intro h
    cases h with
    | plus h => exact Option.map_eq_some_iff.2 ⟨_, natural?_eq_some_iff.2 h, rfl⟩
    | minus h =>
      exact Option.map_eq_some_iff.2
        ⟨_, Option.bind_eq_some_iff.2 ⟨_, natural?_eq_some_iff.2 h, rfl⟩, rfl⟩
    | plain h =>
      -- digits are not taken for a sign
      have hdigits := h.digits.2
      rw [integer?.eq_def]
      split
      · exact absurd (hdigits '+' (.head _)) (by decide)
      · exact absurd (hdigits '-' (.head _)) (by decide)
      · exact Option.map_eq_some_iff.2 ⟨_, natural?_eq_some_iff.2 h, rfl⟩

theorem WritesSigned.unique {text : List Char} {m n : Int} (hm : WritesSigned text m)
    (hn : WritesSigned text n) : m = n :=
  Option.some.inj ((integer?_eq_some_iff.2 hm).symm.trans (integer?_eq_some_iff.2 hn))

theorem within?_eq_some_iff {lo hi n : Int} {text : List Char} :
    within? lo hi text = some n ↔ WritesSigned text n ∧ lo ≤ n ∧ n ≤ hi := by
  rw [within?, Option.filter_eq_some_iff, integer?_eq_some_iff, decide_eq_true_iff]

/-- Digits follow the sign, if there is one. -/
theorem WritesSigned.digit_mem {text : List Char} {n : Int} (h : WritesSigned text n) :
    ∃ c ∈ text, c.isDigit = true := by
  have hsome : ∀ {digits : List Char} {m : Nat}, Writes digits m →
      ∃ c ∈ digits, c.isDigit = true := by
    intro digits m hm
    obtain ⟨c, hc⟩ := List.exists_mem_of_ne_nil digits hm.digits.1
    exact ⟨c, hc, hm.digits.2 c hc⟩
  cases h with
  | plain h => exact hsome h
  | plus h | minus h =>
    obtain ⟨c, hc, hdigit⟩ := hsome h
    exact ⟨c, List.mem_cons_of_mem _ hc, hdigit⟩

/-- Nothing but digits and signs stands in an integer. -/
theorem WritesSigned.mem {text : List Char} {n : Int} (h : WritesSigned text n) {c : Char}
    (hc : c ∈ text) : c.isDigit = true ∨ c = '+' ∨ c = '-' := by
  cases h with
  | plain h => exact .inl (h.digits.2 c hc)
  | plus h =>
    rcases List.mem_cons.1 hc with rfl | hc
    · exact .inr (.inl rfl)
    · exact .inl (h.digits.2 c hc)
  | minus h =>
    rcases List.mem_cons.1 hc with rfl | hc
    · exact .inr (.inr rfl)
    · exact .inl (h.digits.2 c hc)

/-- **An integer above zero is written by its decimal notation**, with zeros before it and a plus
sign before these. -/
theorem writesSigned_iff {text : List Char} {n : Nat} (hn : 0 < n) :
    WritesSigned text n ↔ ∃ sign ∈ [[], ['+']], ∃ zeros,
      text = sign ++ List.replicate zeros '0' ++ Nat.toDigits 10 n := by
  constructor
  · generalize hm : (n : Int) = m
    intro h
    cases h with
    | plain h =>
      cases Int.ofNat.inj hm
      obtain ⟨zeros, htext⟩ := (writes_iff hn).1 h
      exact ⟨[], .head _, zeros, htext⟩
    | plus h =>
      cases Int.ofNat.inj hm
      obtain ⟨zeros, htext⟩ := (writes_iff hn).1 h
      exact ⟨['+'], .tail _ (.head _), zeros, congrArg _ htext⟩
    -- a minus sign makes the integer zero or less
    | minus h => omega
  · rintro ⟨sign, hsign, zeros, rfl⟩
    have hdigits := (writes_toDigits n).zeros_append zeros
    have hcases : sign = [] ∨ sign = ['+'] := by simpa using hsign
    rcases hcases with rfl | rfl
    · exact .plain hdigits
    · exact .plus hdigits

end Decimal

end UidPolicy
