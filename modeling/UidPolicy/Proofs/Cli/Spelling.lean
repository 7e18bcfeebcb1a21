import UidPolicy.Proofs.Cli.Operands

/-!
# Printed names as operands

A chain has a name in text and a name in structured output, and what is read as a name is a third
thing. Only the name in text is known to the reader, so a name in structured output is understood as
far as the two are the same.

- `Chain.SpelledLike`: a word in other spelling, with small letters for capital ones, hyphens for
  underscores, and the other way round.
- `Addresses`, `AddressesNone`: what a word comes to as the operand of a command, in every spelling.
- `Chain.oemDeny`: the chains with two names.
- `addresses_name`, `addressesNone_of_oemDeny`: the names in text, and the other names of these.
-/

namespace UidPolicy

namespace Chain

/-! ## Spellings -/

/-- Characters that may stand for each other: the same but for the case of ASCII letters, or a
hyphen and an underscore. -/
def Exchangeable (a b : Char) : Prop :=
  a.toLower = b.toLower ∨ a ∈ ['-', '_'] ∧ b ∈ ['-', '_']

/-- The text is the word in some spelling, character by character: capital letters and hyphens are
exchanged freely, and nothing is added or left out. -/
def SpelledLike (text word : List Char) : Prop := List.Forall₂ Exchangeable text word

theorem SpelledLike.refl (word : List Char) : SpelledLike word word :=
  List.forall₂_same.2 fun _ _ => .inl rfl

/-- The small letter of a capital one is no hyphen, so only the hyphen has itself for one. -/
theorem eq_hyphen_of_toLower {a : Char} (h : a.toLower = '-') : a = '-' := by
  rcases normal_cases a with hhyphen | hupper | hsame
  · exact hhyphen
  -- the small letters start at 97, the hyphen is 45
  · exfalso
    have hbounds : 65 ≤ a.val ∧ a.val ≤ 90 := of_decide_eq_true hupper
    have hshifted : a.toLower.val = a.val + 32 := congrArg Char.val (dif_pos hbounds)
    rw [h] at hshifted
    have hlow : 65 ≤ a.val.toNat := hbounds.1
    have hhigh : a.val.toNat ≤ 90 := hbounds.2
    have hsum : 45 = (a.val.toNat + 32) % 2 ^ 32 := congrArg UInt32.toNat hshifted
    omega
  · by_cases hhyphen : a = '-'
    · exact hhyphen
    · rw [if_neg hhyphen] at hsame
      rw [← hsame, h]

/-- Exchangeable characters have one normal form. -/
theorem normal_eq_of_exchangeable {a b : Char} (h : Exchangeable a b) :
    (if a = '-' then '_' else a.toLower) = if b = '-' then '_' else b.toLower := by
  rcases h with hcase | ⟨ha, hb⟩
  · by_cases ha : a = '-'
    · subst ha
      rw [eq_hyphen_of_toLower hcase.symm]
    · have hb : b ≠ '-' := by
        rintro rfl
        exact ha (eq_hyphen_of_toLower hcase)
      rw [if_neg ha, if_neg hb, hcase]
  · have hmark : ∀ a ∈ ['-', '_'], (if a = '-' then '_' else a.toLower) = '_' :=
      List.forall_mem_cons.2 ⟨rfl, List.forall_mem_singleton.2 rfl⟩
    rw [hmark a ha, hmark b hb]

theorem normalizeName_eq_of_spelledLike {text word : List Char} (h : SpelledLike text word) :
    normalizeName text = normalizeName word := by
  rw [normalizeName, normalizeName]
  induction h with
  | nil => rfl
  | cons hab hrest ih => rw [List.map_cons, List.map_cons, normal_eq_of_exchangeable hab, ih]

/-- What begins with a letter does so in every spelling, and is no option word. -/
theorem plain_of_spelledLike {text : String} {word : List Char}
    (h : SpelledLike text.toList word) (hletter : word.head?.any Char.isAlpha = true) :
    Cli.Plain text := by
  intro hhead
  obtain ⟨rest, htext⟩ := List.head?_eq_some_iff.1 hhead
  rw [htext] at h
  obtain ⟨a, word', ha, -, rfl⟩ := List.forall₂_cons_left_iff.1 h
  have halpha : a.isAlpha = true := hletter
  rcases ha with hcase | ⟨-, hmark⟩
  · rw [eq_hyphen_of_toLower hcase.symm] at halpha
    exact absurd halpha (by decide)
  · have hnone : ∀ a ∈ ['-', '_'], a.isAlpha = false :=
      List.forall_mem_cons.2 ⟨rfl, List.forall_mem_singleton.2 rfl⟩
    rw [hnone a hmark] at halpha
    cases halpha

/-! ## The two names of a chain -/

/-- The chains whose name in structured output is not their name in text: the derived name has no
underscore before the number. -/
def oemDeny : List Chain := [oemDeny1, oemDeny2, oemDeny3]

theorem serialized_eq_name {c : Chain} (hc : c ∉ oemDeny) : c.serialized = c.name := by
  revert hc
  cases c <;> decide

theorem normalizeName_name (c : Chain) : normalizeName c.name.toList = c.name.toList := by
  cases c <;> decide

theorem letter_name (c : Chain) : c.name.toList.head?.any Char.isAlpha = true := by
  cases c <;> decide

theorem letter_serialized (c : Chain) : c.serialized.toList.head?.any Char.isAlpha = true := by
  cases c <;> decide

theorem normalizeName_oemDeny_ne {c : Chain} (hc : c ∈ oemDeny) (d : Chain) :
    normalizeName c.serialized.toList ≠ d.name.toList := by
  have hall : ∀ c ∈ oemDeny, ∀ d ∈ all, normalizeName c.serialized.toList ≠ d.name.toList := by
    decide
  exact hall c hc d d.mem_all

section Parse

variable {text : String} {c : Chain}

/-- The name in text is read as the chain. -/
theorem parse_of_spelledLike_name (h : SpelledLike text.toList c.name.toList) :
    parse text = .ok c := by
  have hnormal : normalizeName text.toList = c.name.toList :=
    (normalizeName_eq_of_spelledLike h).trans (normalizeName_name c)
  exact parse_eq_ok_iff.2 (.name (normalizeName_eq_iff.1 hnormal))

/-- The other name of a chain is read as an unknown name. -/
theorem parse_of_spelledLike_oemDeny (hc : c ∈ oemDeny)
    (h : SpelledLike text.toList c.serialized.toList) :
    parse text = .error (.unknownChainName text) := by
  have hnormal := normalizeName_eq_of_spelledLike h
  refine parse_of_neither (fun n hn => ?_) fun d hspelled => ?_
  · have hletter : (normalizeName text.toList).any Char.isAlpha = true := by
      rw [hnormal]
      revert hc
      cases c <;> decide
    obtain ⟨a, ha, halpha⟩ := List.any_eq_true.1 hletter
    exact not_writesSigned_of_letter (exists_letter_of_normal ha halpha) n hn.1
  · rw [← normalizeName_eq_iff, hnormal] at hspelled
    exact normalizeName_oemDeny_ne hc d hspelled

end Parse

end Chain

open Chain (SpelledLike)

/-! ## Words for chains -/

/-- In every spelling the word is read as the chain, and a command line with it in the place of the
chain asks for its command on that chain. -/
structure Addresses (word : List Char) (c : Chain) : Prop where
  read : ∀ text : String, SpelledLike text.toList word → Chain.parse text = .ok c
  asked : ∀ text : String, SpelledLike text.toList word → ∀ line make, Cli.AsksAbout line make →
    Cli.parse (line text) = .ok (.ofCommand (make c))

/-- In every spelling the word is an unknown name, and a command line with it in the place of the
chain is refused. -/
structure AddressesNone (word : List Char) : Prop where
  read : ∀ text : String, SpelledLike text.toList word →
    Chain.parse text = .error (.unknownChainName text)
  refused : ∀ text : String, SpelledLike text.toList word → ∀ line make, Cli.AsksAbout line make →
    Cli.parse (line text) = .error .valueValidation

theorem AddressesNone.not_addresses {word : List Char} (h : AddressesNone word) (c : Chain) :
    ¬Addresses word c := by
  intro hc
  have hword : SpelledLike (String.ofList word).toList word := by
    rw [String.toList_ofList]
    exact .refl word
  have hread := hc.read _ hword
  rw [h.read _ hword] at hread
  cases hread

/-- **The name in text addresses the chain**, in every spelling and for every command on a chain. -/
theorem addresses_name (c : Chain) : Addresses c.name.toList c where
  read _ := Chain.parse_of_spelledLike_name
  asked text h line make hline := by
    rw [Cli.parse_asksAbout (Chain.plain_of_spelledLike h c.letter_name) hline,
      Chain.parse_of_spelledLike_name h]

/-- **The other name of a chain addresses nothing**: it is nobody's name, and no number either. -/
theorem addressesNone_of_oemDeny {c : Chain} (hc : c ∈ Chain.oemDeny) :
    AddressesNone c.serialized.toList where
  read _ := Chain.parse_of_spelledLike_oemDeny hc
  refused text h line make hline := by
    rw [Cli.parse_asksAbout (Chain.plain_of_spelledLike h c.letter_serialized) hline,
      Chain.parse_of_spelledLike_oemDeny hc h]

/-- The name in structured output addresses the chain unless it is the other one of two names. -/
theorem addresses_serialized_iff (c : Chain) :
    Addresses c.serialized.toList c ↔ c ∉ Chain.oemDeny := by
  -- the printed form differs from the name for the three chains of the vendor only
  constructor
  · intro haddresses hc
    exact (addressesNone_of_oemDeny hc).not_addresses c haddresses
  · intro hc
    rw [Chain.serialized_eq_name hc]
    exact addresses_name c

end UidPolicy
