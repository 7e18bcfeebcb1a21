import Mathlib.Data.List.Forall2
import UidPolicy.Chain
import UidPolicy.Proofs.Text.Numeral

/-!
# Chains in text

A chain is read from its number or from its name. A text that is an integer of 32 bits is never
tried as a name, so there are two ways for a text to be no chain.

- `Chain.Denotes`: a text writes the number of a chain, or it spells the chain's name.
- `Chain.normalizeName_eq_iff`: to spell a name is to have its normal form.
- `Chain.NumberOutside`: a text writes an integer of 32 bits that is no chain's number.
- `Chain.parse_cases`: the three ends of reading a chain, each with what it says about the text.
- `ReadExactly`, `chain_readExactly`: reading accepts the texts that denote a chain and no others,
  and tells why the others are refused.
-/

namespace UidPolicy

namespace Chain

/-! ## The grammar -/

/-- A character that may stand for one of a name: the same but for the case of ASCII letters, or a
hyphen for an underscore. -/
def StandsFor (written named : Char) : Prop :=
  written.toLower = named.toLower ∨ written = '-' ∧ named = '_'

/-- The text writes the number of the chain, with a plus sign and zeros before it if need be, or it
spells the chain's name. -/
inductive Denotes (text : List Char) (c : Chain) : Prop where
  | number {sign : List Char} (hsign : sign ∈ [[], ['+']]) (zeros : Nat)
      (h : text = sign ++ List.replicate zeros '0' ++ Nat.toDigits 10 c.id.toNat)
  | name (h : List.Forall₂ StandsFor text c.name.toList)

/-- The text writes an integer of 32 bits, with a sign or without, and with any number of leading
zeros. -/
def Writes32 (text : List Char) (n : Int) : Prop :=
  Decimal.WritesSigned text n ∧ -0x80000000 ≤ n ∧ n < 0x80000000

/-- The text writes an integer of 32 bits that is the number of no chain. It is refused as a number,
not as a name. -/
def NumberOutside (text : List Char) (n : Int) : Prop := Writes32 text n ∧ ∀ c : Chain, c.id ≠ n

/-! ## Numbers -/

theorem id_toNat (c : Chain) : 0 < c.id.toNat ∧ (c.id.toNat : Int) = c.id ∧ c.id < 0x80000000 := by
  cases c <;> decide

theorem id_injective {c d : Chain} (h : c.id = d.id) : c = d := by
  have hall : ∀ c ∈ all, ∀ d ∈ all, c.id = d.id → c = d := by decide
  exact hall c c.mem_all d d.mem_all h

theorem writes32_id_iff {text : List Char} {c : Chain} : Writes32 text c.id ↔
    ∃ sign ∈ [[], ['+']], ∃ zeros,
      text = sign ++ List.replicate zeros '0' ++ Nat.toDigits 10 c.id.toNat := by
  obtain ⟨hpos, hcast, hlt⟩ := c.id_toNat
  rw [← Decimal.writesSigned_iff hpos, hcast, Writes32]
  exact ⟨And.left, fun h => ⟨h, by omega, hlt⟩⟩

theorem ofId_eq_ok_iff {n : Int} {c : Chain} : ofId n = .ok c ↔ c.id = n := by
  rw [ofId]
  cases hfound : all.find? fun c => c.id = n with
  | some d =>
    have hd : d.id = n := by simpa using List.find?_some hfound
    constructor
    · rintro ⟨⟩
      exact hd
    · intro hc
      rw [id_injective (hc.trans hd.symm)]
  | none =>
    have hnone := List.find?_eq_none.1 hfound
    constructor
    · rintro ⟨⟩
    · intro hc
      exact absurd (decide_eq_true hc) (hnone c c.mem_all)

theorem ofId_of_outside {n : Int} (hn : ∀ c : Chain, c.id ≠ n) :
    ofId n = .error (.unknownChain n) := by
  have hnone : (all.find? fun c => c.id = n) = none := by
    rw [List.find?_eq_none]
    intro c _
    simpa using hn c
  rw [ofId, hnone]

theorem within?_eq_some_iff {text : List Char} {n : Int} :
    Decimal.within? (-0x80000000) 0x7fffffff text = some n ↔ Writes32 text n := by
  rw [Decimal.within?_eq_some_iff, Writes32]
  have hupper : n ≤ 0x7fffffff ↔ n < 0x80000000 := by omega
  rw [hupper]

/-! ## Names -/

/-- Names are written in small letters, digits and underscores, and begin with a letter. This is all
that tells them from numbers. -/
theorem name_alphabet (c : Chain) :
    (∀ a ∈ c.name.toList, a.toLower = a ∧ (a.isAlphanum = true ∨ a = '_')) ∧
      ∃ a ∈ c.name.toList, a.isAlpha = true := by
  have hall : (c.name.toList.all fun a => a.toLower == a && (a.isAlphanum || a == '_')) = true := by
    cases c <;> decide
  have hany : c.name.toList.any Char.isAlpha = true := by
    cases c <;> decide
  refine ⟨fun a ha => ?_, List.any_eq_true.1 hany⟩
  simpa using List.all_eq_true.1 hall a ha

theorem name_injective {c d : Chain} (h : c.name.toList = d.name.toList) : c = d := by
  have hall : ∀ c ∈ all, ∀ d ∈ all, c.name.toList = d.name.toList → c = d := by decide
  exact hall c c.mem_all d d.mem_all h

/-- A character stands for one of a name iff that is its normal form. -/
theorem standsFor_iff {written named : Char} (hlower : named.toLower = named)
    (hhyphen : named ≠ '-') :
    StandsFor written named ↔ (if written = '-' then '_' else written.toLower) = named := by
  -- a name has no hyphen, so a hyphen in the text can only stand for the underscore
  rw [StandsFor, hlower]
  by_cases hw : written = '-'
  · rw [if_pos hw, hw]
    constructor
    · rintro (hsame | ⟨-, hunder⟩)
      · exact absurd hsame.symm hhyphen
      · exact hunder.symm
    · intro hunder
      exact .inr ⟨rfl, hunder.symm⟩
  · rw [if_neg hw]
    constructor
    · rintro (hsame | ⟨hsame, -⟩)
      · exact hsame
      · exact absurd hsame hw
    · exact .inl

/-- **To spell a name is to have its normal form.** Spellings differ in capital letters and in
hyphens for underscores, and the normal form undoes both. -/
theorem normalizeName_eq_iff {text : List Char} {c : Chain} :
    normalizeName text = c.name.toList ↔ List.Forall₂ StandsFor text c.name.toList := by
  have hname : ∀ a ∈ c.name.toList, a.toLower = a ∧ a ≠ '-' := by
    intro a ha
    obtain ⟨hlower, halpha⟩ := c.name_alphabet.1 a ha
    refine ⟨hlower, ?_⟩
    rintro rfl
    revert halpha
    decide
  -- the letters of names are all that matters from here on, so any list of such letters will do
  rw [normalizeName]
  generalize c.name.toList = name at hname
  induction name generalizing text with
  | nil => rw [List.map_eq_nil_iff, List.forall₂_nil_right_iff]
  | cons a name ih =>
    obtain ⟨hlower, hhyphen⟩ := hname a (List.mem_cons_self ..)
    have hrest : ∀ b ∈ name, b.toLower = b ∧ b ≠ '-' :=
      fun b hb => hname b (List.mem_cons_of_mem _ hb)
    cases text with
    | nil => simp
    | cons b text =>
      rw [List.map_cons, List.cons.injEq, List.forall₂_cons]
      exact and_congr (standsFor_iff hlower hhyphen).symm (ih hrest)

theorem normal_cases (b : Char) :
    b = '-' ∨ b.isUpper = true ∨ (if b = '-' then '_' else b.toLower) = b := by
  by_cases hhyphen : b = '-'
  · exact .inl hhyphen
  · by_cases hupper : b.isUpper = true
    · exact .inr (.inl hupper)
    · have hsmall : ¬(65 ≤ b.val ∧ b.val ≤ 90) := fun h => hupper (decide_eq_true h)
      refine .inr (.inr ?_)
      rw [if_neg hhyphen]
      exact dif_neg hsmall

theorem isAlpha_of_isUpper {b : Char} (hupper : b.isUpper = true) : b.isAlpha = true := by
  show (b.isUpper || b.isLower) = true
  rw [hupper, Bool.true_or]

/-- A letter of the normal form is a letter of the text. -/
theorem exists_letter_of_normal {text : List Char} {a : Char} (ha : a ∈ normalizeName text)
    (halpha : a.isAlpha = true) : ∃ b ∈ text, b.isAlpha = true := by
  obtain ⟨b, hb, rfl⟩ := List.mem_map.1 ha
  refine ⟨b, hb, ?_⟩
  rcases normal_cases b with rfl | hupper | hsame
  · exact absurd halpha (by decide)
  · exact isAlpha_of_isUpper hupper
  · rw [← hsame]
    exact halpha

/-- A text with a letter is never an integer. -/
theorem not_writesSigned_of_letter {text : List Char} (hletter : ∃ b ∈ text, b.isAlpha = true)
    (n : Int) : ¬ Decimal.WritesSigned text n := by
  intro hwrites
  obtain ⟨b, hb, halpha⟩ := hletter
  rcases hwrites.mem hb with hdigit | rfl | rfl
  · have hdigits : ∀ k < 10, (Nat.digitChar k).isAlpha = false := by decide
    obtain ⟨k, hk, rfl, -⟩ := Decimal.exists_digitChar hdigit
    rw [hdigits k hk] at halpha
    cases halpha
  · exact absurd halpha (by decide)
  · exact absurd halpha (by decide)

section Spelled

variable {text : List Char} {c : Chain} (h : List.Forall₂ StandsFor text c.name.toList)

include h

/-- A name is spelled with letters, digits, underscores and hyphens. -/
theorem alphabet_of_spelled {b : Char} (hb : b ∈ text) :
    b.isAlphanum = true ∨ b = '_' ∨ b = '-' := by
  rcases normal_cases b with hhyphen | hupper | hsame
  · exact .inr (.inr hhyphen)
  · left
    rw [Char.isAlphanum, isAlpha_of_isUpper hupper, Bool.true_or]
  · have hnamed : b ∈ c.name.toList := by
      rw [← normalizeName_eq_iff.2 h, ← hsame]
      exact List.mem_map_of_mem hb
    exact (c.name_alphabet.1 b hnamed).2.imp_right .inl

/-- There is a letter among them. -/
theorem letter_of_spelled : ∃ b ∈ text, b.isAlpha = true := by
  obtain ⟨a, ha, halpha⟩ := c.name_alphabet.2
  rw [← normalizeName_eq_iff.2 h] at ha
  exact exists_letter_of_normal ha halpha

theorem not_writesSigned_of_spelled (n : Int) : ¬ Decimal.WritesSigned text n :=
  not_writesSigned_of_letter (letter_of_spelled h) n

end Spelled

/-! ## Reading -/

theorem find?_name_eq_some_iff {text : List Char} {c : Chain} :
    (all.find? fun c => c.name.toList = normalizeName text) = some c ↔
      List.Forall₂ StandsFor text c.name.toList := by
  rw [← normalizeName_eq_iff]
  constructor
  · intro hfound
    have hname : c.name.toList = normalizeName text := by simpa using List.find?_some hfound
    exact hname.symm
  · intro hname
    cases hfound : all.find? fun c => c.name.toList = normalizeName text with
    | some d =>
      have hd : d.name.toList = normalizeName text := by simpa using List.find?_some hfound
      rw [name_injective (hd.trans hname)]
    | none =>
      exact absurd (decide_eq_true hname.symm) (List.find?_eq_none.1 hfound c c.mem_all)

/-- **A number is read as one**, whether or not a chain has it: names are tried only where there is
no number. -/
theorem parse_of_writes32 {text : String} {n : Int} (hn : Writes32 text.toList n) :
    parse text = ofId n := by
  rw [parse, within?_eq_some_iff.2 hn]

/-- **Everything else is read as a name**, and an unknown one is in the error as it is. -/
theorem parse_of_not_writes32 {text : String} (hnone : ∀ n, ¬ Writes32 text.toList n) :
    (∃ c : Chain, List.Forall₂ StandsFor text.toList c.name.toList ∧ parse text = .ok c) ∨
      (∀ c : Chain, ¬ List.Forall₂ StandsFor text.toList c.name.toList) ∧
        parse text = .error (.unknownChainName text) := by
  have hnumber : Decimal.within? (-0x80000000) 0x7fffffff text.toList = none := by
    rw [Option.eq_none_iff_forall_ne_some]
    intro n hn
    exact hnone n (within?_eq_some_iff.1 hn)
  rw [parse, hnumber]
  cases hname : all.find? fun c => c.name.toList = normalizeName text.toList with
  | some c => exact .inl ⟨c, find?_name_eq_some_iff.1 hname, rfl⟩
  | none =>
    refine .inr ⟨fun c hspelled => ?_, rfl⟩
    rw [find?_name_eq_some_iff.2 hspelled] at hname
    cases hname

/-- What denotes a chain is the chain's number, or no integer of 32 bits and the chain's name. -/
theorem denotes_iff {text : List Char} {c : Chain} :
    Denotes text c ↔ Writes32 text c.id ∨
      (∀ n, ¬ Writes32 text n) ∧ List.Forall₂ StandsFor text c.name.toList := by
  constructor
  · intro h
    cases h with
    | number hsign zeros htext => exact .inl (writes32_id_iff.2 ⟨_, hsign, zeros, htext⟩)
    | name hspelled =>
      exact .inr ⟨fun n hwrites => not_writesSigned_of_spelled hspelled n hwrites.1, hspelled⟩
  · rintro (hwrites | ⟨-, hspelled⟩)
    · obtain ⟨sign, hsign, zeros, htext⟩ := writes32_id_iff.1 hwrites
      exact .number hsign zeros htext
    · exact .name hspelled

theorem Writes32.unique {text : List Char} {m n : Int} (hm : Writes32 text m)
    (hn : Writes32 text n) : m = n := hm.1.unique hn.1

/-- **No text denotes two chains**: it writes one number at most, its normal form is one name at
most, and no name is a number. -/
theorem Denotes.unique {text : List Char} {c d : Chain} (hc : Denotes text c)
    (hd : Denotes text d) : c = d := by
  rcases denotes_iff.1 hc with hwrites | ⟨hnone, hspelled⟩
  · rcases denotes_iff.1 hd with hwrites' | ⟨hnone, -⟩
    · exact id_injective (hwrites.unique hwrites')
    · exact absurd hwrites (hnone c.id)
  · rcases denotes_iff.1 hd with hwrites | ⟨-, hspelled'⟩
    · exact absurd hwrites (hnone d.id)
    · exact name_injective
        ((normalizeName_eq_iff.2 hspelled).symm.trans (normalizeName_eq_iff.2 hspelled'))

/-- **The three ends of reading a chain**: the text denotes the chain that is answered, it writes
the number in the error and no chain has it, or it is neither and stands in the error itself. -/
theorem parse_cases (text : String) :
    (∃ c, Denotes text.toList c ∧ parse text = .ok c) ∨
      (∃ n, NumberOutside text.toList n ∧ parse text = .error (.unknownChain n)) ∨
        ((∀ c, ¬ Denotes text.toList c) ∧ ∀ n, ¬ Writes32 text.toList n) ∧
          parse text = .error (.unknownChainName text) := by
  -- a text that writes a number is never tried as a name
  by_cases hnumber : ∃ n, Writes32 text.toList n
  · obtain ⟨n, hwrites⟩ := hnumber
    rw [parse_of_writes32 hwrites]
    by_cases hchain : ∃ c : Chain, c.id = n
    · obtain ⟨c, rfl⟩ := hchain
      exact .inl ⟨c, denotes_iff.2 (.inl hwrites), ofId_eq_ok_iff.2 rfl⟩
    · have houtside : ∀ c : Chain, c.id ≠ n := fun c hc => hchain ⟨c, hc⟩
      exact .inr (.inl ⟨n, ⟨hwrites, houtside⟩, ofId_of_outside houtside⟩)
  · have hnone : ∀ n, ¬ Writes32 text.toList n := fun n hn => hnumber ⟨n, hn⟩
    rcases parse_of_not_writes32 hnone with ⟨c, hspelled, hok⟩ | ⟨hnames, herror⟩
    · exact .inl ⟨c, denotes_iff.2 (.inr ⟨hnone, hspelled⟩), hok⟩
    · refine .inr (.inr ⟨⟨fun c hc => ?_, hnone⟩, herror⟩)
      rcases denotes_iff.1 hc with hwrites | ⟨-, hspelled⟩
      · exact hnone c.id hwrites
      · exact hnames c hspelled

theorem NumberOutside.not_denotes {text : List Char} {n : Int} (hn : NumberOutside text n)
    (c : Chain) : ¬ Denotes text c := by
  intro hc
  rcases denotes_iff.1 hc with hwrites | ⟨hnone, -⟩
  · exact hn.2 c (hwrites.unique hn.1)
  · exact hnone n hn.1

/-- A text that is neither a number nor a name stands in the error. -/
theorem parse_of_neither {text : String} (hnumbers : ∀ n, ¬ Writes32 text.toList n)
    (hnames : ∀ c : Chain, ¬ List.Forall₂ StandsFor text.toList c.name.toList) :
    parse text = .error (.unknownChainName text) := by
  rcases parse_of_not_writes32 hnumbers with ⟨c, hspelled, -⟩ | ⟨-, herror⟩
  · exact absurd hspelled (hnames c)
  · exact herror

/-! ## What each end tells -/

section Ends

variable {text : String}

theorem parse_eq_ok_iff {c : Chain} : parse text = .ok c ↔ Denotes text.toList c := by
  rcases parse_cases text with ⟨d, hd, hok⟩ | ⟨n, hn, herror⟩ | ⟨⟨hnone, -⟩, herror⟩
  · rw [hok]
    constructor
    · rintro ⟨⟩
      exact hd
    · intro hc
      rw [hc.unique hd]
  · rw [herror]
    exact ⟨nofun, fun hc => absurd hc (hn.not_denotes c)⟩
  · rw [herror]
    exact ⟨nofun, fun hc => absurd hc (hnone c)⟩

theorem parse_eq_unknownChain_iff {n : Int} :
    parse text = .error (.unknownChain n) ↔ NumberOutside text.toList n := by
  rcases parse_cases text with ⟨d, hd, hok⟩ | ⟨m, hm, herror⟩ | ⟨⟨-, hnone⟩, herror⟩
  · rw [hok]
    exact ⟨nofun, fun hn => absurd hd (hn.not_denotes d)⟩
  · rw [herror]
    constructor
    · rintro ⟨⟩
      exact hm
    · intro hn
      rw [hn.1.unique hm.1]
  · rw [herror]
    exact ⟨nofun, fun hn => absurd hn.1 (hnone n)⟩

theorem parse_eq_unknownChainName_iff {name : String} :
    parse text = .error (.unknownChainName name) ↔
      name = text ∧ (∀ c, ¬ Denotes text.toList c) ∧ ∀ n, ¬ NumberOutside text.toList n := by
  rcases parse_cases text with ⟨d, hd, hok⟩ | ⟨n, hn, herror⟩ | ⟨⟨hnone, hnumbers⟩, herror⟩
  · rw [hok]
    exact ⟨nofun, fun h => absurd hd (h.2.1 d)⟩
  · rw [herror]
    exact ⟨nofun, fun h => absurd hn (h.2.2 n)⟩
  · rw [herror]
    constructor
    · rintro ⟨⟩
      exact ⟨rfl, hnone, fun n hn => hnumbers n hn.1⟩
    · rintro ⟨rfl, -⟩
      rfl

theorem parse_of_large {n : Int} (hn : Decimal.WritesSigned text.toList n)
    (hlarge : n < -0x80000000 ∨ 0x80000000 ≤ n) : parse text = .error (.unknownChainName text) := by
  refine parse_of_neither (fun m hm => ?_) fun c hspelled => ?_
  · obtain ⟨hwrites, hlow, hhigh⟩ := hm
    have hsame : m = n := hwrites.unique hn
    omega
  · exact not_writesSigned_of_spelled hspelled n hn

/-- A number has a digit, and a name has a letter. -/
theorem parse_of_bare (hbare : ∀ b ∈ text.toList, b.isAlphanum = false) :
    parse text = .error (.unknownChainName text) := by
  refine parse_of_neither (fun n hn => ?_) fun c hspelled => ?_
  · obtain ⟨b, hb, hdigit⟩ := hn.1.digit_mem
    have hletter := hbare b hb
    rw [Char.isAlphanum, hdigit, Bool.or_true] at hletter
    cases hletter
  · obtain ⟨b, hb, halpha⟩ := letter_of_spelled hspelled
    have hletter := hbare b hb
    rw [Char.isAlphanum, halpha] at hletter
    cases hletter

/-- Numbers and names are written in few characters. -/
theorem parse_of_stray {b : Char} (hb : b ∈ text.toList) (hplain : b.isAlphanum = false)
    (hmarks : b ∉ ['_', '-', '+']) : parse text = .error (.unknownChainName text) := by
  refine parse_of_neither (fun n hn => ?_) fun c hspelled => ?_
  · rcases hn.1.mem hb with hdigit | rfl | rfl
    · rw [Char.isAlphanum, hdigit, Bool.or_true] at hplain
      cases hplain
    · exact hmarks (by decide)
    · exact hmarks (by decide)
  · rcases alphabet_of_spelled hspelled hb with hletter | rfl | rfl
    · rw [hletter] at hplain
      cases hplain
    · exact hmarks (by decide)
    · exact hmarks (by decide)

end Ends

end Chain

/-! ## Exactness -/

/-- Reading a chain accepts the texts that denote one, and tells why the others are refused. The
errors are stated in full, since they quote what was read. -/
structure ReadExactly (text : String) : Prop where
  accepted : ∀ c, Chain.parse text = .ok c ↔ Chain.Denotes text.toList c
  /-- No text denotes two chains. -/
  single : ∀ c d, Chain.Denotes text.toList c → Chain.Denotes text.toList d → c = d
  /-- An integer of 32 bits that no chain has is in the error. -/
  unknownNumber : ∀ n,
    Chain.parse text = .error (.unknownChain n) ↔ Chain.NumberOutside text.toList n
  /-- Everything else is in the error as it is. -/
  unknownName : ∀ name, Chain.parse text = .error (.unknownChainName name) ↔
    name = text ∧ (∀ c, ¬ Chain.Denotes text.toList c) ∧
      ∀ n, ¬ Chain.NumberOutside text.toList n
  /-- There is no other end. -/
  total : (∃ c, Chain.parse text = .ok c) ∨ (∃ n, Chain.parse text = .error (.unknownChain n)) ∨
    Chain.parse text = .error (.unknownChainName text)
  /-- An integer that does not fit in 32 bits is refused as a name. -/
  tooLarge : ∀ n, Decimal.WritesSigned text.toList n → n < -0x80000000 ∨ 0x80000000 ≤ n →
    Chain.parse text = .error (.unknownChainName text)
  /-- So is a text without a letter or a digit, such as the empty one or a sign alone. -/
  bare : (∀ b ∈ text.toList, b.isAlphanum = false) →
    Chain.parse text = .error (.unknownChainName text)
  /-- So is a text with another character, such as a blank before or behind a name. -/
  stray : (∃ b ∈ text.toList, b.isAlphanum = false ∧ b ∉ ['_', '-', '+']) →
    Chain.parse text = .error (.unknownChainName text)

/-- **Reading a chain is exact**, for every text: it is a number of 32 bits, a spelling of a name,
or neither, and each of these is read in one way. -/
theorem chain_readExactly (text : String) : ReadExactly text where
  accepted _ := Chain.parse_eq_ok_iff
  single _ _ hc hd := hc.unique hd
  unknownNumber _ := Chain.parse_eq_unknownChain_iff
  unknownName _ := Chain.parse_eq_unknownChainName_iff
  total := by
    rcases Chain.parse_cases text with ⟨c, -, hok⟩ | ⟨n, -, herror⟩ | ⟨-, herror⟩
    · exact .inl ⟨c, hok⟩
    · exact .inr (.inl ⟨n, herror⟩)
    · exact .inr (.inr herror)
  tooLarge _ hn hlarge := Chain.parse_of_large hn hlarge
  bare hbare := Chain.parse_of_bare hbare
  stray := by
    rintro ⟨b, hb, hplain, hmarks⟩
    exact Chain.parse_of_stray hb hplain hmarks

/-- Signs, zeros and hyphens; a number of no chain, one beyond 32 bits, and a blank. -/
example :
    ["+007", "Low-Power_STANDBY", "-0", "2147483648", " dozable"].map Chain.parse
      = [.ok .oemDeny1, .ok .lowPowerStandby, .error (.unknownChain 0),
          .error (.unknownChainName "2147483648"), .error (.unknownChainName " dozable")] := by
  decide

end UidPolicy
