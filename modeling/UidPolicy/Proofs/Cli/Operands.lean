import UidPolicy.Cli.Invocation
import UidPolicy.Proofs.ChainText

/-!
# Operands on the command line

An operand stays open until the next word or the end settles it. So the words of a command are read
one behind the other, each as what its operand has to be.

- `Plain`: a word that is no option word. At a command, every plain word is an operand.
- `reading`: what has been read at a command. `read_first`, `read_next`, `read_list` and `read_end`
  are the steps through its words.
- `AsksAbout`: the command lines that ask for something about a chain.
- `parse_asksAbout`: such a line asks for its command on the chain that its word denotes, and is
  refused if that denotes none.
-/

namespace UidPolicy

namespace Cli

/-- The word is no option word: it does not begin with a hyphen. -/
def Plain (word : String) : Prop := word.toList.head? ≠ some '-'

instance (word : String) : Decidable (Plain word) := inferInstanceAs (Decidable (_ ≠ _))

/-! ## Values -/

theorem read_chain (text : String) :
    ValueKind.chain.read text = (match Chain.parse text with
      | .ok c => .ok (.chain c)
      | .error _ => .error .valueValidation) := by
  rw [ValueKind.read]
  cases Chain.parse text with
  | ok c => rfl
  | error e => rfl

theorem toList_toString (uid : Uid) : (toString uid).toList = Nat.toDigits 10 uid.toNat := by
  show (toString uid.toNat).toList = _
  rw [Nat.toString_eq_repr, Nat.repr, String.toList_ofList]

theorem isDigit_of_mem_toString {uid : Uid} {c : Char} (hc : c ∈ (toString uid).toList) :
    c.isDigit = true := by
  rw [toList_toString] at hc
  exact Nat.isDigit_of_mem_toDigits (by decide) (by decide) hc

/-- An id is read from its decimal notation. -/
theorem read_uid (uid : Uid) : ValueKind.uid.read (toString uid) = .ok (.uid uid) := by
  have hwithin : Decimal.within? 0 0xffffffff (toString uid).toList = some (uid.toNat : Int) := by
    rw [toList_toString, Decimal.within?_eq_some_iff]
    have hlt := uid.toNat_lt
    exact ⟨.plain (Decimal.writes_toDigits _), by omega, by omega⟩
  have hread : ValueKind.uid.read (toString uid)
      = orInvalid (((Decimal.within? 0 0xffffffff (toString uid).toList).map Int.toNat).map
        fun n => .uid (UInt32.ofNat n)) := rfl
  rw [hread, hwithin]
  show Except.ok (Value.uid (UInt32.ofNat uid.toNat)) = _
  rw [UInt32.ofNat_toNat]

theorem read_uids (uids : List Uid) :
    (uids.map toString).mapM ValueKind.uid.read = .ok (uids.map Value.uid) := by
  induction uids with
  | nil => rfl
  | cons uid uids ih =>
    rw [List.map_cons, List.mapM_cons, read_uid, ih]
    rfl

theorem uids_map_uid (uids : List Uid) : Value.uids (uids.map Value.uid) = uids := by
  rw [Value.uids, List.filterMap_map]
  exact List.filterMap_some

theorem read_verdict (v : Verdict) : ValueKind.verdict.read v.word = .ok (.verdict v) := by
  have hlower : v.word.map Char.toLower = v.word := by
    rw [← String.toList_inj, String.toList_map]
    cases v <;> decide
  have hparse : Verdict.parse v.word = .ok v := by
    rw [Verdict.parse, hlower]
    cases v <;> decide
  show orInvalid ((Verdict.parse v.word).toOption.map Value.verdict) = _
  rw [hparse]
  rfl

theorem plain_uid (uid : Uid) : Plain (toString uid) := by
  intro h
  exact absurd (isDigit_of_mem_toString (List.mem_of_head? h)) (by decide)

theorem plain_verdict (v : Verdict) : Plain v.word := by
  cases v <;> decide

/-! ## Operands -/

theorem Scan.word_of_plain {s : Scan} {word : String} (hplain : Plain word)
    (hvalue : s.expectsValue = false) : s.word word = s.operand word := by
  rw [Scan.word]
  split
  · rfl
  · split
    · next h => exact absurd (congrArg List.head? h) hplain
    · next h => exact absurd (congrArg List.head? h) hplain
    · next h => exact absurd (congrArg List.head? h) hplain
    · rw [hvalue]
      rfl

/-- The words of an open operand are read when it is settled. -/
theorem Scan.settle_of_operand {s : Scan} {j : Nat} {texts : List String} {kind : ValueKind}
    {isList : Bool} (hunread : s.unread = some ⟨.operand j, texts⟩)
    (hkind : s.level.operands[j]? = some ⟨kind, isList⟩) :
    s.settle = (texts.mapM kind.read).map fun values =>
      { s with unread := none, given := s.given ++ [(.operand j, values)] } := by
  have hslot : ({ s with unread := none } : Scan).kind? (.operand j) = some kind :=
    congrArg (Option.map Operand.kind) hkind
  rw [Scan.settle, hunread]
  dsimp only
  rw [Scan.fill, hslot]
  · rfl
  · nofun

/-- An operand is opened after the one before is settled, if it is no further word of a list. -/
theorem Scan.operand_of_slot {s : Scan} {o : Operand}
    (ho : s.level.operands[s.nextOperand]? = some o) (word : String) :
    s.operand word
      = if o.isList && s.unread.any (·.slot = .operand s.nextOperand) then .ok (s.value word)
        else s.settle.map fun settled =>
          { settled with
            unread := some ⟨.operand s.nextOperand, [word]⟩
            expectsValue := false
            nextOperand := if o.isList then settled.nextOperand else settled.nextOperand + 1 } := by
  rw [Scan.operand, ho]
  rfl

/-- What has been read at a command: the operands that are settled, the one that is open, and the
number of the one that the next word is for. -/
def reading (leaf : Leaf) (given : Given) (unread : Option Open) (next : Nat) : Scan :=
  { level := .leaf leaf, given := given, unread := unread, nextOperand := next }

section Leaf

variable {leaf : Leaf} {given : Given} {unread : Option Open} {next j : Nat} {word text : String}
  {kind : ValueKind} {texts : List String} {o : Operand} {isList : Bool}

/-- At a command every plain word is an operand. -/
theorem read_operand (hplain : Plain word) (rest : List String) :
    read (reading leaf given unread next) (word :: rest)
      = (reading leaf given unread next).operand word >>= (read · rest) := by
  rw [read]
  show (reading leaf given unread next).word word >>= (read · rest) = _
  rw [Scan.word_of_plain hplain rfl]

theorem settle_operand (hkind : leaf.operands[j]? = some ⟨kind, isList⟩) :
    (reading leaf given (some ⟨.operand j, texts⟩) next).settle
      = (texts.mapM kind.read).map fun values =>
          reading leaf (given ++ [(.operand j, values)]) none next :=
  Scan.settle_of_operand rfl hkind

theorem settle_single (hkind : leaf.operands[j]? = some ⟨kind, isList⟩) :
    (reading leaf given (some ⟨.operand j, [text]⟩) next).settle
      = (kind.read text).map fun value =>
          reading leaf (given ++ [(.operand j, [value])]) none next := by
  rw [settle_operand hkind, List.mapM_cons, List.mapM_nil]
  cases kind.read text with
  | error e => rfl
  | ok value => rfl

/-- The first word of a command opens its first operand. -/
theorem read_first (hfirst : leaf.operands[0]? = some ⟨kind, false⟩) (hplain : Plain word)
    (rest : List String) :
    read (reading leaf [] none 0) (word :: rest)
      = read (reading leaf [] (some ⟨.operand 0, [word]⟩) 1) rest := by
  have hoperand : (reading leaf [] none 0).operand word
      = .ok (reading leaf [] (some ⟨.operand 0, [word]⟩) 1) :=
    Scan.operand_of_slot (s := reading leaf [] none 0) hfirst word
  rw [read_operand hplain, hoperand]
  rfl

/-- The next operand settles the one before. -/
theorem read_next (hkind : leaf.operands[j]? = some ⟨kind, false⟩)
    (hnext : leaf.operands[j + 1]? = some o) (hplain : Plain word) (rest : List String) :
    read (reading leaf given (some ⟨.operand j, [text]⟩) (j + 1)) (word :: rest)
      = kind.read text >>= fun value =>
        read (reading leaf (given ++ [(.operand j, [value])]) (some ⟨.operand (j + 1), [word]⟩)
          (if o.isList then j + 1 else j + 2)) rest := by
  -- the slot that is open is another one
  have hother : (o.isList && decide (Slot.operand j = Slot.operand (j + 1))) = false := by simp
  have hoperand : (reading leaf given (some ⟨.operand j, [text]⟩) (j + 1)).operand word
      = (kind.read text).map fun value =>
        reading leaf (given ++ [(.operand j, [value])]) (some ⟨.operand (j + 1), [word]⟩)
          (if o.isList then j + 1 else j + 2) := by
    rw [Scan.operand_of_slot (s := reading leaf given (some ⟨.operand j, [text]⟩) (j + 1)) hnext]
    refine (if_neg (Bool.eq_false_iff.1 hother)).trans ?_
    rw [settle_single hkind]
    cases kind.read text with
    | error e => rfl
    | ok value => rfl
  rw [read_operand hplain, hoperand]
  cases kind.read text with
  | error e => rfl
  | ok value => rfl

/-- A word behind the words of a list is one more of them. -/
theorem read_listed (hkind : leaf.operands[j]? = some ⟨kind, true⟩) (hplain : Plain word)
    (rest : List String) :
    read (reading leaf given (some ⟨.operand j, texts⟩) j) (word :: rest)
      = read (reading leaf given (some ⟨.operand j, texts ++ [word]⟩) j) rest := by
  have hsame : (true && decide (Slot.operand j = Slot.operand j)) = true := decide_eq_true rfl
  have hoperand : (reading leaf given (some ⟨.operand j, texts⟩) j).operand word
      = .ok (reading leaf given (some ⟨.operand j, texts ++ [word]⟩) j) := by
    rw [Scan.operand_of_slot (s := reading leaf given (some ⟨.operand j, texts⟩) j) hkind]
    exact if_pos hsame
  rw [read_operand hplain, hoperand]
  rfl

theorem read_list (hkind : leaf.operands[j]? = some ⟨kind, true⟩) {more : List String}
    (hplain : ∀ word ∈ more, Plain word) :
    read (reading leaf given (some ⟨.operand j, texts⟩) j) more
      = read (reading leaf given (some ⟨.operand j, texts ++ more⟩) j) [] := by
  induction more generalizing texts with
  | nil => rw [List.append_nil]
  | cons word more ih =>
    rw [read_listed hkind (hplain word (List.mem_cons_self ..)),
      ih fun word' h => hplain word' (List.mem_cons_of_mem _ h), List.append_assoc,
      List.singleton_append]

theorem read_end (hkind : leaf.operands[j]? = some ⟨kind, isList⟩) :
    read (reading leaf given (some ⟨.operand j, texts⟩) next) []
      = texts.mapM kind.read >>= fun values =>
        finish (reading leaf (given ++ [(.operand j, values)]) none next) := by
  rw [read, finish, settle_operand hkind]
  cases texts.mapM kind.read with
  | error e => rfl
  | ok values => rfl

theorem read_end_of_ok {values : List Value} (hkind : leaf.operands[j]? = some ⟨kind, isList⟩)
    (hread : texts.mapM kind.read = .ok values) :
    read (reading leaf given (some ⟨.operand j, texts⟩) next) []
      = finish (reading leaf (given ++ [(.operand j, values)]) none next) := by
  rw [read_end hkind, hread]
  rfl

theorem mapM_single {value : Value} (hread : kind.read text = .ok value) :
    [text].mapM kind.read = .ok [value] := by
  rw [List.mapM_cons, List.mapM_nil, hread]
  rfl

end Leaf

/-! ## Commands about a chain -/

/-- The command lines that ask for something about a chain, with the word for the chain left open,
and what they ask for. -/
inductive AsksAbout : (String → List String) → (Chain → Command) → Prop where
  | ruleAdd (uid : Uid) : AsksAbout (["rule", "add", ·, toString uid]) (.ruleAdd · uid)
  | ruleRemove (uid : Uid) : AsksAbout (["rule", "remove", ·, toString uid]) (.ruleRemove · uid)
  | ruleSet (uid : Uid) (v : Verdict) :
      AsksAbout (["rule", "set", ·, toString uid, v.word]) (.ruleSet · uid v)
  | ruleGet (uid : Uid) : AsksAbout (["rule", "get", ·, toString uid]) (.ruleGet · uid)
  | chainReplace (uids : List Uid) :
      AsksAbout ("chain" :: "replace" :: · :: uids.map toString) (.chainReplace · uids)
  | chainEnable : AsksAbout (["chain", "enable", ·]) .chainEnable
  | chainDisable : AsksAbout (["chain", "disable", ·]) .chainDisable
  | chainList : AsksAbout (["chain", "list", ·]) .chainList

/-- What is asked for without any option. -/
def Invocation.ofCommand (command : Command) : Invocation :=
  ⟨Config.defaultPath, none, none, .text, command⟩

/-- A command word leads down the tree. -/
theorem read_command {level next : Level} {word : String} (hchild : level.child? word = some next)
    (rest : List String) :
    read { level := level } (word :: rest)
      = (read { level := next } rest).map fun r => { r with given := [] :: r.given } := by
  have hnext : (if ({ level := level } : Scan).allowsCommand then level.child? word else none)
      = some next := hchild
  rw [read, hnext]
  dsimp only
  cases read { level := next } rest with
  | error e => rfl
  | ok r => rfl

/-- Two command words lead to a command. -/
theorem parse_path {leaf : Leaf} {first second : String} {level : Level}
    (hfirst : grammar.child? first = some level) (hsecond : level.child? second = some (.leaf leaf))
    (words : List String) :
    parse (first :: second :: words)
      = (read (reading leaf [] none 0) words).map fun r =>
          (Reading.mk r.command ([] :: [] :: r.given)).invocation := by
  rw [parse, read_command hfirst, read_command hsecond]
  show ((Except.map _ (Except.map _ (read (reading leaf [] none 0) words))) >>= _) = _
  cases read (reading leaf [] none 0) words with
  | error e => rfl
  | ok r => rfl

/-- A command that is read behind the word for its chain. Whether the word stands for a chain is
decided before anything else is read, so a fault of it is the one that is shown. -/
theorem parse_of_read (leaf : Leaf) {first second text : String} {level : Level}
    {words : List String} {given : Value → Given} {next : Nat} {make : Chain → Command}
    (hfirst : grammar.child? first = some level) (hsecond : level.child? second = some (.leaf leaf))
    (hread : read (reading leaf [] none 0) words
      = ValueKind.chain.read text >>= fun value => finish (reading leaf (given value) none next))
    (hfinish : ∀ c, (finish (reading leaf (given (.chain c)) none next)).map
      (fun r => (Reading.mk r.command ([] :: [] :: r.given)).invocation)
        = .ok (.ofCommand (make c))) :
    parse (first :: second :: words)
      = (match Chain.parse text with
        | .ok c => .ok (.ofCommand (make c))
        | .error _ => .error .valueValidation) := by
  rw [parse_path hfirst hsecond, hread, read_chain]
  cases Chain.parse text with
  | ok c => exact hfinish c
  | error e => rfl

section Lines

variable {text : String} (hplain : Plain text)

include hplain

/-- The word for the chain is read first, and only then what is behind it. -/
theorem read_behind {leaf : Leaf} (hchain : leaf.operands[0]? = some ⟨.chain, false⟩) {o : Operand}
    (hnext : leaf.operands[1]? = some o) {word : String} (hword : Plain word) (rest : List String) :
    read (reading leaf [] none 0) (text :: word :: rest)
      = ValueKind.chain.read text >>= fun value =>
        read (reading leaf [(.operand 0, [value])] (some ⟨.operand 1, [word]⟩)
          (if o.isList then 1 else 2)) rest := by
  rw [read_first hchain hplain]
  exact read_next hchain hnext hword rest

theorem read_alone {leaf : Leaf} (hchain : leaf.operands[0]? = some ⟨.chain, false⟩) :
    read (reading leaf [] none 0) [text]
      = ValueKind.chain.read text >>= fun value =>
        finish (reading leaf [(.operand 0, [value])] none 1) := by
  rw [read_first hchain hplain, read_end hchain, List.mapM_cons, List.mapM_nil]
  cases ValueKind.chain.read text with
  | error e => rfl
  | ok value => rfl

theorem read_with_uid {leaf : Leaf} (hchain : leaf.operands[0]? = some ⟨.chain, false⟩)
    (huid : leaf.operands[1]? = some ⟨.uid, false⟩) (uid : Uid) :
    read (reading leaf [] none 0) [text, toString uid]
      = ValueKind.chain.read text >>= fun value =>
        finish (reading leaf [(.operand 0, [value]), (.operand 1, [.uid uid])] none 2) := by
  rw [read_behind hplain hchain huid (plain_uid uid)]
  refine congrArg _ (funext fun value => ?_)
  exact read_end_of_ok huid (mapM_single (read_uid uid))

theorem read_with_verdict (uid : Uid) (v : Verdict) :
    read (reading .ruleSet [] none 0) [text, toString uid, v.word]
      = ValueKind.chain.read text >>= fun value =>
        finish (reading .ruleSet
          [(.operand 0, [value]), (.operand 1, [.uid uid]), (.operand 2, [.verdict v])]
          none 3) := by
  have huid : Leaf.ruleSet.operands[1]? = some ⟨.uid, false⟩ := rfl
  have hverdict : Leaf.ruleSet.operands[2]? = some ⟨.verdict, false⟩ := rfl
  rw [read_behind hplain rfl huid (plain_uid uid)]
  refine congrArg _ (funext fun value => ?_)
  refine (read_next huid hverdict (plain_verdict v) []).trans ?_
  rw [read_uid]
  exact read_end_of_ok hverdict (mapM_single (read_verdict v))

theorem read_with_uids (uid : Uid) (uids : List Uid) :
    read (reading .chainReplace [] none 0) (text :: (uid :: uids).map toString)
      = ValueKind.chain.read text >>= fun value =>
        finish (reading .chainReplace
          [(.operand 0, [value]), (.operand 1, (uid :: uids).map .uid)] none 1) := by
  have huids : Leaf.chainReplace.operands[1]? = some ⟨.uid, true⟩ := rfl
  have hplains : ∀ word ∈ uids.map toString, Plain word := by
    intro word hword
    obtain ⟨u, -, rfl⟩ := List.mem_map.1 hword
    exact plain_uid u
  rw [List.map_cons, read_behind hplain rfl huids (plain_uid uid)]
  refine congrArg _ (funext fun value => ?_)
  refine (read_list huids hplains).trans ?_
  exact read_end_of_ok huids (read_uids (uid :: uids))

/-- **A line about a chain** asks for its command on the chain that the word denotes, and is refused
if the word denotes none. -/
theorem parse_asksAbout {line : String → List String} {make : Chain → Command}
    (hline : AsksAbout line make) :
    parse (line text)
      = (match Chain.parse text with
        | .ok c => .ok (.ofCommand (make c))
        | .error _ => .error .valueValidation) := by
  -- each line is read up to the chain and behind it; what stands behind is the only difference
  cases hline with
  | ruleAdd uid =>
    exact parse_of_read .ruleAdd rfl rfl (read_with_uid hplain rfl rfl uid) fun _ => rfl
  | ruleRemove uid =>
    exact parse_of_read .ruleRemove rfl rfl (read_with_uid hplain rfl rfl uid) fun _ => rfl
  | ruleSet uid v =>
    exact parse_of_read .ruleSet rfl rfl (read_with_verdict hplain uid v) fun _ => rfl
  | ruleGet uid =>
    exact parse_of_read .ruleGet rfl rfl (read_with_uid hplain rfl rfl uid) fun _ => rfl
  | chainReplace uids =>
    cases uids with
    | nil => exact parse_of_read .chainReplace rfl rfl (read_alone hplain rfl) fun _ => rfl
    | cons uid uids =>
      refine parse_of_read .chainReplace rfl rfl (read_with_uids hplain uid uids) fun c => ?_
      -- the list is collected in one slot, with what later words would add left empty
      show Except.ok (Invocation.ofCommand (.chainReplace c
        (Value.uids ((uid :: uids).map Value.uid ++ [])))) = _
      rw [List.append_nil, uids_map_uid]
  | chainEnable => exact parse_of_read .chainEnable rfl rfl (read_alone hplain rfl) fun _ => rfl
  | chainDisable => exact parse_of_read .chainDisable rfl rfl (read_alone hplain rfl) fun _ => rfl
  | chainList => exact parse_of_read .chainList rfl rfl (read_alone hplain rfl) fun _ => rfl

end Lines

end Cli

end UidPolicy
