import UidPolicy.Command.Run
import UidPolicy.Proofs.Cli.Spelling
import UidPolicy.Proofs.Stats.Commands
import UidPolicy.Proofs.Text.Words

/-!
# Chains in outputs

A script takes the name of a chain from what one command prints and gives it to another command.
Messages and lines of text show the name in text, and this is read as the chain. Documents show the
name in structured output, which for three chains is another name that nothing reads.

- `Command.printedChains`: the chains that a command names in what it prints.
- `Command.printedName`: the name under which it does.
- `Command.chainWords`: the words that a script takes for chains.
- `Command.chainWords_eq`: these are the names, for every command that runs to its end.
- `printedChains_addressed_iff`: when every one of them addresses its chain.
- `listedChain_refused`: a listing whose chain is not found again.
-/

namespace UidPolicy

open Memory (World Setting)

/-! ## Names as words -/

namespace Chain

theorem isWord_name (c : Chain) : IsWord c.name.toList where
  ne_nil := by cases c <;> decide
  wordChars := List.all_eq_true.1 (by cases c <;> decide)

theorem isWord_serialized (c : Chain) : IsWord c.serialized.toList where
  ne_nil := by cases c <;> decide
  wordChars := List.all_eq_true.1 (by cases c <;> decide)

/-- A name stands in a JSON string as it is. -/
theorem escape_name (c : Chain) : c.name.toList.flatMap Json.escape = c.name.toList := by
  cases c <;> decide

theorem escape_serialized (c : Chain) :
    c.serialized.toList.flatMap Json.escape = c.serialized.toList := by
  cases c <;> decide

theorem words_quote_serialized (c : Chain) :
    words (Json.quote c.serialized).toList = [c.serialized.toList] := by
  rw [Json.words_quote, c.escape_serialized, words_of_isWord c.isWord_serialized]

end Chain

namespace Command

/-! ## What names a chain -/

/-- The commands whose documents show chains, as structured output names them. Messages name chains
as text does, in both formats. -/
def showsChains : Command → Bool
  | ruleGet .. | chainStatus | chainList _ => true
  | _ => false

/-- The name under which a command prints a chain. It depends on the format only where the command
prints a document about chains. -/
def printedName (format : OutputFormat) (cmd : Command) (c : Chain) : String :=
  match format with
  | .json => if cmd.showsChains then c.serialized else c.name
  | .text => c.name

/-- The chains that a command names in what it prints, in the order of the output. It is read off
the command and its answer, not off the text. -/
def printedChains (format : OutputFormat) (p : Printed) : Command → List Chain
  | ruleAdd c _ | ruleRemove c _ | ruleSet c _ _ | chainEnable c | chainDisable c => [c]
  | ruleGet c _ | chainList c => if format = .json then [c] else []
  | chainStatus => Chain.all
  -- the message of a batch is in the output only as text, but always in the failure
  | chainReplace c _ =>
    (if format = .json then [] else [c]) ++ (p.partialFailure.map fun _ => c).toList
  | _ => []

/-- The words that a script takes for chains. Where they stand is fixed by the command and the
format, so a script needs no more than the output. -/
def chainWords (format : OutputFormat) (p : Printed) : Command → List (List Char)
  | ruleAdd .. | ruleRemove .. | ruleSet .. => wordFromEnd 0 p.stdout
  | chainEnable _ | chainDisable _ => wordFromEnd 1 p.stdout
  | ruleGet .. | chainList _ => if format = .json then wordAt 1 p.stdout else []
  | chainStatus =>
    match format with
    | .json => everyNth 7 1 (words p.stdout.toList)
    | .text => everyNth 3 4 (words p.stdout.toList)
  | chainReplace .. =>
    (if format = .json then [] else wordAt 1 p.stdout)
      ++ p.partialFailure.toList.flatMap (wordAt 1)
  | _ => []

/-! ## Words of results -/

theorem words_emit_text (value : Json) (text : String) :
    words (emit .text value text).stdout.toList = words text.toList := by
  have hline : Apart "\n".toList := by decide
  show words (text ++ "\n").toList = _
  rw [String.toList_append, hline.words_append_right]

theorem words_emit_json (value : Json) (text : String) :
    words (emit .json value text).stdout.toList = words (value.prettyAt 0).toList := by
  have hline : Apart "\n".toList := by decide
  show words (value.prettyAt 0 ++ "\n").toList = _
  rw [String.toList_append, hline.words_append_right]

/-- A document that begins with a member begins with the words of this member. -/
theorem words_document (m : String × Json) (members : List (String × Json)) (text : String) :
    words (emit .json (.object (m :: members)) text).stdout.toList
      = Json.memberWords 1 m ++ members.flatMap (Json.memberWords 1) := by
  rw [words_emit_json, Json.words_object, List.flatMap_cons]

/-! ## Messages -/

theorem words_done_json (what : String) :
    words (done .json what).stdout.toList
      = ["ok".toList, "true".toList, "op".toList] ++ words (what.toList.flatMap Json.escape) := by
  have hok : Json.memberWords 1 ("ok", .bool true) = ["ok".toList, "true".toList] := by decide
  have hop : Json.memberWords 1 ("op", .string what)
      = ["op".toList] ++ words (what.toList.flatMap Json.escape) := by
    have hname : words (Json.quote "op").toList = ["op".toList] := by decide
    rw [Json.memberWords, hname, Json.prettyAt, Json.words_quote]
  rw [done, words_document, hok, List.flatMap_cons, hop, List.flatMap_nil, List.append_nil]
  rfl

/-- Blanks stay blanks in a JSON string. -/
theorem endsApart_escaped {front : List Char} (hfront : ∀ a ∈ front.getLast?, a = ' ') :
    EndsApart (front.flatMap Json.escape) := by
  cases hlast : front.getLast? with
  | none =>
    rw [List.getLast?_eq_none_iff.1 hlast]
    decide
  | some a =>
    obtain ⟨earlier, rfl⟩ := List.getLast?_eq_some_iff.1 hlast
    rw [hfront a hlast, List.flatMap_append]
    exact endsApart_append_singleton _ rfl

/-- **The name in a message** has the same words behind it in both formats, so it is found from the
end; in front of it stand ids and numbers, how many of them depends on the answer. -/
theorem wordFromEnd_done (format : OutputFormat) (c : Chain) {what : String} (front : List Char)
    {back : List Char} {n : Nat} (hwhat : what.toList = front ++ (c.name.toList ++ back))
    (hfront : ∀ a ∈ front.getLast?, a = ' ') (hback : StartsApart back)
    (hplain : back.flatMap Json.escape = back) (hn : (words back).length = n) :
    wordFromEnd n (done format what).stdout = [c.name.toList] := by
  cases format with
  | text =>
    have hends : EndsApart front := fun a ha => by
      rw [hfront a ha]
      rfl
    have hwords : words (done .text what).stdout.toList
        = words front ++ c.name.toList :: words back := by
      rw [done, words_emit_text, hwhat, words_spot hends c.isWord_name hback]
    exact wordFromEnd_of_words hwords hn
  | json =>
    -- a name has nothing to escape, so the message in the document has it unchanged
    have hescaped : what.toList.flatMap Json.escape
        = front.flatMap Json.escape ++ (c.name.toList ++ back) := by
      rw [hwhat, List.flatMap_append, List.flatMap_append, c.escape_name, hplain]
    have hwords : words (done .json what).stdout.toList
        = ["ok".toList, "true".toList, "op".toList] ++ words (front.flatMap Json.escape)
          ++ c.name.toList :: words back := by
      rw [words_done_json, hescaped,
        words_spot (endsApart_escaped hfront) c.isWord_name hback, List.append_assoc]
    exact wordFromEnd_of_words hwords hn

/-- A message that ends with the name. -/
theorem wordFromEnd_behind (format : OutputFormat) (c : Chain) (front : String) {last : String}
    (hlast : last.toList.getLast? = some ' ') :
    wordFromEnd 0 (done format (front ++ last ++ c.name)).stdout = [c.name.toList] := by
  have hwhat : (front ++ last ++ c.name).toList
      = (front.toList ++ last.toList) ++ (c.name.toList ++ []) := by
    rw [String.toList_append, String.toList_append, List.append_nil]
  refine wordFromEnd_done format c _ hwhat (fun a ha => ?_) (by decide) rfl rfl
  rw [List.getLast?_append, hlast] at ha
  exact (Option.some.inj ha).symm

/-- A message that begins with the name and has one word behind it. -/
theorem wordFromEnd_before (format : OutputFormat) (c : Chain) {back : String}
    (hback : StartsApart back.toList) (hplain : back.toList.flatMap Json.escape = back.toList)
    (hone : (words back.toList).length = 1) :
    wordFromEnd 1 (done format (c.name ++ back)).stdout = [c.name.toList] :=
  wordFromEnd_done format c [] String.toList_append nofun hback hplain hone

/-! ## Documents about a chain -/

/-- The member that names a chain. -/
theorem memberWords_chain (level : Nat) (c : Chain) :
    Json.memberWords level ("chain", .string c.serialized)
      = ["chain".toList] ++ [c.serialized.toList] := by
  have hname : words (Json.quote "chain").toList = ["chain".toList] := by decide
  rw [Json.memberWords, hname, Json.prettyAt, c.words_quote_serialized]

/-- **The name in a document about a chain** is its second word. -/
theorem wordAt_document {p : Printed} {c : Chain} {members : List (String × Json)} {text : String}
    (hprinted : p = emit .json (.object (("chain", .string c.serialized) :: members)) text) :
    wordAt 1 p.stdout = [c.serialized.toList] := by
  have hwords := words_document ("chain", .string c.serialized) members text
  rw [← hprinted, memberWords_chain, List.append_assoc] at hwords
  exact wordAt_of_words hwords rfl

/-! ## Batches -/

/-- What a batch shows in text. -/
def batchText (what : String) (o : BatchOutcome) : String :=
  if o.failed.isEmpty then s!"{what}: {o.applied} applied"
  else s!"{what}: {o.applied} applied, failed uids: {uidList o.failed}"

theorem batchText_eq (what : String) (o : BatchOutcome) :
    ∃ rest, batchText what o = what ++ (": " ++ rest) := by
  rw [batchText]
  cases o.failed.isEmpty with
  | true =>
    refine ⟨toString o.applied ++ " applied", ?_⟩
    show what ++ ": " ++ toString o.applied ++ " applied" = _
    rw [String.append_assoc, String.append_assoc]
  | false =>
    refine ⟨toString o.applied ++ (" applied, failed uids: " ++ uidList o.failed), ?_⟩
    show what ++ ": " ++ toString o.applied ++ " applied, failed uids: " ++ uidList o.failed = _
    rw [String.append_assoc, String.append_assoc, String.append_assoc]

/-- The message about a batch begins with what the batch was for, in the output and in the
failure. -/
theorem printed_of_emitBatch {W : Type} {format : OutputFormat} {what : String} {o : BatchOutcome}
    {w : W} {p : Printed} (h : Answers (emitBatch format what o) w p) :
    (∃ value, p.stdout = (emit format value (batchText what o)).stdout) ∧
      ∀ text ∈ p.partialFailure, ∃ rest, text = what ++ (": " ++ rest) := by
  dsimp only [emitBatch] at h
  cases hdone : o.isComplete with
  | true =>
    rw [hdone] at h
    obtain rfl := Except.ok.inj h
    refine ⟨⟨_, rfl⟩, fun text htext => ?_⟩
    -- a complete batch has no failure to report
    cases format <;> cases htext
  | false =>
    rw [hdone] at h
    obtain rfl := Except.ok.inj h
    refine ⟨⟨_, rfl⟩, fun text htext => ?_⟩
    cases htext
    refine ⟨toString o.failed.length ++ " uid(s) failed", ?_⟩
    show what ++ ": " ++ toString o.failed.length ++ " uid(s) failed" = _
    rw [String.append_assoc, String.append_assoc]

/-- The name in a message about a replacement is its second word. -/
theorem wordAt_replace (c : Chain) (rest : String) :
    wordAt 1 ("replace " ++ c.name ++ (": " ++ rest)) = [c.name.toList] := by
  have hends : EndsApart "replace ".toList := by decide
  have hstarts : StartsApart (": " ++ rest).toList := by
    rw [String.toList_append]
    exact startsApart_cons rfl _
  have hcount : (words "replace ".toList).length = 1 := by decide
  have hwords : words ("replace " ++ c.name ++ (": " ++ rest)).toList
      = words "replace ".toList ++ c.name.toList :: words (": " ++ rest).toList := by
    rw [String.toList_append, String.toList_append, List.append_assoc,
      words_spot hends c.isWord_name hstarts]
  exact wordAt_of_words hwords hcount

/-! ## The table of the chains -/

theorem words_padRight (width : Nat) (s : String) :
    words (padRight width s).toList = words s.toList := by
  rw [padRight, String.toList_append, String.toList_ofList, (apart_blanks _).words_append_right]

theorem words_padLeft (width : Nat) (s : String) :
    words (padLeft width s).toList = words s.toList := by
  rw [padLeft, String.toList_append, String.toList_ofList, (apart_blanks _).words_append]

theorem words_statusLine (chain id kind state : String) :
    words (statusLine chain id kind state).toList
      = words chain.toList ++ (words id.toList ++ (words kind.toList ++ words state.toList)) := by
  -- the cells are padded with blanks, and blanks separate words as the two between the cells do
  have hline : (statusLine chain id kind state).toList
      = (padRight 20 chain).toList ++ ' ' :: ((padLeft 3 id).toList ++ ' ' :: ' ' ::
        ((padRight 6 kind).toList ++ ' ' :: ' ' :: (padRight 8 state).toList)) := by
    have htext : statusLine chain id kind state = padRight 20 chain ++ " " ++ padLeft 3 id ++ "  "
        ++ padRight 6 kind ++ "  " ++ padRight 8 state := rfl
    have hone : " ".toList = [' '] := rfl
    have htwo : "  ".toList = [' ', ' '] := rfl
    rw [htext]
    simp only [String.toList_append, hone, htwo, List.append_assoc, List.cons_append,
      List.nil_append]
  have hblank : isWordChar ' ' = false := rfl
  rw [hline, words_append_separator _ _ hblank, words_append_separator _ _ hblank,
    words_separator_cons _ hblank, words_append_separator _ _ hblank,
    words_separator_cons _ hblank, words_padRight, words_padLeft, words_padRight, words_padRight]

/-- The cells behind the name of a chain, in the table that is shown as text. -/
def cellsBehind (enabled : MatchSet) (c : Chain) : List (List Char) :=
  [(toString c.id).toList, (if c.isAllowList then "allow" else "deny").toList,
    (if enabled.contains c.bit then "enabled" else "disabled").toList]

theorem words_chainLine (enabled : MatchSet) (c : Chain) :
    words (chainLine enabled c).toList = c.name.toList :: cellsBehind enabled c := by
  have hid : words (toString c.id).toList = [(toString c.id).toList] := by
    cases c <;> decide
  have hkind : words (if c.isAllowList then "allow" else "deny").toList
      = [(if c.isAllowList then "allow" else "deny").toList] := by
    cases c.isAllowList <;> decide
  have hstate : words (if enabled.contains c.bit then "enabled" else "disabled").toList
      = [(if enabled.contains c.bit then "enabled" else "disabled").toList] := by
    cases enabled.contains c.bit <;> decide
  rw [chainLine, words_statusLine, words_of_isWord c.isWord_name, hid, hkind, hstate]
  rfl

/-- **The first column of the table** is the names of the chains: every row has the same number of
words, whatever is in its cells. -/
theorem everyNth_chainLines {p : Printed} {value : Json} (enabled : MatchSet)
    (hprinted : p = emit .text value ("\n".intercalate
      (statusLine "CHAIN" "ID" "KIND" "STATE" :: Chain.all.map (chainLine enabled)))) :
    everyNth 3 4 (words p.stdout.toList) = Chain.all.map (·.name.toList) := by
  have hheader : words (statusLine "CHAIN" "ID" "KIND" "STATE").toList
      = ["CHAIN".toList, "ID".toList, "KIND".toList, "STATE".toList] := by
    have hcells : words "CHAIN".toList ++ (words "ID".toList ++ (words "KIND".toList
        ++ words "STATE".toList))
          = ["CHAIN".toList, "ID".toList, "KIND".toList, "STATE".toList] := by decide
    rw [words_statusLine, hcells]
  have hrows : ((Chain.all.map (chainLine enabled)).map String.toList).flatMap words
      = Chain.all.flatMap fun c => [] ++ c.name.toList :: cellsBehind enabled c := by
    rw [List.map_map, List.flatMap_map]
    exact congrArg Chain.all.flatMap (funext (words_chainLine enabled))
  have hnewline : "\n".toList = ['\n'] := rfl
  rw [hprinted, words_emit_text, String.toList_intercalate, hnewline, words_intercalate rfl,
    List.map_cons, List.flatMap_cons, hheader, hrows]
  -- the words of the header are skipped
  refine (everyNth_skip 3 ["CHAIN".toList, "ID".toList, "KIND".toList, "STATE".toList] _ 0).trans ?_
  exact everyNth_flatMap (fun _ => []) (cellsBehind enabled) (·.name.toList) (fun _ => rfl)
    (fun _ => rfl) Chain.all

/-- The words of a row behind the name of the chain. -/
def membersBehind (enabled : MatchSet) (c : Chain) : List (List Char) :=
  ["id".toList, (toString c.id).toList, "allow_list".toList, (toString c.isAllowList).toList,
    "enabled".toList, (toString (enabled.contains c.bit)).toList]

theorem words_chainRow (enabled : MatchSet) (c : Chain) :
    words ((chainRow enabled c).prettyAt 1).toList
      = ["chain".toList] ++ c.serialized.toList :: membersBehind enabled c := by
  have hid : Json.memberWords 2 ("id", .number c.id) = ["id".toList, (toString c.id).toList] := by
    cases c <;> decide
  have hkind : Json.memberWords 2 ("allow_list", .bool c.isAllowList)
      = ["allow_list".toList, (toString c.isAllowList).toList] := by
    cases c.isAllowList <;> decide
  have hstate : Json.memberWords 2 ("enabled", .bool (enabled.contains c.bit))
      = ["enabled".toList, (toString (enabled.contains c.bit)).toList] := by
    cases enabled.contains c.bit <;> decide
  rw [chainRow, Json.words_object, List.flatMap_cons, List.flatMap_cons, List.flatMap_cons,
    List.flatMap_cons, List.flatMap_nil, memberWords_chain, hid, hkind, hstate]
  rfl

/-- **The second word of every row** is the name in structured output, for every row has as many
words as the others. -/
theorem everyNth_chainRows {p : Printed} {text : String} (enabled : MatchSet)
    (hprinted : p = emit .json (.array (Chain.all.map (chainRow enabled))) text) :
    everyNth 7 1 (words p.stdout.toList) = Chain.all.map (·.serialized.toList) := by
  rw [hprinted, words_emit_json, Json.words_array, List.flatMap_map]
  have hrows : (Chain.all.flatMap fun c => words ((chainRow enabled c).prettyAt 1).toList)
      = Chain.all.flatMap fun c =>
        ["chain".toList] ++ c.serialized.toList :: membersBehind enabled c :=
    congrArg Chain.all.flatMap (funext (words_chainRow enabled))
  rw [hrows]
  exact everyNth_flatMap (fun _ => ["chain".toList]) (membersBehind enabled) (·.serialized.toList)
    (fun _ => rfl) (fun _ => rfl) Chain.all

/-! ## Runs -/

/-- A message names chains as text does. -/
theorem printedName_of_message {format : OutputFormat} {cmd : Command} (c : Chain)
    (hmessage : cmd.showsChains = false) : cmd.printedName format c = c.name := by
  cases format with
  | text => rfl
  | json =>
    show (if cmd.showsChains = true then c.serialized else c.name) = c.name
    rw [hmessage]
    rfl

theorem map_name_of_message {format : OutputFormat} {cmd : Command}
    (hmessage : cmd.showsChains = false) (cs : List Chain) :
    cs.map (·.name.toList) = cs.map fun c => (cmd.printedName format c).toList :=
  List.map_congr_left fun c _ => congrArg String.toList (printedName_of_message c hmessage).symm

section Runs

variable {W : Type} {b : Backing W} {format : OutputFormat} {w : W} {p : Printed}

theorem printed_of_answers {α : Type} {x : Op W α} {f : α → Printed}
    (h : Answers (x >>= fun a => pure (f a)) w p) : ∃ a, p = f a := by
  obtain ⟨a, -, hprinted⟩ := Act.of_run_bind_ok h
  exact ⟨a, (Except.ok.inj hprinted).symm⟩

/-- A replacement names its chain in its output if that is text, and in its failure if it fails. -/
theorem chainWords_replace {c : Chain} {uids : List Uid}
    (h : Answers ((chainReplace c uids).run b format) w p) :
    (chainReplace c uids).chainWords format p
      = ((chainReplace c uids).printedChains format p).map (·.name.toList) := by
  obtain ⟨o, -, hprinted⟩ := Act.of_run_bind_ok h
  obtain ⟨⟨value, hstdout⟩, hfailure⟩ := printed_of_emitBatch hprinted
  -- the failure repeats the message, so its second word is the name again
  have hfailed : p.partialFailure.toList.flatMap (wordAt 1)
      = (p.partialFailure.map fun _ => c).toList.map (·.name.toList) := by
    cases hreason : p.partialFailure with
    | none => rfl
    | some text =>
      obtain ⟨rest, rfl⟩ := hfailure text hreason
      exact (List.append_nil _).trans (wordAt_replace c rest)
  rw [chainWords, printedChains, List.map_append, hfailed]
  refine congrArg (· ++ _) ?_
  cases format with
  | json => rfl
  | text =>
    obtain ⟨rest, htext⟩ := batchText_eq s!"replace {c.name}" o
    show wordAt 1 p.stdout = [c.name.toList]
    rw [wordAt, hstdout, words_emit_text, htext]
    exact wordAt_replace c rest

/-- **The words that a script takes for chains are the names of chains**, for every command that
runs to its end. -/
theorem chainWords_eq (cmd : Command) (h : Answers (cmd.run b format) w p) :
    cmd.chainWords format p
      = (cmd.printedChains format p).map fun c => (cmd.printedName format c).toList := by
  -- one command after the other, for a script looks for the name in another place of each output
  cases cmd with
  | ruleAdd c uid =>
    obtain ⟨-, rfl⟩ := printed_of_answers h
    exact (wordFromEnd_behind format c ("uid " ++ toString uid) (by decide)).trans
      (map_name_of_message rfl [c])
  | ruleRemove c uid =>
    obtain ⟨-, rfl⟩ := printed_of_answers h
    exact (wordFromEnd_behind format c ("uid " ++ toString uid) (by decide)).trans
      (map_name_of_message rfl [c])
  | ruleSet c uid v =>
    obtain ⟨-, rfl⟩ := printed_of_answers h
    exact (wordFromEnd_behind format c ("uid " ++ toString uid ++ " set to " ++ v.word)
      (by decide)).trans (map_name_of_message rfl [c])
  | ruleGet c uid =>
    obtain ⟨v, hprinted⟩ := printed_of_answers h
    cases format with
    | text => rfl
    | json => exact wordAt_document hprinted
  | chainReplace c uids => exact (chainWords_replace h).trans (map_name_of_message rfl _)
  | chainEnable c =>
    obtain ⟨-, rfl⟩ := printed_of_answers h
    exact (wordFromEnd_before format c (by decide) (by decide) (by decide)).trans
      (map_name_of_message rfl [c])
  | chainDisable c =>
    obtain ⟨-, rfl⟩ := printed_of_answers h
    exact (wordFromEnd_before format c (by decide) (by decide) (by decide)).trans
      (map_name_of_message rfl [c])
  | chainStatus =>
    obtain ⟨enabled, hprinted⟩ := printed_of_answers h
    cases format with
    | text => exact everyNth_chainLines enabled hprinted
    | json => exact everyNth_chainRows enabled hprinted
  | chainList c =>
    obtain ⟨uids, hprinted⟩ := printed_of_answers h
    cases format with
    | text => rfl
    | json => exact wordAt_document hprinted
  | _ => rfl

end Runs

end Command

/-! ## Outputs as operands -/

/-- The name under which a command prints a chain addresses the chain unless it is the other one of
two names. -/
theorem addresses_printedName_iff (format : OutputFormat) (cmd : Command) (c : Chain) :
    Addresses (cmd.printedName format c).toList c ↔
      (format = .json → cmd.showsChains = true → c ∉ Chain.oemDeny) := by
  cases format with
  | text => exact iff_of_true (addresses_name c) nofun
  | json =>
    cases hshows : cmd.showsChains with
    | false =>
      rw [Command.printedName_of_message c hshows]
      exact iff_of_true (addresses_name c) nofun
    | true =>
      have hname : cmd.printedName .json c = c.serialized := if_pos hshows
      rw [hname, addresses_serialized_iff]
      exact ⟨fun h _ _ => h, fun h => h rfl rfl⟩

/-- **What is printed addresses its chain exactly if it is the name in text.** For every command
that runs to its end, on every backing, in every world and in both formats: the words for chains are
their names, in the order of the chains; all of them address their chains unless it is a document
that shows one of the chains with two names; and then the word for this chain addresses nothing. -/
theorem printedChains_addressed_iff {W : Type} {b : Backing W} {format : OutputFormat} {w : W}
    {p : Printed} (cmd : Command) (h : Answers (cmd.run b format) w p) :
    cmd.chainWords format p
        = (cmd.printedChains format p).map (fun c => (cmd.printedName format c).toList) ∧
      (List.Forall₂ Addresses (cmd.chainWords format p) (cmd.printedChains format p) ↔
        (format = .json → cmd.showsChains = true →
          ∀ c ∈ cmd.printedChains format p, c ∉ Chain.oemDeny)) ∧
      (format = .json → cmd.showsChains = true → ∀ c ∈ cmd.printedChains format p,
        c ∈ Chain.oemDeny → c.serialized.toList ∈ cmd.chainWords format p ∧
          AddressesNone c.serialized.toList) := by
  have hwords := Command.chainWords_eq cmd h
  refine ⟨hwords, ?_, ?_⟩
  -- the words are the names of these very chains, so each is to be looked at alone
  · rw [hwords, List.forall₂_map_left_iff, List.forall₂_same]
    constructor
    · intro haddresses hformat hshows c hc
      exact (addresses_printedName_iff format cmd c).1 (haddresses c hc) hformat hshows
    · intro hnone c hc
      refine (addresses_printedName_iff format cmd c).2 fun hformat hshows => ?_
      exact hnone hformat hshows c hc
  · rintro rfl hshows c hc hoem
    have hname : cmd.printedName .json c = c.serialized := if_pos hshows
    refine ⟨?_, addressesNone_of_oemDeny hoem⟩
    rw [hwords, ← hname]
    exact List.mem_map_of_mem hc

/-- A chain with two names in a message, which is the same in both formats. -/
theorem addedRule_addressed :
    Answers (Command.run (Setting.ofHost ⟨[], none⟩).backing .json (.ruleAdd .oemDeny2 10001))
        World.empty (Command.done .json "uid 10001 added to oem_deny_2") ∧
      (Command.ruleAdd .oemDeny2 10001).chainWords .json
        (Command.done .json "uid 10001 added to oem_deny_2") = ["oem_deny_2".toList] ∧
      Addresses "oem_deny_2".toList .oemDeny2 := by
  have hprinted : Answers
      (Command.run (Setting.ofHost ⟨[], none⟩).backing .json (.ruleAdd .oemDeny2 10001))
      World.empty (Command.done .json "uid 10001 added to oem_deny_2") := rfl
  obtain ⟨hwords, haddressed, -⟩ := printedChains_addressed_iff (.ruleAdd .oemDeny2 10001) hprinted
  have hall := haddressed.2 fun _ hshows => nomatch hshows
  rw [hwords] at hall
  exact ⟨hprinted, hwords, (List.forall₂_cons.1 hall).1⟩

/-- The listing of a chain with two names. What it shows for the chain is refused. -/
theorem listedChain_refused :
    Answers (Command.run (Setting.ofHost ⟨[], none⟩).backing .json (.chainList .oemDeny1))
        World.empty ⟨"\x7b\n  \"chain\": \"oem_deny1\",\n  \"uids\": []\n\x7d\n", none⟩ ∧
      (Command.chainList .oemDeny1).chainWords .json
        ⟨"\x7b\n  \"chain\": \"oem_deny1\",\n  \"uids\": []\n\x7d\n", none⟩ = ["oem_deny1".toList] ∧
      Chain.parse "oem_deny1" = .error (.unknownChainName "oem_deny1") ∧
      Cli.parse ["chain", "list", "oem_deny1"] = .error .valueValidation ∧
      ¬Addresses "oem_deny1".toList .oemDeny1 := by
  have hshown :
      Command.emit .json (.object [("chain", .string "oem_deny1"), ("uids", .array [])]) ""
        = ⟨"\x7b\n  \"chain\": \"oem_deny1\",\n  \"uids\": []\n\x7d\n", none⟩ := by decide
  have hoem : Chain.oemDeny1 ∈ Chain.oemDeny := by decide
  have hnone := addressesNone_of_oemDeny hoem
  refine ⟨congrArg Except.ok hshown, by decide, hnone.read _ (.refl _), ?_,
    hnone.not_addresses .oemDeny1⟩
  exact hnone.refused _ (.refl _) _ _ Cli.AsksAbout.chainList

end UidPolicy
