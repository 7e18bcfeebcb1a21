import Mathlib.Data.List.Induction
import UidPolicy.Text.Json

/-!
# Words of an output

What a script takes from an output are its words: the longest runs of letters, digits, underscores
and hyphens.

- `words`: the words of a text, from the left.
- `words_append_separator`, `words_spot`: a text with a separator, and a word that stands alone.
- `words_intercalate`: words of several texts with a separator in between.
- `Json.words_array`, `Json.words_object`: words of structured output.
- `wordAt`, `wordFromEnd`: the word at a place, as a script takes a word from a message.
- `everyNth`: the words at regular distances, as a script takes a column from a table.
-/

namespace UidPolicy

/-- A character of a word. -/
def isWordChar (c : Char) : Bool := c.isAlphanum || c == '_' || c == '-'

/-- The words of a text: its longest runs of word characters, from the left. It is what a script
gets that splits the output at everything else. -/
def words (text : List Char) : List (List Char) :=
  (text.splitOnP (!isWordChar ·)).filter (!·.isEmpty)

/-- A text that has some characters, all of them of words. -/
structure IsWord (word : List Char) : Prop where
  ne_nil : word ≠ []
  wordChars : ∀ c ∈ word, isWordChar c = true

/-- A word may begin behind the text. -/
def EndsApart (text : List Char) : Prop := ∀ c ∈ text.getLast?, isWordChar c = false

/-- A word may end in front of the text. -/
def StartsApart (text : List Char) : Prop := ∀ c ∈ text.head?, isWordChar c = false

/-- The text has no words. -/
def Apart (text : List Char) : Prop := ∀ c ∈ text, isWordChar c = false

-- the instances are named, as the characters are finitely many and would be tried one by one
instance (text : List Char) : Decidable (Apart text) :=
  List.decidableBAll (isWordChar · = false) text

instance (text : List Char) : Decidable (EndsApart text) :=
  Option.decidableForallMem text.getLast?

instance (text : List Char) : Decidable (StartsApart text) :=
  Option.decidableForallMem text.head?

/-! ## Words -/

section Words

variable {c : Char} {before word after : List Char}

theorem endsApart_append_singleton (before : List Char) (hc : isWordChar c = false) :
    EndsApart (before ++ [c]) := by
  intro c' hc'
  rw [List.getLast?_concat] at hc'
  cases hc'
  exact hc

theorem startsApart_cons (hc : isWordChar c = false) (after : List Char) :
    StartsApart (c :: after) := by
  intro c' hc'
  cases hc'
  exact hc

/-- A separator divides the words before it from those behind it. -/
theorem words_append_separator (before after : List Char) (hc : isWordChar c = false) :
    words (before ++ c :: after) = words before ++ words after := by
  have hsep : (!isWordChar c) = true := by rw [hc]; rfl
  rw [words, List.splitOnP_append_cons (p := (!isWordChar ·)) before after hsep, List.filter_append]
  rfl

theorem words_separator_cons (after : List Char) (hc : isWordChar c = false) :
    words (c :: after) = words after := words_append_separator [] after hc

theorem words_append_of_endsApart (hbefore : EndsApart before) (after : List Char) :
    words (before ++ after) = words before ++ words after := by
  -- the text in front is empty, or its last character is a separator
  cases hlast : before.getLast? with
  | none =>
    rw [List.getLast?_eq_none_iff.1 hlast]
    rfl
  | some c =>
    have hc := hbefore c hlast
    obtain ⟨earlier, rfl⟩ := List.getLast?_eq_some_iff.1 hlast
    rw [List.append_assoc, List.singleton_append, words_append_separator earlier after hc,
      words_append_separator earlier [] hc]
    show _ = words earlier ++ [] ++ _
    rw [List.append_nil]

theorem words_append_of_startsApart (before : List Char) (hafter : StartsApart after) :
    words (before ++ after) = words before ++ words after := by
  cases after with
  | nil =>
    rw [List.append_nil]
    exact (List.append_nil _).symm
  | cons c after =>
    have hc := hafter c rfl
    rw [words_append_separator before after hc, words_separator_cons after hc]

theorem words_of_isWord (h : IsWord word) : words word = [word] := by
  have hsep : ∀ c ∈ word, (!isWordChar c) = false := fun c hc => by rw [h.wordChars c hc]; rfl
  rw [words, List.splitOnP_eq_singleton (p := (!isWordChar ·)) hsep, List.filter_cons_of_pos]
  · rfl
  · rw [List.isEmpty_eq_false_iff.2 h.ne_nil]
    rfl

/-- **A word that stands alone** is one of the words, between those before it and those behind. -/
theorem words_spot (hbefore : EndsApart before) (hword : IsWord word) (hafter : StartsApart after) :
    words (before ++ (word ++ after)) = words before ++ word :: words after := by
  rw [words_append_of_endsApart hbefore, words_append_of_startsApart word hafter,
    words_of_isWord hword, List.singleton_append]

/-- Separators between texts add no words. -/
theorem words_intercalate (hc : isWordChar c = false) (texts : List (List Char)) :
    words ([c].intercalate texts) = texts.flatMap words := by
  induction texts with
  | nil => rfl
  | cons text rest ih =>
    cases rest with
    | nil =>
      rw [List.intercalate_singleton, List.flatMap_cons, List.flatMap_nil, List.append_nil]
    | cons next rest =>
      rw [List.intercalate_cons_cons, List.append_assoc, List.singleton_append,
        words_append_separator text _ hc, ih]
      rfl

section Apart

variable {marks : List Char} (hmarks : Apart marks)

include hmarks

theorem Apart.startsApart : StartsApart marks := fun c hc => hmarks c (List.mem_of_head? hc)

/-- Separators in front of a text add no words. -/
theorem Apart.words_append (after : List Char) : words (marks ++ after) = words after := by
  induction marks with
  | nil => rfl
  | cons c marks ih =>
    rw [List.cons_append, words_separator_cons _ (hmarks c (List.mem_cons_self ..))]
    exact ih fun c' hc' => hmarks c' (List.mem_cons_of_mem _ hc')

theorem Apart.words_eq_nil : words marks = [] := by
  have happ := hmarks.words_append []
  rw [List.append_nil] at happ
  exact happ

theorem Apart.words_append_right (before : List Char) : words (before ++ marks) = words before := by
  rw [words_append_of_startsApart before hmarks.startsApart, hmarks.words_eq_nil, List.append_nil]

end Apart

theorem apart_blanks (n : Nat) : Apart (List.replicate n ' ') := by
  intro c hc
  rw [List.eq_of_mem_replicate hc]
  rfl

end Words

/-! ## Structured output -/

namespace Json

theorem toList_quote (s : String) : (quote s).toList = '"' :: s.toList.flatMap escape ++ ['"'] :=
  String.toList_ofList

theorem endsApart_quote (s : String) : EndsApart (quote s).toList := by
  rw [toList_quote]
  exact endsApart_append_singleton _ rfl

theorem words_quote (s : String) : words (quote s).toList = words (s.toList.flatMap escape) := by
  rw [toList_quote, List.cons_append, words_separator_cons _ rfl, words_append_separator _ [] rfl]
  exact List.append_nil _

theorem apart_newline (level : Nat) : Apart (newline level).toList := by
  have hline : (newline level).toList = '\n' :: List.replicate (2 * level) ' ' :=
    String.toList_ofList
  rw [hline]
  intro c hc
  rcases List.mem_cons.1 hc with rfl | hblank
  · rfl
  · exact apart_blanks _ c hblank

theorem apart_close (level : Nat) {bracket : List Char} (hbracket : Apart bracket) :
    Apart ((newline level).toList ++ bracket) := by
  intro c hc
  exact (List.mem_append.1 hc).elim (apart_newline level c) (hbracket c)

/-- The words of a member of an object: those of its name, and those of its value. -/
def memberWords (level : Nat) (m : String × Json) : List (List Char) :=
  words (quote m.1).toList ++ words (prettyAt level m.2).toList

section Rest

variable (level : Nat) {after : List Char} (hafter : StartsApart after)

include hafter

theorem startsApart_prettyItems (items : List Json) :
    StartsApart ((prettyItems level items).toList ++ after) := by
  cases items with
  | nil => exact hafter
  | cons item items =>
    rw [prettyItems]
    simp only [String.toList_append, List.append_assoc]
    exact startsApart_cons rfl _

theorem startsApart_prettyMembers (members : List (String × Json)) :
    StartsApart ((prettyMembers level members).toList ++ after) := by
  cases members with
  | nil => exact hafter
  | cons m members =>
    rw [prettyMembers]
    simp only [String.toList_append, List.append_assoc]
    exact startsApart_cons rfl _

theorem words_prettyItems (items : List Json) :
    words ((prettyItems level items).toList ++ after)
      = (items.flatMap fun item => words (prettyAt level item).toList) ++ words after := by
  induction items with
  | nil => rfl
  | cons item items ih =>
    have hcomma : Apart ",".toList := by decide
    rw [prettyItems]
    simp only [String.toList_append, List.append_assoc]
    rw [hcomma.words_append, (apart_newline level).words_append,
      words_append_of_startsApart _ (startsApart_prettyItems level hafter items), ih,
      List.flatMap_cons, List.append_assoc]

theorem words_prettyMembers (members : List (String × Json)) :
    words ((prettyMembers level members).toList ++ after)
      = members.flatMap (memberWords level) ++ words after := by
  induction members with
  | nil => rfl
  | cons m members ih =>
    have hcomma : Apart ",".toList := by decide
    have hcolon : Apart ": ".toList := by decide
    rw [prettyMembers]
    simp only [String.toList_append, List.append_assoc]
    rw [hcomma.words_append, (apart_newline level).words_append,
      words_append_of_endsApart (endsApart_quote m.1), hcolon.words_append,
      words_append_of_startsApart _ (startsApart_prettyMembers level hafter members), ih,
      List.flatMap_cons, memberWords, List.append_assoc, List.append_assoc]

end Rest

/-- **The words of an array** are those of its items, one after the other. -/
theorem words_array (level : Nat) (items : List Json) :
    words (prettyAt level (.array items)).toList
      = items.flatMap fun item => words (prettyAt (level + 1) item).toList := by
  cases items with
  | nil =>
    rw [prettyAt, List.flatMap_nil]
    decide
  | cons item items =>
    -- brackets, commas and line breaks are all separators, so only the items are left
    have hopen : Apart "[".toList := by decide
    have hclose : Apart ((newline level).toList ++ "]".toList) := apart_close level (by decide)
    rw [prettyAt]
    simp only [String.toList_append, List.append_assoc]
    rw [hopen.words_append, (apart_newline _).words_append,
      words_append_of_startsApart _ (startsApart_prettyItems _ hclose.startsApart items),
      words_prettyItems _ hclose.startsApart, hclose.words_eq_nil, List.append_nil,
      List.flatMap_cons]

/-- **The words of an object** are those of its members, one after the other. -/
theorem words_object (level : Nat) (members : List (String × Json)) :
    words (prettyAt level (.object members)).toList
      = members.flatMap (memberWords (level + 1)) := by
  cases members with
  | nil =>
    rw [prettyAt, List.flatMap_nil]
    decide
  | cons m members =>
    -- a brace is written by its code point, as in the renderer
    have hopen : Apart "\x7b".toList := by decide
    have hcolon : Apart ": ".toList := by decide
    have hclose : Apart ((newline level).toList ++ "\x7d".toList) := apart_close level (by decide)
    rw [prettyAt]
    simp only [String.toList_append, List.append_assoc]
    rw [hopen.words_append, (apart_newline _).words_append,
      words_append_of_endsApart (endsApart_quote m.1), hcolon.words_append,
      words_append_of_startsApart _ (startsApart_prettyMembers _ hclose.startsApart members),
      words_prettyMembers _ hclose.startsApart, hclose.words_eq_nil, List.append_nil,
      List.flatMap_cons, memberWords, List.append_assoc]

end Json

/-! ## Places -/

/-- The word at a place of a text, from the left. -/
def wordAt (n : Nat) (text : String) : List (List Char) := (words text.toList)[n]?.toList

/-- The word at a place of a text, from the right. -/
def wordFromEnd (n : Nat) (text : String) : List (List Char) :=
  (words text.toList).reverse[n]?.toList

section Places

variable {text : String} {before after : List (List Char)} {word : List Char} {n : Nat}
  (hwords : words text.toList = before ++ word :: after)

include hwords

theorem wordAt_of_words (hn : before.length = n) : wordAt n text = [word] := by
  rw [wordAt, hwords, ← hn, List.getElem?_append_right (Nat.le_refl _), Nat.sub_self]
  rfl

theorem wordFromEnd_of_words (hn : after.length = n) : wordFromEnd n text = [word] := by
  rw [← List.length_reverse] at hn
  rw [wordFromEnd, hwords, List.reverse_append, List.reverse_cons, List.append_assoc, ← hn,
    List.getElem?_append_right (Nat.le_refl _), Nat.sub_self]
  rfl

end Places

/-! ## Columns -/

/-- The first of the elements behind the next `skip`, and from there on one of every `n + 1`. -/
def everyNth {α : Type} (n : Nat) : Nat → List α → List α
  | _, [] => []
  | 0, a :: l => a :: everyNth n n l
  | skip + 1, _ :: l => everyNth n skip l

theorem everyNth_skip {α : Type} (n : Nat) (skipped l : List α) (k : Nat) :
    everyNth n (skipped.length + k) (skipped ++ l) = everyNth n k l := by
  induction skipped with
  | nil => rw [List.length_nil, Nat.zero_add, List.nil_append]
  | cons a skipped ih =>
    rw [List.length_cons, Nat.add_right_comm]
    exact ih

/-- **A column of a table** whose rows have equally many elements. What the elements are does not
matter, only how many they are. -/
theorem everyNth_flatMap {α β : Type} (before after : β → List α) (f : β → α) {m n : Nat}
    (hbefore : ∀ b, (before b).length = m) (hafter : ∀ b, (after b).length = n) (rows : List β) :
    everyNth (n + m) m (rows.flatMap fun b => before b ++ f b :: after b) = rows.map f := by
  induction rows with
  | nil => cases m <;> rfl
  | cons b rows ih =>
    -- the first row is passed in two goes: up to the column, and from behind it to the column of
    -- the next row
    have hfirst := everyNth_skip (n + m) (before b)
      (f b :: (after b ++ rows.flatMap fun b => before b ++ f b :: after b)) 0
    have hrest := everyNth_skip (n + m) (after b)
      (rows.flatMap fun b => before b ++ f b :: after b) m
    rw [hbefore, Nat.add_zero] at hfirst
    rw [hafter, ih] at hrest
    rw [List.flatMap_cons, List.append_assoc, List.cons_append, hfirst, List.map_cons, ← hrest]
    rfl

end UidPolicy
