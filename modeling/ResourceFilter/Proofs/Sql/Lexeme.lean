import ResourceFilter.Proofs.Text.Run
import ResourceFilter.Sql.Condition

/-! # The lexemes of queries

How the text of a query falls into names, words, operators and marks, read as a database reads it. A
delimited name opens at a double quote and ends at the first one that is not doubled, so whatever it
holds is part of the name. Words and operators are as long as they can be. `Yields` says that a
piece of text is read as certain lexemes in front of a given rest; pieces that follow each other
yield their lexemes in order.
-/

set_option autoImplicit false

namespace ResourceFilter.Sql

/-- The reserved words of queries, the connectives apart. -/
inductive Keyword where
  | selectWord
  | fromWord
  | innerWord
  | joinWord
  | onWord
  | whereWord
  | notWord
  | isWord
  | nullWord
  deriving DecidableEq, Repr

/-- The units of the text of a query. -/
inductive Lexeme where
  /-- A delimited name, without its quotes. -/
  | name (word : String)
  | keyword (word : Keyword)
  | connective (op : Connective)
  | comparison (op : Comparison)
  /-- The operator between a column and a pattern. -/
  | matching
  | placeholder
  /-- The asterisk in place of a list of columns. -/
  | everything
  | dot
  | openMark
  | closeMark
  deriving DecidableEq, Repr

namespace Lexeme

/-- The words and the operators that consist of several characters or may do so. -/
def vocabulary (flavour : Flavour) : List (String × Lexeme) :=
  [("SELECT", keyword .selectWord), ("FROM", keyword .fromWord), ("INNER", keyword .innerWord),
    ("JOIN", keyword .joinWord), ("ON", keyword .onWord), ("WHERE", keyword .whereWord),
    ("NOT", keyword .notWord), ("IS", keyword .isWord), ("NULL", keyword .nullWord),
    ("AND", connective .conjunction), ("OR", connective .disjunction),
    ("=", comparison .equal), ("!=", comparison .notEqual), (">", comparison .greater),
    (">=", comparison .greaterOrEqual), ("<", comparison .less), ("<=", comparison .lessOrEqual),
    (flavour.patternOperator, matching)]

/-- The lexeme of a word or an operator. -/
def ofRun? (flavour : Flavour) (run : List Char) : Option Lexeme :=
  (vocabulary flavour).lookup (String.ofList run)

/-- The lexeme of a mark that stands by itself. -/
def ofMark? (c : Char) : Option Lexeme :=
  if c = '?' then some placeholder
  else if c = '*' then some everything
  else if c = '.' then some dot
  else if c = '(' then some openMark
  else if c = ')' then some closeMark
  else none

/-- Whether a character is part of operators. -/
def isOperatorChar (c : Char) : Bool :=
  c = '=' || c = '!' || c = '<' || c = '>' || c = '~'

end Lexeme

/-- A delimited name and the text behind it, from behind its opening quote: it ends at the first
quote that is not doubled. -/
def delimitedName : List Char → Option (List Char × List Char)
  | [] => none
  | '"' :: '"' :: rest => (delimitedName rest).map fun (name, behind) => ('"' :: name, behind)
  | '"' :: rest => some ([], rest)
  | c :: rest => (delimitedName rest).map fun (name, behind) => (c :: name, behind)

/-- The word or operator that begins with a character of its class, and the text behind it. -/
def runAt (flavour : Flavour) (belongs : Char → Bool) (c : Char) (rest : List Char) :
    Option (Lexeme × List Char) :=
  (Lexeme.ofRun? flavour ((c :: rest).takeWhile belongs)).map fun lexeme =>
    (lexeme, rest.dropWhile belongs)

/-- The lexeme that begins with a character, and the text behind it. -/
def lexemeAt (flavour : Flavour) (c : Char) (rest : List Char) : Option (Lexeme × List Char) :=
  if c = '"' then
    (delimitedName rest).map fun (name, behind) => (.name (String.ofList name), behind)
  else if c.isAlpha then runAt flavour Char.isAlpha c rest
  else if Lexeme.isOperatorChar c then runAt flavour Lexeme.isOperatorChar c rest
  else (Lexeme.ofMark? c).map fun mark => (mark, rest)

/-- Behind a name there is less text than behind its opening quote. -/
theorem length_lt_of_delimitedName {text name rest : List Char}
    (read : delimitedName text = some (name, rest)) : rest.length < text.length := by
  fun_induction delimitedName text generalizing name with
  | case1 => cases read
  | case2 more ih =>
    obtain ⟨⟨inner, behind⟩, isInner, same⟩ := Option.map_eq_some_iff.1 read
    cases same
    have := ih isInner
    simp only [List.length_cons]
    omega
  | case3 => cases read; simp
  | case4 c more _ _ ih =>
    obtain ⟨⟨inner, behind⟩, isInner, same⟩ := Option.map_eq_some_iff.1 read
    cases same
    have := ih isInner
    simp only [List.length_cons]
    omega

/-- Behind a word or an operator there is no more text than behind its first character. -/
theorem length_le_of_runAt {flavour : Flavour} {belongs : Char → Bool} {c : Char}
    {text rest : List Char} {lexeme : Lexeme}
    (read : runAt flavour belongs c text = some (lexeme, rest)) : rest.length ≤ text.length := by
  obtain ⟨found, -, same⟩ := Option.map_eq_some_iff.1 read
  cases same
  exact (List.dropWhile_suffix _).length_le

/-- Behind a lexeme there is no more text than behind its first character. -/
theorem length_le_of_lexemeAt {flavour : Flavour} {c : Char} {text rest : List Char}
    {lexeme : Lexeme} (read : lexemeAt flavour c text = some (lexeme, rest)) :
    rest.length ≤ text.length := by
  unfold lexemeAt at read
  split at read
  · obtain ⟨⟨name, behind⟩, isName, same⟩ := Option.map_eq_some_iff.1 read
    cases same
    exact Nat.le_of_lt (length_lt_of_delimitedName isName)
  split at read
  · exact length_le_of_runAt read
  split at read
  · exact length_le_of_runAt read
  · obtain ⟨mark, -, same⟩ := Option.map_eq_some_iff.1 read
    cases same
    exact Nat.le_refl _

/-- The lexemes of a text, with blanks between them left out. -/
def lexemes (flavour : Flavour) : List Char → Option (List Lexeme)
  | [] => some []
  | c :: rest =>
    if c = ' ' then lexemes flavour rest
    else
      match _ : lexemeAt flavour c rest with
      | none => none
      | some (lexeme, behind) => (lexemes flavour behind).map (lexeme :: ·)
  termination_by text => text.length
  decreasing_by
    · simp
    · exact Nat.lt_succ_of_le (length_le_of_lexemeAt ‹_›)

/-- A blank between lexemes is skipped. -/
theorem lexemes_blank (flavour : Flavour) (rest : List Char) :
    lexemes flavour (' ' :: rest) = lexemes flavour rest := by
  rw [lexemes, if_pos rfl]

/-- The first lexeme stands in front of those behind it. -/
theorem lexemes_cons {flavour : Flavour} {c : Char} {rest behind : List Char} {lexeme : Lexeme}
    (solid : c ≠ ' ') (read : lexemeAt flavour c rest = some (lexeme, behind)) :
    lexemes flavour (c :: rest) = (lexemes flavour behind).map (lexeme :: ·) := by
  rw [lexemes, if_neg solid]
  split
  next failed =>
    rw [read] at failed
    cases failed
  next other more found =>
    rw [read] at found
    cases found
    rfl

/-- A character other than a quote is not doubled. -/
theorem doubled_cons_of_ne {c : Char} (notQuote : c ≠ '"') (more : List Char) :
    Text.doubled (c :: more) = c :: Text.doubled more := by
  show (if c = '"' then ['"', '"'] else [c]) ++ Text.doubled more = _
  rw [if_neg notQuote]
  rfl

/-- A delimited name, quote by quote. -/
theorem toList_delimited (name : String) :
    (Text.delimited name).toList = '"' :: (Text.doubled name.toList ++ ['"']) := by
  simp [Text.delimited]

/-- A name is read back from its delimited form, unless another quote follows. -/
theorem delimitedName_doubled (name : List Char) {rest : List Char}
    (ends : ∀ c ∈ rest.head?, c ≠ '"') :
    delimitedName (Text.doubled name ++ '"' :: rest) = some (name, rest) := by
  induction name with
  | nil =>
    show delimitedName ('"' :: rest) = some ([], rest)
    rw [delimitedName]
    rintro more rfl
    exact ends '"' rfl rfl
  | cons c more ih =>
    by_cases quote : c = '"'
    · subst quote
      show delimitedName ('"' :: '"' :: (Text.doubled more ++ '"' :: rest)) = _
      rw [delimitedName, ih]
      rfl
    · rw [doubled_cons_of_ne quote, List.cons_append, delimitedName, ih]
      · rfl
      · intro other isQuote
        exact absurd isQuote quote
      · exact quote

/-- Whatever precedes it ends before such a text: at its own end, or at a blank, a dot or a closing
parenthesis. -/
def Stops (rest : List Char) : Prop :=
  ∀ c ∈ rest.head?, c = ' ' ∨ c = '.' ∨ c = ')'

/-- Each piece of text ends before a blank, a dot and a closing parenthesis. -/
theorem stops_cons {c : Char} (mark : c = ' ' ∨ c = '.' ∨ c = ')') (rest : List Char) :
    Stops (c :: rest) := by
  intro other mem
  cases mem
  exact mark

/-- In front of `rest`, a piece of text is read as the given lexemes. -/
def Yields (flavour : Flavour) (text rest : List Char) (found : List Lexeme) : Prop :=
  lexemes flavour (text ++ rest) = (lexemes flavour rest).map (found ++ ·)

variable {flavour : Flavour}

/-- No text yields no lexemes. -/
theorem yields_nil (rest : List Char) : Yields flavour [] rest [] := by
  show lexemes flavour rest = (lexemes flavour rest).map ([] ++ ·)
  simp

/-- Pieces of text that follow each other yield their lexemes in order. -/
theorem Yields.append {text more rest : List Char} {found others : List Lexeme}
    (first : Yields flavour text (more ++ rest) found)
    (second : Yields flavour more rest others) :
    Yields flavour (text ++ more) rest (found ++ others) := by
  unfold Yields at first second ⊢
  rw [List.append_assoc, first, second, Option.map_map]
  congr 1
  funext behind
  exact (List.append_assoc found others behind).symm

/-- What a whole text is read as. -/
theorem Yields.lexemes_eq {text : List Char} {found : List Lexeme}
    (whole : Yields flavour text [] found) : lexemes flavour text = some found := by
  unfold Yields at whole
  rw [List.append_nil, lexemes, Option.map_some, List.append_nil] at whole
  exact whole

/-- A blank in front of a piece of text changes nothing about what it yields. -/
theorem Yields.cons_blank {text rest : List Char} {found : List Lexeme}
    (behind : Yields flavour text rest found) : Yields flavour (' ' :: text) rest found := by
  unfold Yields at behind ⊢
  rw [List.cons_append, lexemes_blank, behind]

/-- What a first character and those behind it are read as, as a yield. -/
theorem yields_of_lexemeAt {c : Char} {text rest : List Char} {lexeme : Lexeme} (solid : c ≠ ' ')
    (read : lexemeAt flavour c (text ++ rest) = some (lexeme, rest)) :
    Yields flavour (c :: text) rest [lexeme] :=
  lexemes_cons solid read

/-- A delimited name yields the name, whatever it holds. -/
theorem yields_delimited (name : String) (rest : List Char) (stops : Stops rest) :
    Yields flavour (Text.delimited name).toList rest [.name name] := by
  have ends : ∀ c ∈ rest.head?, c ≠ '"' := by
    rintro c mem rfl
    exact absurd (stops '"' mem) (by decide)
  rw [toList_delimited]
  refine yields_of_lexemeAt (by decide) ?_
  unfold lexemeAt
  rw [if_pos rfl, List.append_assoc, List.singleton_append, delimitedName_doubled _ ends,
    Option.map_some]
  show some (Lexeme.name (String.ofList name.toList), rest) = _
  rw [String.ofList_toList]

/-- A word or an operator of the vocabulary yields its lexeme. -/
theorem yields_run {belongs : Char → Bool} {first : Char} {more rest : List Char} {lexeme : Lexeme}
    (inside : ∀ c ∈ first :: more, belongs c = true)
    (apart : belongs ' ' = false ∧ belongs '.' = false ∧ belongs ')' = false)
    (reads : lexemeAt flavour first (more ++ rest) = runAt flavour belongs first (more ++ rest))
    (known : Lexeme.ofRun? flavour (first :: more) = some lexeme) (stops : Stops rest) :
    Yields flavour (first :: more) rest [lexeme] := by
  have outside : ∀ c ∈ rest.head?, belongs c = false := by
    intro c mem
    rcases stops c mem with rfl | rfl | rfl
    · exact apart.1
    · exact apart.2.1
    · exact apart.2.2
  have notBlank : first ≠ ' ' := by
    rintro rfl
    have := inside ' ' List.mem_cons_self
    rw [apart.1] at this
    cases this
  refine yields_of_lexemeAt notBlank ?_
  rw [reads]
  unfold runAt
  rw [← List.cons_append, Text.takeWhile_append_of_head inside outside, known,
    Text.dropWhile_append_of_head (fun c mem => inside c (List.mem_cons_of_mem _ mem)) outside]
  rfl

/-- Letters that make up a keyword yield it, in front of anything that ends a word. -/
theorem yields_word {first : Char} {more : List Char} {lexeme : Lexeme}
    (letters : (first :: more).all Char.isAlpha = true)
    (known : Lexeme.ofRun? flavour (first :: more) = some lexeme) (rest : List Char)
    (stops : Stops rest) : Yields flavour (first :: more) rest [lexeme] := by
  have inside := List.all_eq_true.1 letters
  have letter : first.isAlpha = true := inside first List.mem_cons_self
  have notQuote : first ≠ '"' := by
    rintro rfl
    exact absurd letter (by decide)
  refine yields_run inside (by decide) ?_ known stops
  unfold lexemeAt
  rw [if_neg notQuote, if_pos letter]

/-- Marks that make up an operator yield it, in front of anything that ends an operator. -/
theorem yields_operator {first : Char} {more : List Char} {lexeme : Lexeme}
    (marks : (first :: more).all Lexeme.isOperatorChar = true)
    (known : Lexeme.ofRun? flavour (first :: more) = some lexeme) (rest : List Char)
    (stops : Stops rest) : Yields flavour (first :: more) rest [lexeme] := by
  have inside := List.all_eq_true.1 marks
  have mark : Lexeme.isOperatorChar first = true := inside first List.mem_cons_self
  have apart : first ≠ '"' ∧ ¬first.isAlpha = true := by
    simp only [Lexeme.isOperatorChar, Bool.or_eq_true, decide_eq_true_eq] at mark
    rcases mark with (((rfl | rfl) | rfl) | rfl) | rfl <;> decide
  refine yields_run inside (by decide) ?_ known stops
  unfold lexemeAt
  rw [if_neg apart.1, if_neg apart.2, if_pos mark]

/-- A mark yields its lexeme, whatever follows. -/
theorem yields_mark {c : Char} {lexeme : Lexeme} (known : Lexeme.ofMark? c = some lexeme)
    (apart : c ≠ ' ' ∧ c ≠ '"' ∧ c.isAlpha = false ∧ Lexeme.isOperatorChar c = false)
    (rest : List Char) : Yields flavour [c] rest [lexeme] := by
  obtain ⟨notBlank, notQuote, notLetter, notOperator⟩ := apart
  refine yields_of_lexemeAt notBlank ?_
  unfold lexemeAt
  rw [if_neg notQuote, if_neg (by simp [notLetter]), if_neg (by simp [notOperator]), known]
  rfl

end ResourceFilter.Sql
