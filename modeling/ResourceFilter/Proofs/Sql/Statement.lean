import ResourceFilter.Proofs.Sql.Clause
import ResourceFilter.Sql.Query

/-! # Queries as a database reads them

A statement is what a database makes of the text of a query: the table it selects from, the tables
it joins with the columns that have to agree, and the clause of its rows. `read_query` says that the
text of the query of a selection is read as exactly that selection, whatever the names in it hold.
-/

set_option autoImplicit false

namespace ResourceFilter.Sql

/-- A joined table, and the two columns that have to agree. -/
structure Join where
  table : String
  left : Column
  right : Column
  deriving DecidableEq, Repr

/-- A query without the values that are bound to its placeholders. -/
structure Statement where
  root : String
  joins : List Join
  clause : Clause
  deriving DecidableEq, Repr

/-- The joins at the front of some lexemes, and the lexemes behind them. -/
def readJoins : List Lexeme → List Join × List Lexeme
  | .keyword .innerWord :: .keyword .joinWord :: .name table :: .keyword .onWord ::
      .name leftTable :: .dot :: .name left :: .comparison .equal ::
      .name rightTable :: .dot :: .name right :: rest =>
    let (joins, behind) := readJoins rest
    (⟨table, ⟨some leftTable, left⟩, ⟨some rightTable, right⟩⟩ :: joins, behind)
  | rest => ([], rest)

namespace Statement

/-- The statement that lexemes are read as. -/
def ofLexemes? : List Lexeme → Option Statement
  | .keyword .selectWord :: .everything :: .keyword .fromWord :: .name root :: rest =>
    match readJoins rest with
    | (joins, .keyword .whereWord :: condition) =>
      (Clause.ofLexemes? condition).map fun clause => ⟨root, joins, clause⟩
    | _ => none
  | _ => none

/-- The statement that a text is read as. -/
def read (flavour : Flavour) (text : String) : Option Statement :=
  (lexemes flavour text.toList).bind ofLexemes?

end Statement

/-- A table joined by its reference to the root row. -/
def Join.toRoot (root table : String) : Join :=
  ⟨table, ⟨some table, root ++ "_id"⟩, ⟨some root, "id"⟩⟩

/-- What the query of a selection is meant to state. -/
def Selection.statement (root : String) (selection : Selection) : Statement :=
  ⟨root, selection.joins.map (Join.toRoot root), selection.condition.clause⟩

/-! ### Texts and their lexemes -/

variable {flavour : Flavour}

/-- Pieces of text with a blank between them yield their lexemes in order. -/
theorem Yields.blank_append {text more rest : List Char} {found others : List Lexeme}
    (first : ∀ behind, Stops behind → Yields flavour text behind found)
    (second : Yields flavour more rest others) :
    Yields flavour (text ++ ' ' :: more) rest (found ++ others) :=
  (first _ (stops_cons (.inl rfl) _)).append second.cons_blank

/-- A column within a table is written as the two names with a dot between them. -/
theorem toList_columnText (table name : String) :
    (columnText ⟨some table, name⟩).toList =
      (Text.delimited table).toList ++ (['.'] ++ (Text.delimited name).toList) := by
  simp [columnText]

/-- A column yields the names of its table and of itself. -/
theorem yields_columnText (column : Column) (rest : List Char) (stops : Stops rest) :
    Yields flavour (columnText column).toList rest (columnLexemes column) := by
  obtain ⟨table, name⟩ := column
  cases table with
  | none =>
    show Yields flavour (Text.delimited name).toList rest [.name name]
    exact yields_delimited name rest stops
  | some table =>
    rw [toList_columnText]
    show Yields flavour _ rest ([.name table] ++ ([.dot] ++ [.name name]))
    refine (yields_delimited table _ ?_).append ?_
    · exact stops_cons (.inr (.inl rfl)) _
    · exact (yields_mark rfl (by decide) _).append (yields_delimited name rest stops)

/-- The symbol of a comparison yields it. -/
theorem yields_symbol (op : Comparison) (rest : List Char) (stops : Stops rest) :
    Yields flavour op.symbol.toList rest [.comparison op] := by
  cases op <;> exact yields_operator (by decide) rfl rest stops

/-- The symbol of a connective yields it. -/
theorem yields_connective (op : Connective) (rest : List Char) (stops : Stops rest) :
    Yields flavour op.symbol.toList rest [.connective op] := by
  cases op <;> exact yields_word (by decide) rfl rest stops

/-- The operator of patterns yields the lexeme of a match. -/
theorem yields_patternOperator (rest : List Char) (stops : Stops rest) :
    Yields flavour flavour.patternOperator.toList rest [.matching] := by
  cases flavour with
  | postgres => exact yields_operator (by decide) rfl rest stops
  | sqlite => exact yields_word (by decide) rfl rest stops

/-! ### Conditions

Each text is taken apart at its blanks, and its pieces yield their lexemes one after the other. -/

/-- The characters of a test for absence, word by word. -/
theorem toList_isNull (column : Column) :
    ((Condition.isNull column).text flavour).toList =
      (columnText column).toList ++ ' ' :: (['I', 'S'] ++ ' ' :: ['N', 'U', 'L', 'L']) := by
  simp [Condition.text]

/-- The characters of a test for presence, word by word. -/
theorem toList_isNotNull (column : Column) :
    ((Condition.isNotNull column).text flavour).toList =
      (columnText column).toList ++ ' ' ::
        (['I', 'S'] ++ ' ' :: (['N', 'O', 'T'] ++ ' ' :: ['N', 'U', 'L', 'L'])) := by
  simp [Condition.text]

/-- The characters of a comparison, word by word. -/
theorem toList_comparison (column : Column) (op : Comparison) (argument : Argument) :
    ((Condition.comparison column op argument).text flavour).toList =
      (columnText column).toList ++ ' ' :: (op.symbol.toList ++ ' ' :: ['?']) := by
  simp [Condition.text]

/-- The characters of a match against a pattern, word by word. -/
theorem toList_matching (column : Column) (pattern : String) :
    ((Condition.matching column pattern).text flavour).toList =
      (columnText column).toList ++ ' ' :: (flavour.patternOperator.toList ++ ' ' :: ['?']) := by
  simp [Condition.text]

/-- The characters of a connective between its sides in parentheses. -/
theorem toList_logical (left right : Condition) (op : Connective) :
    ((Condition.logical left op right).text flavour).toList =
      ('(' :: ((left.text flavour).toList ++ [')'])) ++ ' ' :: (op.symbol.toList ++ ' ' ::
        ('(' :: ((right.text flavour).toList ++ [')']))) := by
  simp [Condition.text]

/-- The characters of a negation and its body in parentheses. -/
theorem toList_negation (body : Condition) :
    ((Condition.negation body).text flavour).toList =
      ['N', 'O', 'T'] ++ ' ' :: ('(' :: ((body.text flavour).toList ++ [')'])) := by
  simp [Condition.text]

/-- Between parentheses, a text that yields lexemes there yields them between marks. -/
theorem Yields.parenthesized {text rest : List Char} {found : List Lexeme}
    (inner : ∀ behind, Stops behind → Yields flavour text behind found) :
    Yields flavour ('(' :: (text ++ [')'])) rest (.openMark :: (found ++ [.closeMark])) :=
  (yields_mark rfl (by decide) _).append
    ((inner _ (stops_cons (.inr (.inr rfl)) _)).append (yields_mark rfl (by decide) _))

/-- The text of a condition yields its lexemes. -/
theorem yields_text (condition : Condition) (rest : List Char) (stops : Stops rest) :
    Yields flavour (condition.text flavour).toList rest condition.lexemes := by
  have placeholder (behind : List Char) : Yields flavour ['?'] behind [.placeholder] :=
    yields_mark rfl (by decide) behind
  induction condition generalizing rest with
  | isNull column =>
    rw [toList_isNull]
    exact .blank_append (yields_columnText column)
      (.blank_append (yields_word (by decide) rfl) (yields_word (by decide) rfl rest stops))
  | isNotNull column =>
    rw [toList_isNotNull]
    exact .blank_append (yields_columnText column) (.blank_append (yields_word (by decide) rfl)
      (.blank_append (yields_word (by decide) rfl) (yields_word (by decide) rfl rest stops)))
  | comparison column op argument =>
    rw [toList_comparison]
    exact .blank_append (yields_columnText column)
      (.blank_append (yields_symbol op) (placeholder rest))
  | matching column pattern =>
    rw [toList_matching]
    exact .blank_append (yields_columnText column)
      (.blank_append yields_patternOperator (placeholder rest))
  | logical left op right left_ih right_ih =>
    have both : Condition.lexemes (.logical left op right) =
        (.openMark :: (left.lexemes ++ [.closeMark])) ++ ([.connective op] ++
          (.openMark :: (right.lexemes ++ [.closeMark]))) := by
      simp [Condition.lexemes]
    rw [toList_logical, both]
    exact .blank_append (fun _ _ => .parenthesized left_ih)
      (.blank_append (yields_connective op) (.parenthesized right_ih))
  | negation body ih =>
    rw [toList_negation]
    exact .blank_append (yields_word (by decide) rfl) (.parenthesized ih)

/-! ### Queries -/

/-- A join in lexemes. -/
def Join.lexemes (root table : String) : List Lexeme :=
  [.keyword .innerWord, .keyword .joinWord, .name table, .keyword .onWord, .name table, .dot,
    .name (root ++ "_id"), .comparison .equal, .name root, .dot, .name "id"]

/-- The text of a join, with the blanks set off. -/
theorem toList_joinText (root table : String) :
    (joinText root table).toList =
      ' ' :: (['I', 'N', 'N', 'E', 'R'] ++ ' ' :: (['J', 'O', 'I', 'N'] ++ ' ' ::
        ((Text.delimited table).toList ++ ' ' :: (['O', 'N'] ++ ' ' ::
          ((columnText ⟨some table, root ++ "_id"⟩).toList ++ ' ' :: (['='] ++ ' ' ::
            (columnText ⟨some root, "id"⟩).toList)))))) := by
  unfold joinText
  simp only [columnText, String.toList_append]
  have joining : " INNER JOIN ".toList =
      ' ' :: (['I', 'N', 'N', 'E', 'R'] ++ ' ' :: (['J', 'O', 'I', 'N'] ++ [' '])) := rfl
  have on : " ON ".toList = ' ' :: (['O', 'N'] ++ [' ']) := rfl
  have equals : " = ".toList = ' ' :: (['='] ++ [' ']) := rfl
  rw [joining, on, equals]
  simp only [List.append_assoc, List.cons_append, List.nil_append]

/-- The text of a join yields its lexemes. -/
theorem yields_joinText (root table : String) (rest : List Char) (stops : Stops rest) :
    Yields flavour (joinText root table).toList rest (Join.lexemes root table) := by
  rw [toList_joinText]
  refine Yields.cons_blank ?_
  exact .blank_append (yields_word (by decide) rfl) (.blank_append (yields_word (by decide) rfl)
    (.blank_append (yields_delimited table) (.blank_append (yields_word (by decide) rfl)
      (.blank_append (yields_columnText _) (.blank_append (yields_symbol .equal)
        (yields_columnText _ rest stops))))))

/-- The text of several joins is that of the first one and then that of the others. -/
theorem toList_joins (root table : String) (more : List String) :
    (String.join ((table :: more).map (joinText root))).toList =
      (joinText root table).toList ++ (String.join (more.map (joinText root))).toList := by
  simp

/-- Whatever precedes joins ends before them. -/
theorem stops_joins (root : String) (tables : List String) {rest : List Char}
    (stops : Stops rest) :
    Stops ((String.join (tables.map (joinText root))).toList ++ rest) := by
  cases tables with
  | nil => exact stops
  | cons table more =>
    rw [toList_joins, toList_joinText]
    exact stops_cons (.inl rfl) _

/-- The texts of joins yield their lexemes. -/
theorem yields_joins (root : String) (tables : List String) (rest : List Char)
    (stops : Stops rest) :
    Yields flavour (String.join (tables.map (joinText root))).toList rest
      (tables.flatMap (Join.lexemes root)) := by
  induction tables with
  | nil => exact yields_nil rest
  | cons table more ih =>
    rw [toList_joins]
    exact (yields_joinText root table _ (stops_joins root more stops)).append ih

/-- The joins are read back from their lexemes. -/
theorem readJoins_lexemes (root : String) (tables : List String) (condition : List Lexeme) :
    readJoins (tables.flatMap (Join.lexemes root) ++ .keyword .whereWord :: condition) =
      (tables.map (Join.toRoot root), .keyword .whereWord :: condition) := by
  induction tables with
  | nil => rfl
  | cons table more ih =>
    have first (rest : List Lexeme) : readJoins (Join.lexemes root table ++ rest) =
        (Join.toRoot root table :: (readJoins rest).1, (readJoins rest).2) := rfl
    rw [List.flatMap_cons, List.append_assoc, first, ih]
    rfl

/-- The text of a query, with the blanks set off. -/
theorem toList_query (root : String) (selection : Selection) :
    (selection.query root flavour).text.toList =
      ['S', 'E', 'L', 'E', 'C', 'T'] ++ ' ' :: (['*'] ++ ' ' :: (['F', 'R', 'O', 'M'] ++ ' ' ::
        ((Text.delimited root).toList ++
          ((String.join (selection.joins.map (joinText root))).toList ++ ' ' ::
            (['W', 'H', 'E', 'R', 'E'] ++ ' ' ::
              ('(' :: ((selection.condition.text flavour).toList ++ [')']))))))) := by
  have selecting : "SELECT * FROM ".toList =
      ['S', 'E', 'L', 'E', 'C', 'T'] ++ ' ' :: (['*'] ++ ' ' :: (['F', 'R', 'O', 'M'] ++ [' '])) :=
    rfl
  have meeting : " WHERE (".toList = ' ' :: (['W', 'H', 'E', 'R', 'E'] ++ ' ' :: ['(']) := rfl
  have closing : ")".toList = [')'] := rfl
  unfold Selection.query
  rw [String.toList_append, String.toList_append, String.toList_append, String.toList_append,
    String.toList_append, selecting, meeting, closing]
  simp only [List.append_assoc, List.cons_append, List.nil_append]

/-- The lexemes of the text of a query. -/
theorem lexemes_query (root : String) (selection : Selection) :
    lexemes flavour (selection.query root flavour).text.toList =
      some (.keyword .selectWord :: .everything :: .keyword .fromWord :: .name root ::
        (selection.joins.flatMap (Join.lexemes root) ++ .keyword .whereWord ::
          .openMark :: (selection.condition.lexemes ++ [.closeMark]))) := by
  have condition : Yields flavour ('(' :: ((selection.condition.text flavour).toList ++ [')'])) []
      (.openMark :: (selection.condition.lexemes ++ [.closeMark])) :=
    .parenthesized (yields_text selection.condition)
  rw [toList_query]
  refine Yields.lexemes_eq (?_ : Yields flavour _ [] ([.keyword .selectWord] ++ ([.everything] ++
    ([.keyword .fromWord] ++ ([.name root] ++ (selection.joins.flatMap (Join.lexemes root) ++
      ([.keyword .whereWord] ++ (.openMark :: (selection.condition.lexemes ++
        [.closeMark])))))))))
  refine .blank_append (yields_word (by decide) rfl) ?_
  refine .blank_append (fun _ _ => yields_mark rfl (by decide) _) ?_
  refine .blank_append (yields_word (by decide) rfl) ?_
  refine (yields_delimited root _ ?_).append ?_
  · rw [List.append_assoc]
    exact stops_joins root selection.joins (stops_cons (.inl rfl) _)
  refine .blank_append (yields_joins root selection.joins) ?_
  exact .blank_append (yields_word (by decide) rfl) condition

/-- The query of a selection is read as what it is meant to state. -/
theorem Selection.read_query (root : String) (selection : Selection) :
    Statement.read flavour (selection.query root flavour).text =
      some (selection.statement root) := by
  unfold Statement.read
  rw [lexemes_query, Option.bind_some]
  unfold Statement.ofLexemes?
  dsimp only
  rw [readJoins_lexemes]
  dsimp only
  rw [Clause.ofLexemes?_parenthesized]
  rfl

end ResourceFilter.Sql
