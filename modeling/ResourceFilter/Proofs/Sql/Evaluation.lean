import ResourceFilter.Proofs.Sql.Sight

/-! # The rows that a query returns

To carry out a query, a database looks at combinations of rows: one of the root table, and one of
each joined table that refers to it. A column may be without a value, so the condition of the query
holds of a combination, fails, or is unknown; a row of the root table is returned if the condition
holds of some combination with that row.

All of this is said of what the text of a query is read as, with its arguments bound in order.
`returns_query_iff` brings it back to the selection that the query was made of.
-/

set_option autoImplicit false

universe u

namespace ResourceFilter.Sql

/-- What a condition comes to where values may be missing. -/
inductive Truth where
  | holds
  | fails
  | unknown
  deriving DecidableEq, Repr

namespace Truth

/-- The truth of what is known to hold or to fail. -/
def ofBool : Bool → Truth
  | true => holds
  | false => fails

/-- The truth of a negation, which leaves open what is unknown. -/
def negate : Truth → Truth
  | holds => fails
  | fails => holds
  | unknown => unknown

/-- A conjunction fails as soon as one side fails, a disjunction holds as soon as one side holds,
whatever is unknown of the other side. -/
def connect : Connective → Truth → Truth → Truth
  | .conjunction, holds, holds => holds
  | .conjunction, fails, _ => fails
  | .conjunction, _, fails => fails
  | .disjunction, fails, fails => fails
  | .disjunction, holds, _ => holds
  | .disjunction, _, holds => holds
  | _, _, _ => unknown

/-- A conjunction holds exactly if both sides hold. -/
theorem connect_conjunction {first second : Truth} :
    connect .conjunction first second = holds ↔ first = holds ∧ second = holds := by
  cases first <;> cases second <;> decide

/-- A disjunction holds exactly if one side holds. -/
theorem connect_disjunction {first second : Truth} :
    connect .disjunction first second = holds ↔ first = holds ∨ second = holds := by
  cases first <;> cases second <;> decide

end Truth

/-- The values of a row, by the names of its columns. -/
abbrev Row (Value : Type u) := String → Option Value

/-- The rows of each table, by its name. -/
abbrev Database (Value : Type u) := String → List (Row Value)

/-- How values are compared with arguments and tested against patterns. -/
structure Predicates (Value : Type u) where
  compare : Comparison → Value → Argument → Bool
  fits : Argument → Value → Bool

variable {Value : Type u}

/-- A test of a value, which is unknown where there is none. -/
def Truth.ofTest (test : Value → Bool) : Option Value → Truth
  | some value => ofBool (test value)
  | none => unknown

/-- Both columns have a value, and the same one. A missing value equals nothing. -/
def Agree (first second : Option Value) : Prop :=
  ∃ value, first = some value ∧ second = some value

/-! ### Clauses -/

/-- What a test of a column comes to, and the arguments that it leaves. -/
def Test.truth (predicates : Predicates Value) (found : Option Value) :
    Test → List Argument → Truth × List Argument
  | isNull, arguments => (.ofBool found.isNone, arguments)
  | isNotNull, arguments => (.ofBool found.isSome, arguments)
  | comparison op, argument :: rest =>
    (.ofTest (fun value => predicates.compare op value argument) found, rest)
  | matching, argument :: rest => (.ofTest (predicates.fits argument) found, rest)
  | _, [] => (.unknown, [])

/-- What a clause comes to with the given values of its columns, and the arguments that it leaves:
each placeholder takes the next one. -/
def Clause.truth (predicates : Predicates Value) (value : Column → Option Value) :
    Clause → List Argument → Truth × List Argument
  | test column asked, arguments => asked.truth predicates (value column) arguments
  | logical left op right, arguments =>
    let (first, others) := left.truth predicates value arguments
    let (second, rest) := right.truth predicates value others
    (.connect op first second, rest)
  | negation body, arguments =>
    let (inner, rest) := body.truth predicates value arguments
    (inner.negate, rest)

/-- What a condition comes to with the given values of its columns. -/
def Condition.truth (predicates : Predicates Value) (value : Column → Option Value) :
    Condition → Truth
  | isNull column => .ofBool (value column).isNone
  | isNotNull column => .ofBool (value column).isSome
  | comparison column op argument =>
    .ofTest (fun found => predicates.compare op found argument) (value column)
  | matching column pattern => .ofTest (predicates.fits (.text pattern)) (value column)
  | logical left op right =>
    .connect op (left.truth predicates value) (right.truth predicates value)
  | negation body => (body.truth predicates value).negate

/-- The clause of a condition takes the arguments of the condition and comes to the same. -/
theorem Condition.truth_clause (predicates : Predicates Value) (value : Column → Option Value)
    (condition : Condition) (more : List Argument) :
    condition.clause.truth predicates value (condition.arguments ++ more) =
      (condition.truth predicates value, more) := by
  induction condition generalizing more with
  | isNull | isNotNull | comparison | matching => rfl
  | logical left op right left_ih right_ih =>
    simp only [clause, Clause.truth, arguments, List.append_assoc, left_ih, right_ih, truth]
  | negation body ih => simp only [clause, Clause.truth, arguments, ih, truth]

/-- Only the values of its own columns matter to a condition. -/
theorem Condition.truth_congr (predicates : Predicates Value) {value other : Column → Option Value}
    {condition : Condition} (same : ∀ column ∈ condition.columns, value column = other column) :
    condition.truth predicates value = condition.truth predicates other := by
  induction condition with
  | isNull column | isNotNull column | comparison column | matching column =>
    have found := same column List.mem_cons_self
    simp only [truth, found]
  | logical left op right left_ih right_ih =>
    have first := left_ih fun column mem => same column (List.mem_append_left _ mem)
    have second := right_ih fun column mem => same column (List.mem_append_right _ mem)
    simp only [truth, first, second]
  | negation body ih => simp only [truth, ih same]

/-! ### Combinations of rows -/

/-- The rows that a database looks at together. -/
structure Combination (Value : Type u) where
  /-- The row of the root table. -/
  row : Row Value
  /-- The row of each joined table. -/
  partner? : String → Option (Row Value)

/-- The value of a column. One without a table is a column of the root row. -/
def Combination.value (root : String) (combination : Combination Value) (column : Column) :
    Option Value :=
  match column.table with
  | none => combination.row column.name
  | some table =>
    if table = root then combination.row column.name
    else (combination.partner? table).bind fun partner => partner column.name

/-- The combinations that a statement asks for: a row of each of its tables and of no other one, and
the columns of each join agree. -/
structure Statement.Combines (database : Database Value) (statement : Statement)
    (combination : Combination Value) : Prop where
  row_mem : combination.row ∈ database statement.root
  joined : ∀ join ∈ statement.joins, ∃ partner ∈ database join.table,
    combination.partner? join.table = some partner ∧
      Agree (combination.value statement.root join.left)
        (combination.value statement.root join.right)
  listed : ∀ table, (combination.partner? table).isSome → table ∈ statement.tables

/-- The statement returns the row, with the arguments bound to its placeholders in order. -/
def Statement.Returns (database : Database Value) (predicates : Predicates Value)
    (statement : Statement) (arguments : List Argument) (row : Row Value) : Prop :=
  ∃ combination, combination.row = row ∧ statement.Combines database combination ∧
    (statement.clause.truth predicates (combination.value statement.root) arguments).1 = .holds

/-- The query returns the row: what its text is read as does, with its arguments. -/
def Query.Returns (flavour : Flavour) (database : Database Value) (predicates : Predicates Value)
    (query : Query) (row : Row Value) : Prop :=
  ∃ statement, Statement.read flavour query.text = some statement ∧
    statement.Returns database predicates query.arguments row

/-- The tables that the text of a query joins. -/
def Query.tables (flavour : Flavour) (query : Query) : List String :=
  ((Statement.read flavour query.text).map Statement.tables).getD []

/-- A row of the table refers to the given row of the root table. -/
def HasPartner (database : Database Value) (root table : String) (row : Row Value) : Prop :=
  ∃ partner ∈ database table, Agree (partner (root ++ "_id")) (row "id")

namespace Combination

/-- The combination looks at a row of the root table, and at one of each of the given tables that
refers to it. -/
structure Spans (database : Database Value) (root : String) (tables : List String)
    (combination : Combination Value) : Prop where
  row_mem : combination.row ∈ database root
  joined : ∀ table ∈ tables, ∃ partner ∈ database table,
    combination.partner? table = some partner ∧
      Agree (combination.value root ⟨some table, root ++ "_id"⟩) (combination.row "id")
  listed : ∀ table, (combination.partner? table).isSome → table ∈ tables

/-- A column of the root table is looked up in the root row. -/
theorem value_root (root name : String) (combination : Combination Value) :
    combination.value root ⟨some root, name⟩ = combination.row name :=
  if_pos rfl

/-- A column of a joined table is looked up in the row of that table. -/
theorem value_partner {root table name : String} {combination : Combination Value}
    {partner : Row Value} (apart : table ≠ root)
    (found : combination.partner? table = some partner) :
    combination.value root ⟨some table, name⟩ = partner name := by
  simp [value, apart, found]

/-- Combinations with the same rows of some tables agree on every column in sight of these. -/
theorem value_congr {root : String} {tables : List String} {first second : Combination Value}
    (same : ∀ table ∈ tables, first.partner? table = second.partner? table)
    (same_row : first.row = second.row) {column : Column} (inSight : column.InSight root tables) :
    first.value root column = second.value root column := by
  obtain ⟨named, name⟩ := column
  cases named with
  | none => simp [value, same_row]
  | some table =>
    by_cases isRoot : table = root
    · simp [value, isRoot, same_row]
    · have joined := (inSight table rfl).resolve_left isRoot
      simp [value, isRoot, same table joined]

end Combination

/-- The statement of a selection combines rows as its joins do. -/
theorem Selection.combines_statement_iff {database : Database Value} {root : String}
    {selection : Selection} {combination : Combination Value} :
    (selection.statement root).Combines database combination ↔
      combination.Spans database root selection.joins := by
  have right (table : String) : combination.value root (Join.toRoot root table).right =
      combination.row "id" := combination.value_root root "id"
  constructor
  · intro combines
    refine ⟨combines.row_mem, ?_, ?_⟩
    · intro table mem
      have joined := combines.joined _ (List.mem_map_of_mem mem)
      exact right table ▸ joined
    · intro table found
      exact selection.tables_statement root ▸ combines.listed table found
  · intro spans
    refine ⟨spans.row_mem, ?_, ?_⟩
    · intro join mem
      obtain ⟨table, listed, rfl⟩ := List.mem_map.1 mem
      have joined := spans.joined table listed
      rw [← right table] at joined
      exact joined
    · intro table found
      rw [selection.tables_statement]
      exact spans.listed table found

/-- The query of a selection returns the rows of the combinations of its tables that its condition
holds of. -/
theorem Selection.returns_query_iff {flavour : Flavour} {database : Database Value}
    {predicates : Predicates Value} {root : String} {selection : Selection} {row : Row Value} :
    (selection.query root flavour).Returns flavour database predicates row ↔
      ∃ combination : Combination Value, combination.row = row ∧
        combination.Spans database root selection.joins ∧
        selection.condition.truth predicates (combination.value root) = .holds := by
  have bound (value : Column → Option Value) :
      (selection.condition.clause.truth predicates value selection.condition.arguments).1 =
        selection.condition.truth predicates value := by
    have all := selection.condition.truth_clause predicates value []
    rw [List.append_nil] at all
    rw [all]
  constructor
  · rintro ⟨statement, read, combination, same_row, combines, holds⟩
    rw [selection.read_query root] at read
    cases read
    refine ⟨combination, same_row, combines_statement_iff.1 combines, ?_⟩
    rw [← bound]
    exact holds
  · rintro ⟨combination, same_row, spans, holds⟩
    refine ⟨selection.statement root, selection.read_query root, combination, same_row,
      combines_statement_iff.2 spans, ?_⟩
    rw [← bound] at holds
    exact holds

/-- The query of a selection names the tables that the selection joins. -/
theorem Selection.tables_query (root : String) (flavour : Flavour) (selection : Selection) :
    (selection.query root flavour).tables flavour = selection.joins := by
  unfold Query.tables
  rw [selection.read_query, Option.map_some, Option.getD_some, selection.tables_statement]

end ResourceFilter.Sql
