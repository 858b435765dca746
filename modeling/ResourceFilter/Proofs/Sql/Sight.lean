import ResourceFilter.Proofs.Sql.Joins
import ResourceFilter.Proofs.Sql.Scope
import ResourceFilter.Proofs.Sql.Statement

/-! # Tables in sight

The columns of a condition get their tables from the mapping and from value paths, the joins of a
query are collected apart from them. Nevertheless the two agree: each table that a condition names
is the root table or a joined one. `tables_of_query` puts that together with what the joins are.
-/

set_option autoImplicit false

namespace ResourceFilter

/-- If the column names a table, it is the root table or one of those joined to it. -/
def Column.InSight (root : String) (tables : List String) (column : Column) : Prop :=
  ∀ table ∈ column.table, table = root ∨ table ∈ tables

/-- What is in sight of some tables is in sight of more. -/
theorem Column.InSight.mono {root : String} {tables more : List String} {column : Column}
    (inSight : column.InSight root tables) (wider : ∀ table ∈ tables, table ∈ more) :
    column.InSight root more := by
  intro table names
  rcases inSight table names with isRoot | joined
  · exact .inl isRoot
  · exact .inr (wider table joined)

/-- Within a value path, a column is in sight of the joins that the path adds its table to. -/
theorem Column.InSight.qualify {root : String} {tables : List String} {column : Column}
    (inSight : column.InSight root tables) (table : String) :
    (column.qualify table).InSight root (Sql.addTables [table] tables) := by
  intro other names
  obtain ⟨own, name⟩ := column
  cases own with
  | none =>
    cases names
    exact .inr (Sql.mem_addTables.2 (.inl List.mem_cons_self))
  | some own =>
    cases names
    rcases inSight own rfl with isRoot | joined
    · exact .inl isRoot
    · exact .inr (Sql.mem_addTables.2 (.inr joined))

namespace Sql

/-- The columns of a clause, from left to right. -/
def Clause.columns : Clause → List Column
  | test column _ => [column]
  | logical left _ right => left.columns ++ right.columns
  | negation body => body.columns

/-- The tables that a statement joins, in order. -/
def Statement.tables (statement : Statement) : List String :=
  statement.joins.map Join.table

/-- The clause of a condition names the columns that the condition does. -/
theorem Condition.columns_clause (condition : Condition) :
    condition.clause.columns = condition.columns := by
  induction condition with
  | isNull | isNotNull | comparison | matching => rfl
  | logical left op right left_ih right_ih =>
    simp only [clause, Clause.columns, columns, left_ih, right_ih]
  | negation body ih => exact ih

/-- The statement of a selection names the tables that the selection joins. -/
theorem Selection.tables_statement (root : String) (selection : Selection) :
    (selection.statement root).tables = selection.joins := by
  have same : Join.table ∘ Join.toRoot root = id := rfl
  simp [Statement.tables, Selection.statement, same]

/-- A test of a column joins whatever it takes to have the column in sight. -/
theorem inSight_ofTest (root : String) (column : Column) (condition : Condition) :
    column.InSight root (Selection.ofTest root column condition).joins := by
  intro table names
  have named : column.table = some table := names
  unfold Selection.ofTest
  rw [named]
  by_cases isRoot : table = root
  · exact .inl isRoot
  · simp [isRoot]

/-- A comparison looks at its column and at no other. -/
theorem columns_comparisonOf {column : Column} {op : Comparison} {operand : Filter}
    {condition : Condition} (compared : comparisonOf column op operand = .ok condition) :
    condition.columns = [column] := by
  cases operand with
  | text | number | boolean =>
    cases compared
    rfl
  | attr path =>
    simp only [comparisonOf] at compared
    split at compared
    · cases op <;> cases compared <;> rfl
    · cases compared
  | _ => cases compared

/-- Every column of a selection is in sight of the tables that it joins. -/
theorem Selects.inSight {root : String} {mapping : ColumnMapping} {filter : Filter}
    {selection : Selection} (selects : Selects root mapping filter selection) :
    ∀ column ∈ selection.condition.columns, column.InSight root selection.joins := by
  induction selects with
  | presence | matching =>
    intro column mem
    rw [Selection.condition_ofTest] at mem
    obtain rfl := List.mem_singleton.1 mem
    exact inSight_ofTest root column _
  | comparison known compared =>
    intro column mem
    rw [Selection.condition_ofTest, columns_comparisonOf compared] at mem
    obtain rfl := List.mem_singleton.1 mem
    exact inSight_ofTest root column _
  | logical _ _ left_ih right_ih =>
    intro column mem
    rcases List.mem_append.1 mem with left | right
    · apply (left_ih column left).mono
      intro table joined
      exact mem_addTables.2 (.inl joined)
    · apply (right_ih column right).mono
      intro table joined
      exact mem_addTables.2 (.inr joined)
  | group _ ih => exact ih
  | negation _ ih => exact ih
  | valuePath _ ih | patchPath _ ih =>
    intro column mem
    unfold Selection.within at mem
    rw [Condition.columns_qualify, List.mem_map] at mem
    obtain ⟨inner, inside, rfl⟩ := mem
    exact (ih inner inside).qualify _

/-- The tables that a query joins are those that its filter uses, each once and in the order of
first use, and whatever its condition names is one of them or the root table. -/
theorem Target.tables_of_query {target : Target} {filter : Filter} {query : Query}
    (made : target.query filter = .ok query) :
    ∃ statement, Statement.read target.flavour query.text = some statement ∧
      statement.root = target.root ∧
      statement.tables = (usedTables target.root target.mapping filter).eraseDups ∧
      statement.tables.Nodup ∧
      ∀ column ∈ statement.clause.columns, column.InSight target.root statement.tables := by
  obtain ⟨selection, selects, rfl⟩ := Target.query_eq_ok_iff.1 made
  have joins := selects.joins_eq
  refine ⟨selection.statement target.root, selection.read_query target.root, rfl, ?_⟩
  rw [selection.tables_statement]
  refine ⟨joins, ?_, ?_⟩
  · rw [joins, ← addTables_nil]
    exact nodup_addTables .nil _
  · intro column mem
    have inside : column ∈ selection.condition.columns := by
      rw [← selection.condition.columns_clause]
      exact mem
    exact selects.inSight column inside

/-- Repeated and nested value paths join their tables once, and the root table is not joined. -/
theorem Target.tables_of_query_nested :
    let target : Target := ⟨"users", .standard, .postgres, by decide⟩
    let filter : Filter := .logical
      (.valuePath (.attr "urn:a:emails")
        (.logical (.presence (.attr "type")) .conjunction (.presence (.attr "name.given"))))
      .disjunction
      (.negation (.logical (.presence (.attr "users.active")) .conjunction
        (.valuePath (.attr "name") (.valuePath (.attr "groups") (.presence (.attr "emails.x"))))))
    ∃ query statement, target.query filter = .ok query ∧
      Statement.read .postgres query.text = some statement ∧
      statement.tables = ["emails", "name", "groups"] := by
  intro target filter
  have made : ∃ query, target.query filter = .ok query := ⟨_, rfl⟩
  obtain ⟨query, made⟩ := made
  obtain ⟨statement, read, -, tables, -⟩ := tables_of_query made
  have evaluated : (usedTables target.root target.mapping filter).eraseDups =
      ["emails", "name", "groups"] := by decide +kernel
  exact ⟨query, statement, made, read, tables.trans evaluated⟩

end Sql

end ResourceFilter
