import ResourceFilter.Proofs.Sql.Sight

/-! # The root table among the joined ones

A column that the mapping puts into the root table joins nothing, but a value path joins its table
whichever it is. So the root table comes into a query a second time exactly when a value path names
it, with or without a schema; else all tables of the query are distinct.
-/

set_option autoImplicit false

namespace ResourceFilter.Sql

namespace Target

/-- The tables that a query takes rows from are distinct, unless a value path of its filter names the
root table: then that one is joined to itself. -/
theorem root_joined_iff {target : Target} {filter : Filter} {query : Query}
    (made : target.query filter = .ok query) :
    ∃ statement, Statement.read target.flavour query.text = some statement ∧
      statement.root = target.root ∧
      (target.root ∈ statement.tables ↔ target.root ∈ scopeTables filter) ∧
      ((statement.root :: statement.tables).Nodup ↔ target.root ∉ scopeTables filter) := by
  obtain ⟨selection, selects, rfl⟩ := query_eq_ok_iff.1 made
  have joined := selects.root_mem_joins_iff
  refine ⟨selection.statement target.root, selection.read_query target.root, rfl, ?_⟩
  rw [selection.tables_statement]
  refine ⟨joined, ?_⟩
  constructor
  · intro distinct named
    have apart : target.root ∉ selection.joins := (List.nodup_cons.1 distinct).1
    exact apart (joined.2 named)
  · intro unnamed
    have apart : target.root ∉ selection.joins := fun mem => unnamed (joined.1 mem)
    exact List.nodup_cons.2 ⟨apart, selects.nodup_joins⟩

/-- Columns of the root table, named by the mapping, do not join it, nor does a path to another
table around them. -/
theorem root_joined_iff_columns :
    let target : Target := ⟨"users", .standard, .postgres, by decide⟩
    let filter : Filter := .logical (.presence (.attr "users.active")) .conjunction
      (.valuePath (.attr "urn:a:emails") (.presence (.attr "users.title")))
    ∃ query statement, target.query filter = .ok query ∧
      Statement.read .postgres query.text = some statement ∧
      "users" ∉ scopeTables filter ∧ (statement.root :: statement.tables).Nodup := by
  intro target filter
  have made : ∃ query, target.query filter = .ok query := ⟨_, rfl⟩
  obtain ⟨query, made⟩ := made
  obtain ⟨statement, read, -, -, distinct⟩ := root_joined_iff made
  have unnamed : "users" ∉ scopeTables filter := by decide +kernel
  exact ⟨query, statement, made, read, unnamed, distinct.2 unnamed⟩

/-- A value path that names the root table joins it to itself. -/
theorem root_joined_to_itself :
    let target : Target := ⟨"users", .standard, .postgres, by decide⟩
    let text := "SELECT * FROM \"users\" INNER JOIN \"users\" ON " ++
      "\"users\".\"users_id\" = \"users\".\"id\" WHERE (\"users\".\"userName\" IS NOT NULL)"
    ∃ statement,
      target.query (.valuePath (.attr "users") (.presence (.attr "userName"))) = .ok ⟨text, []⟩ ∧
      Statement.read .postgres text = some statement ∧
      statement.root = "users" ∧ statement.tables = ["users"] ∧
      ¬(statement.root :: statement.tables).Nodup := by
  intro target text
  have made : target.query (.valuePath (.attr "users") (.presence (.attr "userName"))) =
      .ok ⟨text, []⟩ := eq_ok_of_toOption (by decide +kernel)
  have read : Statement.read .postgres text = some
      ⟨"users", [Join.toRoot "users" "users"], .test ⟨some "users", "userName"⟩ .isNotNull⟩ := by
    decide +kernel
  exact ⟨_, made, read, rfl, rfl, by decide⟩

end Target

end ResourceFilter.Sql
