import ResourceFilter.Proofs.Sql.Joins
import ResourceFilter.Proofs.Sql.Scope
import ResourceFilter.Proofs.Sql.Statement

/-! # Nothing breaks out of a query

The names in a query come from filters and mappings, and may hold quotes, keywords and anything
else. The text of the query of a filter is still read as what the filter asks for: the root table,
the tables in use, and the condition of the filter with its nesting as it is.
-/

set_option autoImplicit false

namespace ResourceFilter.Sql

namespace Target

/-- What the query of a filter is meant to state: the tables in use are joined to the root table in
the order of first use, and the rows meet the condition of the filter. -/
def statement (target : Target) (filter : Filter) : Except QueryError Statement := do
  let condition ← conditionOf target.mapping none filter
  let tables := (usedTables target.root target.mapping filter).eraseDups
  return ⟨target.root, tables.map (Join.toRoot target.root), condition.clause⟩

/-- The selection of a filter states what the filter is meant to state. -/
theorem statement_eq (target : Target) (filter : Filter) :
    target.statement filter =
      (select target.root target.mapping filter).map (Selection.statement target.root) := by
  unfold statement
  rw [conditionOf_eq target.root]
  cases selected : select target.root target.mapping filter with
  | error => rfl
  | ok selection =>
    have joins := (select_eq_ok_iff.1 selected).joins_eq
    show Except.ok (Statement.mk _ _ _) = Except.ok (Statement.mk _ _ _)
    rw [← joins]
    rfl

/-- The text of a query is read as what its filter is meant to state. -/
theorem read_of_query {target : Target} {filter : Filter} {query : Query}
    (made : target.query filter = .ok query) :
    ∃ statement, target.statement filter = .ok statement ∧
      Statement.read target.flavour query.text = some statement := by
  obtain ⟨selection, selected, same⟩ := bind_eq_ok made
  cases same
  refine ⟨selection.statement target.root, ?_, selection.read_query target.root⟩
  rw [statement_eq, selected]
  rfl

/-- The text of a query is read as what its filter is meant to state, whatever its names hold. So
two filters with queries of the same text and flavour are meant to state the same. -/
theorem statement_of_query_text {target : Target} {filter : Filter} {query : Query}
    (made : target.query filter = .ok query) :
    (∃ statement, target.statement filter = .ok statement ∧
      Statement.read target.flavour query.text = some statement) ∧
    ∀ (other : Target) (otherFilter : Filter) (otherQuery : Query),
      other.flavour = target.flavour → other.query otherFilter = .ok otherQuery →
        otherQuery.text = query.text →
          other.statement otherFilter = target.statement filter := by
  obtain ⟨statement, meant, read⟩ := read_of_query made
  refine ⟨⟨statement, meant, read⟩, ?_⟩
  intro other otherFilter otherQuery sameFlavour otherMade sameText
  obtain ⟨otherStatement, otherMeant, otherRead⟩ := read_of_query otherMade
  rw [sameFlavour, sameText, read] at otherRead
  cases otherRead
  rw [otherMeant, meant]

/-- A quote, a question mark and a keyword in a name stay in that name, and a group around the whole
filter is of no account. -/
theorem statement_of_query_text_delimited :
    let target : Target :=
      ⟨"a\" b", fun path => some ⟨some "t\"?", path ++ "\" OR "⟩, .postgres, by decide⟩
    let filter : Filter := .negation (.logical (.presence (.attr "x")) .disjunction
      (.comparison (.attr "y") .equal (.number 1)))
    let text := "SELECT * FROM \"a\"\" b\" INNER JOIN \"t\"\"?\" ON " ++
      "\"t\"\"?\".\"a\"\" b_id\" = \"a\"\" b\".\"id\" WHERE (NOT " ++
      "((\"t\"\"?\".\"x\"\" OR \" IS NOT NULL) OR (\"t\"\"?\".\"y\"\" OR \" = ?)))"
    let expected : Statement :=
      ⟨"a\" b", [⟨"t\"?", ⟨some "t\"?", "a\" b_id"⟩, ⟨some "a\" b", "id"⟩⟩],
        .negation (.logical (.test ⟨some "t\"?", "x\" OR "⟩ .isNotNull) .disjunction
          (.test ⟨some "t\"?", "y\" OR "⟩ (.comparison .equal)))⟩
    Statement.read .postgres text = some expected ∧
      target.statement (.group filter) = .ok expected := by
  intro target filter text expected
  have made : target.query filter = .ok ⟨text, [.integer 1]⟩ :=
    eq_ok_of_toOption (by decide +kernel)
  have evaluated : target.statement filter = .ok expected := eq_ok_of_toOption (by decide +kernel)
  obtain ⟨⟨statement, meant, read⟩, unique⟩ := statement_of_query_text made
  obtain rfl : statement = expected := Except.ok.inj (meant.symm.trans evaluated)
  exact ⟨read, (unique target (.group filter) _ rfl made rfl).trans meant⟩

end Target

end ResourceFilter.Sql
