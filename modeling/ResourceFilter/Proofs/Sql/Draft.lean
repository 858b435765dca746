import ResourceFilter.Proofs.Sql.Joins
import ResourceFilter.Proofs.Sql.Scope

/-! # Queries written from the top down

A query is made in several steps: selections are put together from the bottom up, value paths
qualify the columns of conditions that are there already, and only the whole condition is written
out. `Target.draft` writes the text of a filter at once, on a single walk from the top, and knows
nothing but the table of the innermost value path around the place where it is. Both come to the
same query, or to the same error.
-/

set_option autoImplicit false

namespace ResourceFilter

/-- The table of the scope stands in where the column names none. -/
theorem Column.within_eq (scope : Option String) (column : Column) :
    column.within scope = ⟨column.table.or scope, column.name⟩ := by
  obtain ⟨table, name⟩ := column
  cases scope <;> cases table <;> rfl

namespace Sql

/-- A condition in writing, with the arguments of its placeholders and every use of a table. -/
structure Draft where
  text : String
  arguments : List Argument
  tables : List String
  deriving DecidableEq, Repr

namespace Draft

/-- A test of a column. The table that the mapping names counts first, that of the innermost value
path only where there is none. -/
def ofTest (root : String) (scope : Option String) (column : Column) (asked : String)
    (arguments : List Argument) : Draft :=
  ⟨columnText ⟨column.table.or scope, column.name⟩ ++ asked, arguments,
    column.table.toList.filter fun table => table ≠ root⟩

/-- Two drafts with a connective between them, each in parentheses. -/
def connect (op : Connective) (left right : Draft) : Draft :=
  ⟨"(" ++ left.text ++ ") " ++ op.symbol ++ " (" ++ right.text ++ ")",
    left.arguments ++ right.arguments, left.tables ++ right.tables⟩

/-- A draft with a negation in front, in parentheses. -/
def negate (draft : Draft) : Draft :=
  { draft with text := "NOT (" ++ draft.text ++ ")" }

/-- A draft of the body of a value path, whose table is used before all others. -/
def within (table : String) (draft : Draft) : Draft :=
  { draft with tables := table :: draft.tables }

/-- What a comparison writes behind its column, and the argument that goes with it. -/
def operand (op : Comparison) : Filter → Except QueryError (String × List Argument)
  | .text value => .ok (" " ++ op.symbol ++ " ?", [.text value])
  | .number value => .ok (" " ++ op.symbol ++ " ?", [.integer value])
  | .boolean value => .ok (" " ++ op.symbol ++ " ?", [.boolean value])
  | .attr path =>
    if Text.lowercase path = "null" then
      match op with
      | .equal => .ok (" IS NULL", [])
      | .notEqual => .ok (" IS NOT NULL", [])
      | _ => .error (.orderedNull op)
    else .error (.notALiteral op .attr)
  | other => .error (.notALiteral op other.kind)

end Draft

namespace Target

/-- The draft of a filter, with the table of the innermost value path around it. -/
def draft (target : Target) (scope : Option String) : Filter → Except QueryError Draft
  | .presence subject => do
    let column ← columnOf target.mapping .presence subject
    return .ofTest target.root scope column " IS NOT NULL" []
  | .comparison subject op operand => do
    let column ← columnOf target.mapping .comparison subject
    let (asked, arguments) ← Draft.operand op operand
    return .ofTest target.root scope column asked arguments
  | .matching subject op value => do
    let column ← columnOf target.mapping .matching subject
    return .ofTest target.root scope column (" " ++ target.flavour.patternOperator ++ " ?")
      [.text (op.pattern value)]
  | .logical left op right => do
    let first ← target.draft scope left
    let second ← target.draft scope right
    return .connect op first second
  | .group body => target.draft scope body
  | .negation body => do
    return (← target.draft scope body).negate
  | .valuePath parent body => do
    let table := dropSchema (← attributeOf .valuePath parent)
    return (← target.draft (some table) body).within table
  | .patchPath parent body _ => do
    let table := dropSchema (← attributeOf .valuePath parent)
    return (← target.draft (some table) body).within table
  | .attr _ => .error (.notACondition .attr)
  | .text _ => .error (.notACondition .text)
  | .number _ => .error (.notACondition .number)
  | .boolean _ => .error (.notACondition .boolean)

/-- The query of a filter from its draft, with each table joined where it is used first. -/
def draftQuery (target : Target) (filter : Filter) : Except QueryError Query := do
  let draft ← target.draft none filter
  return ⟨"SELECT * FROM " ++ Text.delimited target.root ++
    String.join (draft.tables.eraseDups.map (joinText target.root)) ++
      " WHERE (" ++ draft.text ++ ")", draft.arguments⟩

end Target

/-! ### Drafts of conditions -/

/-- A condition written out, with the tables that its filter uses. -/
def Condition.draft (flavour : Flavour) (tables : List String) (condition : Condition) : Draft :=
  ⟨condition.text flavour, condition.arguments, tables⟩

/-- A known attribute uses the table of its column, unless that is the root table. -/
theorem columnTables_eq {root path : String} {mapping : ColumnMapping} {column : Column}
    (known : mapping path = some column) :
    columnTables root mapping (.attr path) =
      column.table.toList.filter fun table => table ≠ root := by
  unfold columnTables
  dsimp only
  rw [known, Option.bind_some]
  cases column.table with
  | none => rfl
  | some table => by_cases isRoot : table = root <;> simp [isRoot]

/-- The draft of a test writes its column in scope, and uses the tables of its attribute. -/
theorem Draft.ofTest_eq {root path : String} {mapping : ColumnMapping} {column : Column}
    (known : mapping path = some column) (scope : Option String) (asked : String)
    (arguments : List Argument) :
    Draft.ofTest root scope column asked arguments =
      ⟨columnText (column.within scope) ++ asked, arguments,
        columnTables root mapping (.attr path)⟩ := by
  unfold Draft.ofTest
  rw [Column.within_eq, columnTables_eq known]

/-- A comparison is written as the condition that it comes to, or fails as that does. -/
theorem Draft.comparison_eq {root path : String} {mapping : ColumnMapping} {column : Column}
    (known : mapping path = some column) (flavour : Flavour) (scope : Option String)
    (op : Comparison) (operand : Filter) :
    (do let (asked, arguments) ← Draft.operand op operand
        return Draft.ofTest root scope column asked arguments) =
      (comparisonOf (column.within scope) op operand).map
        (Condition.draft flavour (columnTables root mapping (.attr path))) := by
  cases operand with
  | text | number | boolean =>
    apply congrArg Except.ok
    rw [Draft.ofTest_eq known]
    simp [Condition.draft, Condition.text, Condition.arguments, String.append_assoc]
  | attr word =>
    simp only [Draft.operand, comparisonOf]
    by_cases null : Text.lowercase word = "null"
    · simp only [null, if_true]
      cases op with
      | equal | notEqual => exact congrArg Except.ok (Draft.ofTest_eq known scope _ _)
      | _ => rfl
    · simp only [null, if_false]
      rfl
  | _ => rfl

/-- The table of a value path comes before those of its body, and its scope is the inner one. -/
theorem draft_valuePath {target : Target} {body : Filter}
    (agrees : ∀ scope, target.draft scope body =
      (conditionOf target.mapping scope body).map
        (Condition.draft target.flavour (usedTables target.root target.mapping body)))
    (scope : Option String) (parent : Filter) :
    target.draft scope (.valuePath parent body) =
      (conditionOf target.mapping scope (.valuePath parent body)).map
        (Condition.draft target.flavour
          (usedTables target.root target.mapping (.valuePath parent body))) := by
  unfold Target.draft conditionOf
  cases isPath : attributeOf .valuePath parent with
  | error => rfl
  | ok path =>
    obtain rfl := attributeOf_eq_ok isPath
    show (target.draft (some (dropSchema path)) body >>= _) = _
    rw [agrees]
    show _ = (conditionOf target.mapping (some (dropSchema path)) body).map _
    cases conditionOf target.mapping (some (dropSchema path)) body with
    | error => rfl
    | ok condition => rfl

/-- A draft is what the condition of the filter is written as, with every use of a table. -/
theorem draft_eq (target : Target) (scope : Option String) (filter : Filter) :
    target.draft scope filter =
      (conditionOf target.mapping scope filter).map
        (Condition.draft target.flavour (usedTables target.root target.mapping filter)) := by
  -- Both sides walk down with the same scope, which a value path replaces for its body.
  induction filter generalizing scope with
  | presence subject =>
    unfold Target.draft conditionOf
    cases isColumn : columnOf target.mapping .presence subject with
    | error => rfl
    | ok column =>
      obtain ⟨path, rfl, known⟩ := columnOf_eq_ok isColumn
      exact congrArg Except.ok (Draft.ofTest_eq known scope _ _)
  | comparison subject op operand =>
    unfold Target.draft conditionOf
    cases isColumn : columnOf target.mapping .comparison subject with
    | error => rfl
    | ok column =>
      obtain ⟨path, rfl, known⟩ := columnOf_eq_ok isColumn
      exact Draft.comparison_eq known target.flavour scope op operand
  | matching subject op value =>
    unfold Target.draft conditionOf
    cases isColumn : columnOf target.mapping .matching subject with
    | error => rfl
    | ok column =>
      obtain ⟨path, rfl, known⟩ := columnOf_eq_ok isColumn
      apply congrArg Except.ok
      rw [Draft.ofTest_eq known]
      simp [Condition.draft, Condition.text, Condition.arguments, usedTables, String.append_assoc]
  | logical left op right left_ih right_ih =>
    unfold Target.draft conditionOf
    rw [left_ih, right_ih]
    cases conditionOf target.mapping scope left with
    | error => rfl
    | ok first =>
      cases conditionOf target.mapping scope right with
      | error => rfl
      | ok second => rfl
  | group body ih => exact ih scope
  | negation body ih =>
    unfold Target.draft conditionOf
    rw [ih]
    cases conditionOf target.mapping scope body with
    | error => rfl
    | ok inner => rfl
  | valuePath parent body _ ih => exact draft_valuePath ih scope parent
  | patchPath parent body aim _ ih _ => exact draft_valuePath ih scope parent
  | attr | text | number | boolean => rfl

/-- The query of a filter is the one written from the top down, with the same text and arguments,
and where there is none the error is the same. -/
theorem Target.query_eq_draftQuery (target : Target) (filter : Filter) :
    target.query filter = target.draftQuery filter := by
  unfold Target.query Target.draftQuery
  rw [draft_eq, conditionOf_eq target.root]
  cases selected : select target.root target.mapping filter with
  | error => rfl
  | ok selection =>
    have joins := (select_eq_ok_iff.1 selected).joins_eq
    show Except.ok (selection.query target.root target.flavour) = Except.ok (Query.mk _ _)
    unfold Selection.query
    rw [joins]
    rfl

/-- A value path gives its table to the columns without one, and is joined in any case. -/
example :
    ((⟨"users", .standard, .postgres, by decide⟩ : Target).draftQuery
      (.valuePath (.attr "groups") (.valuePath (.attr "members") (.negation (.logical
        (.presence (.attr "value")) .disjunction (.presence (.attr "name.given"))))))).toOption =
    some ⟨"SELECT * FROM \"users\"" ++
      " INNER JOIN \"groups\" ON \"groups\".\"users_id\" = \"users\".\"id\"" ++
      " INNER JOIN \"members\" ON \"members\".\"users_id\" = \"users\".\"id\"" ++
      " INNER JOIN \"name\" ON \"name\".\"users_id\" = \"users\".\"id\"" ++
      " WHERE (NOT ((\"members\".\"value\" IS NOT NULL) OR (\"name\".\"given\" IS NOT NULL)))",
      []⟩ := by
  decide +kernel

end Sql

end ResourceFilter
