import ResourceFilter.Proofs.Sql.Placeholder
import ResourceFilter.Proofs.Sql.Readback
import ResourceFilter.Proofs.Sql.Sight

/-! # The text of a query is free of values

A filter with its literals left blank states the same as the filter itself, and the text of a query
is a matter of what it states. So filters that differ in their literals alone have queries of one
text, or are refused for one reason; all that the literals decide is what is bound to the
placeholders, each literal at its own place. `query_of_blanked` compares two such filters, whether
or not any text is read as one of them.
-/

set_option autoImplicit false

namespace ResourceFilter

namespace Filter

/-- A literal without its value; anything else stays. -/
def blank : Filter → Filter
  | text _ | number _ | boolean _ => text ""
  | other => other

/-- The filter with the literals on the right of its comparisons and the texts of its matches left
blank. The word for no value is no literal, and leaves in other places stay as they are. -/
def blanked : Filter → Filter
  | comparison subject op operand => comparison subject.blanked op operand.blanked.blank
  | matching subject op _ => matching subject.blanked op ""
  | presence subject => presence subject.blanked
  | logical left op right => logical left.blanked op right.blanked
  | group body => group body.blanked
  | negation body => negation body.blanked
  | valuePath parent body => valuePath parent.blanked body.blanked
  | patchPath parent body target => patchPath parent.blanked body.blanked target.blanked
  | other => other

end Filter

namespace Sql

/-- A value that a filter gives. -/
inductive GivenValue where
  /-- The literal of a comparison. -/
  | literal (value : Argument)
  /-- The text of a match. -/
  | sought (op : Matching) (value : String)
  deriving DecidableEq, Repr

/-- What is bound to a placeholder for a given value. -/
def GivenValue.argument : GivenValue → Argument
  | literal value => value
  | sought op value => .text (op.pattern value)

/-- The values that a filter gives, from left to right. -/
def givenValues : Filter → List GivenValue
  | .comparison _ _ operand => (literalArgument? operand).toList.map .literal
  | .matching _ op value => [.sought op value]
  | .logical left _ right => givenValues left ++ givenValues right
  | .group body => givenValues body
  | .negation body => givenValues body
  | .valuePath _ body => givenValues body
  | .patchPath _ body _ => givenValues body
  | _ => []

/-! ### What blanked filters state -/

variable {root : String} {mapping : ColumnMapping}

/-- Blanking a filter does not touch the attributes in it. -/
theorem attributeOf_blanked (role : Role) (filter : Filter) :
    attributeOf role filter.blanked = attributeOf role filter := by
  cases filter <;> rfl

/-- Blanking a filter does not touch the columns of its attributes. -/
theorem columnOf_blanked (role : Role) (filter : Filter) :
    columnOf mapping role filter.blanked = columnOf mapping role filter := by
  unfold columnOf
  rw [attributeOf_blanked]

/-- A comparison with a blanked operand comes to the same clause, or to the same error. -/
theorem clause_comparisonOf_blanked (column : Column) (op : Comparison) (operand : Filter) :
    (comparisonOf column op operand.blanked.blank).map Condition.clause =
      (comparisonOf column op operand).map Condition.clause := by
  cases operand <;> rfl

/-- Blanking a filter does not touch the tables that its attributes bring in. -/
theorem columnTables_blanked (filter : Filter) :
    columnTables root mapping filter.blanked = columnTables root mapping filter := by
  cases filter <;> rfl

/-- Blanking a filter does not touch the tables of its value paths. -/
theorem pathTables_blanked (filter : Filter) : pathTables filter.blanked = pathTables filter := by
  cases filter <;> rfl

/-- A blanked filter uses the same tables. -/
theorem usedTables_blanked (filter : Filter) :
    usedTables root mapping filter.blanked = usedTables root mapping filter := by
  induction filter with
  | presence subject | comparison subject | matching subject => exact columnTables_blanked subject
  | logical left op right left_ih right_ih =>
    simp only [Filter.blanked, usedTables, left_ih, right_ih]
  | group body ih | negation body ih => exact ih
  | valuePath parent body _ ih | patchPath parent body target _ ih _ =>
    simp only [Filter.blanked, usedTables, pathTables_blanked, ih]
  | attr | text | number | boolean => rfl

/-- The clause of a connective is made from the clauses of its two sides. -/
theorem clause_conditionOf_logical (scope : Option String) (left right : Filter)
    (op : Connective) :
    (conditionOf mapping scope (.logical left op right)).map Condition.clause = do
      return .logical (← (conditionOf mapping scope left).map Condition.clause) op
        (← (conditionOf mapping scope right).map Condition.clause) := by
  simp only [conditionOf]
  cases conditionOf mapping scope left with
  | error => rfl
  | ok first => cases conditionOf mapping scope right <;> rfl

/-- The clause of a negation is made from the clause of its body. -/
theorem clause_conditionOf_negation (scope : Option String) (body : Filter) :
    (conditionOf mapping scope (.negation body)).map Condition.clause = do
      return .negation (← (conditionOf mapping scope body).map Condition.clause) := by
  simp only [conditionOf]
  cases conditionOf mapping scope body <;> rfl

/-- A blanked filter comes to the same clause, or to the same error. -/
theorem clause_conditionOf_blanked (scope : Option String) (filter : Filter) :
    (conditionOf mapping scope filter.blanked).map Condition.clause =
      (conditionOf mapping scope filter).map Condition.clause := by
  induction filter generalizing scope with
  | presence subject => simp only [Filter.blanked, conditionOf, columnOf_blanked]
  | comparison subject op operand =>
    simp only [Filter.blanked, conditionOf, columnOf_blanked]
    cases columnOf mapping .comparison subject with
    | error => rfl
    | ok column => exact clause_comparisonOf_blanked (column.within scope) op operand
  | matching subject op value =>
    simp only [Filter.blanked, conditionOf, columnOf_blanked]
    cases columnOf mapping .matching subject <;> rfl
  | logical left op right left_ih right_ih =>
    rw [Filter.blanked, clause_conditionOf_logical, clause_conditionOf_logical, left_ih, right_ih]
  | group body ih => exact ih scope
  | negation body ih =>
    rw [Filter.blanked, clause_conditionOf_negation, clause_conditionOf_negation, ih]
  | valuePath parent body _ ih | patchPath parent body target _ ih _ =>
    simp only [Filter.blanked, conditionOf, attributeOf_blanked]
    cases attributeOf .valuePath parent with
    | error => rfl
    | ok path => exact ih (some (dropSchema path))
  | attr | text | number | boolean => rfl

/-- Blanking the literals of a filter does not change what its query is meant to state, or why it
has none. -/
theorem Target.statement_blanked (target : Target) (filter : Filter) :
    target.statement filter.blanked = target.statement filter := by
  have ofClause (filter : Filter) : target.statement filter = do
      let clause ← (conditionOf target.mapping none filter).map Condition.clause
      let tables := (usedTables target.root target.mapping filter).eraseDups
      return ⟨target.root, tables.map (Join.toRoot target.root), clause⟩ := by
    unfold statement
    cases conditionOf target.mapping none filter <;> rfl
  rw [ofClause, ofClause, clause_conditionOf_blanked, usedTables_blanked]

/-! ### Texts of statements -/

/-- A test as queries write it behind its column. -/
def Test.text (flavour : Flavour) : Test → String
  | isNull => " IS NULL"
  | isNotNull => " IS NOT NULL"
  | comparison op => " " ++ op.symbol ++ " ?"
  | matching => " " ++ flavour.patternOperator ++ " ?"

/-- A clause as queries write it. -/
def Clause.text (flavour : Flavour) : Clause → String
  | test column asked => columnText column ++ asked.text flavour
  | logical left op right =>
    "(" ++ left.text flavour ++ ") " ++ op.symbol ++ " (" ++ right.text flavour ++ ")"
  | negation body => "NOT (" ++ body.text flavour ++ ")"

/-- The text of a condition is that of its clause, which knows no arguments. -/
theorem Condition.text_clause (flavour : Flavour) (condition : Condition) :
    condition.clause.text flavour = condition.text flavour := by
  induction condition with
  | isNull | isNotNull => rfl
  | comparison column op argument =>
    simp only [clause, Clause.text, Test.text, text, String.append_assoc]
  | matching column pattern =>
    simp only [clause, Clause.text, Test.text, text, String.append_assoc]
  | logical left op right left_ih right_ih =>
    simp only [clause, Clause.text, text, left_ih, right_ih]
  | negation body ih => simp only [clause, Clause.text, text, ih]

/-- Selections that state the same have queries of the same text. -/
theorem Selection.text_query_congr {first second : Selection}
    (same : first.statement root = second.statement root) (flavour : Flavour) :
    (first.query root flavour).text = (second.query root flavour).text := by
  have tables := congrArg Statement.tables same
  rw [tables_statement, tables_statement] at tables
  have clauses : first.condition.clause = second.condition.clause := congrArg Statement.clause same
  unfold query
  rw [← first.condition.text_clause, ← second.condition.text_clause, tables, clauses]

/-- Filters that are meant to state the same have queries of one text, or none for one reason. -/
theorem Target.map_text_query_congr {target : Target} {first second : Filter}
    (same : target.statement first = target.statement second) :
    (target.query first).map Query.text = (target.query second).map Query.text := by
  rw [statement_eq, statement_eq] at same
  unfold query
  cases isFirst : select target.root target.mapping first with
  | error error =>
    cases isSecond : select target.root target.mapping second with
    | error other =>
      rw [isFirst, isSecond] at same
      cases same
      rfl
    | ok selection =>
      rw [isFirst, isSecond] at same
      cases same
  | ok selection =>
    cases isSecond : select target.root target.mapping second with
    | error other =>
      rw [isFirst, isSecond] at same
      cases same
    | ok other =>
      rw [isFirst, isSecond] at same
      exact congrArg Except.ok (Selection.text_query_congr (Except.ok.inj same) target.flavour)

/-! ### Given values and arguments -/

/-- A comparison has the argument of its literal, and none for the missing value. -/
theorem arguments_comparisonOf {column : Column} {op : Comparison} {operand : Filter}
    {condition : Condition} (compared : comparisonOf column op operand = .ok condition) :
    condition.arguments = (literalArgument? operand).toList := by
  cases operand with
  | text | number | boolean =>
    cases compared
    rfl
  | attr path =>
    simp only [comparisonOf] at compared
    split at compared
    · cases op <;> cases compared <;> rfl
    · cases compared
  | _ => cases compared

/-- The arguments of a selection are those for the values that its filter gives. -/
theorem Selects.arguments_eq {filter : Filter} {selection : Selection}
    (selects : Selects root mapping filter selection) :
    selection.condition.arguments = (givenValues filter).map GivenValue.argument := by
  induction selects with
  | presence known =>
    rw [Selection.condition_ofTest]
    rfl
  | comparison known compared =>
    rw [Selection.condition_ofTest, arguments_comparisonOf compared, givenValues, List.map_map]
    exact (List.map_id _).symm
  | matching known =>
    rw [Selection.condition_ofTest]
    rfl
  | logical _ _ left_ih right_ih =>
    rw [givenValues, List.map_append, ← left_ih, ← right_ih]
    rfl
  | group _ ih => exact ih
  | negation _ ih => exact ih
  | valuePath _ ih | patchPath _ ih => exact (Condition.arguments_qualify _ _).trans ih

/-- A blanked filter gives as many values. -/
theorem length_givenValues_blanked (filter : Filter) :
    (givenValues filter.blanked).length = (givenValues filter).length := by
  induction filter with
  | comparison subject op operand => cases operand <;> rfl
  | logical left op right left_ih right_ih =>
    simp only [Filter.blanked, givenValues, List.length_append, left_ih, right_ih]
  | group body ih | negation body ih => exact ih
  | valuePath parent body _ ih | patchPath parent body target _ ih _ => exact ih
  | _ => rfl

/-- The arguments of a query are those of the values that its filter gives, in order. -/
theorem arguments_of_query {flavour : String} {filter : Filter} {made : Query}
    (compiled : query root flavour mapping filter = .ok made) :
    made.arguments = (givenValues filter).map GivenValue.argument := by
  obtain ⟨target, -, ofTarget⟩ := bind_eq_ok compiled
  obtain ⟨selection, selects, rfl⟩ := Target.query_eq_ok_iff.1 ofTarget
  exact selects.arguments_eq

/-- Over one root table, mapping and flavour, two filters that differ in nothing but their literals
are refused for the same reason, or both have a query. The queries have the same text, and an
argument for each given value; arguments of one number differ only if the values of that number
do. -/
theorem query_of_blanked (root flavour : String) (mapping : ColumnMapping) {first second : Filter}
    (alike : first.blanked = second.blanked) :
    (∃ error, query root flavour mapping first = .error error ∧
      query root flavour mapping second = .error error) ∨
    ∃ made other : Query, query root flavour mapping first = .ok made ∧
      query root flavour mapping second = .ok other ∧ made.text = other.text ∧
      made.arguments.length = other.arguments.length ∧
      made.arguments.length = (givenValues first).length ∧
      ∀ n : Nat, made.arguments[n]? ≠ other.arguments[n]? →
        (givenValues first)[n]? ≠ (givenValues second)[n]? := by
  -- Both texts, or both errors, are those of the blanked filter.
  have texts : (query root flavour mapping first).map Query.text =
      (query root flavour mapping second).map Query.text := by
    unfold query
    cases Target.ofNames root flavour mapping with
    | error => rfl
    | ok target =>
      apply Target.map_text_query_congr
      rw [← target.statement_blanked first, alike, target.statement_blanked]
  have lengths : (givenValues first).length = (givenValues second).length := by
    rw [← length_givenValues_blanked first, alike, length_givenValues_blanked]
  cases isFirst : query root flavour mapping first with
  | error error =>
    left
    cases isSecond : query root flavour mapping second with
    | error other =>
      rw [isFirst, isSecond] at texts
      cases texts
      exact ⟨error, rfl, rfl⟩
    | ok made =>
      rw [isFirst, isSecond] at texts
      cases texts
  | ok made =>
    right
    cases isSecond : query root flavour mapping second with
    | error error =>
      rw [isFirst, isSecond] at texts
      cases texts
    | ok other =>
      rw [isFirst, isSecond] at texts
      have arguments := arguments_of_query isFirst
      have others := arguments_of_query isSecond
      refine ⟨made, other, rfl, rfl, Except.ok.inj texts, ?_, ?_, ?_⟩
      · rw [arguments, others, List.length_map, List.length_map, lengths]
      · rw [arguments, List.length_map]
      · intro n differ same
        apply differ
        rw [arguments, others, List.getElem?_map, List.getElem?_map, same]

/-- A text that reads like SQL in place of a number; the text of the match is the same. -/
theorem query_of_blanked_quote :
    let first : Filter := .logical
      (.valuePath (.attr "emails") (.matching (.attr "type") .endsWith "w?")) .disjunction
      (.comparison (.attr "age") .less (.number 7))
    let second : Filter := .logical
      (.valuePath (.attr "emails") (.matching (.attr "type") .endsWith "w?")) .disjunction
      (.comparison (.attr "age") .less (.text "\" OR 1 = 1"))
    first.blanked = second.blanked ∧ ∃ made other : Query,
      query "users" "pg" .standard first = .ok made ∧
      query "users" "pg" .standard second = .ok other ∧ made.text = other.text ∧
      made.arguments.length = 2 ∧ made.arguments[0]? = other.arguments[0]? := by
  intro first second
  have compiled : query "users" "pg" .standard first = .ok ⟨"SELECT * FROM \"users\" INNER JOIN " ++
      "\"emails\" ON \"emails\".\"users_id\" = \"users\".\"id\" WHERE " ++
      "((\"emails\".\"type\" ~ ?) OR (\"age\" < ?))", [.text "w\\?$", .integer 7]⟩ :=
    eq_ok_of_toOption (by decide +kernel)
  have alike : first.blanked = second.blanked := rfl
  refine ⟨alike, ?_⟩
  obtain ⟨error, failed, -⟩ | ⟨made, other, isMade, isOther, text, -, count, places⟩ :=
    query_of_blanked "users" "pg" .standard alike
  · rw [compiled] at failed
    cases failed
  · refine ⟨made, other, isMade, isOther, text, count, ?_⟩
    by_contra differ
    exact places 0 differ rfl

end Sql

end ResourceFilter
