import ResourceFilter.Sql.Query

/-! # Conditions from the top down

The condition of a filter is put together from the bottom up: a value path qualifies the columns of
a condition that is there already. `conditionOf` walks the same filter once from the top, with the
table of the innermost value path around each test at hand. Both ways come to the same condition or
to the same error.
-/

set_option autoImplicit false

namespace ResourceFilter

/-- The column in the table of a scope, if there is one and the column names no table itself. -/
def Column.within (scope : Option String) (column : Column) : Column :=
  match scope with
  | some table => column.qualify table
  | none => column

namespace Sql

/-- The condition with every column in the given scope. -/
def Condition.within (scope : Option String) (condition : Condition) : Condition :=
  match scope with
  | some table => condition.qualify table
  | none => condition

/-- The condition of a filter in a scope: the table of the innermost value path around it. -/
def conditionOf (mapping : ColumnMapping) (scope : Option String) :
    Filter → Except QueryError Condition
  | .presence subject => do
    return .isNotNull ((← columnOf mapping .presence subject).within scope)
  | .comparison subject op operand => do
    comparisonOf ((← columnOf mapping .comparison subject).within scope) op operand
  | .matching subject op value => do
    return .matching ((← columnOf mapping .matching subject).within scope) (op.pattern value)
  | .logical left op right => do
    return .logical (← conditionOf mapping scope left) op (← conditionOf mapping scope right)
  | .group body => conditionOf mapping scope body
  | .negation body => do
    return .negation (← conditionOf mapping scope body)
  | .valuePath parent body => do
    conditionOf mapping (some (dropSchema (← attributeOf .valuePath parent))) body
  | .patchPath parent body _ => do
    conditionOf mapping (some (dropSchema (← attributeOf .valuePath parent))) body
  | .attr _ => .error (.notACondition .attr)
  | .text _ => .error (.notACondition .text)
  | .number _ => .error (.notACondition .number)
  | .boolean _ => .error (.notACondition .boolean)

/-- A qualified condition keeps its tables. -/
theorem Condition.qualify_within (table : String) (scope : Option String) (condition : Condition) :
    (condition.qualify table).within scope = condition.qualify table := by
  cases scope with
  | none => rfl
  | some outer =>
    show (condition.qualify table).qualify outer = condition.qualify table
    induction condition with
    | isNull | isNotNull | comparison | matching => simp [qualify, Column.qualify_qualify]
    | logical left op right left_ih right_ih => simp [qualify, left_ih, right_ih]
    | negation body ih => simp [qualify, ih]

/-- A test for presence within a scope looks at its column there. -/
@[simp] theorem Condition.within_isNotNull (scope : Option String) (column : Column) :
    (isNotNull column).within scope = isNotNull (column.within scope) := by
  cases scope <;> rfl

/-- A match against a pattern within a scope looks at its column there. -/
@[simp] theorem Condition.within_matching (scope : Option String) (column : Column)
    (pattern : String) :
    (matching column pattern).within scope = matching (column.within scope) pattern := by
  cases scope <;> rfl

/-- A scope reaches both sides of a connective. -/
@[simp] theorem Condition.within_logical (scope : Option String) (left right : Condition)
    (op : Connective) :
    (logical left op right).within scope = logical (left.within scope) op (right.within scope) := by
  cases scope <;> rfl

/-- A scope reaches the body of a negation. -/
@[simp] theorem Condition.within_negation (scope : Option String) (body : Condition) :
    (negation body).within scope = negation (body.within scope) := by
  cases scope <;> rfl

/-- A comparison in a scope is that of the column in the scope. -/
theorem comparisonOf_within (scope : Option String) (column : Column) (op : Comparison)
    (operand : Filter) :
    comparisonOf (column.within scope) op operand =
      (comparisonOf column op operand).map (Condition.within scope) := by
  unfold comparisonOf
  cases operand with
  | attr path =>
    by_cases null : Text.lowercase path = "null"
    · simp only [null, if_true]
      cases op <;> cases scope <;> rfl
    · simp only [null, if_false]
      rfl
  | text | number | boolean => cases scope <;> rfl
  | _ => rfl

/-- The selection of a test has that test as its condition. -/
@[simp] theorem Selection.condition_ofTest (root : String) (column : Column)
    (condition : Condition) : (ofTest root column condition).condition = condition := by
  unfold ofTest
  split <;> rfl

/-- What is selected within a value path agrees with the scope that the path opens. -/
theorem conditionOf_valuePath (root : String) (mapping : ColumnMapping) {body : Filter}
    (agrees : ∀ scope, conditionOf mapping scope body =
      (select root mapping body).map fun selection => selection.condition.within scope)
    (scope : Option String) (parent : Filter) :
    conditionOf mapping scope (.valuePath parent body) =
      (select root mapping (.valuePath parent body)).map fun selection =>
        selection.condition.within scope := by
  unfold conditionOf select
  cases attributeOf .valuePath parent with
  | error => rfl
  | ok path =>
    show conditionOf mapping (some (dropSchema path)) body = _
    rw [agrees]
    cases select root mapping body with
    | error => rfl
    | ok selection =>
      -- The table of the path is the inner one, so the scope around it changes nothing more.
      have kept := Condition.qualify_within (dropSchema path) scope selection.condition
      exact congrArg Except.ok kept.symm

/-- Qualifying a condition afterwards comes to the same as reading its filter in the scope, with
the same error where there is one. -/
theorem conditionOf_eq (root : String) (mapping : ColumnMapping) (scope : Option String)
    (filter : Filter) :
    conditionOf mapping scope filter =
      (select root mapping filter).map fun selection => selection.condition.within scope := by
  -- The scope is kept general, because a value path replaces it for its body.
  induction filter generalizing scope with
  | presence subject =>
    unfold conditionOf select
    cases columnOf mapping .presence subject with
    | error => rfl
    | ok column =>
      show Except.ok _ = Except.ok ((Selection.ofTest root column _).condition.within scope)
      rw [Selection.condition_ofTest, Condition.within_isNotNull]
  | comparison subject op operand =>
    unfold conditionOf select
    cases columnOf mapping .comparison subject with
    | error => rfl
    | ok column =>
      show comparisonOf (column.within scope) op operand =
        (comparisonOf column op operand >>= fun condition =>
          Except.ok (Selection.ofTest root column condition)).map _
      rw [comparisonOf_within]
      cases comparisonOf column op operand with
      | error => rfl
      | ok condition =>
        show Except.ok _ = Except.ok ((Selection.ofTest root column _).condition.within scope)
        rw [Selection.condition_ofTest]
  | matching subject op value =>
    unfold conditionOf select
    cases columnOf mapping .matching subject with
    | error => rfl
    | ok column =>
      show Except.ok _ = Except.ok ((Selection.ofTest root column _).condition.within scope)
      rw [Selection.condition_ofTest, Condition.within_matching]
  | logical left op right left_ih right_ih =>
    unfold conditionOf select
    rw [left_ih, right_ih]
    cases select root mapping left with
    | error => rfl
    | ok first =>
      cases select root mapping right with
      | error => rfl
      | ok second =>
        have both := Condition.within_logical scope first.condition second.condition op
        exact congrArg Except.ok both.symm
  | group body ih => exact ih scope
  | negation body ih =>
    unfold conditionOf select
    rw [ih]
    cases select root mapping body with
    | error => rfl
    | ok selection =>
      exact congrArg Except.ok (Condition.within_negation scope selection.condition).symm
  | valuePath parent body _ ih => exact conditionOf_valuePath root mapping ih scope parent
  | patchPath parent body target _ ih _ => exact conditionOf_valuePath root mapping ih scope parent
  | attr | text | number | boolean => rfl

end Sql

end ResourceFilter
