import ResourceFilter.Column.Basic
import ResourceFilter.Sql.Argument
import ResourceFilter.Sql.Flavour
import ResourceFilter.Text.Delimited
import ResourceFilter.Text.Pattern

/-! # Conditions on rows

What a query demands of the rows it selects: a tree of tests of columns. Its text holds a question
mark for every value, and its arguments are those values from left to right. Negations and the two
sides of a connective stand in parentheses, so that the text reads as the tree does.
-/

set_option autoImplicit false

namespace ResourceFilter.Sql

/-- A condition on rows. -/
inductive Condition where
  | isNull (column : Column)
  | isNotNull (column : Column)
  | comparison (column : Column) (op : Comparison) (argument : Argument)
  | matching (column : Column) (pattern : String)
  | logical (left : Condition) (op : Connective) (right : Condition)
  | negation (body : Condition)
  deriving DecidableEq, Repr

/-- A column as queries write it. -/
def columnText (column : Column) : String :=
  match column.table with
  | some table => Text.delimited table ++ "." ++ Text.delimited column.name
  | none => Text.delimited column.name

namespace Condition

/-- The condition with every column that names no table in the given one. -/
def qualify (table : String) : Condition → Condition
  | isNull column => isNull (column.qualify table)
  | isNotNull column => isNotNull (column.qualify table)
  | comparison column op argument => comparison (column.qualify table) op argument
  | matching column pattern => matching (column.qualify table) pattern
  | logical left op right => logical (left.qualify table) op (right.qualify table)
  | negation body => negation (body.qualify table)

/-- The text of a condition, with a question mark for each argument. -/
def text (flavour : Flavour) : Condition → String
  | isNull column => columnText column ++ " IS NULL"
  | isNotNull column => columnText column ++ " IS NOT NULL"
  | comparison column op _ => columnText column ++ " " ++ op.symbol ++ " ?"
  | matching column _ => columnText column ++ " " ++ flavour.patternOperator ++ " ?"
  | logical left op right =>
    "(" ++ left.text flavour ++ ") " ++ op.symbol ++ " (" ++ right.text flavour ++ ")"
  | negation body => "NOT (" ++ body.text flavour ++ ")"

/-- The arguments of a condition, from left to right. -/
def arguments : Condition → List Argument
  | isNull _ => []
  | isNotNull _ => []
  | comparison _ _ argument => [argument]
  | matching _ pattern => [.text pattern]
  | logical left _ right => left.arguments ++ right.arguments
  | negation body => body.arguments

/-- The columns of a condition, from left to right. -/
def columns : Condition → List Column
  | isNull column => [column]
  | isNotNull column => [column]
  | comparison column _ _ => [column]
  | matching column _ => [column]
  | logical left _ right => left.columns ++ right.columns
  | negation body => body.columns

/-- Qualifying reaches every column. -/
theorem columns_qualify (table : String) (condition : Condition) :
    (condition.qualify table).columns = condition.columns.map (Column.qualify table) := by
  induction condition with
  | isNull | isNotNull | comparison | matching => rfl
  | logical left op right left_ih right_ih => simp [qualify, columns, left_ih, right_ih]
  | negation body ih => simp [qualify, columns, ih]

/-- Qualifying leaves the arguments alone. -/
theorem arguments_qualify (table : String) (condition : Condition) :
    (condition.qualify table).arguments = condition.arguments := by
  induction condition with
  | isNull | isNotNull | comparison | matching => rfl
  | logical left op right left_ih right_ih => simp [qualify, arguments, left_ih, right_ih]
  | negation body ih => simp [qualify, arguments, ih]

end Condition

end ResourceFilter.Sql
