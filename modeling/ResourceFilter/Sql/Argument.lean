import ResourceFilter.Text.Decimal
import ResourceFilter.Text.JsonString

/-! # Arguments of queries

The values that are bound to the placeholders of a query, each with the type it had in the filter.
-/

set_option autoImplicit false

namespace ResourceFilter.Sql

/-- A value bound to a placeholder. -/
inductive Argument where
  | text (value : String)
  | integer (value : Int64)
  | boolean (value : Bool)
  deriving DecidableEq, Repr

namespace Argument

/-- The text of a text argument. -/
def text? : Argument → Option String
  | text value => some value
  | _ => none

/-- The number of a number argument. -/
def integer? : Argument → Option Int64
  | integer value => some value
  | _ => none

/-- The truth value of a truth value argument. -/
def boolean? : Argument → Option Bool
  | boolean value => some value
  | _ => none

/-- An argument as plain text. -/
def display : Argument → String
  | text value => value
  | integer value => Text.decimal value.toInt
  | boolean value => if value then "true" else "false"

/-- An argument as a value of a JSON document. -/
def json : Argument → String
  | text value => Text.jsonString value
  | integer value => Text.decimal value.toInt
  | boolean value => if value then "true" else "false"

end Argument

end ResourceFilter.Sql
