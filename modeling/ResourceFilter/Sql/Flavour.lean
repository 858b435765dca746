import ResourceFilter.Text.Lowercase

/-! # Flavours of SQL

The database systems that queries are written for. They differ in the operator for patterns; every
one goes by several names, in any case.
-/

set_option autoImplicit false

namespace ResourceFilter.Sql

/-- A flavour of SQL. -/
inductive Flavour where
  | postgres
  | sqlite
  deriving DecidableEq, Repr

namespace Flavour

/-- The name of a flavour. -/
def name : Flavour → String
  | postgres => "postgres"
  | sqlite => "sqlite"

/-- The operator between a column and a pattern. -/
def patternOperator : Flavour → String
  | postgres => "~"
  | sqlite => "REGEXP"

/-- The names that flavours go by, in lower case. Without a name it is the first one. -/
def names : List (String × Flavour) :=
  [("", postgres), ("postgres", postgres), ("postgresql", postgres), ("pg", postgres),
    ("sqlite", sqlite), ("sqlite3", sqlite)]

/-- The flavour of a name. -/
def ofName? (name : String) : Option Flavour :=
  names.lookup (Text.lowercase name)

end Flavour

end ResourceFilter.Sql
