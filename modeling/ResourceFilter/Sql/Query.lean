import ResourceFilter.Sql.Selection

/-! # Queries

A query selects the rows of a root table that meet a condition, with further tables joined by the
identifier of the root row. Its text is free of values: those are bound to its question marks, in
order. A query can be written as a JSON document, on one line or laid out over several.
-/

set_option autoImplicit false

namespace ResourceFilter.Sql

/-- The text of a query and the values bound to its question marks. -/
structure Query where
  text : String
  arguments : List Argument
  deriving DecidableEq, Repr

/-- What filters are turned into queries over. -/
structure Target where
  /-- The table whose rows are selected. -/
  root : String
  mapping : ColumnMapping
  flavour : Flavour
  root_ne_empty : root ≠ ""

/-- A table joined by its reference to the root row. -/
def joinText (root table : String) : String :=
  " INNER JOIN " ++ Text.delimited table ++ " ON " ++ Text.delimited table ++ "." ++
    Text.delimited (root ++ "_id") ++ " = " ++ Text.delimited root ++ "." ++ Text.delimited "id"

/-- The query of a selection from the rows of a root table. -/
def Selection.query (root : String) (flavour : Flavour) (selection : Selection) : Query :=
  ⟨"SELECT * FROM " ++ Text.delimited root ++ String.join (selection.joins.map (joinText root)) ++
      " WHERE (" ++ selection.condition.text flavour ++ ")",
    selection.condition.arguments⟩

/-- The target with the given root table and the flavour of the given name, of which the name is
looked at first. -/
def Target.ofNames (root flavour : String) (mapping : ColumnMapping) : Except QueryError Target :=
  match Flavour.ofName? flavour with
  | none => .error (.unsupportedFlavour flavour)
  | some flavour => if h : root = "" then .error .missingRoot else .ok ⟨root, mapping, flavour, h⟩

/-- The query of a filter. -/
def Target.query (target : Target) (filter : Filter) : Except QueryError Query := do
  return (← select target.root target.mapping filter).query target.root target.flavour

/-- The query of a filter over a root table, for the flavour of a name. -/
def query (root flavour : String) (mapping : ColumnMapping) (filter : Filter) :
    Except QueryError Query := do
  (← Target.ofNames root flavour mapping).query filter

namespace Query

/-- A query as a JSON document on one line. -/
def json (query : Query) : String :=
  "\x7b\"args\":[" ++ ",".intercalate (query.arguments.map Argument.json) ++ "],\"sql\":" ++
    Text.jsonString query.text ++ "\x7d"

/-- The arguments of a query, one a line, as a list two levels deep. -/
def argumentLines (query : Query) : String :=
  match query.arguments with
  | [] => "[]"
  | arguments =>
    "[\n" ++ ",\n".intercalate (arguments.map fun argument => "    " ++ argument.json) ++ "\n  ]"

/-- A query as a JSON document over several lines, each level two spaces further in. -/
def prettyJson (query : Query) : String :=
  "\x7b\n  \"args\": " ++ query.argumentLines ++ ",\n  \"sql\": " ++ Text.jsonString query.text ++
    "\n\x7d"

end Query

end ResourceFilter.Sql
