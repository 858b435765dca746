import ResourceFilter.Column.Mapping
import ResourceFilter.Filter.Basic
import ResourceFilter.Sql.Condition

/-! # What a filter selects

A filter selects by a condition on rows, and by the tables that have to be joined for it, each named
once and in the order of first use. The selection of a filter is put together from those of its
parts. Inside a value path, columns without a table belong to the table of that path; a group counts
for nothing, and neither does the sub-attribute of a patch path.
-/

set_option autoImplicit false

namespace ResourceFilter.Sql

/-- The places where a filter has to name an attribute. -/
inductive Role where
  | presence
  | comparison
  | matching
  | valuePath
  deriving DecidableEq, Repr

/-- A place in words. -/
def Role.text : Role → String
  | presence => "presence test"
  | comparison => "left side of a comparison"
  | matching => "left side of a match"
  | valuePath => "value path"

/-- Why a filter has no query. -/
inductive QueryError where
  | unsupportedFlavour (name : String)
  | missingRoot
  | unknownAttribute (path : String)
  /-- Something else stands where an attribute has to. -/
  | notAnAttribute (role : Role) (found : Filter.Kind)
  /-- Nothing is smaller or larger than no value. -/
  | orderedNull (op : Comparison)
  /-- Something else stands where a literal has to. -/
  | notALiteral (op : Comparison) (found : Filter.Kind)
  | notACondition (found : Filter.Kind)
  deriving DecidableEq, Repr

/-- The wording of an error. -/
def QueryError.message : QueryError → String
  | unsupportedFlavour name => "unsupported SQL dialect '" ++ name ++ "'"
  | missingRoot => "root table name is empty"
  | unknownAttribute path => "unknown attribute '" ++ path ++ "'"
  | notAnAttribute role found => role.text ++ " must be an attribute, found " ++ found.name
  | orderedNull op => "operator '" ++ op.word ++ "' cannot be applied to null"
  | notALiteral op found => "operator '" ++ op.word ++ "' cannot be applied to " ++ found.name
  | notACondition found => found.name ++ " cannot be used as a condition"

/-- A condition and the tables it needs joined to the root table. -/
structure Selection where
  condition : Condition
  joins : List String
  deriving DecidableEq, Repr

/-- The tables of a list and those of another one that are not among them, each once. -/
def addTables (tables more : List String) : List String :=
  more.foldl (fun known table => if table ∈ known then known else known ++ [table]) tables

/-- The tables of both lists are those of the result. -/
theorem mem_addTables {table : String} {tables more : List String} :
    table ∈ addTables tables more ↔ table ∈ tables ∨ table ∈ more := by
  induction more generalizing tables with
  | nil => simp [addTables]
  | cons first rest ih =>
    have step : addTables tables (first :: rest) =
        addTables (if first ∈ tables then tables else tables ++ [first]) rest := rfl
    rw [step, ih]
    by_cases known : first ∈ tables
    · simp only [known, if_true, List.mem_cons]
      constructor
      · rintro (left | right)
        · exact .inl left
        · exact .inr (.inr right)
      · rintro (left | rfl | right)
        · exact .inl left
        · exact .inl known
        · exact .inr right
    · simp only [known, if_false, List.mem_append, List.mem_cons, List.not_mem_nil, or_false,
        or_assoc]

/-- Tables that are listed once stay listed once. -/
theorem nodup_addTables {tables : List String} (once : tables.Nodup) (more : List String) :
    (addTables tables more).Nodup := by
  induction more generalizing tables with
  | nil => exact once
  | cons first rest ih =>
    have step : addTables tables (first :: rest) =
        addTables (if first ∈ tables then tables else tables ++ [first]) rest := rfl
    rw [step]
    split
    · exact ih once
    next new =>
      refine ih (List.nodup_append.2 ⟨once, by simp, ?_⟩)
      intro table mem other single
      rw [List.mem_singleton.1 single]
      rintro rfl
      exact new mem

namespace Selection

/-- Both selections, joined by a connective. -/
def combine (left : Selection) (op : Connective) (right : Selection) : Selection :=
  ⟨.logical left.condition op right.condition, addTables left.joins right.joins⟩

/-- All rows that a selection leaves out. -/
def negate (selection : Selection) : Selection :=
  { selection with condition := .negation selection.condition }

/-- A selection among the values of a value path, which are the rows of the given table. -/
def within (table : String) (selection : Selection) : Selection :=
  ⟨selection.condition.qualify table, addTables [table] selection.joins⟩

/-- A test of one column. A column of another table than the root table brings that table in. -/
def ofTest (root : String) (column : Column) (condition : Condition) : Selection :=
  match column.table with
  | some table => ⟨condition, if table = root then [] else [table]⟩
  | none => ⟨condition, []⟩

end Selection

/-- The attribute that a filter names in the given place. -/
def attributeOf (role : Role) : Filter → Except QueryError String
  | .attr path => .ok path
  | other => .error (.notAnAttribute role other.kind)

/-- The column of the attribute that a filter names in the given place. -/
def columnOf (mapping : ColumnMapping) (role : Role) (filter : Filter) :
    Except QueryError Column := do
  let path ← attributeOf role filter
  match mapping path with
  | some column => .ok column
  | none => .error (.unknownAttribute path)

/-- The test that compares a column with a literal. With no value, a column can only be compared for
equality. -/
def comparisonOf (column : Column) (op : Comparison) : Filter → Except QueryError Condition
  | .text value => .ok (.comparison column op (.text value))
  | .number value => .ok (.comparison column op (.integer value))
  | .boolean value => .ok (.comparison column op (.boolean value))
  | .attr path =>
    if Text.lowercase path = "null" then
      match op with
      | .equal => .ok (.isNull column)
      | .notEqual => .ok (.isNotNull column)
      | _ => .error (.orderedNull op)
    else .error (.notALiteral op .attr)
  | other => .error (.notALiteral op other.kind)

/-- The selection of a filter over the given root table. -/
def select (root : String) (mapping : ColumnMapping) : Filter → Except QueryError Selection
  | .presence subject => do
    let column ← columnOf mapping .presence subject
    return .ofTest root column (.isNotNull column)
  | .comparison subject op operand => do
    let column ← columnOf mapping .comparison subject
    return .ofTest root column (← comparisonOf column op operand)
  | .matching subject op value => do
    let column ← columnOf mapping .matching subject
    return .ofTest root column (.matching column (op.pattern value))
  | .logical left op right => do
    let left ← select root mapping left
    let right ← select root mapping right
    return left.combine op right
  | .group body => select root mapping body
  | .negation body => do
    return (← select root mapping body).negate
  | .valuePath parent body => do
    let table := dropSchema (← attributeOf .valuePath parent)
    return (← select root mapping body).within table
  | .patchPath parent body _ => do
    let table := dropSchema (← attributeOf .valuePath parent)
    return (← select root mapping body).within table
  | .attr _ => .error (.notACondition .attr)
  | .text _ => .error (.notACondition .text)
  | .number _ => .error (.notACondition .number)
  | .boolean _ => .error (.notACondition .boolean)

end ResourceFilter.Sql
