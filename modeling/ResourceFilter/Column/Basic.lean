import ResourceFilter.Text.Split

/-! # Columns

A column is a name, with or without the table that it belongs to. Its path puts a dot between them.
A path is split at its first dot, provided something stands on either side of it; any other path is
the name of a column without a table. Writing the path of a column that was read from one gives that
path back.
-/

set_option autoImplicit false

namespace ResourceFilter

/-- A column, qualified by its table or not. -/
structure Column where
  table : Option String
  name : String
  deriving DecidableEq, Repr

namespace Column

/-- The column that a path denotes. -/
def ofPath (path : String) : Column :=
  match Text.splitFirst? '.' path.toList with
  | some (table, name) =>
    if table = [] ∨ name = [] then ⟨none, path⟩
    else ⟨some (String.ofList table), String.ofList name⟩
  | none => ⟨none, path⟩

/-- The path of a column. -/
def path (column : Column) : String :=
  match column.table with
  | some table => table ++ "." ++ column.name
  | none => column.name

/-- The column in the given table, unless it names a table already. -/
def qualify (table : String) (column : Column) : Column :=
  { column with table := some (column.table.getD table) }

/-- A path read as a column and written again stays the same. -/
theorem path_ofPath (text : String) : (ofPath text).path = text := by
  unfold ofPath
  split
  next table name parts =>
    split
    · rfl
    · have whole := (Text.splitFirst?_eq_some_iff.1 parts).1
      apply String.toList_injective
      simp [path, whole]
  · rfl

/-- A qualified column keeps its table. -/
theorem qualify_qualify (inner outer : String) (column : Column) :
    (column.qualify inner).qualify outer = column.qualify inner := by
  simp [qualify]

end Column

end ResourceFilter
