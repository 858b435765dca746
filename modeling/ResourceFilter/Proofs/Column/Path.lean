import ResourceFilter.Column.Basic

/-! # Paths of columns

A column and its path carry the same information, provided the column is split where its path would
be. Columns that are read from a path are, and so they can be written and read again without loss.
-/

set_option autoImplicit false

namespace ResourceFilter.Column

/-- Whether a path has a table and a name: what stands before and after its first dot. Neither may
be missing. -/
def ArePartsOf (path : String) (table name : List Char) : Prop :=
  path.toList = table ++ '.' :: name ∧ '.' ∉ table ∧ table ≠ [] ∧ name ≠ []

/-- Whether a column is split as its path is: it has a table exactly if its path has one, and there
is no dot in the table, though there may be dots in the name. -/
structure IsSplit (column : Column) : Prop where
  table_iff : (∃ table, column.table = some table) ↔
    ∃ table name, ArePartsOf column.path table name
  dotless : ∀ table, column.table = some table → '.' ∉ table.toList

variable {path : String} {column : Column}

/-- A path with two parts is a column within a table. -/
theorem ofPath_of_parts {table name : List Char} (parts : ArePartsOf path table name) :
    ofPath path = ⟨some (String.ofList table), String.ofList name⟩ := by
  obtain ⟨whole, dotless, someTable, someName⟩ := parts
  unfold ofPath
  rw [Text.splitFirst?_eq_some_iff.2 ⟨whole, dotless⟩]
  exact if_neg (not_or.2 ⟨someTable, someName⟩)

/-- A path without two parts is the name of a column as it stands. -/
theorem ofPath_of_no_parts (bare : ¬∃ table name, ArePartsOf path table name) :
    ofPath path = ⟨none, path⟩ := by
  unfold ofPath
  split
  next table name split =>
    obtain ⟨whole, dotless⟩ := Text.splitFirst?_eq_some_iff.1 split
    refine if_pos (Decidable.byContradiction fun both => bare ?_)
    obtain ⟨someTable, someName⟩ := not_or.1 both
    exact ⟨table, name, whole, dotless, someTable, someName⟩
  next => rfl

/-- What is read from a path is split as the path is. -/
theorem isSplit_ofPath (path : String) : (ofPath path).IsSplit := by
  have written := path_ofPath path
  by_cases split : ∃ table name, ArePartsOf path table name
  · obtain ⟨table, name, parts⟩ := split
    rw [ofPath_of_parts parts] at written ⊢
    constructor
    · rw [written]
      exact iff_of_true ⟨_, rfl⟩ ⟨table, name, parts⟩
    · rintro _ ⟨⟩
      simpa using parts.2.1
  · rw [ofPath_of_no_parts split]
    exact ⟨iff_of_false (by simp) split, nofun⟩

/-- A column that is split as its path is, is what is read from the path. -/
theorem IsSplit.ofPath_path (split : column.IsSplit) : ofPath column.path = column := by
  obtain ⟨table, name⟩ := column
  cases table with
  | none =>
    have bare : ¬∃ front back, ArePartsOf (path ⟨none, name⟩) front back := by
      rw [← split.table_iff]
      simp
    exact ofPath_of_no_parts bare
  | some table =>
    obtain ⟨front, back, parts⟩ := split.table_iff.1 ⟨table, rfl⟩
    have own : (path ⟨some table, name⟩).toList = table.toList ++ '.' :: name.toList := by
      simp [path]
    -- The path is taken apart at its first dot in only one way.
    have here := Text.splitFirst?_eq_some_iff.2 ⟨own, split.dotless table rfl⟩
    have there := Text.splitFirst?_eq_some_iff.2 ⟨parts.1, parts.2.1⟩
    obtain ⟨rfl, rfl⟩ := Prod.mk.inj (Option.some.inj (there.symm.trans here))
    rw [ofPath_of_parts parts, String.ofList_toList, String.ofList_toList]

/-- A column comes from a path exactly if the path is its own and it is split as the path is. -/
theorem ofPath_eq_iff : ofPath path = column ↔ column.path = path ∧ column.IsSplit := by
  constructor
  · rintro rfl
    exact ⟨path_ofPath path, isSplit_ofPath path⟩
  · rintro ⟨rfl, split⟩
    exact split.ofPath_path

end ResourceFilter.Column
