import ResourceFilter.Proofs.Column.Path
import ResourceFilter.Proofs.Filter.WellFormed
import ResourceFilter.Proofs.Sql.Refusal
import ResourceFilter.Proofs.Sql.Sight

/-! # Names in a statement

The names in a statement come from the root table, from the columns that the mapping knows and from
the value paths of the filter. The standard mapping refuses an attribute that nothing is left of
without its schema, so none of its columns lacks a name; a value path is not asked for that.
`empty_name_iff` says that nothing else brings the empty name into the statement of a filter that
has been read.
-/

set_option autoImplicit false

namespace ResourceFilter

/-- Whether a column has a name, and its table has one if there is a table. -/
def Column.IsNamed (column : Column) : Prop :=
  column.name ≠ "" ∧ column.table ≠ some ""

/-- A path that is not empty is taken as a column with a name. -/
theorem Column.isNamed_ofPath {path : String} (named : path ≠ "") : (ofPath path).IsNamed := by
  by_cases split : ∃ table name, ArePartsOf path table name
  · obtain ⟨table, name, parts⟩ := split
    rw [ofPath_of_parts parts]
    obtain ⟨-, -, someTable, someName⟩ := parts
    constructor
    · simpa using someName
    · simpa using someTable
  · rw [ofPath_of_no_parts split]
    exact ⟨named, nofun⟩

/-- All columns of the standard mapping have names. -/
theorem ColumnMapping.isNamed_standard {path : String} {column : Column}
    (known : standard path = some column) : column.IsNamed := by
  unfold standard at known
  split at known
  · cases known
  next named =>
    cases known
    exact Column.isNamed_ofPath named

/-- Nothing is left of a name exactly if it is a schema. -/
theorem dropSchema_eq_empty_iff {path : String} (named : path ≠ "") :
    dropSchema path = "" ↔ IsSchema path := by
  rw [← ColumnMapping.standard_eq_none_iff named]
  simp [ColumnMapping.standard]

namespace Sql

/-- The columns of a statement: those that have to agree for its joins, and those of its clause. -/
def Statement.columns (statement : Statement) : List Column :=
  statement.joins.flatMap (fun join => [join.left, join.right]) ++ statement.clause.columns

/-- The names of tables in a statement. -/
def Statement.tableNames (statement : Statement) : List String :=
  statement.root :: (statement.tables ++ statement.columns.filterMap Column.table)

/-- The names of columns in a statement, each without its table. -/
def Statement.columnNames (statement : Statement) : List String :=
  statement.columns.map Column.name

variable {root : String} {mapping : ColumnMapping} {filter : Filter} {selection : Selection}

/-- Each column of a condition has the name of one that the mapping knows. -/
theorem Selects.exists_known (selects : Selects root mapping filter selection) :
    ∀ column ∈ selection.condition.columns, ∃ path known,
      mapping path = some known ∧ known.name = column.name := by
  induction selects with
  | presence known | matching known =>
    intro column mem
    rw [Selection.condition_ofTest] at mem
    obtain rfl := List.mem_singleton.1 mem
    exact ⟨_, _, known, rfl⟩
  | comparison known compared =>
    intro column mem
    rw [Selection.condition_ofTest, columns_comparisonOf compared] at mem
    obtain rfl := List.mem_singleton.1 mem
    exact ⟨_, _, known, rfl⟩
  | logical _ _ left_ih right_ih =>
    intro column mem
    rcases List.mem_append.1 mem with left | right
    · exact left_ih column left
    · exact right_ih column right
  | group _ ih | negation _ ih => exact ih
  | valuePath _ ih | patchPath _ ih =>
    intro column mem
    unfold Selection.within at mem
    rw [Condition.columns_qualify, List.mem_map] at mem
    obtain ⟨inner, inside, rfl⟩ := mem
    exact ih inner inside

/-- The columns of a statement are the two that each join rests on and those of its condition. -/
theorem Selection.of_mem_columns {column : Column}
    (mem : column ∈ (selection.statement root).columns) :
    (∃ table ∈ selection.joins, column = ⟨some table, root ++ "_id"⟩) ∨
      column = ⟨some root, "id"⟩ ∨ column ∈ selection.condition.columns := by
  unfold Statement.columns Selection.statement at mem
  rw [List.flatMap_map, Condition.columns_clause] at mem
  rcases List.mem_append.1 mem with inJoin | inCondition
  · obtain ⟨table, isJoined, here⟩ := List.mem_flatMap.1 inJoin
    simp only [List.mem_cons, List.not_mem_nil, or_false] at here
    rcases here with reference | identifier
    · exact .inl ⟨table, isJoined, reference⟩
    · exact .inr (.inl identifier)
  · exact .inr (.inr inCondition)

/-- A statement names the root table, those that it joins and no others. -/
theorem Selects.mem_tableNames_iff (selects : Selects root mapping filter selection)
    {table : String} :
    table ∈ (selection.statement root).tableNames ↔ table = root ∨ table ∈ selection.joins := by
  unfold Statement.tableNames
  rw [Selection.tables_statement, List.mem_cons, List.mem_append]
  constructor
  · rintro (isRoot | joined | named)
    · exact .inl isRoot
    · exact .inr joined
    · obtain ⟨column, mem, isTable⟩ := List.mem_filterMap.1 named
      rcases Selection.of_mem_columns mem with ⟨joined, isJoined, rfl⟩ | rfl | inCondition
      · cases isTable
        exact .inr isJoined
      · cases isTable
        exact .inl rfl
      · exact selects.inSight column inCondition table isTable
  · rintro (isRoot | joined)
    · exact .inl isRoot
    · exact .inr (.inl joined)

/-- Besides the columns that joins rest on, a statement names only those that the mapping knows. -/
theorem Selects.of_mem_columnNames (selects : Selects root mapping filter selection)
    {name : String} (mem : name ∈ (selection.statement root).columnNames) :
    name = root ++ "_id" ∨ name = "id" ∨
      ∃ path known, mapping path = some known ∧ known.name = name := by
  obtain ⟨column, isColumn, rfl⟩ := List.mem_map.1 mem
  rcases Selection.of_mem_columns isColumn with ⟨joined, -, rfl⟩ | rfl | inCondition
  · exact .inl rfl
  · exact .inr (.inl rfl)
  · exact .inr (.inr (selects.exists_known column inCondition))

/-- The attribute of a test does not stand in front of a value path. -/
theorem not_mem_attributeAt {role : Role} (test : role ≠ .valuePath) (path : String)
    (subject : Filter) : (.valuePath, path) ∉ attributeAt role subject := by
  intro mem
  cases subject with
  | attr =>
    cases List.mem_singleton.1 mem
    exact test rfl
  | _ => cases mem

/-- The table of a parent is what is left of its name without the schema. -/
theorem mem_pathTables_iff {table : String} {parent : Filter} : table ∈ pathTables parent ↔
    ∃ path, (.valuePath, path) ∈ attributeAt .valuePath parent ∧ dropSchema path = table := by
  cases parent <;> simp [pathTables, attributeAt, eq_comm]

/-- The table of a value path is what is left of its name without the schema. -/
theorem mem_scopeTables_iff {table : String} : table ∈ scopeTables filter ↔
    ∃ path, (.valuePath, path) ∈ selectors filter ∧ dropSchema path = table := by
  induction filter with
  | presence subject | comparison subject | matching subject =>
    simp [scopeTables, selectors, not_mem_attributeAt]
  | logical left _ right left_ih right_ih =>
    simp only [scopeTables, selectors, List.mem_append, left_ih, right_ih, or_and_right, exists_or]
  | group _ ih | negation _ ih => exact ih
  | valuePath parent body _ ih | patchPath parent body _ _ ih _ =>
    simp only [scopeTables, selectors, List.mem_append, mem_pathTables_iff, ih, or_and_right,
      exists_or]
  | attr | text | number | boolean => simp [scopeTables, selectors]

/-- With the standard mapping, no column brings in a table without a name. -/
theorem empty_not_mem_columnTables (root : String) (subject : Filter) :
    "" ∉ columnTables root .standard subject := by
  intro mem
  obtain ⟨-, path, column, known, isTable⟩ := of_mem_columnTables mem
  exact (ColumnMapping.isNamed_standard known).2 isTable

/-- The attributes that a filter selects by are names, if it has been read from a text. -/
theorem isName_of_mem_selectors {mode : Mode} {text : String}
    (read : Filter.ofText mode text = .ok filter) {role : Role} {path : String}
    (mem : (role, path) ∈ selectors filter) : Filter.IsName path := by
  obtain ⟨tokens, place, stream, phrase, -⟩ := Grammar.ofText_eq_ok_iff.1 read
  exact Filter.readable_name_iff.1 (TokenStream.readable_of_ofText stream _ (phrase.name_mem mem))

/-- A query that is made has a named root table, a flavour and a selection behind it. -/
theorem selects_of_query {name : String} {made : Query}
    (compiled : query root name mapping filter = .ok made) :
    ∃ flavour selection, root ≠ "" ∧ Flavour.ofName? name = some flavour ∧
      Selects root mapping filter selection ∧ selection.query root flavour = made := by
  obtain ⟨target, isTarget, ofTarget⟩ := bind_eq_ok compiled
  obtain ⟨selection, selects, isQuery⟩ := Target.query_eq_ok_iff.1 ofTarget
  unfold Target.ofNames at isTarget
  split at isTarget
  · cases isTarget
  next flavour found =>
    by_cases unnamed : root = ""
    · rw [dif_pos unnamed] at isTarget
      cases isTarget
    · rw [dif_neg unnamed] at isTarget
      cases isTarget
      exact ⟨flavour, selection, unnamed, found, selects, isQuery⟩

/-- In the statement of a filter that has been read, with the standard mapping, every column has a
name, and so has every table, unless a value path of the filter names a schema and nothing more. -/
theorem empty_name_iff {settings : List Bool} {text root name : String} {filter : Filter}
    {made : Query} (read : Filter.ofText (.ofSwitches settings) text = .ok filter)
    (compiled : query root name .standard filter = .ok made) :
    ∃ flavour statement, Flavour.ofName? name = some flavour ∧
      Statement.read flavour made.text = some statement ∧
      "" ∉ statement.columnNames ∧
      ("" ∈ statement.tableNames ↔
        ∃ path, (.valuePath, path) ∈ selectors filter ∧ IsSchema path) := by
  obtain ⟨flavour, selection, named, isFlavour, selects, rfl⟩ := selects_of_query compiled
  refine ⟨flavour, selection.statement root, isFlavour, selection.read_query root, ?_, ?_⟩
  -- Joins name their columns themselves, all others come from the mapping.
  · intro mem
    rcases selects.of_mem_columnNames mem with reference | identifier | ⟨path, column, known, bare⟩
    · simp at reference
    · exact absurd identifier (by decide)
    · exact (ColumnMapping.isNamed_standard known).1 bare
  have schema {path : String} (mem : (.valuePath, path) ∈ selectors filter) :
      dropSchema path = "" ↔ IsSchema path :=
    dropSchema_eq_empty_iff (isName_of_mem_selectors read mem).ne_empty
  calc "" ∈ (selection.statement root).tableNames
    _ ↔ "" ∈ selection.joins := by
      rw [selects.mem_tableNames_iff]
      exact or_iff_right named.symm
    _ ↔ "" ∈ scopeTables filter := by
      rw [selects.joins_eq, List.mem_eraseDups]
      exact ⟨mem_scopeTables (empty_not_mem_columnTables root), mem_usedTables⟩
    _ ↔ ∃ path, (.valuePath, path) ∈ selectors filter ∧ IsSchema path := by
      rw [mem_scopeTables_iff]
      exact exists_congr fun path => and_congr_right schema

/-- An attribute may end in a dot and a value path may begin with a schema: all names are there. -/
theorem empty_name_iff_qualified :
    let text := "urn:a.b[urn:x:c. pr] and not (d.e eq 1)"
    ∃ filter made flavour statement, Filter.ofText (.ofSwitches [true, false]) text = .ok filter ∧
      query "users" "PG" .standard filter = .ok made ∧
      Flavour.ofName? "PG" = some flavour ∧ Statement.read flavour made.text = some statement ∧
      "" ∉ statement.columnNames ∧ "" ∉ statement.tableNames := by
  intro text
  have read := eq_ok_of_toOption (by decide +kernel :
    (Filter.ofText (.ofSwitches [true, false]) text).toOption = some
      (.logical (.valuePath (.attr "urn:a.b") (.presence (.attr "urn:x:c."))) .conjunction
        (.negation (.comparison (.attr "d.e") .equal (.number 1)))))
  have compiled : ∃ made, query "users" "PG" .standard
      (.logical (.valuePath (.attr "urn:a.b") (.presence (.attr "urn:x:c."))) .conjunction
        (.negation (.comparison (.attr "d.e") .equal (.number 1)))) = .ok made := ⟨_, rfl⟩
  obtain ⟨made, compiled⟩ := compiled
  obtain ⟨flavour, statement, isFlavour, stated, columns, tables⟩ := empty_name_iff read compiled
  refine ⟨_, made, flavour, statement, read, compiled, isFlavour, stated, columns, ?_⟩
  rw [tables]
  rintro ⟨path, mem, schema⟩
  have isPath : path = "urn:a.b" := by simpa [selectors, attributeAt] using mem
  rw [isPath] at schema
  exact absurd schema.2 (by decide)

/-- A value path that names a schema joins a table without a name. -/
theorem schema_joined_as_table :
    let text := "SELECT * FROM \"users\" INNER JOIN \"\" ON " ++
      "\"\".\"users_id\" = \"users\".\"id\" WHERE (\"\".\"type\" IS NOT NULL)"
    ∃ filter statement, Filter.ofText (.ofSwitches []) "urn:a:[type pr]" = .ok filter ∧
      query "users" "postgres" .standard filter = .ok ⟨text, []⟩ ∧
      Statement.read .postgres text = some statement ∧ "" ∈ statement.tableNames := by
  intro text
  have read := eq_ok_of_toOption (by decide +kernel :
    (Filter.ofText (.ofSwitches []) "urn:a:[type pr]").toOption = some
      (.valuePath (.attr "urn:a:") (.presence (.attr "type"))))
  have made := eq_ok_of_toOption (by decide +kernel :
    (query "users" "postgres" .standard
      (.valuePath (.attr "urn:a:") (.presence (.attr "type")))).toOption = some ⟨text, []⟩)
  have stated : Statement.read .postgres text = some
      ⟨"users", [Join.toRoot "users" ""], .test ⟨some "", "type"⟩ .isNotNull⟩ := by
    decide +kernel
  exact ⟨_, _, read, made, stated, by decide⟩

end Sql

end ResourceFilter
