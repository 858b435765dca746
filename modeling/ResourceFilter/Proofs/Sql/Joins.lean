import ResourceFilter.Proofs.Sql.Selects

/-! # Joined tables

The tables of a filter are merged wherever two parts of it meet, each list free of repetitions.
`usedTables` lists every use of a table in one walk from left to right instead. A selection joins
what is used, in the order of first use; the root table is among it only if a value path names it.
-/

set_option autoImplicit false

namespace ResourceFilter.Sql

/-- The table that a filter in the place of an attribute brings in, if it is not the root table. -/
def columnTables (root : String) (mapping : ColumnMapping) : Filter → List String
  | .attr path =>
    match (mapping path).bind Column.table with
    | some table => if table = root then [] else [table]
    | none => []
  | _ => []

/-- The table of a value path. -/
def pathTables : Filter → List String
  | .attr path => [dropSchema path]
  | _ => []

/-- The tables that a filter uses besides the root table, from left to right, with every repetition:
that of a value path comes in front of those of its body. -/
def usedTables (root : String) (mapping : ColumnMapping) : Filter → List String
  | .presence subject => columnTables root mapping subject
  | .comparison subject _ _ => columnTables root mapping subject
  | .matching subject _ _ => columnTables root mapping subject
  | .logical left _ right => usedTables root mapping left ++ usedTables root mapping right
  | .group body => usedTables root mapping body
  | .negation body => usedTables root mapping body
  | .valuePath parent body => pathTables parent ++ usedTables root mapping body
  | .patchPath parent body _ => pathTables parent ++ usedTables root mapping body
  | _ => []

/-- Adding tables leaves out those that are there, and repetitions. -/
theorem addTables_eq (tables more : List String) :
    addTables tables more = tables ++ (more.removeAll tables).eraseDups := by
  induction more generalizing tables with
  | nil => simp [addTables, List.removeAll]
  | cons first rest ih =>
    have step : addTables tables (first :: rest) =
        addTables (if first ∈ tables then tables else tables ++ [first]) rest := rfl
    rw [step, ih]
    by_cases known : first ∈ tables
    · simp [known, List.removeAll]
    · have fresh : (first :: rest).removeAll tables = first :: rest.removeAll tables := by
        simp [List.removeAll, known]
      have others : rest.removeAll (tables ++ [first]) =
          (rest.removeAll tables).filter fun table => !table == first := by
        unfold List.removeAll
        rw [List.filter_filter]
        apply List.filter_congr
        intro table _
        by_cases same : table = first <;> simp [same]
      rw [if_neg known, fresh, others, List.eraseDups_cons, List.append_assoc,
        List.singleton_append]

/-- Tables that are added to none are listed by first use. -/
theorem addTables_nil (tables : List String) : addTables [] tables = tables.eraseDups := by
  have all : tables.removeAll [] = tables := by simp [List.removeAll]
  rw [addTables_eq, all, List.nil_append]

/-- Tables may be added in one go or in two. -/
theorem addTables_append (tables more others : List String) :
    addTables tables (more ++ others) = addTables (addTables tables more) others :=
  List.foldl_append

/-- It does not matter which tables are merged first. -/
theorem addTables_addTables (tables more others : List String) :
    addTables tables (addTables more others) = addTables (addTables tables more) others := by
  induction others generalizing more with
  | nil => rfl
  | cons first rest ih =>
    have step (tables : List String) : addTables tables (first :: rest) =
        addTables (addTables tables [first]) rest := rfl
    rw [step more, ih, step]
    congr 1
    -- What remains is a single table, which may be among `more` already.
    by_cases known : first ∈ more
    · have same : addTables more [first] = more := if_pos known
      have listed : first ∈ addTables tables more := mem_addTables.2 (.inr known)
      rw [same]
      exact (if_pos listed).symm
    · have longer : addTables more [first] = more ++ [first] := if_neg known
      rw [longer, addTables_append]

/-- Merging two lists without repetitions drops the repetitions of both together. -/
theorem addTables_eraseDups (tables more : List String) :
    addTables tables.eraseDups more.eraseDups = (tables ++ more).eraseDups := by
  rw [← addTables_nil more, addTables_addTables, ← addTables_nil tables, ← addTables_nil,
    addTables_append]
  rfl

/-- A test of a column joins the table of the column, if that is not the root table. -/
theorem joins_ofTest {root : String} {mapping : ColumnMapping} {path : String} {column : Column}
    (known : mapping path = some column) (condition : Condition) :
    (Selection.ofTest root column condition).joins =
      (columnTables root mapping (.attr path)).eraseDups := by
  unfold Selection.ofTest columnTables
  dsimp only
  rw [known, Option.bind_some]
  cases column.table with
  | none => rfl
  | some table =>
    dsimp only
    split <;> rfl

/-- The tables that a selection joins are those that its filter uses, in the order of first use. -/
theorem Selects.joins_eq {root : String} {mapping : ColumnMapping} {filter : Filter}
    {selection : Selection} (selects : Selects root mapping filter selection) :
    selection.joins = (usedTables root mapping filter).eraseDups := by
  induction selects with
  | presence known | comparison known _ | matching known => exact joins_ofTest known _
  | logical _ _ left_ih right_ih =>
    show addTables _ _ = _
    rw [left_ih, right_ih]
    exact addTables_eraseDups _ _
  | group _ ih => exact ih
  | negation _ ih => exact ih
  | valuePath _ ih | patchPath _ ih =>
    show addTables [dropSchema _] _ = _
    rw [ih]
    exact addTables_eraseDups [dropSchema _] _

/-! ### The root table among the joins -/

/-- The tables of the value paths of a filter, from left to right. -/
def scopeTables : Filter → List String
  | .logical left _ right => scopeTables left ++ scopeTables right
  | .group body => scopeTables body
  | .negation body => scopeTables body
  | .valuePath parent body => pathTables parent ++ scopeTables body
  | .patchPath parent body _ => pathTables parent ++ scopeTables body
  | _ => []

/-- The table that an attribute brings in is that of its column, and not the root table. -/
theorem of_mem_columnTables {root table : String} {mapping : ColumnMapping} {subject : Filter}
    (mem : table ∈ columnTables root mapping subject) :
    table ≠ root ∧ ∃ path column, mapping path = some column ∧ column.table = some table := by
  cases subject with
  | attr path =>
    simp only [columnTables] at mem
    split at mem
    next other found =>
      obtain ⟨column, known, isTable⟩ := Option.bind_eq_some_iff.1 found
      by_cases isRoot : other = root
      · simp [isRoot] at mem
      · rw [if_neg isRoot, List.mem_singleton] at mem
        subst mem
        exact ⟨isRoot, path, column, known, isTable⟩
    · cases mem
  | _ => cases mem

/-- The root table is never one that an attribute brings in. -/
theorem root_not_mem_columnTables {root : String} {mapping : ColumnMapping} (subject : Filter) :
    root ∉ columnTables root mapping subject :=
  fun mem => (of_mem_columnTables mem).1 rfl

/-- What is used but brought in by no column is the table of a value path. -/
theorem mem_scopeTables {root table : String} {mapping : ColumnMapping} {filter : Filter}
    (foreign : ∀ subject, table ∉ columnTables root mapping subject)
    (used : table ∈ usedTables root mapping filter) : table ∈ scopeTables filter := by
  induction filter with
  | presence subject | comparison subject | matching subject =>
    exact absurd used (foreign subject)
  | logical left op right left_ih right_ih =>
    rcases List.mem_append.1 used with left_used | right_used
    · exact List.mem_append_left _ (left_ih left_used)
    · exact List.mem_append_right _ (right_ih right_used)
  | group body ih => exact ih used
  | negation body ih => exact ih used
  | valuePath parent body _ ih =>
    rcases List.mem_append.1 used with named | body_used
    · exact List.mem_append_left _ named
    · exact List.mem_append_right _ (ih body_used)
  | patchPath parent body target _ ih _ =>
    rcases List.mem_append.1 used with named | body_used
    · exact List.mem_append_left _ named
    · exact List.mem_append_right _ (ih body_used)
  | attr | text | number | boolean => cases used

/-- The table of a value path is used. -/
theorem mem_usedTables {root table : String} {mapping : ColumnMapping} {filter : Filter}
    (named : table ∈ scopeTables filter) : table ∈ usedTables root mapping filter := by
  induction filter with
  | logical left op right left_ih right_ih =>
    rcases List.mem_append.1 named with left_named | right_named
    · exact List.mem_append_left _ (left_ih left_named)
    · exact List.mem_append_right _ (right_ih right_named)
  | group body ih => exact ih named
  | negation body ih => exact ih named
  | valuePath parent body _ ih | patchPath parent body _ _ ih _ =>
    rcases List.mem_append.1 named with here | inside
    · exact List.mem_append_left _ here
    · exact List.mem_append_right _ (ih inside)
  | _ => cases named

/-- No table is joined twice. -/
theorem Selects.nodup_joins {root : String} {mapping : ColumnMapping} {filter : Filter}
    {selection : Selection} (selects : Selects root mapping filter selection) :
    selection.joins.Nodup := by
  rw [selects.joins_eq, ← addTables_nil]
  exact nodup_addTables .nil _

/-- The root table is joined exactly if a value path names it. -/
theorem Selects.root_mem_joins_iff {root : String} {mapping : ColumnMapping} {filter : Filter}
    {selection : Selection} (selects : Selects root mapping filter selection) :
    root ∈ selection.joins ↔ root ∈ scopeTables filter := by
  rw [selects.joins_eq, List.mem_eraseDups]
  constructor
  · exact mem_scopeTables root_not_mem_columnTables
  · exact mem_usedTables

/-- The root table is not joined, unless a value path names it. -/
theorem Selects.root_not_mem_joins {root : String} {mapping : ColumnMapping} {filter : Filter}
    {selection : Selection} (selects : Selects root mapping filter selection)
    (apart : root ∉ scopeTables filter) : root ∉ selection.joins := by
  rw [selects.root_mem_joins_iff]
  exact apart

end ResourceFilter.Sql
