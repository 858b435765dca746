import ResourceFilter.Proofs.Column.Path
import ResourceFilter.Proofs.Sql.Joins
import ResourceFilter.Proofs.Sql.Scope
import ResourceFilter.Proofs.Sql.Whitelist

/-! # Value paths and dotted names

A column can be placed in a table in two ways: a value path puts all columns of its body there, and
an attribute names the table itself, in front of a dot. The first way qualifies a selection that is
there already and joins the table in any case, the second one leaves it to the mapping what the
table is and joins it for a column. Both come to the same query, or to the same error.
-/

set_option autoImplicit false

namespace ResourceFilter

namespace Filter

/-- The attribute under a parent: its name behind that of the parent and a dot. -/
def under (parent : String) : Filter → Filter
  | .attr path => .attr (parent ++ "." ++ path)
  | other => other

/-- The filter with every attribute that it tests under a parent. -/
def dotted (parent : String) : Filter → Filter
  | .presence subject => .presence (subject.under parent)
  | .comparison subject op operand => .comparison (subject.under parent) op operand
  | .matching subject op value => .matching (subject.under parent) op value
  | .logical left op right => .logical (left.dotted parent) op (right.dotted parent)
  | .group body => .group (body.dotted parent)
  | .negation body => .negation (body.dotted parent)
  | other => other

/-- Whether one of the conditions of a filter is a value path. -/
def hasValuePath : Filter → Bool
  | .logical left _ right => left.hasValuePath || right.hasValuePath
  | .group body => body.hasValuePath
  | .negation body => body.hasValuePath
  | .valuePath .. | .patchPath .. => true
  | _ => false

end Filter

/-- Whether a name is there and stands alone, without a schema or a parent. -/
def IsPlainName (path : String) : Prop :=
  path ≠ "" ∧ '.' ∉ path.toList ∧ ':' ∉ path.toList

/-- Whether a name is plain is decided character by character. -/
instance (path : String) : Decidable (IsPlainName path) :=
  inferInstanceAs (Decidable (_ ∧ _ ∧ _))

/-! ### What the standard mapping makes of dotted names -/

/-- Whether a name begins with `urn:` does not depend on a dot and what stands behind it. -/
theorem take_append_cons_eq_iff (text more : List Char) :
    ((text ++ '.' :: more).take 4).map Char.toLower = ['u', 'r', 'n', ':'] ↔
      (text.take 4).map Char.toLower = ['u', 'r', 'n', ':'] := by
  -- The dot is no part of the prefix, so a shorter text does not grow into it.
  rcases text with _ | ⟨a, _ | ⟨b, _ | ⟨c, _ | ⟨d, rest⟩⟩⟩⟩ <;> simp

/-- A schema in front of the parent is one in front of the dotted name. -/
theorem dropSchema_append {parent path : String} (free : ':' ∉ path.toList) :
    dropSchema (parent ++ "." ++ path) = dropSchema parent ++ "." ++ path := by
  have chars : (parent ++ "." ++ path).toList = parent.toList ++ '.' :: path.toList := by simp
  have behind : ':' ∉ '.' :: path.toList := by simp [free]
  unfold dropSchema
  simp only [chars, take_append_cons_eq_iff]
  split
  · apply String.toList_injective
    rw [Text.afterLast_append_of_not_mem _ behind]
    simp
  · rfl

/-- A name without a colon has no schema to drop. -/
theorem dropSchema_of_not_mem {path : String} (free : ':' ∉ path.toList) :
    dropSchema path = path := by
  unfold dropSchema
  rw [Text.afterLast_of_not_mem free, String.ofList_toList, ite_self]

namespace ColumnMapping

/-- The standard mapping takes a name without a colon as the path of a column. -/
theorem standard_of_not_mem {path : String} (named : path ≠ "") (free : ':' ∉ path.toList) :
    standard path = some (Column.ofPath path) := by
  unfold standard
  rw [dropSchema_of_not_mem free, if_neg named]

/-- The standard mapping takes a plain name as the name of a column. -/
theorem standard_of_isPlainName {path : String} (plain : IsPlainName path) :
    standard path = some ⟨none, path⟩ := by
  obtain ⟨named, dotless, free⟩ := plain
  have bare : ¬∃ table name, Column.ArePartsOf path table name := by
    rintro ⟨table, name, whole, -⟩
    exact dotless (by simp [whole])
  rw [standard_of_not_mem named free, Column.ofPath_of_no_parts bare]

/-- A plain name behind a parent and a dot is a column in the table of that parent. -/
theorem standard_dotted {parent path : String} (named : dropSchema parent ≠ "")
    (dotless : '.' ∉ (dropSchema parent).toList) (plain : IsPlainName path) :
    standard (parent ++ "." ++ path) = some ⟨some (dropSchema parent), path⟩ := by
  obtain ⟨name, -, free⟩ := plain
  have parts : Column.ArePartsOf (dropSchema parent ++ "." ++ path) (dropSchema parent).toList
      path.toList := ⟨by simp, dotless, by simpa using named, by simpa using name⟩
  unfold standard
  rw [dropSchema_append free, if_neg (by simp), Column.ofPath_of_parts parts, String.ofList_toList,
    String.ofList_toList]

end ColumnMapping

namespace Sql

variable {root table parent : String} {mapping : ColumnMapping}

/-! ### Selections within the same table -/

/-- A column in a table of its own is tested there as it is within a value path of that table. -/
theorem Selection.ofTest_qualify {column : Column} (bare : column.table = none)
    (foreign : table ≠ root) (condition : Condition) :
    ofTest root (column.qualify table) (condition.qualify table) =
      (ofTest root column condition).within table := by
  unfold ofTest Column.qualify
  rw [bare]
  dsimp only [Option.getD]
  rw [if_neg foreign]
  rfl

/-- Two selections within a table are combined as the combination within that table. -/
theorem Selection.within_combine (left : Selection) (op : Connective) (right : Selection) :
    (left.within table).combine op (right.within table) = (left.combine op right).within table := by
  have known : table ∈ addTables [table] left.joins := mem_addTables.2 (.inl List.mem_cons_self)
  have again : addTables (addTables [table] left.joins) [table] = addTables [table] left.joins :=
    if_pos known
  -- The table that the right side begins with is there already, in front of the left side's.
  have joins : addTables (addTables [table] left.joins) (addTables [table] right.joins) =
      addTables [table] (addTables left.joins right.joins) := by
    rw [addTables_addTables, again, ← addTables_addTables]
  unfold combine within
  rw [joins]
  rfl

/-! ### Selections of dotted names -/

/-- Whether the mapping puts an attribute under a parent into the given table, and the attribute
alone into no table. -/
def Places (mapping : ColumnMapping) (parent table path : String) : Prop :=
  ∃ name, mapping path = some ⟨none, name⟩ ∧
    mapping (parent ++ "." ++ path) = some ⟨some table, name⟩

/-- A test under the parent selects what it selects within a value path, for whatever test becomes
the test of the qualified column. -/
theorem ofTest_under {role : Role} {subject : Filter} (foreign : table ≠ root)
    (test : Column → Except QueryError Condition)
    (places : ∀ name ∈ attributeAt role subject, Places mapping parent table name.2)
    (moved : ∀ column, test (column.qualify table) = (test column).map (Condition.qualify table)) :
    (do
      let column ← columnOf mapping role (subject.under parent)
      return Selection.ofTest root column (← test column)) =
    (do
      let column ← columnOf mapping role subject
      return Selection.ofTest root column (← test column)).map (Selection.within table) := by
  cases subject with
  | attr path =>
    obtain ⟨name, bare, placed⟩ := places (role, path) (List.mem_singleton_self _)
    have alone : columnOf mapping role (.attr path) = .ok ⟨none, name⟩ := by
      simp [columnOf, attributeOf, bare, bind, Except.bind]
    have dotted : columnOf mapping role (Filter.under parent (.attr path)) =
        .ok (Column.qualify table ⟨none, name⟩) := by
      simp [Filter.under, columnOf, attributeOf, placed, bind, Except.bind, Column.qualify]
    rw [alone, dotted]
    show (test _ >>= _) = (test _ >>= _).map _
    rw [moved]
    cases test ⟨none, name⟩ with
    | error => rfl
    | ok condition => exact congrArg Except.ok (Selection.ofTest_qualify rfl foreign condition)
  | _ => rfl

/-- With all attributes under the parent, a filter selects what it selects within a value path. -/
theorem select_dotted (foreign : table ≠ root) {filter : Filter}
    (flat : filter.hasValuePath = false)
    (places : ∀ name ∈ selectors filter, Places mapping parent table name.2) :
    select root mapping (filter.dotted parent) =
      (select root mapping filter).map (Selection.within table) := by
  induction filter with
  | presence subject =>
    exact ofTest_under foreign (fun column => .ok (.isNotNull column)) places fun _ => rfl
  | comparison subject op operand =>
    exact ofTest_under foreign (fun column => comparisonOf column op operand) places
      fun column => comparisonOf_within (some table) column op operand
  | matching subject op value =>
    exact ofTest_under foreign (fun column => .ok (.matching column (op.pattern value))) places
      fun _ => rfl
  | logical left op right left_ih right_ih =>
    simp only [Filter.hasValuePath, Bool.or_eq_false_iff] at flat
    have placesLeft := fun name mem => places name (List.mem_append_left _ mem)
    have placesRight := fun name mem => places name (List.mem_append_right _ mem)
    unfold Filter.dotted select
    rw [left_ih flat.1 placesLeft, right_ih flat.2 placesRight]
    cases select root mapping left with
    | error => rfl
    | ok first =>
      cases select root mapping right with
      | error => rfl
      | ok second => exact congrArg Except.ok (first.within_combine op second)
  | group body ih => exact ih flat places
  | negation body ih =>
    unfold Filter.dotted select
    rw [ih flat places]
    cases select root mapping body <;> rfl
  | valuePath | patchPath => cases flat
  | attr | text | number | boolean => rfl

/-- A value path needs its table first, and then the selection of its body. -/
theorem select_valuePath_eq_bind (root : String) (mapping : ColumnMapping) (parent body : Filter) :
    select root mapping (.valuePath parent body) =
      (attributeOf .valuePath parent).map dropSchema >>= fun table =>
        (select root mapping body).map (Selection.within table) := by
  show (attributeOf .valuePath parent >>= _) = _
  cases attributeOf .valuePath parent with
  | error => rfl
  | ok path =>
    show (select root mapping body >>= _) = (select root mapping body).map _
    cases select root mapping body <;> rfl

/-- A value path is selected as its body, within the table of its parent. -/
theorem select_valuePath (root : String) (mapping : ColumnMapping) (parent : String)
    (body : Filter) : select root mapping (.valuePath (.attr parent) body) =
      (select root mapping body).map (Selection.within (dropSchema parent)) :=
  select_valuePath_eq_bind root mapping (.attr parent) body

/-- A patch path is selected as the body of its value path, whatever its target. -/
theorem select_patchPath (root : String) (mapping : ColumnMapping) (parent : String)
    (body target : Filter) : select root mapping (.patchPath (.attr parent) body target) =
      (select root mapping body).map (Selection.within (dropSchema parent)) :=
  select_valuePath root mapping parent body

/-- Filters that are selected in the same way have the same query. -/
theorem query_congr {first second : Filter}
    (same : select root mapping first = select root mapping second) (name : String) :
    query root name mapping first = query root name mapping second := by
  unfold query Target.ofNames
  cases Flavour.ofName? name with
  | none => rfl
  | some flavour =>
    by_cases unnamed : root = ""
    · simp only [dif_pos unnamed]
      rfl
    · simp only [dif_neg unnamed]
      exact congrArg (· >>= fun selection => .ok (selection.query root flavour)) same

/-- With the standard mapping, a value path whose name has no dots but in its schema has the query
of its body with every attribute under that name, or the same error. The body holds no further value
paths and tests plain names, and the path does not name the root table. -/
theorem query_valuePath_eq_dotted {root name parent : String} {filter : Filter}
    (named : dropSchema parent ≠ "") (dotless : '.' ∉ (dropSchema parent).toList)
    (foreign : dropSchema parent ≠ root) (flat : filter.hasValuePath = false)
    (plain : ∀ tested ∈ selectors filter, IsPlainName tested.2) :
    query root name .standard (.valuePath (.attr parent) filter) =
      query root name .standard (filter.dotted parent) ∧
    ∀ target, query root name .standard (.patchPath (.attr parent) filter target) =
      query root name .standard (filter.dotted parent) := by
  have places : ∀ tested ∈ selectors filter,
      Places .standard parent (dropSchema parent) tested.2 := fun tested mem =>
    ⟨tested.2, ColumnMapping.standard_of_isPlainName (plain tested mem),
      ColumnMapping.standard_dotted named dotless (plain tested mem)⟩
  have dotted := select_dotted foreign flat places
  constructor
  · apply query_congr
    rw [select_valuePath, dotted]
  · intro target
    apply query_congr
    rw [select_patchPath, dotted]

/-- A name with a schema in front, in capitals and beyond ASCII, around tests for no value. -/
theorem query_valuePath_eq_dotted_schema :
    let parent := "URN:é.x:Größe"
    let text := "SELECT * FROM \"users\" INNER JOIN \"Größe\" ON " ++
      "\"Größe\".\"users_id\" = \"users\".\"id\" WHERE " ++
      "((NOT (\"Größe\".\"type\" IS NOT NULL)) OR " ++
      "((\"Größe\".\"wért\" REGEXP ?) AND (\"Größe\".\"type\" < ?)))"
    let filter : Filter := .logical
      (.negation (.comparison (.attr "type") .notEqual .null)) .disjunction
      (.group (.logical (.matching (.attr "wért") .startsWith "a.b") .conjunction
        (.comparison (.attr "type") .less (.number 3))))
    dropSchema parent ≠ "" ∧ '.' ∉ (dropSchema parent).toList ∧ dropSchema parent ≠ "users" ∧
      filter.hasValuePath = false ∧ (∀ tested ∈ selectors filter, IsPlainName tested.2) ∧
      query "users" "SQLite" .standard (filter.dotted parent) =
        .ok ⟨text, [.text "^a\\.b", .integer 3]⟩ ∧
      query "users" "SQLite" .standard (.valuePath (.attr parent) filter) =
        .ok ⟨text, [.text "^a\\.b", .integer 3]⟩ ∧
      query "users" "SQLite" .standard (.patchPath (.attr parent) filter (.number 1)) =
        .ok ⟨text, [.text "^a\\.b", .integer 3]⟩ := by
  intro parent text filter
  have named : dropSchema parent ≠ "" := by decide +kernel
  have dotless : '.' ∉ (dropSchema parent).toList := by decide +kernel
  have foreign : dropSchema parent ≠ "users" := by decide +kernel
  have plain : ∀ tested ∈ selectors filter, IsPlainName tested.2 := by decide +kernel
  have made := eq_ok_of_toOption (by decide +kernel :
    (query "users" "SQLite" .standard (filter.dotted parent)).toOption =
      some ⟨text, [.text "^a\\.b", .integer 3]⟩)
  obtain ⟨onValuePath, onPatchPath⟩ :=
    query_valuePath_eq_dotted named dotless foreign rfl plain
  exact ⟨named, dotless, foreign, rfl, plain, made, onValuePath.trans made,
    (onPatchPath _).trans made⟩

end Sql

end ResourceFilter
