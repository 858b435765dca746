import ResourceFilter.Proofs.Sql.Dotted
import ResourceFilter.Proofs.Sql.Refusal

/-! # Names with and without a schema

An attribute can be written alone or behind the schema that defines it. The standard mapping drops
the schema of an attribute in a test, and the same is done for the table that a value path names. So
schemas make no difference anywhere in a filter: it has the same query without them, or the same
error. What stands behind a schema here has no colon and is not empty. In a longer name the schema
would end further behind, and a schema alone is no attribute.
-/

set_option autoImplicit false

namespace ResourceFilter

namespace Filter

/-- Whether a filter is the word for no value, in any case. -/
def IsNull : Filter → Prop
  | .attr word => Text.lowercase word = "null"
  | _ => False

/-- A filter, and the same one with schemas in front of some of its attributes. The word for no
value is a literal on the right side of a comparison, and stays as it is there. -/
inductive Qualified : Filter → Filter → Prop where
  | refl (filter : Filter) : Qualified filter filter
  | attr {schema path : String} (isSchema : IsSchema schema) (named : path ≠ "")
      (free : ':' ∉ path.toList) : Qualified (.attr path) (.attr (schema ++ path))
  | presence {subject subject' : Filter} (onSubject : Qualified subject subject') :
      Qualified (.presence subject) (.presence subject')
  | comparison {subject subject' operand operand' : Filter} (op : Comparison)
      (onSubject : Qualified subject subject') (onOperand : Qualified operand operand')
      (literal : operand.IsNull → operand' = operand) :
      Qualified (.comparison subject op operand) (.comparison subject' op operand')
  | matching {subject subject' : Filter} (op : Matching) (value : String)
      (onSubject : Qualified subject subject') :
      Qualified (.matching subject op value) (.matching subject' op value)
  | logical {left left' right right' : Filter} (op : Connective) (onLeft : Qualified left left')
      (onRight : Qualified right right') :
      Qualified (.logical left op right) (.logical left' op right')
  | group {body body' : Filter} (onBody : Qualified body body') :
      Qualified (.group body) (.group body')
  | negation {body body' : Filter} (onBody : Qualified body body') :
      Qualified (.negation body) (.negation body')
  | valuePath {parent parent' body body' : Filter} (onParent : Qualified parent parent')
      (onBody : Qualified body body') :
      Qualified (.valuePath parent body) (.valuePath parent' body')
  | patchPath {parent parent' body body' target target' : Filter}
      (onParent : Qualified parent parent') (onBody : Qualified body body')
      (onTarget : Qualified target target') :
      Qualified (.patchPath parent body target) (.patchPath parent' body' target')

end Filter

/-! ### What is left of a name with a schema -/

/-- Nothing of a schema is left in front of a name. -/
theorem dropSchema_schema_append {schema path : String} (isSchema : IsSchema schema)
    (free : ':' ∉ path.toList) : dropSchema (schema ++ path) = path := by
  obtain ⟨start, final⟩ := isSchema
  -- The first four characters are still those of the schema.
  have long : 4 ≤ schema.toList.length := by
    have four := congrArg List.length start
    simp only [List.length_map, List.length_take, List.length_cons, List.length_nil] at four
    omega
  have front : (schema ++ path).toList.take 4 = schema.toList.take 4 := by
    rw [String.toList_append, List.take_append_of_le_length long]
  unfold dropSchema
  rw [front, if_pos start, String.toList_append, Text.afterLast_append_of_not_mem _ free,
    Text.afterLast_eq_nil_iff.2 (.inr final), List.nil_append, String.ofList_toList]

/-- A name with a schema has the column that it has without. -/
theorem ColumnMapping.standard_schema_append {schema path : String} (isSchema : IsSchema schema)
    (named : path ≠ "") (free : ':' ∉ path.toList) :
    standard (schema ++ path) = some (Column.ofPath path) := by
  unfold standard
  rw [dropSchema_schema_append isSchema free, if_neg named]

/-- A name with a schema is never the word for the missing value. -/
theorem not_isNull_schema_append {schema : String} (isSchema : IsSchema schema) (path : String) :
    ¬(Filter.attr (schema ++ path)).IsNull := by
  intro isNull
  have inside : ':' ∈ (schema ++ path).toList := by
    rw [String.toList_append]
    exact List.mem_append_left _ (List.mem_of_getLast? isSchema.2)
  have lower : ':' ∈ (Text.lowercase (schema ++ path)).toList := by
    unfold Text.lowercase
    rw [String.toList_ofList]
    exact List.mem_map.2 ⟨':', inside, by decide⟩
  rw [show Text.lowercase (schema ++ path) = "null" from isNull] at lower
  exact absurd lower (by decide)

namespace Sql

variable {filter other : Filter}

/-! ### What is made of the names -/

/-- A schema in front of an attribute changes nothing about its column. -/
theorem columnOf_of_qualified (qualified : filter.Qualified other) (role : Role) :
    columnOf .standard role other = columnOf .standard role filter := by
  cases qualified with
  | @attr schema path isSchema named free =>
    have alone := ColumnMapping.standard_of_not_mem named free
    have behind := ColumnMapping.standard_schema_append isSchema named free
    simp [columnOf, attributeOf, bind, Except.bind, alone, behind]
  | _ => rfl

/-- A schema in front of a parent changes nothing about its table. -/
theorem tableOf_of_qualified (qualified : filter.Qualified other) :
    (attributeOf .valuePath other).map dropSchema =
      (attributeOf .valuePath filter).map dropSchema := by
  cases qualified with
  | attr isSchema _ free =>
    refine congrArg Except.ok ?_
    rw [dropSchema_schema_append isSchema free, dropSchema_of_not_mem free]
  | _ => rfl

/-- A schema in front of an operand changes nothing, unless it would hide the missing value. -/
theorem comparisonOf_of_qualified (qualified : filter.Qualified other)
    (literal : filter.IsNull → other = filter) (column : Column) (op : Comparison) :
    comparisonOf column op other = comparisonOf column op filter := by
  cases qualified with
  | @attr schema path isSchema =>
    by_cases isNull : Text.lowercase path = "null"
    · rw [literal isNull]
    · have stays : Text.lowercase (schema ++ path) ≠ "null" :=
        not_isNull_schema_append isSchema path
      exact (if_neg stays).trans (if_neg isNull).symm
  | _ => rfl

/-! ### Selections -/

/-- Schemas make no difference to what a filter selects. -/
theorem select_of_qualified (qualified : filter.Qualified other) (root : String) :
    select root .standard other = select root .standard filter := by
  induction qualified with
  | refl => rfl
  | attr => rfl
  | presence onSubject =>
    unfold select
    rw [columnOf_of_qualified onSubject]
  | comparison op onSubject onOperand literal =>
    unfold select
    rw [columnOf_of_qualified onSubject]
    simp only [comparisonOf_of_qualified onOperand literal]
  | matching op value onSubject =>
    unfold select
    rw [columnOf_of_qualified onSubject]
  | logical op _ _ left_ih right_ih =>
    unfold select
    rw [left_ih, right_ih]
  | group _ ih => exact ih
  | negation _ ih =>
    unfold select
    rw [ih]
  | valuePath onParent _ _ ih =>
    rw [select_valuePath_eq_bind, select_valuePath_eq_bind, tableOf_of_qualified onParent, ih]
  | patchPath onParent _ _ _ ih =>
    show select root .standard (.valuePath _ _) = select root .standard (.valuePath _ _)
    rw [select_valuePath_eq_bind, select_valuePath_eq_bind, tableOf_of_qualified onParent, ih]

/-- With the standard mapping, schemas in front of any of its attributes leave a filter the query
that it has, or the error, over all root tables and for all flavours. -/
theorem query_of_qualified (qualified : filter.Qualified other) (root name : String) :
    query root name .standard other = query root name .standard filter :=
  query_congr (select_of_qualified qualified root) name

/-- Schemas with dots, in capitals and with letters beyond ASCII, in tests and in front of the value
path that they stand in; the word for no value stays alone. -/
theorem query_of_qualified_urns :
    let filter : Filter := .valuePath (.attr "emails") (.logical
      (.matching (.attr "type") .contains "a") .conjunction
      (.comparison (.attr "name.first") .equal .null))
    let other : Filter := .valuePath (.attr ("urn:x:2.0:" ++ "emails")) (.logical
      (.matching (.attr ("URN::" ++ "type")) .contains "a") .conjunction
      (.comparison (.attr ("uRn:é:" ++ "name.first")) .equal .null))
    filter.Qualified other ∧
      query "users" "sqlite" .standard filter =
        .ok ⟨"SELECT * FROM \"users\" " ++
          "INNER JOIN \"emails\" ON \"emails\".\"users_id\" = \"users\".\"id\" " ++
          "INNER JOIN \"name\" ON \"name\".\"users_id\" = \"users\".\"id\" " ++
          "WHERE ((\"emails\".\"type\" REGEXP ?) AND (\"name\".\"first\" IS NULL))", [.text "a"]⟩ ∧
      query "users" "sqlite" .standard other = query "users" "sqlite" .standard filter := by
  intro filter other
  have emails := @Filter.Qualified.attr "urn:x:2.0:" "emails"
    ⟨by decide, by decide⟩ (by decide) (by decide)
  have type := @Filter.Qualified.attr "URN::" "type"
    ⟨by decide, by decide⟩ (by decide) (by decide)
  have first := @Filter.Qualified.attr "uRn:é:" "name.first"
    ⟨by decide, by decide⟩ (by decide) (by decide)
  have qualified : filter.Qualified other := .valuePath emails
    (.logical _ (.matching _ _ type) (.comparison _ first (.refl _) fun _ => rfl))
  exact ⟨qualified, eq_ok_of_toOption (by decide +kernel),
    query_of_qualified qualified "users" "sqlite"⟩

end Sql

end ResourceFilter
