import ResourceFilter.Proofs.Result
import ResourceFilter.Sql.Query

/-! # Selections as derivations

How a filter comes to its selection, one rule for each kind of condition. A filter that has a query
derives its selection and no other one, so whatever holds of all derivations holds of all queries.
-/

set_option autoImplicit false

namespace ResourceFilter.Sql

variable {root : String} {mapping : ColumnMapping}

/-- The derivations of selections. -/
inductive Selects (root : String) (mapping : ColumnMapping) : Filter → Selection → Prop where
  | presence {path : String} {column : Column} (known : mapping path = some column) :
    Selects root mapping (.presence (.attr path)) (.ofTest root column (.isNotNull column))
  | comparison {path : String} {column : Column} {op : Comparison} {operand : Filter}
    {condition : Condition} (known : mapping path = some column)
    (compared : comparisonOf column op operand = .ok condition) :
    Selects root mapping (.comparison (.attr path) op operand) (.ofTest root column condition)
  | matching {path : String} {column : Column} {op : Matching} {value : String}
    (known : mapping path = some column) :
    Selects root mapping (.matching (.attr path) op value)
      (.ofTest root column (.matching column (op.pattern value)))
  | logical {left right : Filter} {first second : Selection} {op : Connective}
    (selects_left : Selects root mapping left first)
    (selects_right : Selects root mapping right second) :
    Selects root mapping (.logical left op right) (first.combine op second)
  | group {body : Filter} {selection : Selection} (selects : Selects root mapping body selection) :
    Selects root mapping (.group body) selection
  | negation {body : Filter} {selection : Selection}
    (selects : Selects root mapping body selection) :
    Selects root mapping (.negation body) selection.negate
  | valuePath {path : String} {body : Filter} {selection : Selection}
    (selects : Selects root mapping body selection) :
    Selects root mapping (.valuePath (.attr path) body) (selection.within (dropSchema path))
  | patchPath {path : String} {body target : Filter} {selection : Selection}
    (selects : Selects root mapping body selection) :
    Selects root mapping (.patchPath (.attr path) body target) (selection.within (dropSchema path))

/-- Only an attribute stands where one is asked for. -/
theorem attributeOf_eq_ok {role : Role} {filter : Filter} {path : String}
    (names : attributeOf role filter = .ok path) : filter = .attr path := by
  cases filter with
  | attr =>
    cases names
    rfl
  | _ => cases names

/-- Only an attribute that the mapping knows has a column. -/
theorem columnOf_eq_ok {role : Role} {filter : Filter} {column : Column}
    (names : columnOf mapping role filter = .ok column) :
    ∃ path, filter = .attr path ∧ mapping path = some column := by
  obtain ⟨path, isPath, found⟩ := bind_eq_ok names
  refine ⟨path, attributeOf_eq_ok isPath, ?_⟩
  cases known : mapping path with
  | none =>
    simp only [known] at found
    cases found
  | some other =>
    simp only [known] at found
    cases found
    rfl

/-- A filter derives its selection. -/
theorem selects_of_select {filter : Filter} {selection : Selection}
    (selected : select root mapping filter = .ok selection) :
    Selects root mapping filter selection := by
  induction filter generalizing selection with
  | presence subject =>
    obtain ⟨column, isColumn, same⟩ := bind_eq_ok selected
    obtain ⟨path, rfl, known⟩ := columnOf_eq_ok isColumn
    cases same
    exact .presence known
  | comparison subject op operand =>
    obtain ⟨column, isColumn, rest⟩ := bind_eq_ok selected
    obtain ⟨path, rfl, known⟩ := columnOf_eq_ok isColumn
    obtain ⟨condition, compared, same⟩ := bind_eq_ok rest
    cases same
    exact .comparison known compared
  | matching subject op value =>
    obtain ⟨column, isColumn, same⟩ := bind_eq_ok selected
    obtain ⟨path, rfl, known⟩ := columnOf_eq_ok isColumn
    cases same
    exact .matching known
  | logical left op right left_ih right_ih =>
    obtain ⟨first, isFirst, rest⟩ := bind_eq_ok selected
    obtain ⟨second, isSecond, same⟩ := bind_eq_ok rest
    cases same
    exact .logical (left_ih isFirst) (right_ih isSecond)
  | group body ih => exact .group (ih selected)
  | negation body ih =>
    obtain ⟨inner, isInner, same⟩ := bind_eq_ok selected
    cases same
    exact .negation (ih isInner)
  | valuePath parent body _ ih =>
    obtain ⟨path, isPath, rest⟩ := bind_eq_ok selected
    obtain ⟨inner, isInner, same⟩ := bind_eq_ok rest
    obtain rfl := attributeOf_eq_ok isPath
    cases same
    exact .valuePath (ih isInner)
  | patchPath parent body target _ ih _ =>
    obtain ⟨path, isPath, rest⟩ := bind_eq_ok selected
    obtain ⟨inner, isInner, same⟩ := bind_eq_ok rest
    obtain rfl := attributeOf_eq_ok isPath
    cases same
    exact .patchPath (ih isInner)
  | attr | text | number | boolean => cases selected

/-- A derived selection is that of the filter. -/
theorem Selects.select_eq {filter : Filter} {selection : Selection}
    (selects : Selects root mapping filter selection) :
    select root mapping filter = .ok selection := by
  have column {path : String} {column : Column} (role : Role)
      (known : mapping path = some column) : columnOf mapping role (.attr path) = .ok column := by
    simp [columnOf, attributeOf, known, bind, Except.bind]
  induction selects with
  | presence known =>
    unfold select
    rw [column _ known]
    rfl
  | comparison known compared =>
    unfold select
    rw [column _ known]
    show (comparisonOf _ _ _ >>= _) = _
    rw [compared]
    rfl
  | matching known =>
    unfold select
    rw [column _ known]
    rfl
  | logical _ _ left_ih right_ih =>
    unfold select
    rw [left_ih, right_ih]
    rfl
  | group _ ih => exact ih
  | negation _ ih =>
    unfold select
    rw [ih]
    rfl
  | valuePath _ ih | patchPath _ ih =>
    unfold select
    rw [ih]
    rfl

/-- A filter has exactly the selection that it derives. -/
theorem select_eq_ok_iff {filter : Filter} {selection : Selection} :
    select root mapping filter = .ok selection ↔ Selects root mapping filter selection :=
  ⟨selects_of_select, Selects.select_eq⟩

/-- The query of a filter is that of the selection it derives. -/
theorem Target.query_eq_ok_iff {target : Target} {filter : Filter} {query : Query} :
    target.query filter = .ok query ↔ ∃ selection,
      Selects target.root target.mapping filter selection ∧
        selection.query target.root target.flavour = query := by
  constructor
  · intro made
    obtain ⟨selection, selected, same⟩ := bind_eq_ok made
    cases same
    exact ⟨selection, selects_of_select selected, rfl⟩
  · rintro ⟨selection, selects, rfl⟩
    unfold Target.query
    rw [selects.select_eq]
    rfl

end ResourceFilter.Sql
