import ResourceFilter.Proofs.Sql.Selects

/-! # What a strict listing lets through

Every attribute that a filter tests goes through the mapping, so a filter has a query just when it is
put together rightly and the mapping knows the attributes that it tests. A value path only has to
name an attribute: that one is taken for a table as it stands. So a strict listing is a whitelist of
the attributes in tests, and of all attributes for those filters whose value paths are listed, too.
-/

set_option autoImplicit false

namespace ResourceFilter

namespace Listing

/-- The listing with columns given for attributes, one after the other. -/
def insertAll (listing : Listing) (entries : List (String × Column)) : Listing :=
  entries.foldl (fun listing entry => listing.insert entry.1 entry.2) listing

/-- Giving columns does not change whether a listing is strict. -/
theorem strict_insertAll (listing : Listing) (entries : List (String × Column)) :
    (listing.insertAll entries).strict = listing.strict := by
  induction entries generalizing listing with
  | nil => rfl
  | cons entry rest ih => exact ih (listing.insert entry.1 entry.2)

/-- The attributes that are listed are those that a column has been given for. -/
theorem isSome_get?_insertAll (listing : Listing) (entries : List (String × Column))
    (path : String) :
    ((listing.insertAll entries).get? path).isSome ↔
      path ∈ entries.map Prod.fst ∨ (listing.get? path).isSome := by
  induction entries generalizing listing with
  | nil => simp [insertAll]
  | cons entry rest ih =>
    have step : listing.insertAll (entry :: rest) =
        (listing.insert entry.1 entry.2).insertAll rest := rfl
    rw [step, ih, get?_insert]
    by_cases same : path = entry.1
    · simp [same]
    · simp [same]

/-- A strict listing knows exactly the attributes that a column has been given for. -/
theorem isSome_mapping_strict (entries : List (String × Column)) (path : String) :
    (((empty true).insertAll entries).mapping path).isSome ↔ path ∈ entries.map Prod.fst := by
  have isStrict : ((empty true).insertAll entries).strict = true := strict_insertAll _ entries
  have listed := isSome_get?_insertAll (empty true) entries path
  rw [get?_empty, Option.isSome_none] at listed
  have found : ((empty true).insertAll entries).mapping path =
      ((empty true).insertAll entries).get? path := by
    unfold mapping
    cases ((empty true).insertAll entries).get? path with
    | none => simp [isStrict]
    | some column => rfl
  rw [found, listed]
  simp

end Listing

namespace Sql

/-- The attribute that stands in a place, with the place. -/
def attributeAt (role : Role) : Filter → List (Role × String)
  | .attr path => [(role, path)]
  | _ => []

/-- The attributes that a filter selects by, from left to right, each with its place: in a test, or
in front of a value path. -/
def selectors : Filter → List (Role × String)
  | .presence subject => attributeAt .presence subject
  | .comparison subject _ _ => attributeAt .comparison subject
  | .matching subject _ _ => attributeAt .matching subject
  | .logical left _ right => selectors left ++ selectors right
  | .group body => selectors body
  | .negation body => selectors body
  | .valuePath parent body => attributeAt .valuePath parent ++ selectors body
  | .patchPath parent body _ => attributeAt .valuePath parent ++ selectors body
  | _ => []

/-- Whether a comparison can have this on its right side. -/
def IsOperand (op : Comparison) : Filter → Prop
  | .text _ | .number _ | .boolean _ => True
  | .attr path => Text.lowercase path = "null" ∧ (op = .equal ∨ op = .notEqual)
  | _ => False

/-- Whether all parts of a filter stand where they belong. -/
def IsCondition : Filter → Prop
  | .presence subject => subject.kind = .attr
  | .comparison subject op operand => subject.kind = .attr ∧ IsOperand op operand
  | .matching subject _ _ => subject.kind = .attr
  | .logical left _ right => IsCondition left ∧ IsCondition right
  | .group body => IsCondition body
  | .negation body => IsCondition body
  | .valuePath parent body => parent.kind = .attr ∧ IsCondition body
  | .patchPath parent body _ => parent.kind = .attr ∧ IsCondition body
  | _ => False

variable {root : String} {mapping : ColumnMapping}

/-- What is an attribute by its kind is one with a name. -/
theorem exists_path_of_kind {filter : Filter} (isAttr : filter.kind = .attr) :
    ∃ path, filter = .attr path := by
  cases filter with
  | attr path => exact ⟨path, rfl⟩
  | _ => cases isAttr

/-- A comparison has a condition exactly if its operand is one it can be made with. -/
theorem exists_comparisonOf_iff {column : Column} {op : Comparison} {operand : Filter} :
    (∃ condition, comparisonOf column op operand = .ok condition) ↔ IsOperand op operand := by
  cases operand with
  | text | number | boolean => exact iff_of_true ⟨_, rfl⟩ trivial
  | attr path =>
    by_cases null : Text.lowercase path = "null"
    · cases op <;> simp [comparisonOf, IsOperand, null]
    · simp [comparisonOf, IsOperand, null]
  | _ => simp [comparisonOf, IsOperand]

/-- The attributes in tests are known where there is a selection. -/
theorem Selects.known {filter : Filter} {selection : Selection}
    (selects : Selects root mapping filter selection) :
    ∀ name ∈ selectors filter, name.1 ≠ .valuePath → (mapping name.2).isSome := by
  have single {role : Role} {path : String} {column : Column} (known : mapping path = some column) :
      ∀ name ∈ attributeAt role (.attr path), name.1 ≠ .valuePath → (mapping name.2).isSome := by
    intro name mem _
    obtain rfl := List.mem_singleton.1 mem
    simp [known]
  have inside {path : String} {body : Filter}
      (ih : ∀ name ∈ selectors body, name.1 ≠ .valuePath → (mapping name.2).isSome) :
      ∀ name ∈ attributeAt .valuePath (.attr path) ++ selectors body,
        name.1 ≠ .valuePath → (mapping name.2).isSome := by
    intro name mem test
    rcases List.mem_append.1 mem with parent | deeper
    · obtain rfl := List.mem_singleton.1 parent
      exact absurd rfl test
    · exact ih name deeper test
  induction selects with
  | presence known => exact single known
  | comparison known _ => exact single known
  | matching known => exact single known
  | logical _ _ left_ih right_ih =>
    intro name mem test
    rcases List.mem_append.1 mem with left | right
    · exact left_ih name left test
    · exact right_ih name right test
  | group _ ih => exact ih
  | negation _ ih => exact ih
  | valuePath _ ih => exact inside ih
  | patchPath _ ih => exact inside ih

/-- In a filter that is selected, all parts stand where they belong. -/
theorem Selects.isCondition {filter : Filter} {selection : Selection}
    (selects : Selects root mapping filter selection) : IsCondition filter := by
  induction selects with
  | presence | matching => rfl
  | comparison _ compared => exact ⟨rfl, exists_comparisonOf_iff.1 ⟨_, compared⟩⟩
  | logical _ _ left_ih right_ih => exact ⟨left_ih, right_ih⟩
  | group _ ih => exact ih
  | negation _ ih => exact ih
  | valuePath _ ih | patchPath _ ih => exact ⟨rfl, ih⟩

/-- A filter that is put together rightly and tests known attributes selects something. -/
theorem exists_selects (root : String) {filter : Filter} (isCondition : IsCondition filter)
    (known : ∀ name ∈ selectors filter, name.1 ≠ .valuePath → (mapping name.2).isSome) :
    ∃ selection, Selects root mapping filter selection := by
  have column {role : Role} {path : String} (test : role ≠ .valuePath)
      (known : ∀ name ∈ attributeAt role (.attr path), name.1 ≠ .valuePath →
        (mapping name.2).isSome) : ∃ column, mapping path = some column :=
    Option.isSome_iff_exists.1 (known (role, path) (List.mem_singleton.2 rfl) test)
  induction filter with
  | presence subject =>
    obtain ⟨path, rfl⟩ := exists_path_of_kind isCondition
    obtain ⟨column, found⟩ := column Role.noConfusion known
    exact ⟨_, .presence found⟩
  | comparison subject op operand =>
    obtain ⟨isAttr, isOperand⟩ := isCondition
    obtain ⟨path, rfl⟩ := exists_path_of_kind isAttr
    obtain ⟨column, found⟩ := column Role.noConfusion known
    obtain ⟨condition, compared⟩ := exists_comparisonOf_iff.2 isOperand
    exact ⟨_, .comparison found compared⟩
  | matching subject op value =>
    obtain ⟨path, rfl⟩ := exists_path_of_kind isCondition
    obtain ⟨column, found⟩ := column Role.noConfusion known
    exact ⟨_, .matching found⟩
  | logical left op right left_ih right_ih =>
    obtain ⟨isLeft, isRight⟩ := isCondition
    have knownLeft := fun name mem => known name (List.mem_append_left _ mem)
    have knownRight := fun name mem => known name (List.mem_append_right _ mem)
    obtain ⟨first, selects_left⟩ := left_ih isLeft knownLeft
    obtain ⟨second, selects_right⟩ := right_ih isRight knownRight
    exact ⟨_, .logical selects_left selects_right⟩
  | group body ih =>
    obtain ⟨selection, selects⟩ := ih isCondition known
    exact ⟨_, .group selects⟩
  | negation body ih =>
    obtain ⟨selection, selects⟩ := ih isCondition known
    exact ⟨_, .negation selects⟩
  -- The mapping is asked nothing about the parent of a value path.
  | valuePath parent body _ ih =>
    obtain ⟨isAttr, isBody⟩ := isCondition
    obtain ⟨path, rfl⟩ := exists_path_of_kind isAttr
    obtain ⟨selection, selects⟩ :=
      ih isBody fun name mem => known name (List.mem_append_right _ mem)
    exact ⟨_, .valuePath selects⟩
  | patchPath parent body target _ ih _ =>
    obtain ⟨isAttr, isBody⟩ := isCondition
    obtain ⟨path, rfl⟩ := exists_path_of_kind isAttr
    obtain ⟨selection, selects⟩ :=
      ih isBody fun name mem => known name (List.mem_append_right _ mem)
    exact ⟨_, .patchPath selects⟩
  | attr | text | number | boolean => cases isCondition

namespace Target

/-- A filter has a query exactly if its parts stand where they belong and its tests know their
columns. -/
theorem exists_query_iff {target : Target} {filter : Filter} :
    (∃ query, target.query filter = .ok query) ↔ IsCondition filter ∧
      ∀ name ∈ selectors filter, name.1 ≠ .valuePath → (target.mapping name.2).isSome := by
  constructor
  · rintro ⟨query, made⟩
    obtain ⟨selection, selects, -⟩ := query_eq_ok_iff.1 made
    exact ⟨selects.isCondition, selects.known⟩
  · rintro ⟨isCondition, known⟩
    obtain ⟨selection, selects⟩ := exists_selects target.root isCondition known
    exact ⟨_, query_eq_ok_iff.2 ⟨selection, selects, rfl⟩⟩

/-- Over a strict listing exactly those filters have a query that are put together rightly and test
listed attributes only; any other filter is refused. All attributes that a filter with a query
selects by are listed exactly if those in front of its value paths are. -/
theorem query_of_strict_listing {target : Target} {entries : List (String × Column)}
    (strict : target.mapping = ((Listing.empty true).insertAll entries).mapping)
    (filter : Filter) :
    ((∃ query, target.query filter = .ok query) ↔ IsCondition filter ∧
      ∀ name ∈ selectors filter, name.1 ≠ .valuePath → name.2 ∈ entries.map Prod.fst) ∧
    ((∃ name ∈ selectors filter, name.1 ≠ .valuePath ∧ name.2 ∉ entries.map Prod.fst) →
      ∃ error, target.query filter = .error error) ∧
    ((∃ query, target.query filter = .ok query) →
      ((∀ name ∈ selectors filter, name.2 ∈ entries.map Prod.fst) ↔
        ∀ name ∈ selectors filter, name.1 = .valuePath → name.2 ∈ entries.map Prod.fst)) := by
  have accepts : (∃ query, target.query filter = .ok query) ↔ IsCondition filter ∧
      ∀ name ∈ selectors filter, name.1 ≠ .valuePath → name.2 ∈ entries.map Prod.fst := by
    rw [exists_query_iff, strict]
    simp only [Listing.isSome_mapping_strict]
  refine ⟨accepts, ?_, ?_⟩
  · rintro ⟨name, mem, test, unlisted⟩
    cases made : target.query filter with
    | error error => exact ⟨error, rfl⟩
    | ok query => exact absurd ((accepts.1 ⟨query, made⟩).2 name mem test) unlisted
  · intro made
    have tested := (accepts.1 made).2
    constructor
    · intro all name mem _
      exact all name mem
    · intro paths name mem
      by_cases path : name.1 = .valuePath
      · exact paths name mem path
      · exact tested name mem path

/-- A column that is given twice, a value path that is listed as its tests are, and a test of an
attribute that is not listed. -/
theorem query_of_strict_listing_emails :
    let entries : List (String × Column) :=
      [("type", ⟨none, "kind"⟩), ("emails", ⟨none, "mail"⟩), ("type", ⟨none, "sort"⟩)]
    let target : Target :=
      ⟨"users", ((Listing.empty true).insertAll entries).mapping, .sqlite, by decide⟩
    let filter : Filter := .valuePath (.attr "emails") (.presence (.attr "type"))
    target.mapping = ((Listing.empty true).insertAll entries).mapping ∧
      (∃ query, target.query filter = .ok query) ∧
      (∀ name ∈ selectors filter, name.2 ∈ entries.map Prod.fst) ∧
      ∃ error, target.query (.logical filter .disjunction (.presence (.attr "title"))) =
        .error error := by
  intro entries target filter
  obtain ⟨accepts, -, listed⟩ := query_of_strict_listing (rfl : target.mapping = _) filter
  obtain ⟨-, refuses, -⟩ := query_of_strict_listing (rfl : target.mapping = _)
    (.logical filter .disjunction (.presence (.attr "title")))
  have made : ∃ query, target.query filter = .ok query := by
    refine accepts.2 ⟨⟨rfl, rfl⟩, ?_⟩
    decide
  refine ⟨rfl, made, (listed made).2 (by decide), refuses ?_⟩
  exact ⟨(.presence, "title"), by decide, by decide, by decide⟩

/-- A value path names a table that no listing has let through. -/
theorem unlisted_table_joined :
    let entries : List (String × Column) := [("type", ⟨none, "type"⟩)]
    let target : Target :=
      ⟨"users", ((Listing.empty true).insertAll entries).mapping, .postgres, by decide⟩
    let filter : Filter := .valuePath (.attr "secrets") (.presence (.attr "type"))
    target.query filter = .ok ⟨"SELECT * FROM \"users\" INNER JOIN \"secrets\" ON " ++
        "\"secrets\".\"users_id\" = \"users\".\"id\" WHERE (\"secrets\".\"type\" IS NOT NULL)",
        []⟩ ∧
      (.valuePath, "secrets") ∈ selectors filter ∧ "secrets" ∉ entries.map Prod.fst := by
  intro entries target filter
  have made : target.query filter = .ok ⟨"SELECT * FROM \"users\" INNER JOIN \"secrets\" ON " ++
      "\"secrets\".\"users_id\" = \"users\".\"id\" WHERE (\"secrets\".\"type\" IS NOT NULL)",
      []⟩ := eq_ok_of_toOption (by decide +kernel)
  exact ⟨made, by decide, by decide⟩

end Target

end Sql

end ResourceFilter
