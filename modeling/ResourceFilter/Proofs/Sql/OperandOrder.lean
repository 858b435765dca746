import Mathlib.Data.List.Nodup
import ResourceFilter.Proofs.Sql.Returned

/-! # The order of operands

Both connectives are symmetric, also where a condition is unknown, and it does not matter in which
order tables are joined. So the operands of a connective can be exchanged, however deep in a filter
it stands: the selection of the new filter is `Alike` that of the old one. It joins the same tables
and has the same arguments, if in another order, and its query returns the same rows.
-/

set_option autoImplicit false

universe u

namespace ResourceFilter

/-- The operands of one connective are exchanged, wherever in a filter it stands. -/
inductive Filter.Swap : Filter → Filter → Prop where
  | here {left right : Filter} {op : Connective} :
      Swap (.logical left op right) (.logical right op left)
  | left {left other right : Filter} {op : Connective} (inside : Swap left other) :
      Swap (.logical left op right) (.logical other op right)
  | right {left right other : Filter} {op : Connective} (inside : Swap right other) :
      Swap (.logical left op right) (.logical left op other)
  | group {body other : Filter} (inside : Swap body other) : Swap (.group body) (.group other)
  | negation {body other : Filter} (inside : Swap body other) :
      Swap (.negation body) (.negation other)
  | valuePath {parent body other : Filter} (inside : Swap body other) :
      Swap (.valuePath parent body) (.valuePath parent other)
  | valuePathParent {parent other body : Filter} (inside : Swap parent other) :
      Swap (.valuePath parent body) (.valuePath other body)
  | patchPath {parent body other target : Filter} (inside : Swap body other) :
      Swap (.patchPath parent body target) (.patchPath parent other target)
  | patchPathParent {parent other body target : Filter} (inside : Swap parent other) :
      Swap (.patchPath parent body target) (.patchPath other body target)
  | patchPathTarget {parent body target other : Filter} (inside : Swap target other) :
      Swap (.patchPath parent body target) (.patchPath parent body other)
  | presence {subject other : Filter} (inside : Swap subject other) :
      Swap (.presence subject) (.presence other)
  | comparison {subject other operand : Filter} {op : Comparison} (inside : Swap subject other) :
      Swap (.comparison subject op operand) (.comparison other op operand)
  | comparisonOperand {subject operand other : Filter} {op : Comparison}
      (inside : Swap operand other) :
      Swap (.comparison subject op operand) (.comparison subject op other)
  | matching {subject other : Filter} {op : Matching} {value : String}
      (inside : Swap subject other) :
      Swap (.matching subject op value) (.matching other op value)

namespace Sql

/-- The sides of a connective may be swapped without changing its truth. -/
theorem Truth.connect_comm (op : Connective) (first second : Truth) :
    connect op first second = connect op second first := by
  cases op <;> cases first <;> cases second <;> rfl

/-- A condition within a table looks at the columns of that table. -/
theorem Condition.truth_qualify {Value : Type u} (predicates : Predicates Value)
    (value : Column → Option Value) (table : String) (condition : Condition) :
    (condition.qualify table).truth predicates value =
      condition.truth predicates fun column => value (column.qualify table) := by
  induction condition with
  | isNull | isNotNull | comparison | matching => rfl
  | logical left op right left_ih right_ih => simp only [qualify, truth, left_ih, right_ih]
  | negation body ih => simp only [qualify, truth, ih]

/-- Two selections that differ in the order of their joins and of their arguments only. -/
structure Selection.Alike (first second : Selection) : Prop where
  mem_joins : ∀ table, table ∈ first.joins ↔ table ∈ second.joins
  arguments : first.condition.arguments.Perm second.condition.arguments
  truth : ∀ {Value : Type u} (predicates : Predicates Value) (value : Column → Option Value),
    first.condition.truth predicates value = second.condition.truth predicates value

namespace Selection

variable {first second third fourth : Selection}

/-- A selection is alike to itself. -/
theorem Alike.refl (selection : Selection) : Alike.{u} selection selection :=
  ⟨fun _ => .rfl, .refl _, fun _ _ => rfl⟩

/-- The sides of a combination may be swapped. -/
theorem combine_comm (first second : Selection) (op : Connective) :
    Alike.{u} (first.combine op second) (second.combine op first) where
  mem_joins table := by
    simp only [combine, mem_addTables]
    exact or_comm
  arguments := List.perm_append_comm
  truth predicates value := Truth.connect_comm op _ _

/-- Combinations of selections that are alike are alike. -/
theorem Alike.combine (alike : Alike.{u} first second) (alike_right : Alike.{u} third fourth)
    (op : Connective) : Alike.{u} (first.combine op third) (second.combine op fourth) where
  mem_joins table := by
    simp only [Selection.combine, mem_addTables, alike.mem_joins, alike_right.mem_joins]
  arguments := alike.arguments.append alike_right.arguments
  truth predicates value := by
    simp only [Selection.combine, Condition.truth, alike.truth, alike_right.truth]

/-- Negations of selections that are alike are alike. -/
theorem Alike.negate (alike : Alike.{u} first second) : Alike.{u} first.negate second.negate where
  mem_joins := alike.mem_joins
  arguments := alike.arguments
  truth predicates value := by
    simp only [Selection.negate, Condition.truth, alike.truth]

/-- Selections that are alike remain so within a table. -/
theorem Alike.within (alike : Alike.{u} first second) (table : String) :
    Alike.{u} (first.within table) (second.within table) where
  mem_joins joined := by
    simp only [Selection.within, mem_addTables, alike.mem_joins]
  arguments := by
    simp only [Selection.within, Condition.arguments_qualify]
    exact alike.arguments
  truth predicates value := by
    simp only [Selection.within, Condition.truth_qualify, alike.truth]

/-- Queries of selections that are alike return the same rows. -/
theorem Alike.returns_iff (alike : Alike.{u} first second) {Value : Type u} {root : String}
    {flavour : Flavour} {database : Database Value} {predicates : Predicates Value}
    {row : Row Value} :
    (first.query root flavour).Returns flavour database predicates row ↔
      (second.query root flavour).Returns flavour database predicates row := by
  rw [returns_query_iff, returns_query_iff]
  constructor
  · rintro ⟨combination, same_row, spans, holds⟩
    exact ⟨combination, same_row, spans.congr alike.mem_joins, alike.truth _ _ ▸ holds⟩
  · rintro ⟨combination, same_row, spans, holds⟩
    refine ⟨combination, same_row, spans.congr fun table => (alike.mem_joins table).symm, ?_⟩
    exact (alike.truth _ _).trans holds

end Selection

/-- Exchanging the operands of a connective anywhere in a filter leaves its selection alike. -/
theorem Selects.swap {root : String} {mapping : ColumnMapping} {filter other : Filter}
    {selection : Selection} (selects : Selects root mapping filter selection)
    (swap : filter.Swap other) :
    ∃ swapped, Selects root mapping other swapped ∧ Selection.Alike.{u} swapped selection := by
  induction swap generalizing selection with
  | here =>
    cases selects with
    | logical selects_left selects_right =>
      exact ⟨_, .logical selects_right selects_left, Selection.combine_comm _ _ _⟩
  | left _ ih =>
    cases selects with
    | logical selects_left selects_right =>
      obtain ⟨swapped, selects, alike⟩ := ih selects_left
      exact ⟨_, .logical selects selects_right, alike.combine (.refl _) _⟩
  | right _ ih =>
    cases selects with
    | logical selects_left selects_right =>
      obtain ⟨swapped, selects, alike⟩ := ih selects_right
      exact ⟨_, .logical selects_left selects, Selection.Alike.combine (.refl _) alike _⟩
  | group _ ih =>
    cases selects with
    | group selects_body =>
      obtain ⟨swapped, selects, alike⟩ := ih selects_body
      exact ⟨_, .group selects, alike⟩
  | negation _ ih =>
    cases selects with
    | negation selects_body =>
      obtain ⟨swapped, selects, alike⟩ := ih selects_body
      exact ⟨_, .negation selects, alike.negate⟩
  | valuePath _ ih =>
    cases selects with
    | valuePath selects_body =>
      obtain ⟨swapped, selects, alike⟩ := ih selects_body
      exact ⟨_, .valuePath selects, alike.within _⟩
  | patchPath _ ih =>
    cases selects with
    | patchPath selects_body =>
      obtain ⟨swapped, selects, alike⟩ := ih selects_body
      exact ⟨_, .patchPath selects, alike.within _⟩
  | patchPathTarget =>
    -- The sub-attribute that a patch aims at selects nothing.
    cases selects with
    | patchPath selects_body => exact ⟨_, .patchPath selects_body, .refl _⟩
  -- In all other places a filter with a selection has an attribute or a literal.
  | valuePathParent inside | patchPathParent inside | presence inside | comparison inside
  | matching inside =>
    cases selects
    cases inside
  | comparisonOperand inside =>
    cases selects with
    | comparison known compared =>
      cases inside <;> cases compared

namespace Target

open Directory

/-- The order of operands does not change what is selected. With the operands of one connective
exchanged, a filter that has a query has one again, over the same tables and with the same arguments
but for their order, and it returns the same rows of every database. -/
theorem query_of_swap {target : Target} {filter other : Filter} {query : Query}
    (made : target.query filter = .ok query) (swap : filter.Swap other) :
    ∃ swapped, target.query other = .ok swapped ∧
      (swapped.tables target.flavour).Perm (query.tables target.flavour) ∧
      swapped.arguments.Perm query.arguments ∧
      ∀ {Value : Type u} (database : Database Value) (predicates : Predicates Value)
        (row : Row Value), swapped.Returns target.flavour database predicates row ↔
          query.Returns target.flavour database predicates row := by
  obtain ⟨selection, selects, rfl⟩ := query_eq_ok_iff.1 made
  obtain ⟨swapped, selects_other, alike⟩ := selects.swap swap
  refine ⟨_, query_eq_ok_iff.2 ⟨swapped, selects_other, rfl⟩, ?_, alike.arguments, ?_⟩
  · rw [Selection.tables_query, Selection.tables_query,
      List.perm_ext_iff_of_nodup selects_other.nodup_joins selects.nodup_joins]
    exact alike.mem_joins
  · intro Value database predicates row
    exact alike.returns_iff

/-- The user has no mail address at home: the two tests of an address can be exchanged inside the
value path and the negation around it, although one of them is unknown of the address at work. -/
theorem query_of_swap_directory :
    let ofType : Filter := .comparison (.attr "type") .equal (.text "home")
    let ofValue : Filter := .comparison (.attr "value") .equal (.text "user")
    let filter : Filter := .negation (.valuePath (.attr "emails")
      (.logical ofType .conjunction ofValue))
    let other : Filter := .negation (.valuePath (.attr "emails")
      (.logical ofValue .conjunction ofType))
    filter.Swap other ∧ ∃ query swapped, Directory.target.query filter = .ok query ∧
      Directory.target.query other = .ok swapped ∧
      query.arguments = [.text "home", .text "user"] ∧
      swapped.arguments = [.text "user", .text "home"] ∧
      swapped.tables .postgres = ["emails"] ∧
      query.Returns .postgres (database [mail]) predicates user ∧
      swapped.Returns .postgres (database [mail]) predicates user := by
  intro ofType ofValue filter other
  have swap : filter.Swap other := .negation (.valuePath .here)
  let ofHome : Condition := .comparison ⟨some "emails", "type"⟩ .equal (.text "home")
  let ofUser : Condition := .comparison ⟨some "emails", "value"⟩ .equal (.text "user")
  let selection : Selection := ⟨.negation (.logical ofHome .conjunction ofUser), ["emails"]⟩
  have made : Directory.target.query filter =
      .ok (selection.query Directory.target.root Directory.target.flavour) :=
    query_eq_ok_iff.2 ⟨selection, selects_of_select rfl, rfl⟩
  obtain ⟨swapped, made_other, tables, -, returns⟩ := query_of_swap made swap
  have arguments : swapped.arguments = [.text "user", .text "home"] := by
    obtain rfl := Except.ok.inj made_other
    rfl
  have joined : swapped.tables .postgres = ["emails"] := by
    rw [selection.tables_query] at tables
    exact List.perm_singleton.1 tables
  have returned : (selection.query Directory.target.root Directory.target.flavour).Returns
      .postgres (database [mail]) predicates user :=
    Selection.returns_query_iff.2 ⟨_, rfl, spans_mail, rfl⟩
  exact ⟨swap, _, swapped, made, made_other, rfl, arguments, joined, returned,
    (returns _ _ _).2 returned⟩

end Target

end Sql

end ResourceFilter
