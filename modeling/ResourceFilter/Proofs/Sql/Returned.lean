import Mathlib.Tactic.ByContra
import Mathlib.Tactic.Choose
import ResourceFilter.Proofs.Sql.Evaluation

/-! # Connectives and the rows they return

A connective joins the tables of both its sides, and every joined table demands a partner of the
root row. So the query of a conjunction returns only what either side returns. The query of a
disjunction does not return all of it: a row that one side returns also needs a partner in each
table of the other side.
-/

set_option autoImplicit false

universe u

namespace ResourceFilter.Sql

/-! ### Fewer tables and more of them -/

section Combinations

variable {Value : Type u} {database : Database Value} {predicates : Predicates Value}
  {root : String} {mapping : ColumnMapping} {flavour : Flavour} {row : Row Value}

namespace Combination

variable {combination : Combination Value} {tables : List String}

/-- The combination without the rows of all other tables. -/
def restrict (tables : List String) (combination : Combination Value) : Combination Value where
  row := combination.row
  partner? table := if table ∈ tables then combination.partner? table else none

/-- The combination with further rows, for tables that it has none of. -/
def extend (more : List String) (partner : String → Row Value) (combination : Combination Value) :
    Combination Value where
  row := combination.row
  partner? table :=
    (combination.partner? table).or (if table ∈ more then some (partner table) else none)

/-- A restricted combination has the rows of the tables it is restricted to. -/
theorem partner?_restrict {table : String} (mem : table ∈ tables) :
    (combination.restrict tables).partner? table = combination.partner? table :=
  if_pos mem

/-- All columns of a listed table are in sight. -/
theorem inSight_of_mem {table : String} (mem : table ∈ tables) (name : String) :
    Column.InSight root tables ⟨some table, name⟩ := by
  intro other names
  cases names
  exact .inr mem

/-- Restricting a combination changes nothing for the columns in sight. -/
theorem value_restrict {column : Column} (inSight : column.InSight root tables) :
    (combination.restrict tables).value root column = combination.value root column := by
  have same : ∀ table ∈ tables,
      (combination.restrict tables).partner? table = combination.partner? table := by
    intro table mem
    exact partner?_restrict mem
  exact value_congr same rfl inSight

/-- A combination that spans some tables spans fewer of them when it is restricted to those. -/
theorem Spans.restrict (spans : combination.Spans database root tables) {fewer : List String}
    (among : ∀ table ∈ fewer, table ∈ tables) :
    (combination.restrict fewer).Spans database root fewer := by
  refine ⟨spans.row_mem, ?_, ?_⟩
  · intro table mem
    obtain ⟨partner, partner_mem, found, agree⟩ := spans.joined table (among table mem)
    refine ⟨partner, partner_mem, ?_, ?_⟩
    · rw [partner?_restrict mem]
      exact found
    · rw [value_restrict (inSight_of_mem mem _)]
      exact agree
  · intro table found
    by_contra other
    simp [Combination.restrict, other] at found

/-- A combination of some tables has the rows of a wider one, if its root row has partners there. -/
theorem Spans.extend (spans : combination.Spans database root tables) {more : List String}
    (apart : root ∉ more) {partner : String → Row Value}
    (refers : ∀ table ∈ more, partner table ∈ database table ∧
      Agree (partner table (root ++ "_id")) (combination.row "id")) :
    (combination.extend more partner).Spans database root (addTables tables more) ∧
      ∀ table ∈ tables,
        (combination.extend more partner).partner? table = combination.partner? table := by
  have kept : ∀ table ∈ tables,
      (combination.extend more partner).partner? table = combination.partner? table := by
    intro table mem
    obtain ⟨old, -, found, -⟩ := spans.joined table mem
    simp [Combination.extend, found]
  refine ⟨⟨spans.row_mem, ?_, ?_⟩, kept⟩
  · intro table mem
    -- A table that was spanned before keeps its row, also if it is among the further ones.
    by_cases known : table ∈ tables
    · obtain ⟨old, old_mem, found, agree⟩ := spans.joined table known
      refine ⟨old, old_mem, ?_, ?_⟩
      · rw [kept table known]
        exact found
      · rw [value_congr kept rfl (inSight_of_mem known _)]
        exact agree
    · have fresh := (mem_addTables.1 mem).resolve_left known
      obtain ⟨partner_mem, agree⟩ := refers table fresh
      have missing : combination.partner? table = none := by
        by_contra present
        exact known (spans.listed table (Option.isSome_iff_ne_none.2 present))
      have found : (combination.extend more partner).partner? table = some (partner table) := by
        simp [Combination.extend, missing, fresh]
      have notRoot : table ≠ root := by
        rintro rfl
        exact apart fresh
      refine ⟨partner table, partner_mem, found, ?_⟩
      rw [value_partner notRoot found]
      exact agree
  · intro table found
    apply mem_addTables.2
    by_cases old : (combination.partner? table).isSome
    · exact .inl (spans.listed table old)
    · right
      by_contra other
      have none : combination.partner? table = none := by simpa using old
      simp [Combination.extend, none, other] at found

/-- Which tables a combination spans is a matter of membership, not of order. -/
theorem Spans.congr (spans : combination.Spans database root tables) {others : List String}
    (same : ∀ table, table ∈ tables ↔ table ∈ others) :
    combination.Spans database root others :=
  ⟨spans.row_mem, fun table mem => spans.joined table ((same table).2 mem),
    fun table found => (same table).1 (spans.listed table found)⟩

/-- Where a combination spans a table, the root row has a partner there. -/
theorem Spans.hasPartner (spans : combination.Spans database root tables) {table : String}
    (mem : table ∈ tables) (apart : root ∉ tables) :
    HasPartner database root table combination.row := by
  obtain ⟨partner, partner_mem, found, agree⟩ := spans.joined table mem
  have notRoot : table ≠ root := by
    rintro rfl
    exact apart mem
  rw [value_partner notRoot found] at agree
  exact ⟨partner, partner_mem, agree⟩

end Combination

/-! ### Conjunctions and disjunctions -/

open Combination

/-- A selection whose condition holds of a combination returns its root row, whatever further tables
the combination spans. -/
theorem Selects.returns_of_spans {filter : Filter} {selection : Selection}
    (selects : Selects root mapping filter selection) {combination : Combination Value}
    {tables : List String} (spans : combination.Spans database root tables)
    (among : ∀ table ∈ selection.joins, table ∈ tables)
    (holds : selection.condition.truth predicates (combination.value root) = .holds) :
    (selection.query root flavour).Returns flavour database predicates combination.row := by
  refine Selection.returns_query_iff.2
    ⟨combination.restrict selection.joins, rfl, spans.restrict among, ?_⟩
  rw [← holds]
  apply Condition.truth_congr
  intro column mem
  exact value_restrict (selects.inSight column mem)

/-- With partners of its root row in more tables, a selection that returns a row has a combination
with that row that spans these tables too. -/
theorem Selects.spans_of_returns {filter : Filter} {selection : Selection}
    (selects : Selects root mapping filter selection)
    (returned : (selection.query root flavour).Returns flavour database predicates row)
    {more : List String} (apart : root ∉ more)
    (partners : ∀ table ∈ more, HasPartner database root table row) :
    ∃ combination : Combination Value, combination.row = row ∧
      combination.Spans database root (addTables selection.joins more) ∧
      selection.condition.truth predicates (combination.value root) = .holds := by
  obtain ⟨combination, rfl, spans, holds⟩ := Selection.returns_query_iff.1 returned
  choose! partner refers using partners
  obtain ⟨wider, kept⟩ := spans.extend apart refers
  refine ⟨combination.extend more partner, rfl, wider, ?_⟩
  rw [← holds]
  apply Condition.truth_congr
  intro column mem
  exact value_congr kept rfl (selects.inSight column mem)

variable {left right : Filter} {first second : Selection}

/-- What a conjunction returns, both its sides return. -/
theorem Selects.returns_of_conjunction (selects_left : Selects root mapping left first)
    (selects_right : Selects root mapping right second)
    (returned : ((first.combine .conjunction second).query root flavour).Returns flavour database
      predicates row) :
    (first.query root flavour).Returns flavour database predicates row ∧
      (second.query root flavour).Returns flavour database predicates row := by
  obtain ⟨combination, rfl, spans, holds⟩ := Selection.returns_query_iff.1 returned
  obtain ⟨first_holds, second_holds⟩ := Truth.connect_conjunction.1 holds
  constructor
  · apply selects_left.returns_of_spans spans _ first_holds
    intro table mem
    exact mem_addTables.2 (.inl mem)
  · apply selects_right.returns_of_spans spans _ second_holds
    intro table mem
    exact mem_addTables.2 (.inr mem)

/-- What a disjunction returns, one of its sides returns, and there are partners in the tables of
the other side. -/
theorem Selects.returns_disjunction (selects_left : Selects root mapping left first)
    (selects_right : Selects root mapping right second)
    (apart_left : root ∉ first.joins) (apart_right : root ∉ second.joins) :
    ((first.combine .disjunction second).query root flavour).Returns flavour database predicates
        row ↔
      ((first.query root flavour).Returns flavour database predicates row ∧
        ∀ table ∈ second.joins, HasPartner database root table row) ∨
      ((second.query root flavour).Returns flavour database predicates row ∧
        ∀ table ∈ first.joins, HasPartner database root table row) := by
  have in_left : ∀ table ∈ first.joins, table ∈ addTables first.joins second.joins := by
    intro table mem
    exact mem_addTables.2 (.inl mem)
  have in_right : ∀ table ∈ second.joins, table ∈ addTables first.joins second.joins := by
    intro table mem
    exact mem_addTables.2 (.inr mem)
  constructor
  · intro returned
    obtain ⟨combination, rfl, spans, holds⟩ := Selection.returns_query_iff.1 returned
    have apart : root ∉ addTables first.joins second.joins := by
      intro mem
      exact (mem_addTables.1 mem).elim apart_left apart_right
    rcases Truth.connect_disjunction.1 holds with first_holds | second_holds
    · left
      refine ⟨selects_left.returns_of_spans spans in_left first_holds, ?_⟩
      intro table mem
      exact spans.hasPartner (in_right table mem) apart
    · right
      refine ⟨selects_right.returns_of_spans spans in_right second_holds, ?_⟩
      intro table mem
      exact spans.hasPartner (in_left table mem) apart
  · rintro (⟨returned, partners⟩ | ⟨returned, partners⟩)
    · obtain ⟨combination, same_row, spans, holds⟩ :=
        selects_left.spans_of_returns returned apart_right partners
      exact Selection.returns_query_iff.2
        ⟨combination, same_row, spans, Truth.connect_disjunction.2 (.inl holds)⟩
    · obtain ⟨combination, same_row, spans, holds⟩ :=
        selects_right.spans_of_returns returned apart_left partners
      -- The joins of the left side come first in the query, so the wider combination is reordered.
      have swapped : combination.Spans database root (addTables first.joins second.joins) := by
        apply spans.congr
        intro table
        rw [mem_addTables, mem_addTables]
        exact or_comm
      exact Selection.returns_query_iff.2
        ⟨combination, same_row, swapped, Truth.connect_disjunction.2 (.inr holds)⟩

end Combinations

/-! ### A directory

One user with a title, whose mail addresses stand in a table of their own. -/

namespace Directory

/-- Queries over the users, by the standard mapping. -/
def target : Target := ⟨"users", .standard, .postgres, by decide⟩

/-- The only user, with the title of a chair. -/
def user : Row String := fun name => [("id", "1"), ("title", "chair")].lookup name

/-- A mail address of that user, for work. -/
def mail : Row String := fun name => [("users_id", "1"), ("type", "work")].lookup name

/-- A database of that user and the given mail addresses. -/
def database (mails : List (Row String)) : Database String := fun table =>
  if table = "users" then [user] else if table = "emails" then mails else []

/-- Comparisons hold between a text and the argument equal to it, and no pattern matches. -/
def predicates : Predicates String :=
  ⟨fun _ value argument => argument = .text value, fun _ _ => false⟩

/-- The user has a title. -/
def titled : Filter := .presence (.attr "title")

/-- The user has a mail address of the given type. -/
def mailed (type : String) : Filter :=
  .valuePath (.attr "emails") (.comparison (.attr "type") .equal (.text type))

/-- The selection of having a title, a condition on the root table. -/
def hasTitle : Selection := ⟨.isNotNull ⟨none, "title"⟩, []⟩

/-- The selection of a mail address of a type, a condition on the table that is joined for it. -/
def hasMail (type : String) : Selection :=
  ⟨.comparison ⟨some "emails", "type"⟩ .equal (.text type), ["emails"]⟩

/-- The filter for a title is selected as such. -/
theorem selects_titled : Selects target.root target.mapping titled hasTitle :=
  selects_of_select rfl

/-- The filter for a mail address is selected as such. -/
theorem selects_mailed (type : String) :
    Selects target.root target.mapping (mailed type) (hasMail type) :=
  selects_of_select rfl

/-- The user stands alone where nothing is joined. -/
theorem spans_user {mails : List (Row String)} :
    Combination.Spans (database mails) target.root [] ⟨user, fun _ => none⟩ := by
  refine ⟨List.mem_cons_self, ?_, ?_⟩
  · intro table mem
    cases mem
  · intro table found
    cases found

/-- The user stands beside the mail address where mail addresses are joined. -/
theorem spans_mail :
    Combination.Spans (database [mail]) target.root ["emails"]
      ⟨user, fun table => if table = "emails" then some mail else none⟩ := by
  refine ⟨List.mem_cons_self, ?_, ?_⟩
  · intro table mem
    obtain rfl := List.mem_singleton.1 mem
    exact ⟨mail, List.mem_cons_self, rfl, "1", rfl, rfl⟩
  · intro table found
    by_contra other
    rw [List.mem_singleton] at other
    simp [other] at found

/-- The user is returned for having a title, whatever mail addresses there are. -/
theorem returns_hasTitle {mails : List (Row String)} :
    (hasTitle.query target.root target.flavour).Returns .postgres (database mails) predicates user :=
  Selection.returns_query_iff.2 ⟨_, rfl, spans_user, rfl⟩

end Directory

namespace Target

open Directory

variable {target : Target} {left right : Filter}

/-- The query of a connective is that of its two selections combined. -/
theorem query_logical {first second : Selection} (op : Connective)
    (selects_left : Selects target.root target.mapping left first)
    (selects_right : Selects target.root target.mapping right second) :
    target.query (.logical left op right) =
      .ok ((first.combine op second).query target.root target.flavour) :=
  query_eq_ok_iff.2 ⟨_, .logical selects_left selects_right, rfl⟩

/-- A conjunction only narrows: whatever its query returns, the queries of both sides return. -/
theorem returns_both_of_conjunction {first second : Query}
    (made_left : target.query left = .ok first) (made_right : target.query right = .ok second) :
    ∃ both, target.query (.logical left .conjunction right) = .ok both ∧
      ∀ {Value : Type u} (database : Database Value) (predicates : Predicates Value)
        (row : Row Value), both.Returns target.flavour database predicates row →
          first.Returns target.flavour database predicates row ∧
            second.Returns target.flavour database predicates row := by
  obtain ⟨selection, selects_left, rfl⟩ := query_eq_ok_iff.1 made_left
  obtain ⟨other, selects_right, rfl⟩ := query_eq_ok_iff.1 made_right
  refine ⟨_, query_logical .conjunction selects_left selects_right, ?_⟩
  intro Value database predicates row returned
  exact selects_left.returns_of_conjunction selects_right returned

/-- The user with a title and a mail address at work is returned by all three queries. -/
theorem returns_both_of_conjunction_directory :
    ∃ first second both, Directory.target.query titled = .ok first ∧
      Directory.target.query (mailed "work") = .ok second ∧
      Directory.target.query (.logical titled .conjunction (mailed "work")) = .ok both ∧
      both.Returns .postgres (database [mail]) predicates user ∧
      first.Returns .postgres (database [mail]) predicates user ∧
      second.Returns .postgres (database [mail]) predicates user := by
  have made_left := query_eq_ok_iff.2 ⟨_, selects_titled, rfl⟩
  have made_right := query_eq_ok_iff.2 ⟨_, selects_mailed "work", rfl⟩
  have made := query_logical .conjunction selects_titled (selects_mailed "work")
  obtain ⟨both, made_both, narrows⟩ := returns_both_of_conjunction made_left made_right
  obtain rfl := Except.ok.inj (made.symm.trans made_both)
  have returned : ((hasTitle.combine .conjunction (hasMail "work")).query "users"
      .postgres).Returns .postgres (database [mail]) predicates user :=
    Selection.returns_query_iff.2 ⟨_, rfl, spans_mail, rfl⟩
  exact ⟨_, _, _, made_left, made_right, made, returned, narrows _ _ _ returned⟩

/-- What a disjunction returns: every row that one side returns, provided that the other side joins
no table in which the row has no partner. -/
theorem returns_disjunction_iff {first second : Query}
    (made_left : target.query left = .ok first) (made_right : target.query right = .ok second)
    (apart_left : target.root ∉ scopeTables left) (apart_right : target.root ∉ scopeTables right) :
    ∃ either, target.query (.logical left .disjunction right) = .ok either ∧
      ∀ {Value : Type u} (database : Database Value) (predicates : Predicates Value)
        (row : Row Value), either.Returns target.flavour database predicates row ↔
          (first.Returns target.flavour database predicates row ∧
            ∀ table ∈ second.tables target.flavour, HasPartner database target.root table row) ∨
          (second.Returns target.flavour database predicates row ∧
            ∀ table ∈ first.tables target.flavour, HasPartner database target.root table row) := by
  obtain ⟨selection, selects_left, rfl⟩ := query_eq_ok_iff.1 made_left
  obtain ⟨other, selects_right, rfl⟩ := query_eq_ok_iff.1 made_right
  refine ⟨_, query_logical .disjunction selects_left selects_right, ?_⟩
  intro Value database predicates row
  rw [selection.tables_query, other.tables_query]
  exact selects_left.returns_disjunction selects_right (selects_left.root_not_mem_joins apart_left)
    (selects_right.root_not_mem_joins apart_right)

/-- The user has no mail address at home, but one at work is enough of a partner. -/
theorem returns_disjunction_iff_directory :
    Directory.target.root ∉ scopeTables titled ∧
      Directory.target.root ∉ scopeTables (mailed "home") ∧
    ∃ first second either, Directory.target.query titled = .ok first ∧
      Directory.target.query (mailed "home") = .ok second ∧
      Directory.target.query (.logical titled .disjunction (mailed "home")) = .ok either ∧
      second.tables .postgres = ["emails"] ∧
      HasPartner (database [mail]) "users" "emails" user ∧
      either.Returns .postgres (database [mail]) predicates user := by
  have apart_left : Directory.target.root ∉ scopeTables titled := by decide
  have apart_right : Directory.target.root ∉ scopeTables (mailed "home") := by decide
  have made_left := query_eq_ok_iff.2 ⟨_, selects_titled, rfl⟩
  have made_right := query_eq_ok_iff.2 ⟨_, selects_mailed "home", rfl⟩
  obtain ⟨either, made, returns⟩ :=
    returns_disjunction_iff made_left made_right apart_left apart_right
  have partner : HasPartner (database [mail]) "users" "emails" user :=
    ⟨mail, List.mem_cons_self, "1", rfl, rfl⟩
  have tables := (hasMail "home").tables_query Directory.target.root Directory.target.flavour
  refine ⟨apart_left, apart_right, _, _, either, made_left, made_right, made, tables, partner, ?_⟩
  refine (returns (database [mail]) predicates user).2 (.inl ⟨returns_hasTitle, ?_⟩)
  intro table mem
  rw [tables] at mem
  obtain rfl := List.mem_singleton.1 mem
  exact partner

/-- A disjunction loses a row of one side if the other side joins a table without a partner. -/
theorem disjunction_loses_row :
    Directory.target.root ∉ scopeTables titled ∧
      Directory.target.root ∉ scopeTables (mailed "work") ∧
    ∃ first second either, Directory.target.query titled = .ok first ∧
      Directory.target.query (mailed "work") = .ok second ∧
      Directory.target.query (.logical titled .disjunction (mailed "work")) = .ok either ∧
      first.Returns .postgres (database []) predicates user ∧
      ¬either.Returns .postgres (database []) predicates user := by
  have made_left := query_eq_ok_iff.2 ⟨_, selects_titled, rfl⟩
  have made_right := query_eq_ok_iff.2 ⟨_, selects_mailed "work", rfl⟩
  have made := query_logical .disjunction selects_titled (selects_mailed "work")
  refine ⟨by decide, by decide, _, _, _, made_left, made_right, made, returns_hasTitle, ?_⟩
  intro lost
  obtain ⟨combination, -, spans, -⟩ := Selection.returns_query_iff.1 lost
  obtain ⟨partner, mem, -⟩ := spans.joined "emails" List.mem_cons_self
  cases mem

end Target

end ResourceFilter.Sql
