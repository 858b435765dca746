import Mathlib.Data.List.Forall2
import ResourceFilter.Proofs.Sql.Scope
import ResourceFilter.Proofs.Sql.Selects
import ResourceFilter.Proofs.Sql.Statement

/-! # Placeholders and their arguments

The text of a query and its arguments are put together separately. They meet at the question marks
outside of delimited names: from left to right, each stands behind the column and the operator of
one test of the filter, and the argument of the same number is the value of that test.
-/

set_option autoImplicit false

namespace ResourceFilter.Sql

/-- The texts in front of the question marks outside of delimited names, of which one is open or
not. A doubled quote ends a name and opens it again. -/
def placeholdersFrom (isOpen : Bool) (front : List Char) : List Char → List (List Char)
  | [] => []
  | c :: rest =>
    if c = '"' then placeholdersFrom (!isOpen) (front ++ [c]) rest
    else if c = '?' ∧ isOpen = false then front :: placeholdersFrom isOpen (front ++ [c]) rest
    else placeholdersFrom isOpen (front ++ [c]) rest

/-- The placeholders of a query, each as the text in front of it. -/
def placeholders (text : String) : List (List Char) :=
  placeholdersFrom false [] text.toList

/-- Behind the text in front of a placeholder there is a question mark. -/
theorem prefix_of_mem_placeholdersFrom {isOpen : Bool} {before rest front : List Char}
    (found : front ∈ placeholdersFrom isOpen before rest) :
    front ++ ['?'] <+: before ++ rest := by
  induction rest generalizing isOpen before with
  | nil => cases found
  | cons c more ih =>
    have later {state : Bool} (mem : front ∈ placeholdersFrom state (before ++ [c]) more) :
        front ++ ['?'] <+: before ++ c :: more := by
      have next := ih mem
      rwa [List.append_assoc] at next
    unfold placeholdersFrom at found
    split at found
    · exact later found
    split at found
    next mark =>
      rcases List.mem_cons.1 found with rfl | mem
      · rw [mark.1]
        exact ⟨more, by simp⟩
      · exact later mem
    · exact later found

/-- A test of a column against a value. -/
structure Binding where
  column : Column
  operator : String
  argument : Argument
  deriving DecidableEq, Repr

/-- What a query writes in front of the placeholder of a test. -/
def Binding.lead (binding : Binding) : List Char :=
  '(' :: ((columnText binding.column).toList ++ ' ' :: (binding.operator.toList ++ [' ']))

/-- What introduces the test is right in front of the placeholder. -/
def Binding.IsBehind (binding : Binding) (front : List Char) : Prop :=
  binding.lead <:+ front

/-- The question mark behind the front part of a text is the placeholder of the test. -/
def Binding.IsIn (text : String) (front : List Char) (binding : Binding) : Prop :=
  front ++ ['?'] <+: text.toList ∧ binding.IsBehind front

/-- The value of a literal, with its type. There is none for no value. -/
def literalArgument? : Filter → Option Argument
  | .text value => some (.text value)
  | .number value => some (.integer value)
  | .boolean value => some (.boolean value)
  | _ => none

/-- The tests of a filter against a value, from left to right, with their columns in a scope. -/
def bindings (mapping : ColumnMapping) (flavour : Flavour) (scope : Option String) :
    Filter → List Binding
  | .comparison (.attr path) op operand =>
    match mapping path, literalArgument? operand with
    | some column, some argument => [⟨column.within scope, op.symbol, argument⟩]
    | _, _ => []
  | .matching (.attr path) op value =>
    match mapping path with
    | some column => [⟨column.within scope, flavour.patternOperator, .text (op.pattern value)⟩]
    | none => []
  | .logical left _ right =>
    bindings mapping flavour scope left ++ bindings mapping flavour scope right
  | .group body => bindings mapping flavour scope body
  | .negation body => bindings mapping flavour scope body
  | .valuePath (.attr path) body => bindings mapping flavour (some (dropSchema path)) body
  | .patchPath (.attr path) body _ => bindings mapping flavour (some (dropSchema path)) body
  | _ => []

/-- The tests of a condition against a value, from left to right. -/
def Condition.bindings (flavour : Flavour) : Condition → List Binding
  | isNull _ => []
  | isNotNull _ => []
  | comparison column op argument => [⟨column, op.symbol, argument⟩]
  | matching column pattern => [⟨column, flavour.patternOperator, .text pattern⟩]
  | logical left _ right => left.bindings flavour ++ right.bindings flavour
  | negation body => body.bindings flavour

/-! ### From filters to conditions -/

variable {flavour : Flavour}

/-- The arguments of a condition are the values of its tests. -/
theorem Condition.arguments_eq (condition : Condition) :
    condition.arguments = (condition.bindings flavour).map Binding.argument := by
  induction condition with
  | isNull | isNotNull | comparison | matching => rfl
  | logical left op right left_ih right_ih => simp [arguments, bindings, left_ih, right_ih]
  | negation body ih => exact ih

/-- The test that a comparison comes to has the value that the filter compares with. -/
theorem bindings_comparison {mapping : ColumnMapping} {scope : Option String} {path : String}
    {column : Column} {op : Comparison} {operand : Filter} {condition : Condition}
    (known : mapping path = some column)
    (compared : comparisonOf column op operand = .ok condition) :
    bindings mapping flavour scope (.comparison (.attr path) op operand) =
      (condition.within scope).bindings flavour := by
  have inScope : comparisonOf (column.within scope) op operand = .ok (condition.within scope) := by
    rw [comparisonOf_within, compared]
    rfl
  unfold bindings
  rw [known]
  cases operand with
  | text | number | boolean =>
    rw [← Except.ok.inj inScope]
    rfl
  | attr word =>
    unfold comparisonOf at inScope
    dsimp only at inScope
    split at inScope
    · cases op with
      | equal | notEqual =>
        rw [← Except.ok.inj inScope]
        rfl
      | _ => cases inScope
    · cases inScope
  | _ => cases inScope

/-- The tests of a filter are those of the condition that it selects by. -/
theorem Selects.bindings_eq {root : String} {mapping : ColumnMapping} {filter : Filter}
    {selection : Selection} (selects : Selects root mapping filter selection)
    (scope : Option String) :
    bindings mapping flavour scope filter =
      (selection.condition.within scope).bindings flavour := by
  -- The scope is general, since a value path puts its own table in place of it.
  induction selects generalizing scope with
  | presence known =>
    rw [Selection.condition_ofTest, Condition.within_isNotNull]
    rfl
  | comparison known compared =>
    rw [Selection.condition_ofTest]
    exact bindings_comparison known compared
  | matching known =>
    rw [Selection.condition_ofTest, Condition.within_matching]
    unfold bindings
    rw [known]
    rfl
  | logical _ _ left_ih right_ih =>
    unfold bindings Selection.combine
    rw [left_ih, right_ih, Condition.within_logical]
    rfl
  | group _ ih => exact ih scope
  | negation _ ih =>
    unfold bindings Selection.negate
    rw [ih, Condition.within_negation]
    rfl
  | valuePath _ ih | patchPath _ ih =>
    unfold bindings Selection.within
    rw [ih, Condition.qualify_within]
    rfl

/-! ### Placeholders -/

/-- Wherever it stands outside of names, a piece of text has the placeholders of the given tests. -/
def Binds (text : List Char) (found : List Binding) : Prop :=
  ∀ front rest, ∃ places,
    placeholdersFrom false front (text ++ rest) =
      places ++ placeholdersFrom false (front ++ text) rest ∧
    List.Forall₂ (fun front binding => binding.IsBehind front) places found

/-- Pieces of text that follow each other have their placeholders in order. -/
theorem Binds.append {text more : List Char} {found others : List Binding}
    (first : Binds text found) (second : Binds more others) :
    Binds (text ++ more) (found ++ others) := by
  intro front rest
  obtain ⟨places, split, aligned⟩ := first front (more ++ rest)
  obtain ⟨morePlaces, moreSplit, moreAligned⟩ := second (front ++ text) rest
  refine ⟨places ++ morePlaces, ?_, List.rel_append aligned moreAligned⟩
  rw [List.append_assoc, split, moreSplit, List.append_assoc, List.append_assoc]

/-- Text without placeholders in front adds none. -/
theorem Binds.nil_append {text more : List Char} {found : List Binding}
    (first : Binds text []) (second : Binds more found) : Binds (text ++ more) found :=
  first.append second

/-- Text without placeholders at the end adds none. -/
theorem Binds.append_nil {text more : List Char} {found : List Binding}
    (first : Binds text found) (second : Binds more []) : Binds (text ++ more) found := by
  have both := first.append second
  rwa [List.append_nil] at both

/-- Whether a character has nothing to do with names and placeholders. -/
def isPlain (c : Char) : Bool :=
  c ≠ '"' && c ≠ '?'

/-- No text has no placeholders. -/
theorem binds_nil : Binds [] [] := by
  intro front rest
  exact ⟨[], by simp, .nil⟩

/-- A character other than a quote and a question mark adds no placeholder. -/
theorem Binds.cons {c : Char} {text : List Char} {found : List Binding}
    (plain : isPlain c = true) (behind : Binds text found) : Binds (c :: text) found := by
  obtain ⟨notQuote, notMark⟩ : c ≠ '"' ∧ c ≠ '?' := by simpa [isPlain] using plain
  have single : Binds [c] [] := by
    intro front rest
    refine ⟨[], ?_, .nil⟩
    rw [List.singleton_append, placeholdersFrom, if_neg notQuote,
      if_neg (fun both => notMark both.1)]
    rfl
  exact single.nil_append behind

/-- Text without quotes and question marks has no placeholders. -/
theorem binds_plain {text : List Char} (plain : text.all isPlain = true) : Binds text [] := by
  induction text with
  | nil => exact binds_nil
  | cons c more ih =>
    rw [List.all_cons, Bool.and_eq_true] at plain
    exact .cons plain.1 (ih plain.2)

/-- A quote changes whether what follows is part of a name. -/
theorem placeholdersFrom_quote (isOpen : Bool) (front rest : List Char) :
    placeholdersFrom isOpen front ('"' :: rest) =
      placeholdersFrom (!isOpen) (front ++ ['"']) rest := by
  rw [placeholdersFrom, if_pos rfl]

/-- Within a name there are no placeholders, and the doubled quotes in it do not end it. -/
theorem placeholdersFrom_doubled (name front rest : List Char) :
    placeholdersFrom true front (Text.doubled name ++ rest) =
      placeholdersFrom true (front ++ Text.doubled name) rest := by
  induction name generalizing front with
  | nil => simp [Text.doubled]
  | cons c more ih =>
    by_cases quote : c = '"'
    · subst quote
      have twice : Text.doubled ('"' :: more) = '"' :: '"' :: Text.doubled more := rfl
      rw [twice, List.cons_append, List.cons_append, placeholdersFrom_quote,
        placeholdersFrom_quote, Bool.not_true, Bool.not_false, ih]
      simp
    · rw [doubled_cons_of_ne quote, List.cons_append, placeholdersFrom, if_neg quote,
        if_neg (fun both => Bool.noConfusion both.2), ih]
      simp

/-- A delimited name has no placeholders, whatever it holds. -/
theorem binds_delimited (name : String) : Binds (Text.delimited name).toList [] := by
  intro front rest
  refine ⟨[], ?_, .nil⟩
  rw [toList_delimited, List.cons_append, List.append_assoc, List.singleton_append,
    placeholdersFrom_quote, Bool.not_false, placeholdersFrom_doubled, placeholdersFrom_quote,
    Bool.not_true]
  simp

/-- The text of a column has no placeholders, whatever its names hold. -/
theorem binds_columnText (column : Column) : Binds (columnText column).toList [] := by
  obtain ⟨table, name⟩ := column
  cases table with
  | none =>
    show Binds (Text.delimited name).toList []
    exact binds_delimited name
  | some table =>
    rw [toList_columnText]
    exact (binds_delimited table).nil_append (.cons (by decide) (binds_delimited name))

/-- The symbol of a comparison is no placeholder. -/
theorem binds_symbol (op : Comparison) : Binds op.symbol.toList [] := by
  cases op <;> exact binds_plain (by decide)

/-- The symbol of a connective is no placeholder. -/
theorem binds_connective (op : Connective) : Binds op.symbol.toList [] := by
  cases op <;> exact binds_plain (by decide)

/-- The operator of patterns is no placeholder. -/
theorem binds_patternOperator : Binds flavour.patternOperator.toList [] := by
  cases flavour <;> exact binds_plain (by decide)

/-- The question mark behind what introduces a test is the placeholder of that test. -/
theorem binds_lead (binding : Binding) (silent : Binds binding.operator.toList []) :
    Binds (binding.lead ++ ['?']) [binding] := by
  have lead : Binds binding.lead [] :=
    .cons (by decide) ((binds_columnText binding.column).nil_append
      (.cons (by decide) (silent.nil_append (binds_plain (by decide)))))
  intro front rest
  obtain ⟨places, split, none⟩ := lead front ('?' :: rest)
  cases none
  refine ⟨[front ++ binding.lead], ?_, .cons (List.suffix_append _ _) .nil⟩
  rw [List.append_assoc, List.singleton_append, split, List.nil_append, placeholdersFrom,
    if_neg (by decide), if_pos ⟨rfl, rfl⟩, List.append_assoc]
  rfl

/-- A condition between parentheses has the placeholders of its tests. -/
theorem binds_parenthesized (condition : Condition) :
    Binds ('(' :: ((condition.text flavour).toList ++ [')'])) (condition.bindings flavour) := by
  have closing : Binds [')'] [] := binds_plain (by decide)
  induction condition with
  | isNull column =>
    rw [toList_isNull]
    exact .cons (by decide)
      (((binds_columnText column).nil_append (binds_plain (by decide))).append_nil closing)
  | isNotNull column =>
    rw [toList_isNotNull]
    exact .cons (by decide)
      (((binds_columnText column).nil_append (binds_plain (by decide))).append_nil closing)
  | comparison column op argument =>
    have written : '(' :: (((Condition.comparison column op argument).text flavour).toList ++
        [')']) = (Binding.lead ⟨column, op.symbol, argument⟩ ++ ['?']) ++ [')'] := by
      simp [toList_comparison, Binding.lead]
    rw [written]
    exact (binds_lead ⟨column, op.symbol, argument⟩ (binds_symbol op)).append_nil closing
  | matching column pattern =>
    have written : '(' :: (((Condition.matching column pattern).text flavour).toList ++ [')']) =
        (Binding.lead ⟨column, flavour.patternOperator, .text pattern⟩ ++ ['?']) ++ [')'] := by
      simp [toList_matching, Binding.lead]
    rw [written]
    exact (binds_lead ⟨column, flavour.patternOperator, .text pattern⟩
      binds_patternOperator).append_nil closing
  | logical left op right left_ih right_ih =>
    rw [toList_logical]
    exact .cons (by decide) ((left_ih.append (.cons (by decide) ((binds_connective op).nil_append
      (.cons (by decide) right_ih)))).append_nil closing)
  | negation body ih =>
    rw [toList_negation]
    exact .cons (by decide) (((binds_plain (by decide)).nil_append
      (.cons (by decide) ih)).append_nil closing)

/-- Joins have no placeholders, whatever their tables are called. -/
theorem binds_joins (root : String) (tables : List String) :
    Binds (String.join (tables.map (joinText root))).toList [] := by
  induction tables with
  | nil => exact binds_nil
  | cons table more ih =>
    rw [toList_joins, toList_joinText]
    refine Binds.append_nil ?_ ih
    refine .cons (by decide) ((binds_plain (by decide)).nil_append ?_)
    refine .cons (by decide) ((binds_plain (by decide)).nil_append ?_)
    refine .cons (by decide) ((binds_delimited table).nil_append ?_)
    refine .cons (by decide) ((binds_plain (by decide)).nil_append ?_)
    refine .cons (by decide) ((binds_columnText _).nil_append ?_)
    refine .cons (by decide) ((binds_plain (by decide)).nil_append ?_)
    exact .cons (by decide) (binds_columnText _)

/-- The placeholders of a whole text are those of the tests that it binds. -/
theorem Binds.isIn_placeholders {text : String} {found : List Binding}
    (whole : Binds text.toList found) :
    List.Forall₂ (Binding.IsIn text) (placeholders text) found := by
  obtain ⟨places, split, aligned⟩ := whole [] []
  rw [List.append_nil] at split
  have ended : placeholdersFrom false ([] ++ text.toList) [] = [] := rfl
  rw [ended, List.append_nil] at split
  refine (List.forall₂_and_left _ _).2 ⟨?_, ?_⟩
  · intro front mem
    exact prefix_of_mem_placeholdersFrom mem
  · unfold placeholders
    rw [split]
    exact aligned

/-- The placeholders of a query are those of the tests of its condition. -/
theorem Selection.binds_query (root : String) (flavour : Flavour) (selection : Selection) :
    Binds (selection.query root flavour).text.toList (selection.condition.bindings flavour) := by
  rw [toList_query]
  refine (binds_plain (by decide)).nil_append ?_
  refine .cons (by decide) ((binds_plain (by decide)).nil_append ?_)
  refine .cons (by decide) ((binds_plain (by decide)).nil_append ?_)
  refine .cons (by decide) ((binds_delimited root).nil_append ?_)
  refine (binds_joins root selection.joins).nil_append ?_
  refine .cons (by decide) ((binds_plain (by decide)).nil_append ?_)
  exact .cons (by decide) (binds_parenthesized selection.condition)

/-- The placeholders of a query and its arguments belong to the tests of its filter against values,
one each and in the same order. -/
theorem Target.placeholders_of_query {target : Target} {filter : Filter} {query : Query}
    (made : target.query filter = .ok query) :
    (placeholders query.text).length = query.arguments.length ∧
    List.Forall₂ (Binding.IsIn query.text) (placeholders query.text)
      (bindings target.mapping target.flavour none filter) ∧
    query.arguments =
      (bindings target.mapping target.flavour none filter).map Binding.argument := by
  obtain ⟨selection, selected, same⟩ := bind_eq_ok made
  cases same
  have tests : bindings target.mapping target.flavour none filter =
      selection.condition.bindings target.flavour :=
    (select_eq_ok_iff.1 selected).bindings_eq none
  have aligned := (selection.binds_query target.root target.flavour).isIn_placeholders
  have values : selection.condition.arguments =
      (selection.condition.bindings target.flavour).map Binding.argument :=
    selection.condition.arguments_eq
  rw [tests]
  refine ⟨?_, aligned, values⟩
  calc (placeholders (selection.query target.root target.flavour).text).length
      = (selection.condition.bindings target.flavour).length := aligned.length_eq
    _ = ((selection.condition.bindings target.flavour).map Binding.argument).length :=
        (List.length_map _).symm
    _ = selection.condition.arguments.length := by rw [values]

/-- Question marks in names are no placeholders, and a test for no value has none. -/
theorem Target.placeholders_of_query_marks :
    let target : Target := ⟨"a?", fun path => some ⟨none, path ++ "?\""⟩, .sqlite, by decide⟩
    let filter : Filter := .logical
      (.valuePath (.attr "b") (.comparison (.attr "x") .less (.number 1))) .conjunction
      (.logical (.comparison (.attr "y") .equal .null) .disjunction
        (.matching (.attr "z") .startsWith "?"))
    ∃ query, target.query filter = .ok query ∧ (placeholders query.text).length = 2 ∧
      query.arguments = [.integer 1, .text "^\\?"] := by
  intro target filter
  have made : ∃ query, target.query filter = .ok query := ⟨_, rfl⟩
  obtain ⟨query, made⟩ := made
  obtain ⟨count, -, values⟩ := placeholders_of_query made
  have evaluated : (bindings target.mapping target.flavour none filter).map Binding.argument =
      [.integer 1, .text "^\\?"] := by decide +kernel
  rw [evaluated] at values
  rw [values] at count
  exact ⟨query, made, count, values⟩

end ResourceFilter.Sql
