import ResourceFilter.Proofs.Grammar.Recognition
import ResourceFilter.Proofs.Sql.Whitelist
import ResourceFilter.Proofs.Token.Shape

/-! # Why filters that have been read are refused

A tree put together by hand can be refused for many reasons, a filter that has been read from a text
for two only: the mapping does not know an attribute that it tests, or it asks whether something is
smaller or larger than no value. `query_of_ofText` says so for all mappings. The standard mapping
knows every name but those that consist of a schema alone, so with it the reasons can be seen in the
filter.
-/

set_option autoImplicit false

namespace ResourceFilter

/-- The comparisons that ask for an order. -/
def orderings : List Comparison := [.greater, .greaterOrEqual, .less, .lessOrEqual]

/-- Whether nothing is left of a name without its schema: it begins with `urn:`, in any case, and
ends with a colon. -/
def IsSchema (path : String) : Prop :=
  (path.toList.take 4).map Char.toLower = ['u', 'r', 'n', ':'] ∧ path.toList.getLast? = some ':'

/-- Nothing stands behind the last mark exactly where the text is empty or ends with it. -/
theorem Text.afterLast_eq_nil_iff {mark : Char} {text : List Char} :
    afterLast mark text = [] ↔ text = [] ∨ text.getLast? = some mark := by
  have same : text = [] ↔ text.reverse = [] := List.reverse_eq_nil_iff.symm
  unfold afterLast
  rw [List.reverse_eq_nil_iff, List.getLast?_eq_head?_reverse, same]
  cases text.reverse with
  | nil => simp
  | cons last front => by_cases same : last = mark <;> simp [same]

/-- The standard mapping refuses no other names than schemas. -/
theorem ColumnMapping.standard_eq_none_iff {path : String} (named : path ≠ "") :
    standard path = none ↔ IsSchema path := by
  have some_chars : path.toList ≠ [] := by
    simpa using named
  unfold standard dropSchema IsSchema
  by_cases urn : (path.toList.take 4).map Char.toLower = ['u', 'r', 'n', ':']
  · rw [if_pos urn]
    simp only [String.ofList_eq_empty_iff, Text.afterLast_eq_nil_iff, some_chars, false_or, urn,
      true_and, ite_eq_left_iff, reduceCtorEq, imp_false, not_not]
  · rw [if_neg urn]
    simp only [named, urn, if_false, false_and, reduceCtorEq]

namespace Sql

/-- The comparisons of a filter from left to right, each by its operator and its right side. -/
def comparisons : Filter → List (Comparison × Filter)
  | .comparison _ op operand => [(op, operand)]
  | .logical left _ right => comparisons left ++ comparisons right
  | .group body => comparisons body
  | .negation body => comparisons body
  | .valuePath _ body => comparisons body
  | .patchPath _ body _ => comparisons body
  | _ => []

/-- What speaks against a filter whose parts stand where they belong. -/
inductive Refuses (mapping : ColumnMapping) (filter : Filter) : QueryError → Prop where
  | unknownAttribute {role : Role} {path : String} (mem : (role, path) ∈ selectors filter)
      (test : role ≠ .valuePath) (unknown : mapping path = none) :
      Refuses mapping filter (.unknownAttribute path)
  | orderedNull {op : Comparison} (mem : (op, Filter.null) ∈ comparisons filter)
      (order : op ∈ orderings) : Refuses mapping filter (.orderedNull op)

variable {root : String} {mapping : ColumnMapping}

/-- What speaks against a part of a filter speaks against the filter. -/
theorem Refuses.mono {part whole : Filter} {error : QueryError}
    (refuses : Refuses mapping part error)
    (tested : ∀ selector ∈ selectors part, selector ∈ selectors whole)
    (compared : ∀ pair ∈ comparisons part, pair ∈ comparisons whole) :
    Refuses mapping whole error := by
  cases refuses with
  | unknownAttribute mem test unknown => exact .unknownAttribute (tested _ mem) test unknown
  | orderedNull mem order => exact .orderedNull (compared _ mem) order

/-- An attribute has no column only if the mapping does not know it. -/
theorem columnOf_eq_error {role : Role} {path : String} {error : QueryError}
    (failed : columnOf mapping role (.attr path) = .error error) :
    mapping path = none ∧ error = .unknownAttribute path := by
  rcases bind_eq_error failed with name | ⟨path, isPath, looked⟩
  · cases name
  cases isPath
  cases unknown : mapping path with
  | none =>
    simp only [unknown] at looked
    cases looked
    exact ⟨rfl, rfl⟩
  | some column =>
    simp only [unknown] at looked
    cases looked

/-- A literal is refused only where no value is to be smaller or larger. -/
theorem comparisonOf_literal_eq_error {column : Column} {op : Comparison} {token : Token}
    {operand : Filter} {error : QueryError} (literal : Grammar.Literal token operand)
    (failed : comparisonOf column op operand = .error error) :
    operand = .null ∧ op ∈ orderings ∧ error = .orderedNull op := by
  cases literal with
  | text | integer | boolean => cases failed
  | null =>
    have isNull : Text.lowercase "null" = "null" := by decide
    unfold comparisonOf at failed
    dsimp only at failed
    rw [if_pos isNull] at failed
    cases op with
    | equal | notEqual => cases failed
    | _ =>
      cases failed
      exact ⟨rfl, by decide, rfl⟩

end Sql

namespace Grammar

open Sql

variable {patchPaths : Bool} {part : Part} {tokens : List Token} {filter : Filter}
  {root : String} {mapping : ColumnMapping}

/-- The attributes that a phrase selects by are names among its tokens. -/
theorem Phrase.name_mem (phrase : Phrase patchPaths part tokens filter) {role : Role}
    {path : String} (mem : (role, path) ∈ selectors filter) : .name path ∈ tokens := by
  induction phrase with
  | single _ ih => exact ih mem
  | link op _ _ front last =>
    rcases List.mem_append.1 mem with left | right
    · exact List.mem_append_left _ (front left)
    · exact List.mem_append_right _ (List.mem_cons_of_mem _ (last right))
  | group _ inside | negation _ inside => simp [inside mem]
  | comparison | matching | presence =>
    cases List.mem_singleton.1 mem
    exact List.mem_cons_self
  | valuePath _ _ inside | patchPath _ _ _ _ inside =>
    rcases List.mem_cons.1 mem with parent | deeper
    · cases parent
      exact List.mem_cons_self
    · simp [inside deeper]

/-- All that speaks against a phrase. -/
theorem Phrase.refuses (phrase : Phrase patchPaths part tokens filter) {error : QueryError}
    (failed : select root mapping filter = .error error) : Refuses mapping filter error := by
  induction phrase with
  | single _ ih => exact ih failed
  | link op _ _ front last =>
    rcases bind_eq_error failed with left | ⟨first, -, rest⟩
    · apply (front left).mono
      · exact fun _ mem => List.mem_append_left _ mem
      · exact fun _ mem => List.mem_append_left _ mem
    rcases bind_eq_error rest with right | ⟨second, -, combined⟩
    · apply (last right).mono
      · exact fun _ mem => List.mem_append_right _ mem
      · exact fun _ mem => List.mem_append_right _ mem
    · cases combined
  | group _ inside => exact (inside failed).mono (fun _ mem => mem) (fun _ mem => mem)
  | negation _ inside =>
    rcases bind_eq_error failed with body | ⟨inner, -, negated⟩
    · exact (inside body).mono (fun _ mem => mem) (fun _ mem => mem)
    · cases negated
  | comparison path op literal =>
    rcases bind_eq_error failed with subject | ⟨column, -, rest⟩
    · obtain ⟨unknown, rfl⟩ := columnOf_eq_error subject
      exact .unknownAttribute List.mem_cons_self Role.noConfusion unknown
    rcases bind_eq_error rest with operand | ⟨condition, -, tested⟩
    · obtain ⟨rfl, order, rfl⟩ := comparisonOf_literal_eq_error literal operand
      exact .orderedNull List.mem_cons_self order
    · cases tested
  | matching path op value =>
    rcases bind_eq_error failed with subject | ⟨column, -, tested⟩
    · obtain ⟨unknown, rfl⟩ := columnOf_eq_error subject
      exact .unknownAttribute List.mem_cons_self Role.noConfusion unknown
    · cases tested
  | presence path =>
    rcases bind_eq_error failed with subject | ⟨column, -, tested⟩
    · obtain ⟨unknown, rfl⟩ := columnOf_eq_error subject
      exact .unknownAttribute List.mem_cons_self Role.noConfusion unknown
    · cases tested
  | valuePath path _ inside | patchPath path _ _ _ inside =>
    -- The parent is an attribute, so only the body can be refused.
    rcases bind_eq_error failed with parent | ⟨table, -, rest⟩
    · cases parent
    rcases bind_eq_error rest with body | ⟨inner, -, within⟩
    · apply (inside body).mono
      · exact fun _ mem => List.mem_cons_of_mem _ mem
      · exact fun _ mem => mem
    · cases within

end Grammar

namespace Sql

/-- Where all parts of a filter stand where they belong, its comparisons have operands. -/
theorem isOperand_of_mem_comparisons {filter : Filter} (isCondition : IsCondition filter)
    {op : Comparison} {operand : Filter} (mem : (op, operand) ∈ comparisons filter) :
    IsOperand op operand := by
  induction filter with
  | comparison =>
    cases List.mem_singleton.1 mem
    exact isCondition.2
  | logical left _ right left_ih right_ih =>
    rcases List.mem_append.1 mem with inLeft | inRight
    · exact left_ih isCondition.1 inLeft
    · exact right_ih isCondition.2 inRight
  | group body ih | negation body ih => exact ih isCondition mem
  | valuePath parent body _ ih | patchPath parent body target _ ih _ => exact ih isCondition.2 mem
  | _ => cases mem

/-- No comparison that asks for an order takes the missing value as its operand. -/
theorem not_isOperand_null {op : Comparison} (order : op ∈ orderings) : ¬IsOperand op .null := by
  rintro ⟨-, rfl | rfl⟩ <;> exact absurd order (by decide)

/-- A filter with something speaking against it has no query. -/
theorem Refuses.not_exists_query {target : Target} {filter : Filter} {error : QueryError}
    (refuses : Refuses target.mapping filter error) :
    ¬∃ query, target.query filter = .ok query := by
  rw [Target.exists_query_iff]
  rintro ⟨isCondition, known⟩
  cases refuses with
  | unknownAttribute mem test unknown =>
    have found := known _ mem test
    rw [unknown] at found
    cases found
  | orderedNull mem order =>
    exact not_isOperand_null order (isOperand_of_mem_comparisons isCondition mem)

/-- A named root table and a flavour that there is make a target, over which queries are made. -/
theorem exists_target {root name : String} (named : root ≠ "")
    (supported : (Flavour.ofName? name).isSome) (mapping : ColumnMapping) :
    ∃ target : Target, target.mapping = mapping ∧
      ∀ filter, query root name mapping filter = target.query filter := by
  obtain ⟨flavour, found⟩ := Option.isSome_iff_exists.1 supported
  have made : Target.ofNames root name mapping = .ok ⟨root, mapping, flavour, named⟩ := by
    unfold Target.ofNames
    rw [found]
    exact dif_neg named
  refine ⟨⟨root, mapping, flavour, named⟩, rfl, ?_⟩
  intro filter
  unfold query
  rw [made]
  rfl

/-- Over a root table and for a flavour that there is, a filter that has been read from a text is
refused only for an attribute in a test that the mapping does not know, or for asking what is
smaller or larger than no value. With the standard mapping it is refused exactly if it does ask
that, or if an attribute in a test is a schema and nothing more. -/
theorem query_of_ofText {settings : List Bool} {text : String} {filter : Filter}
    (read : Filter.ofText (.ofSwitches settings) text = .ok filter) {root name : String}
    (named : root ≠ "") (supported : (Flavour.ofName? name).isSome) :
    (∀ mapping error, query root name mapping filter = .error error →
      Refuses mapping filter error) ∧
    ((∃ error, query root name .standard filter = .error error) ↔
      (∃ op ∈ orderings, (op, Filter.null) ∈ comparisons filter) ∨
        ∃ role path, (role, path) ∈ selectors filter ∧ role ≠ .valuePath ∧ IsSchema path) := by
  obtain ⟨tokens, place, stream, phrase, -⟩ := Grammar.ofText_eq_ok_iff.1 read
  have refuses : ∀ mapping error, query root name mapping filter = .error error →
      Refuses mapping filter error := by
    intro mapping error failed
    obtain ⟨target, isMapping, ofTarget⟩ := exists_target named supported mapping
    rw [ofTarget] at failed
    rcases bind_eq_error failed with selected | ⟨selection, -, written⟩
    · rw [← isMapping]
      exact phrase.refuses selected
    · cases written
  have standard {role : Role} {path : String} (mem : (role, path) ∈ selectors filter) :
      ColumnMapping.standard path = none ↔ IsSchema path := by
    apply ColumnMapping.standard_eq_none_iff
    -- No empty name is ever read, so the mapping refuses schemas only.
    rintro rfl
    obtain ⟨placed, isPlaced, isName⟩ := List.mem_map.1 (phrase.name_mem mem)
    have found : placed ∈ (TokenStream.ofText (.ofSwitches settings) text).tokens := by
      rw [stream]
      exact isPlaced
    have readable := TokenStream.readable_of_mem_scan found
    rw [isName] at readable
    obtain ⟨⟨first, more, isEmpty, -⟩, -⟩ := readable
    cases isEmpty
  refine ⟨refuses, ?_⟩
  obtain ⟨target, isMapping, ofTarget⟩ := exists_target named supported .standard
  constructor
  · rintro ⟨error, failed⟩
    cases refuses .standard error failed with
    | unknownAttribute mem test unknown =>
      exact .inr ⟨_, _, mem, test, (standard mem).1 unknown⟩
    | orderedNull mem order => exact .inl ⟨_, order, mem⟩
  · intro reason
    rw [ofTarget, exists_error_iff]
    rcases reason with ⟨op, order, mem⟩ | ⟨role, path, mem, test, schema⟩
    · exact Refuses.not_exists_query (.orderedNull mem order)
    · apply Refuses.not_exists_query (.unknownAttribute mem test ?_)
      rw [isMapping]
      exact (standard mem).2 schema

/-- A value path may have a schema for its name, a test may not; a comparison with no value is none
of order. -/
theorem query_of_ofText_schema :
    ∃ filter,
      Filter.ofText (.ofSwitches [true]) "urn:x:[a ne null].b and URN:c: pr" = .ok filter ∧
      "users" ≠ "" ∧ (Flavour.ofName? "SQLite").isSome ∧
      ∃ error, query "users" "SQLite" .standard filter = .error error ∧
        Refuses .standard filter error ∧ error = .unknownAttribute "URN:c:" := by
  have read := eq_ok_of_toOption (by decide +kernel : (Filter.ofText (.ofSwitches [true])
      "urn:x:[a ne null].b and URN:c: pr").toOption = some
    (.logical
      (.patchPath (.attr "urn:x:") (.comparison (.attr "a") .notEqual .null) (.attr "b"))
      .conjunction (.presence (.attr "URN:c:"))))
  have named : "users" ≠ "" := by decide
  have supported : (Flavour.ofName? "SQLite").isSome := by decide +kernel
  obtain ⟨reasons, refused⟩ := query_of_ofText read named supported
  have schema : IsSchema "URN:c:" := ⟨by decide, by decide⟩
  obtain ⟨error, failed⟩ := refused.2 (.inr ⟨.presence, "URN:c:", by decide, by decide, schema⟩)
  have refuses := reasons .standard error failed
  refine ⟨_, read, named, supported, error, failed, refuses, ?_⟩
  cases refuses with
  | orderedNull mem order =>
    simp only [comparisons, List.append_nil, List.mem_singleton, Prod.mk.injEq] at mem
    rw [mem.1] at order
    exact absurd order (by decide)
  | unknownAttribute mem test unknown =>
    simp only [selectors, attributeAt, List.mem_append, List.mem_singleton, Prod.mk.injEq] at mem
    rcases mem with (⟨rfl, -⟩ | ⟨-, rfl⟩) | ⟨-, rfl⟩
    · exact absurd rfl test
    · exact absurd unknown (by decide)
    · rfl

end Sql

end ResourceFilter
