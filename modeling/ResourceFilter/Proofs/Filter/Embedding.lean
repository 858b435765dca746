import ResourceFilter.Proofs.Filter.WellFormed
import ResourceFilter.Proofs.Token.Layout

/-! # Filters within filters

A text that has been read as a filter may be put into a larger text, between parentheses or the
brackets of a value path, and stands for the same filter there. Its tokens are those that it has
alone, because the closing mark ends whatever word or number it ends with, and reading comes to that
mark just behind the filter. `ofText_embedded` puts together what follows for the larger text.
-/

set_option autoImplicit false

namespace ResourceFilter

/-- What stands in front of a level in writing. -/
def Opener.text : Opener → String
  | group => "("
  | negation => "not ("
  | valuePath parent => parent ++ "["

/-- The condition that a level with the given body makes. -/
def Opener.enclose (body : Filter) : Opener → Filter
  | group => .group body
  | negation => .negation body
  | valuePath parent => .valuePath (.attr parent) body

namespace Grammar

open TokenStream Scan

variable {mode : Mode}

/-- A text stands for a filter if it holds a phrase of that tree, in front of anything that ends
words and numbers. -/
def StandsFor (mode : Mode) (part : Part) (text : String) (filter : Filter) : Prop :=
  ∃ tokens, Phrase (decide (mode = .patch)) part tokens filter ∧
    ∀ rest, Closes rest → Yields mode text.toList rest tokens

/-- A text that is read as a filter stands for it. -/
theorem standsFor_of_ofText {text : String} {filter : Filter}
    (read : Filter.ofText mode text = .ok filter) : StandsFor mode .chain text filter := by
  obtain ⟨tokens, place, stream, phrase, -⟩ := ofText_eq_ok_iff.1 read
  refine ⟨_, phrase, fun rest closes => ?_⟩
  exact yields_of_layout (layout_of_scan stream) closes

/-- What is read from a text keeps to the limit of nesting. -/
theorem nesting_of_ofText {text : String} {filter : Filter}
    (read : Filter.ofText mode text = .ok filter) : filter.nesting ≤ nestingLimit := by
  obtain ⟨tokens, place, stream, phrase, fits⟩ := ofText_eq_ok_iff.1 read
  exact fits

/-- A condition alone is a chain. -/
theorem StandsFor.single {text : String} {filter : Filter}
    (condition : StandsFor mode .condition text filter) : StandsFor mode .chain text filter := by
  obtain ⟨tokens, phrase, yields⟩ := condition
  exact ⟨tokens, .single phrase, yields⟩

/-- What stands for a filter is read as it, within the limit of nesting. -/
theorem StandsFor.ofText_eq {text : String} {filter : Filter}
    (stands : StandsFor mode .chain text filter) (fits : filter.nesting ≤ nestingLimit) :
    Filter.ofText mode text = .ok filter := by
  obtain ⟨tokens, phrase, yields⟩ := stands
  exact ofText_of_yields (yields [] closes_nil) phrase fits

/-- In writing, an opener yields its tokens. -/
theorem yields_opener {opener : Opener}
    (named : ∀ parent, opener = .valuePath parent → Filter.IsName parent) (rest : List Char) :
    Yields mode opener.text.toList rest opener.tokens := by
  cases opener with
  | group => exact yields_lexeme_closed .openGroup trivial rfl _
  | negation =>
    exact (yields_lexeme_gap .negation trivial _).append
      (yields_lexeme_closed .openGroup trivial rfl rest)
  | valuePath parent =>
    have isName : (Token.name parent).Readable mode := Filter.readable_name_iff.2 (named parent rfl)
    have written : (Opener.valuePath parent).text.toList =
        (Token.name parent).lexeme.toList ++ (Token.lexeme .openPath).toList := by
      simp [Opener.text, Token.lexeme]
    rw [written]
    exact (yields_lexeme _ isName fun _ => closes_cons (by decide) _).append
      (yields_lexeme_closed .openPath trivial rfl _)

/-- Words and numbers end before the mark that closes a level. -/
theorem closes_closingMark (opener : Opener) (rest : List Char) :
    Closes (opener.closingMark.lexeme.toList ++ rest) := by
  have parenthesis : continuesWord ')' = false := by decide
  have bracket : continuesWord ']' = false := by decide
  cases opener with
  | group | negation => exact closes_cons parenthesis rest
  | valuePath parent =>
    show Closes ((Token.lexeme .closePath).toList ++ rest)
    exact closes_cons bracket rest

/-- In writing, the closing mark of a level yields its token. -/
theorem yields_closingMark (opener : Opener) (rest : List Char) :
    Yields mode opener.closingMark.lexeme.toList rest [opener.closingMark] := by
  cases opener with
  | group | negation => exact yields_lexeme_closed .closeGroup trivial rfl rest
  | valuePath parent => exact yields_lexeme_closed .closePath trivial rfl rest

/-- An opener, a chain and the closing mark are the phrase of a condition. -/
theorem Phrase.enclose {patchPaths : Bool} {inner : List Token} {body : Filter}
    (inside : Phrase patchPaths .chain inner body) (opener : Opener) :
    Phrase patchPaths .condition (opener.tokens ++ (inner ++ [opener.closingMark]))
      (opener.enclose body) := by
  cases opener with
  | group => exact .group inside
  | negation => exact .negation inside
  | valuePath parent => exact .valuePath parent inside

/-- Enclosing a body adds one level of nesting. -/
theorem nesting_enclose (opener : Opener) (body : Filter) :
    (opener.enclose body).nesting = body.nesting + 1 := by
  cases opener <;> rfl

/-- Between its opener and its closing mark, a text stands for the body of the level. -/
theorem StandsFor.enclose {text : String} {body : Filter}
    (inside : StandsFor mode .chain text body) (opener : Opener)
    (named : ∀ parent, opener = .valuePath parent → Filter.IsName parent) :
    StandsFor mode .condition (opener.text ++ text ++ opener.closingMark.lexeme)
      (opener.enclose body) := by
  obtain ⟨tokens, phrase, yields⟩ := inside
  refine ⟨_, phrase.enclose opener, fun rest _ => ?_⟩
  rw [String.toList_append, String.toList_append, List.append_assoc]
  exact (yields_opener named _).append
    ((yields _ (closes_closingMark opener rest)).append (yields_closingMark opener rest))

/-- Between blanks, a connective joins what the texts on both sides stand for. -/
theorem StandsFor.link {first second : String} {left right : Filter}
    (front : StandsFor mode .chain first left) (op : Connective)
    (last : StandsFor mode .condition second right) :
    StandsFor mode .chain (first ++ " " ++ op.word ++ " " ++ second) (.logical left op right) := by
  obtain ⟨before, frontPhrase, frontYields⟩ := front
  obtain ⟨after, lastPhrase, lastYields⟩ := last
  refine ⟨_, .link op frontPhrase lastPhrase, fun rest closes => ?_⟩
  have written : (first ++ " " ++ op.word ++ " " ++ second).toList = first.toList ++
      (' ' :: ((Token.connective op).lexeme.toList ++ [' '] ++ second.toList)) := by
    simp [Token.lexeme]
  rw [written]
  have behind := (yields_lexeme_gap (.connective op) trivial _).append (lastYields rest closes)
  exact (frontYields _ (closes_cons (by decide) _)).append (behind.cons_gap rfl)

/-- What is read as a filter is read as the body of a level, if the limit leaves room for it. -/
theorem ofText_enclose {text : String} {filter : Filter}
    (read : Filter.ofText mode text = .ok filter) (room : filter.nesting < nestingLimit)
    (opener : Opener) (named : ∀ parent, opener = .valuePath parent → Filter.IsName parent) :
    Filter.ofText mode (opener.text ++ text ++ opener.closingMark.lexeme) =
      .ok (opener.enclose filter) := by
  apply ((standsFor_of_ofText read).enclose opener named).single.ofText_eq
  rw [nesting_enclose]
  exact room

end Grammar

open Grammar

/-- A text that is read as a filter can be put between parentheses, behind a negation or a further
filter, and between the brackets of a value path: the larger text is read as the group, negation,
chain or value path of the same filter, if the limit of nesting leaves room for one more level. -/
theorem ofText_embedded {mode : Mode} {text : String} {filter : Filter}
    (read : Filter.ofText mode text = .ok filter) (room : filter.nesting < nestingLimit) :
    Filter.ofText mode ("(" ++ text ++ ")") = .ok (.group filter) ∧
    Filter.ofText mode ("not (" ++ text ++ ")") = .ok (.negation filter) ∧
    (∀ other left, Filter.ofText mode other = .ok left → ∀ op : Connective,
      Filter.ofText mode (other ++ " " ++ op.word ++ " (" ++ text ++ ")") =
        .ok (.logical left op (.group filter))) ∧
    ∀ path, Filter.IsName path →
      Filter.ofText mode (path ++ "[" ++ text ++ "]") = .ok (.valuePath (.attr path) filter) := by
  refine ⟨ofText_enclose read room .group nofun, ofText_enclose read room .negation nofun, ?_, ?_⟩
  · intro other left readOther op
    have group := (standsFor_of_ofText read).enclose .group nofun
    have written : other ++ " " ++ op.word ++ " (" ++ text ++ ")" =
        other ++ " " ++ op.word ++ " " ++ ("(" ++ text ++ ")") := by
      have opening : " (" = " " ++ "(" := rfl
      simp only [opening, String.append_assoc]
    rw [written]
    apply ((standsFor_of_ofText readOther).link op group).ofText_eq
    exact Nat.max_le.2 ⟨nesting_of_ofText readOther, room⟩
  · intro path isName
    refine ofText_enclose read room (.valuePath path) ?_
    rintro parent ⟨⟩
    exact isName

/-- A text between blanks, with a sub-attribute at its end, stays a filter behind a chain and within
a value path. -/
theorem ofText_embedded_subAttribute :
    let text := " a pr or emails[type eq 007].value\t"
    let other := "not (x ne null) or y co \"]\""
    ∃ filter left, Filter.ofText .patch text = .ok filter ∧ filter.nesting < nestingLimit ∧
      Filter.ofText .patch other = .ok left ∧ Filter.IsName "urn:a:members" ∧
      Filter.ofText .patch (other ++ " and (" ++ text ++ ")") =
        .ok (.logical left .conjunction (.group filter)) ∧
      Filter.ofText .patch ("urn:a:members[" ++ text ++ "]") =
        .ok (.valuePath (.attr "urn:a:members") filter) := by
  intro text other
  have read := eq_ok_of_toOption (by decide +kernel : (Filter.ofText .patch text).toOption = some
    (.logical (.presence (.attr "a")) .disjunction (.patchPath (.attr "emails")
      (.comparison (.attr "type") .equal (.number 7)) (.attr "value"))))
  have readOther := eq_ok_of_toOption (by decide +kernel : (Filter.ofText .patch other).toOption =
    some (.logical (.negation (.comparison (.attr "x") .notEqual .null)) .disjunction
      (.matching (.attr "y") .contains "]")))
  have room : Filter.nesting (.logical (.presence (.attr "a")) .disjunction
      (.patchPath (.attr "emails") (.comparison (.attr "type") .equal (.number 7))
        (.attr "value"))) < nestingLimit := by decide
  have isName : Filter.IsName "urn:a:members" := by decide +kernel
  obtain ⟨-, -, behind, inside⟩ := ofText_embedded read room
  exact ⟨_, _, read, room, readOther, isName, behind other _ readOther .conjunction,
    inside "urn:a:members" isName⟩

end ResourceFilter
