import ResourceFilter.Proofs.Filter.WellFormed
import ResourceFilter.Proofs.Token.Restyle

/-! # Style makes no difference

A text that is read as a filter is read as the same filter in any other style: what is read depends
on the tokens alone, and those do not change. Only the letters of names show in the filter. The
names of a tree stand in the order of the tokens that they come from, so the name that one of those
tokens carries can be found in the tree, and exchanged there.
-/

set_option autoImplicit false

namespace ResourceFilter

namespace Filter

/-- The names in a filter from left to right. The literal of a comparison is none, not even the word
for no value. -/
def names : Filter → List String
  | .comparison subject _ _ => subject.names
  | .matching subject _ _ => subject.names
  | .presence subject => subject.names
  | .logical left _ right => left.names ++ right.names
  | .group body => body.names
  | .negation body => body.names
  | .valuePath parent body => parent.names ++ body.names
  | .patchPath parent body target => parent.names ++ (body.names ++ target.names)
  | .attr path => [path]
  | .text _ | .number _ | .boolean _ => []

/-- The filter with other names in the place of its own, in the same order. -/
def withNames (names : List String) : Filter → Filter
  | .comparison subject op operand => .comparison (subject.withNames names) op operand
  | .matching subject op value => .matching (subject.withNames names) op value
  | .presence subject => .presence (subject.withNames names)
  | .logical left op right =>
    .logical (left.withNames names) op (right.withNames (names.drop left.names.length))
  | .group body => .group (body.withNames names)
  | .negation body => .negation (body.withNames names)
  | .valuePath parent body =>
    .valuePath (parent.withNames names) (body.withNames (names.drop parent.names.length))
  | .patchPath parent body target =>
    let behind := names.drop parent.names.length
    .patchPath (parent.withNames names) (body.withNames behind)
      (target.withNames (behind.drop body.names.length))
  | .attr path => .attr (names.headD path)
  | .text value => .text value
  | .number value => .number value
  | .boolean value => .boolean value

/-- Names behind those that a filter has use for are left alone. -/
theorem withNames_append {names : List String} {filter : Filter}
    (enough : filter.names.length ≤ names.length) (more : List String) :
    filter.withNames (names ++ more) = filter.withNames names := by
  have behind {names : List String} {first : Nat} {filter : Filter}
      (ih : ∀ {names : List String}, filter.names.length ≤ names.length →
        filter.withNames (names ++ more) = filter.withNames names)
      (enough : first + filter.names.length ≤ names.length) :
      filter.withNames ((names ++ more).drop first) = filter.withNames (names.drop first) := by
    rw [List.drop_append_of_le_length (by omega)]
    exact ih (by rw [List.length_drop]; omega)
  induction filter generalizing names with
  | comparison subject op operand ih _ => exact congrArg (comparison · op operand) (ih enough)
  | matching subject op value ih => exact congrArg (matching · op value) (ih enough)
  | presence subject ih => exact congrArg presence (ih enough)
  | logical left op right left_ih right_ih =>
    simp only [Filter.names, List.length_append] at enough
    simp only [withNames]
    rw [left_ih (by omega), behind right_ih enough]
  | group body ih => exact congrArg group (ih enough)
  | negation body ih => exact congrArg negation (ih enough)
  | valuePath parent body parent_ih body_ih =>
    simp only [Filter.names, List.length_append] at enough
    simp only [withNames]
    rw [parent_ih (by omega), behind body_ih enough]
  | patchPath parent body target parent_ih body_ih target_ih =>
    simp only [Filter.names, List.length_append] at enough
    simp only [withNames, List.drop_drop]
    rw [parent_ih (by omega), behind body_ih (by omega), behind target_ih (by omega)]
  | attr path =>
    cases names with
    | nil => cases enough
    | cons first others => rfl
  | text | number | boolean => rfl

/-- Other names do not change the nesting of a filter. -/
theorem nesting_withNames (names : List String) (filter : Filter) :
    (filter.withNames names).nesting = filter.nesting := by
  induction filter generalizing names with
  | logical left op right left_ih right_ih => simp [withNames, nesting, left_ih, right_ih]
  | group body ih | negation body ih => simp [withNames, nesting, ih]
  | valuePath parent body _ ih => simp [withNames, nesting, ih]
  | patchPath parent body target _ ih _ => simp [withNames, nesting, ih]
  | _ => rfl

end Filter

namespace Token

/-- A token without regard to the name that it may carry. -/
def nameless : Token → Token
  | name _ => name ""
  | other => other

/-- A token that carries a name is the token of that name. -/
theorem eq_name_of_name? {token : Token} {word : String} (carried : token.name? = some word) :
    token = name word := by
  cases token with
  | name other =>
    cases carried
    rfl
  | _ => cases carried

/-- A token without a name is the same without regard to names. -/
theorem nameless_of_name? {token : Token} (plain : token.name? = none) :
    token.nameless = token := by
  cases token with
  | name word => cases plain
  | _ => rfl

/-- Only a name looks like one when names are disregarded. -/
theorem exists_name_of_nameless {token : Token} (same : token.nameless = name "") :
    ∃ word, token = name word := by
  cases token with
  | name word => exact ⟨word, rfl⟩
  | _ => cases same

/-- A token that differs from one without a name at most in its name is that token. -/
theorem eq_of_nameless {token other : Token} (plain : token.name? = none)
    (same : other.nameless = token.nameless) : other = token := by
  rw [nameless_of_name? plain] at same
  cases carried : other.name? with
  | none => rwa [nameless_of_name? carried] at same
  | some word =>
    rw [eq_name_of_name? carried] at same
    rw [← same] at plain
    cases plain

/-- Whether two sequences of tokens differ in names at most. -/
def Alike (others tokens : List Token) : Prop :=
  others.map nameless = tokens.map nameless

/-- Nothing is alike to nothing only. -/
theorem Alike.nil {others : List Token} (alike : Alike others []) : others = [] :=
  List.map_eq_nil_iff.1 alike

/-- A token without a name stands at the same place in all sequences that are alike. -/
theorem Alike.cons {others rest : List Token} {token : Token}
    (alike : Alike others (token :: rest)) (plain : token.name? = none) :
    ∃ more, others = token :: more ∧ Alike more rest := by
  obtain ⟨first, more, rfl, same, behind⟩ := List.map_eq_cons_iff.1 alike
  obtain rfl := eq_of_nameless plain same
  exact ⟨more, rfl, behind⟩

/-- In place of a name, sequences that are alike have a name. -/
theorem Alike.cons_name {others rest : List Token} {path : String}
    (alike : Alike others (name path :: rest)) :
    ∃ word more, others = name word :: more ∧ Alike more rest := by
  obtain ⟨first, more, rfl, same, behind⟩ := List.map_eq_cons_iff.1 alike
  obtain ⟨word, rfl⟩ := exists_name_of_nameless same
  exact ⟨word, more, rfl, behind⟩

/-- A sequence alike to two put together falls into two parts in the same way. -/
theorem Alike.append {others front rest : List Token} (alike : Alike others (front ++ rest)) :
    ∃ first last, others = first ++ last ∧ Alike first front ∧ Alike last rest := by
  unfold Alike at alike
  rw [List.map_append] at alike
  exact List.map_eq_append_iff.1 alike

/-- A single token without a name is alike to itself only. -/
theorem Alike.single {others : List Token} {token : Token} (alike : Alike others [token])
    (plain : token.name? = none) : others = [token] := by
  obtain ⟨nothing, rfl, alikeNothing⟩ := alike.cons plain
  rw [alikeNothing.nil]

/-- A mark at the end stays there, and carries no name. -/
theorem Alike.closed {others inner : List Token} {mark : Token}
    (alike : Alike others (inner ++ [mark])) (plain : mark.name? = none) :
    ∃ first, others = first ++ [mark] ∧ Alike first inner ∧
      (first ++ [mark]).filterMap name? = first.filterMap name? := by
  obtain ⟨first, last, rfl, alikeInner, alikeLast⟩ := alike.append
  obtain rfl := alikeLast.single plain
  refine ⟨first, rfl, alikeInner, ?_⟩
  rw [List.filterMap_append, List.filterMap_cons_none plain, List.filterMap_nil, List.append_nil]

/-- Sequences that differ in names at most have as many of them. -/
theorem Alike.length_names {tokens others : List Token} (alike : Alike others tokens) :
    (others.filterMap name?).length = (tokens.filterMap name?).length := by
  induction tokens generalizing others with
  | nil => rw [alike.nil]
  | cons token rest ih =>
    cases carried : token.name? with
    | none =>
      obtain ⟨more, rfl, behind⟩ := alike.cons carried
      rw [List.filterMap_cons_none carried, List.filterMap_cons_none carried, ih behind]
    | some word =>
      obtain rfl := eq_name_of_name? carried
      obtain ⟨other, more, rfl, behind⟩ := alike.cons_name
      exact congrArg (· + 1) (ih behind)

end Token

namespace Grammar

variable {patchPaths : Bool} {part : Part} {tokens : List Token} {filter : Filter}

/-- Literals carry no names. -/
theorem Literal.name?_eq {token : Token} {operand : Filter} (literal : Literal token operand) :
    token.name? = none := by
  cases literal <;> rfl

/-- The names of a tree are those of its tokens, in the same order. -/
theorem Phrase.names_eq (phrase : Phrase patchPaths part tokens filter) :
    filter.names = tokens.filterMap Token.name? := by
  induction phrase with
  | single _ ih => exact ih
  | link op _ _ front last =>
    simp [Filter.names, List.filterMap_cons, Token.name?, front, last]
  | group _ inside | negation _ inside | valuePath path _ inside
  | patchPath path target _ _ inside =>
    simp [Filter.names, List.filterMap_cons, Token.name?, inside]
  | comparison path op literal =>
    rw [List.filterMap_cons, List.filterMap_cons, List.filterMap_cons_none literal.name?_eq]
    rfl
  | matching path op value | presence path => rfl

/-- Tokens that differ from those of a phrase in names only are a phrase, of the tree with their
names in it. -/
theorem Phrase.withNames (phrase : Phrase patchPaths part tokens filter) {others : List Token}
    (alike : Token.Alike others tokens) :
    Phrase patchPaths part others (filter.withNames (others.filterMap Token.name?)) := by
  induction phrase generalizing others with
  | single _ ih => exact .single (ih alike)
  | @link before after left right op front last front_ih last_ih =>
    obtain ⟨first, rest, rfl, alikeFront, alikeRest⟩ := alike.append
    obtain ⟨behind, rfl, alikeLast⟩ := alikeRest.cons rfl
    -- The left side takes as many of the names as it has places, the right side the others.
    have count : left.names.length = (first.filterMap Token.name?).length := by
      rw [front.names_eq, alikeFront.length_names]
    have names : (first ++ .connective op :: behind).filterMap Token.name? =
        first.filterMap Token.name? ++ behind.filterMap Token.name? := List.filterMap_append
    rw [names, Filter.withNames, Filter.withNames_append count.le, count, List.drop_left]
    exact .link op (front_ih alikeFront) (last_ih alikeLast)
  | group _ inside =>
    obtain ⟨rest, rfl, alikeRest⟩ := alike.cons rfl
    obtain ⟨inner, rfl, alikeInner, names⟩ := alikeRest.closed rfl
    rw [List.filterMap_cons_none rfl, names]
    exact .group (inside alikeInner)
  | negation _ inside =>
    obtain ⟨marks, rfl, alikeMarks⟩ := alike.cons rfl
    obtain ⟨rest, rfl, alikeRest⟩ := alikeMarks.cons rfl
    obtain ⟨inner, rfl, alikeInner, names⟩ := alikeRest.closed rfl
    rw [List.filterMap_cons_none rfl, List.filterMap_cons_none rfl, names]
    exact .negation (inside alikeInner)
  | comparison path op literal =>
    obtain ⟨word, behind, rfl, alikeBehind⟩ := alike.cons_name
    obtain ⟨operand, rfl, alikeOperand⟩ := alikeBehind.cons rfl
    obtain rfl := alikeOperand.single literal.name?_eq
    exact .comparison word op literal
  | matching path op value =>
    obtain ⟨word, behind, rfl, alikeBehind⟩ := alike.cons_name
    obtain ⟨pattern, rfl, alikePattern⟩ := alikeBehind.cons rfl
    obtain rfl := alikePattern.single rfl
    exact .matching word op value
  | presence path =>
    obtain ⟨word, behind, rfl, alikeBehind⟩ := alike.cons_name
    obtain rfl := alikeBehind.single rfl
    exact .presence word
  | valuePath path _ inside =>
    obtain ⟨word, marks, rfl, alikeMarks⟩ := alike.cons_name
    obtain ⟨rest, rfl, alikeRest⟩ := alikeMarks.cons rfl
    obtain ⟨inner, rfl, alikeInner, names⟩ := alikeRest.closed rfl
    have carried : (Token.name word).name? = some word := rfl
    rw [List.filterMap_cons_some carried, List.filterMap_cons_none rfl, names]
    exact .valuePath word (inside alikeInner)
  | @patchPath path target inner body allowed within inside =>
    obtain ⟨word, marks, rfl, alikeMarks⟩ := alike.cons_name
    obtain ⟨rest, rfl, alikeRest⟩ := alikeMarks.cons rfl
    obtain ⟨first, last, rfl, alikeInner, alikeLast⟩ := alikeRest.append
    obtain ⟨dot, rfl, alikeDot⟩ := alikeLast.cons rfl
    obtain ⟨behind, rfl, alikeBehind⟩ := alikeDot.cons rfl
    obtain ⟨aim, nothing, rfl, alikeNothing⟩ := alikeBehind.cons_name
    obtain rfl := alikeNothing.nil
    have count : body.names.length = (first.filterMap Token.name?).length := by
      rw [within.names_eq, alikeInner.length_names]
    have names : (Token.name word :: .openPath ::
        (first ++ [.closePath, .dot, .name aim])).filterMap Token.name? =
          word :: (first.filterMap Token.name? ++ [aim]) :=
      congrArg (word :: ·) List.filterMap_append
    have tree : (Filter.patchPath (.attr path) body (.attr target)).withNames
        (word :: (first.filterMap Token.name? ++ [aim])) =
          .patchPath (.attr word) (body.withNames (first.filterMap Token.name?)) (.attr aim) := by
      simp [Filter.withNames, Filter.names, Filter.withNames_append count.le, count]
    rw [names, tree]
    exact .patchPath word aim allowed (inside alikeInner)

/-- A text is read as a filter when it is laid out as a phrase within the limit of nesting. -/
theorem ofText_eq_ok_iff_layout {mode : Mode} {text : String} :
    Filter.ofText mode text = .ok filter ↔
      ∃ tokens, Layout mode text.toList tokens ∧
        Phrase (decide (mode = .patch)) .chain tokens filter ∧ filter.nesting ≤ nestingLimit := by
  constructor
  · intro read
    obtain ⟨tokens, place, stream, phrase, fits⟩ := ofText_eq_ok_iff.1 read
    exact ⟨_, TokenStream.layout_of_scan stream, phrase, fits⟩
  · rintro ⟨tokens, layout, phrase, fits⟩
    exact ofText_of_yields (TokenStream.yields_of_layout layout Scan.closes_nil) phrase fits

end Grammar

open Grammar

/-- A text that is read as a filter is read as the same filter after any changes of its style:
keywords in other letters, other blanks in the place of some, further ones at both ends and beside
parentheses and brackets. Where a name is written in other letters, the filter has it in these
letters, and does not change otherwise. -/
theorem ofText_restyled {mode : Mode} {text : String} {filter : Filter}
    (read : Filter.ofText mode text = .ok filter) :
    (∀ other, Relation.ReflTransGen (Restyled mode) text other →
      Filter.ofText mode other = .ok filter) ∧
    ∀ index name other changed, Recased mode index name other text changed →
      filter.names[index]? = some name ∧
      Filter.ofText mode changed = .ok (filter.withNames (filter.names.set index other)) := by
  obtain ⟨tokens, layout, phrase, fits⟩ := ofText_eq_ok_iff_layout.1 read
  constructor
  · intro other restyled
    exact ofText_eq_ok_iff_layout.2
      ⟨tokens, Restyled.layout_of_reflTransGen restyled layout, phrase, fits⟩
  · intro index name other changed recased
    obtain ⟨before, later, rfl, otherLayout, rfl⟩ := recased.layout layout
    have names : filter.names =
        before.filterMap Token.name? ++ name :: later.filterMap Token.name? := by
      rw [phrase.names_eq, List.filterMap_append]
      rfl
    have otherNames : (before ++ .name other :: later).filterMap Token.name? =
        filter.names.set (before.filterMap Token.name?).length other := by
      rw [names, List.filterMap_append, List.set_append_right _ _ (Nat.le_refl _), Nat.sub_self]
      rfl
    have alike : Token.Alike (before ++ .name other :: later) (before ++ .name name :: later) := by
      simp [Token.Alike, Token.nameless]
    have changedPhrase := phrase.withNames alike
    rw [otherNames] at changedPhrase
    refine ⟨?_, ofText_eq_ok_iff_layout.2 ⟨_, otherLayout, changedPhrase, ?_⟩⟩
    · rw [names, List.getElem?_append_right (Nat.le_refl _), Nat.sub_self]
      rfl
    · rw [Filter.nesting_withNames]
      exact fits

/-- A negation in other letters, a line break behind it, and blanks in front of the text and behind
the parenthesis; and the same text with its name in capitals. -/
theorem ofText_restyled_negation :
    let text := "NOT (a pr)"
    let other := "\tnOt\n( a pr)"
    ∃ filter, Filter.ofText .filter text = .ok filter ∧
      Relation.ReflTransGen (Restyled .filter) text other ∧
      Filter.ofText .filter other = .ok filter ∧
      Recased .filter 0 "a" "A" text "NOT (A pr)" ∧ filter.names = ["a"] ∧
      Filter.ofText .filter "NOT (A pr)" = .ok (filter.withNames ["A"]) := by
  intro text other
  have read := eq_ok_of_toOption (by decide +kernel : (Filter.ofText .filter text).toOption =
    some (.negation (.presence (.attr "a"))))
  have gaps {run : List Char} (all : run.all Scan.isGap = true) : ∀ c ∈ run, Scan.isGap c = true :=
    List.all_eq_true.1 all
  have written {word : List Char} (shape : Scan.IsWord word)
      (isNegation : Token.ofWord (String.ofList word) = .negation) :
      Token.IsWritten .filter .negation word := isNegation ▸ .word shape
  have ends {c : Char} (foreign : Scan.continuesWord c = false) (rest : List Char) :
      ∀ d ∈ (c :: rest).head?, Token.negation.prolongs d = false :=
    Token.prolongs_of_closes (Scan.closes_cons foreign rest) .negation
  have respelled : Restyled .filter "NOT (a pr)" "nOt (a pr)" :=
    @Restyled.keyword .filter "" "NOT" "nOt" " (a pr)" _ (.blank nofun) (by decide +kernel)
      (Scan.closes_cons (by decide) _) (by decide) (by decide)
  have broken : Restyled .filter "nOt (a pr)" "nOt\n(a pr)" :=
    @Restyled.blanks .filter "nOt" " " "\n" "(a pr)" _
      (.single (written (by decide +kernel) (by decide)) (ends (by decide) _))
      (gaps (by decide)) (gaps (by decide)) (by decide) (by decide)
  have moved : Restyled .filter "nOt\n(a pr)" "\tnOt\n(a pr)" :=
    @Restyled.start .filter "\t" _ (gaps (by decide))
  have opening : FrontLayout .filter "(a pr)".toList "\tnOt\n".toList [.negation] :=
    @FrontLayout.token .filter _ ['\t'] "nOt".toList ['\n'] .negation _ (gaps (by decide))
      (written (by decide +kernel) (by decide)) (ends (by decide) _) (.blank (gaps (by decide)))
  have widened : Restyled .filter "\tnOt\n(a pr)" "\tnOt\n( a pr)" :=
    @Restyled.beside .filter "\tnOt\n" "" "(" " " "a pr)" _ opening (by decide) nofun
      (gaps (by decide))
  have restyled : Relation.ReflTransGen (Restyled .filter) text other :=
    .tail (.tail (.tail (.single respelled) broken) moved) widened
  have name : FrontLayout .filter "a pr)".toList "NOT (".toList [.negation, .openGroup] :=
    @FrontLayout.token .filter _ [] "NOT".toList " (".toList .negation _ nofun
      (written (by decide +kernel) (by decide)) (ends (by decide) _)
      (@FrontLayout.token .filter _ [' '] ['('] [] .openGroup _ (gaps (by decide)) (.mark rfl)
        (fun _ _ => rfl) (.blank nofun))
  have recased : Recased .filter 0 "a" "A" text "NOT (A pr)" :=
    @Recased.name .filter 0 "a" "A" "NOT (" " pr)" _ name
      (Filter.readable_name_iff.2 (by decide +kernel)) (Scan.closes_cons (by decide) _)
      (by decide) rfl
  obtain ⟨same, changed⟩ := ofText_restyled read
  obtain ⟨-, renamed⟩ := changed 0 "a" "A" "NOT (A pr)" recased
  exact ⟨_, read, restyled, same other restyled, recased, rfl, renamed⟩

end ResourceFilter
