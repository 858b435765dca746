import ResourceFilter.Proofs.Filter.Canonical

/-! # Well-formed filters

A tree that is put together by hand may hold any node in any place, and names or texts that no
filter can hold. Well-formed trees are described here on the tree alone, without a word about texts
and how they are read. They are what reading builds, and, within the limit of nesting, exactly what
is read back from its canonical text: any other tree comes back as a different one, or not at all.
-/

set_option autoImplicit false

namespace ResourceFilter

namespace Filter

/-- Whether a text may name an attribute: it is a word, and in lower case it is no keyword. -/
def IsName (path : String) : Prop :=
  Scan.IsWord path.toList ∧ Token.keyword? (Text.lowercase path) = none

/-- Whether a text may stand between quotes. -/
def IsQuotable (value : String) : Prop :=
  ∀ c ∈ value.toList, Text.Quoted.isForbidden c = false

/-- Whether a filter is an attribute with a proper name. -/
def IsAttribute : Filter → Prop
  | .attr path => IsName path
  | _ => False

/-- Whether a filter is a literal that a comparison may have. -/
def IsLiteral : Filter → Prop
  | .text value => IsQuotable value
  | .number value => 0 ≤ value.toInt
  | .boolean _ => True
  | .attr path => path = "null"
  | _ => False

/-- Whether all parts of a filter are such as can be written, each in a place where it belongs.
Chains fold to the left, so no chain stands on the right of a connective. -/
def WellFormed : Filter → Prop
  | .comparison subject _ operand => subject.IsAttribute ∧ operand.IsLiteral
  | .matching subject _ value => subject.IsAttribute ∧ IsQuotable value
  | .presence subject => subject.IsAttribute
  | .logical left _ right => left.WellFormed ∧ right.WellFormed ∧ right.kind ≠ .logical
  | .group body => body.WellFormed
  | .negation body => body.WellFormed
  | .valuePath parent body => parent.IsAttribute ∧ body.WellFormed
  | .patchPath parent body target => parent.IsAttribute ∧ body.WellFormed ∧ target.IsAttribute
  | .attr _ | .text _ | .number _ | .boolean _ => False

/-! ### Deciding well-formedness -/

/-- Whether characters make up a word is decided one by one. -/
instance (word : List Char) : Decidable (Scan.IsWord word) :=
  match word with
  | [] => isFalse (by simp [Scan.IsWord])
  | first :: more =>
    decidable_of_iff (Scan.startsWord first = true ∧ more.all Scan.continuesWord = true)
      (by simp [Scan.IsWord])

/-- Whether a text is a name is decided by its characters and the list of keywords. -/
instance (path : String) : Decidable (IsName path) :=
  inferInstanceAs (Decidable (_ ∧ _))

/-- Whether a text can be quoted is decided character by character. -/
instance (value : String) : Decidable (IsQuotable value) :=
  decidable_of_iff (value.toList.all (fun c => !Text.Quoted.isForbidden c) = true)
    (by simp [IsQuotable])

/-- Whether a tree is an attribute is decided by its name. -/
instance (filter : Filter) : Decidable filter.IsAttribute :=
  match filter with
  | .attr path => inferInstanceAs (Decidable (IsName path))
  | .text _ | .number _ | .boolean _ | .comparison .. | .matching .. | .presence _ | .logical ..
  | .group _ | .negation _ | .valuePath .. | .patchPath .. => isFalse id

/-- Whether a tree is a literal is decided by its value. -/
instance (filter : Filter) : Decidable filter.IsLiteral :=
  match filter with
  | .text value => inferInstanceAs (Decidable (IsQuotable value))
  | .number value => inferInstanceAs (Decidable (0 ≤ value.toInt))
  | .boolean _ => isTrue trivial
  | .attr path => inferInstanceAs (Decidable (path = "null"))
  | .comparison .. | .matching .. | .presence _ | .logical .. | .group _ | .negation _
  | .valuePath .. | .patchPath .. => isFalse id

/-- The well-formedness of a tree is decided part by part. -/
def decideWellFormed : (filter : Filter) → Decidable filter.WellFormed
  | .comparison subject _ operand =>
    inferInstanceAs (Decidable (subject.IsAttribute ∧ operand.IsLiteral))
  | .matching subject _ value =>
    inferInstanceAs (Decidable (subject.IsAttribute ∧ IsQuotable value))
  | .presence subject => inferInstanceAs (Decidable subject.IsAttribute)
  | .logical left _ right =>
    have := left.decideWellFormed
    have := right.decideWellFormed
    inferInstanceAs (Decidable (left.WellFormed ∧ right.WellFormed ∧ right.kind ≠ .logical))
  | .group body => body.decideWellFormed
  | .negation body => body.decideWellFormed
  | .valuePath parent body =>
    have := body.decideWellFormed
    inferInstanceAs (Decidable (parent.IsAttribute ∧ body.WellFormed))
  | .patchPath parent body target =>
    have := body.decideWellFormed
    inferInstanceAs (Decidable (parent.IsAttribute ∧ body.WellFormed ∧ target.IsAttribute))
  | .attr _ | .text _ | .number _ | .boolean _ => isFalse id

/-- Well-formedness is decidable. -/
instance : DecidablePred WellFormed := decideWellFormed

/-! ### Names and literals -/

/-- A name has a character. -/
theorem IsName.ne_empty {path : String} (isName : IsName path) : path ≠ "" := by
  rintro rfl
  obtain ⟨⟨first, more, isEmpty, -⟩, -⟩ := isName
  cases isEmpty

/-- An attribute is a leaf with a proper name. -/
theorem exists_name_of_isAttribute {filter : Filter} (isAttribute : filter.IsAttribute) :
    ∃ path, filter = .attr path ∧ IsName path := by
  cases filter with
  | attr path => exact ⟨path, rfl, isAttribute⟩
  | _ => cases isAttribute

/-- A name is what a token for it can be read from. -/
theorem readable_name_iff {mode : Mode} {path : String} :
    (Token.name path).Readable mode ↔ IsName path :=
  and_congr_right fun _ => Token.ofWord_eq_name_iff

/-- Names are the texts that are found as names somewhere. -/
theorem isName_iff_mem_tokens {mode : Mode} {path : String} : IsName path ↔
    ∃ text, .name path ∈ (TokenStream.ofText mode text).tokens.map PlacedToken.token := by
  constructor
  · intro isName
    have readable : (Token.name path).Readable mode := readable_name_iff.2 isName
    have yields := TokenStream.yields_lexeme _ readable fun _ => Scan.closes_nil
    obtain ⟨found, place, stream, isFound⟩ := TokenStream.ofText_eq_of_yields yields
    refine ⟨(Token.name path).lexeme, ?_⟩
    rw [stream, isFound]
    exact List.mem_singleton_self _
  · rintro ⟨text, mem⟩
    exact readable_name_iff.1 (TokenStream.readable_of_ofText rfl _ mem)

end Filter

namespace Grammar

open ResourceFilter.Filter

variable {mode : Mode} {patchPaths : Bool} {part : Part} {tokens : List Token} {filter : Filter}

/-- What a readable token denotes is a literal that a comparison may have. -/
theorem Literal.isLiteral {token : Token} {operand : Filter} (literal : Literal token operand)
    (readable : token.Readable mode) : operand.IsLiteral := by
  cases literal with
  | text | integer => exact readable
  | boolean => trivial
  | null => rfl

/-- Each literal that a comparison may have is denoted by a readable token. -/
theorem exists_literal (mode : Mode) {operand : Filter} (isLiteral : operand.IsLiteral) :
    ∃ token, Literal token operand ∧ token.Readable mode := by
  cases operand with
  | text value => exact ⟨_, .text value, isLiteral⟩
  | number value => exact ⟨_, .integer value, isLiteral⟩
  | boolean value => exact ⟨_, .boolean value, trivial⟩
  | attr path =>
    obtain rfl : path = "null" := isLiteral
    exact ⟨_, .null, trivial⟩
  | _ => cases isLiteral

/-- The tree of a phrase is well-formed, and a single condition is no chain. -/
theorem Phrase.wellFormed (phrase : Phrase patchPaths part tokens filter)
    (readable : ∀ token ∈ tokens, token.Readable mode) :
    filter.WellFormed ∧ (part = .condition → filter.kind ≠ .logical) := by
  induction phrase with
  | single _ ih => exact ⟨(ih readable).1, nofun⟩
  | link op _ _ front last =>
    simp only [List.forall_mem_append, List.forall_mem_cons] at readable
    have right := last readable.2.2
    exact ⟨⟨(front readable.1).1, right.1, right.2 rfl⟩, nofun⟩
  | group _ inside =>
    simp only [List.forall_mem_append, List.forall_mem_cons] at readable
    exact ⟨(inside readable.2.1).1, nofun⟩
  | negation _ inside =>
    simp only [List.forall_mem_append, List.forall_mem_cons] at readable
    exact ⟨(inside readable.2.2.1).1, nofun⟩
  | comparison path op literal =>
    simp only [List.forall_mem_cons] at readable
    exact ⟨⟨readable_name_iff.1 readable.1, literal.isLiteral readable.2.2.1⟩, nofun⟩
  | matching path op value =>
    simp only [List.forall_mem_cons] at readable
    exact ⟨⟨readable_name_iff.1 readable.1, readable.2.2.1⟩, nofun⟩
  | presence path =>
    simp only [List.forall_mem_cons] at readable
    exact ⟨readable_name_iff.1 readable.1, nofun⟩
  | valuePath path _ inside =>
    simp only [List.forall_mem_append, List.forall_mem_cons] at readable
    exact ⟨⟨readable_name_iff.1 readable.1, (inside readable.2.2.1).1⟩, nofun⟩
  | patchPath path target _ _ inside =>
    simp only [List.forall_mem_append, List.forall_mem_cons] at readable
    exact ⟨⟨readable_name_iff.1 readable.1, (inside readable.2.2.1).1,
      readable_name_iff.1 readable.2.2.2.2.2.1⟩, nofun⟩

/-- A well-formed filter is the tree of a phrase that a patch path can hold. -/
theorem exists_phrase (wellFormed : filter.WellFormed) :
    ∃ tokens, (∀ token ∈ tokens, token.Readable .patch) ∧ Phrase true .chain tokens filter ∧
      (filter.kind ≠ .logical → Phrase true .condition tokens filter) := by
  -- Every filter but a chain is a single condition, which is a chain as well.
  have single {tokens : List Token} {condition : Filter}
      (readable : ∀ token ∈ tokens, token.Readable .patch)
      (phrase : Phrase true .condition tokens condition) :
      ∃ tokens, (∀ token ∈ tokens, token.Readable .patch) ∧ Phrase true .chain tokens condition ∧
        (condition.kind ≠ .logical → Phrase true .condition tokens condition) :=
    ⟨tokens, readable, .single phrase, fun _ => phrase⟩
  induction filter with
  | comparison subject op operand =>
    obtain ⟨path, rfl, isName⟩ := exists_name_of_isAttribute wellFormed.1
    obtain ⟨token, literal, readable⟩ := exists_literal .patch wellFormed.2
    refine single ?_ (.comparison path op literal)
    simp only [List.forall_mem_cons]
    exact ⟨readable_name_iff.2 isName, trivial, readable, nofun⟩
  | matching subject op value =>
    obtain ⟨path, rfl, isName⟩ := exists_name_of_isAttribute wellFormed.1
    refine single ?_ (.matching path op value)
    simp only [List.forall_mem_cons]
    exact ⟨readable_name_iff.2 isName, trivial, wellFormed.2, nofun⟩
  | presence subject =>
    obtain ⟨path, rfl, isName⟩ := exists_name_of_isAttribute wellFormed
    refine single ?_ (.presence path)
    simp only [List.forall_mem_cons]
    exact ⟨readable_name_iff.2 isName, trivial, nofun⟩
  | logical left op right left_ih right_ih =>
    obtain ⟨isLeft, isRight, noChain⟩ := wellFormed
    obtain ⟨before, readableBefore, front, -⟩ := left_ih isLeft
    obtain ⟨after, readableAfter, -, last⟩ := right_ih isRight
    refine ⟨before ++ .connective op :: after, ?_, .link op front (last noChain),
      fun apart => absurd rfl apart⟩
    simp only [List.forall_mem_append, List.forall_mem_cons]
    exact ⟨readableBefore, trivial, readableAfter⟩
  | group body ih =>
    obtain ⟨inner, readable, inside, -⟩ := ih wellFormed
    refine single ?_ (.group inside)
    simp only [List.forall_mem_append, List.forall_mem_cons]
    exact ⟨trivial, readable, trivial, nofun⟩
  | negation body ih =>
    obtain ⟨inner, readable, inside, -⟩ := ih wellFormed
    refine single ?_ (.negation inside)
    simp only [List.forall_mem_append, List.forall_mem_cons]
    exact ⟨trivial, trivial, readable, trivial, nofun⟩
  | valuePath parent body _ ih =>
    obtain ⟨isAttribute, isBody⟩ := wellFormed
    obtain ⟨path, rfl, isName⟩ := exists_name_of_isAttribute isAttribute
    obtain ⟨inner, readable, inside, -⟩ := ih isBody
    refine single ?_ (.valuePath path inside)
    simp only [List.forall_mem_append, List.forall_mem_cons]
    exact ⟨readable_name_iff.2 isName, trivial, readable, trivial, nofun⟩
  | patchPath parent body target _ ih _ =>
    obtain ⟨isAttribute, isBody, isTarget⟩ := wellFormed
    obtain ⟨path, rfl, isName⟩ := exists_name_of_isAttribute isAttribute
    obtain ⟨aim, rfl, isAim⟩ := exists_name_of_isAttribute isTarget
    obtain ⟨inner, readable, inside, -⟩ := ih isBody
    refine single ?_ (.patchPath path aim rfl inside)
    simp only [List.forall_mem_append, List.forall_mem_cons]
    exact ⟨readable_name_iff.2 isName, trivial, readable, trivial, rfl,
      readable_name_iff.2 isAim, nofun⟩
  | attr | text | number | boolean => cases wellFormed

end Grammar

/-- A tree is read back from its canonical text exactly if it is well-formed and goes no deeper than
the limit of nesting. -/
theorem ofText_canonical_iff (filter : Filter) :
    Filter.ofText .patch filter.canonical = .ok filter ↔
      filter.WellFormed ∧ filter.nesting ≤ nestingLimit := by
  constructor
  · intro read
    obtain ⟨tokens, place, stream, phrase, fits⟩ := Grammar.ofText_eq_ok_iff.1 read
    exact ⟨(phrase.wellFormed (TokenStream.readable_of_ofText stream)).1, fits⟩
  · rintro ⟨wellFormed, fits⟩
    obtain ⟨tokens, readable, phrase, -⟩ := Grammar.exists_phrase wellFormed
    refine Grammar.Phrase.read_canonical ?_ readable fits
    exact phrase

/-- The text of an attribute with an operator in its name is read as two conditions. -/
example :
    let filter := Filter.presence (.attr "a pr or b")
    ¬filter.WellFormed ∧ (Filter.ofText .patch filter.canonical).toOption =
      some (.logical (.presence (.attr "a")) .disjunction (.presence (.attr "b"))) := by
  decide +kernel

end ResourceFilter
