import ResourceFilter.Proofs.Grammar.Recognition
import ResourceFilter.Proofs.Result
import ResourceFilter.Proofs.Token.Lexeme

/-! # Canonical texts are read back

The canonical text of a phrase's tree is made of the lexemes of the phrase, with blanks where two of
them would run into each other, so reading it gives the tokens of the phrase again. A filter that
has been read from a text is the tree of a phrase of readable tokens; hence its canonical text is
read as the same filter.
-/

set_option autoImplicit false

namespace ResourceFilter

namespace Grammar

open TokenStream Scan

variable {mode : Mode} {patchPaths : Bool}

/-- Literals are written by their lexemes. -/
theorem Literal.canonical_eq {token : Token} {operand : Filter}
    (literal : Literal token operand) : operand.canonical = token.lexeme := by
  cases literal <;> rfl

/-- The canonical text of a phrase's tree yields the tokens of the phrase. -/
theorem Phrase.yields_canonical {part : Part} {tokens : List Token} {filter : Filter}
    (phrase : Phrase patchPaths part tokens filter)
    (readable : ∀ token ∈ tokens, token.Readable mode) {rest : List Char} (closes : Closes rest) :
    Yields mode filter.canonical.toList rest tokens := by
  have blank (more : List Char) : Closes (' ' :: more) := closes_cons (by decide) more
  have parenthesis (more : List Char) : Closes (')' :: more) := closes_cons (by decide) more
  have bracket (more : List Char) : Closes (']' :: more) := closes_cons (by decide) more
  -- Any rest will do that ends words: each part stands in front of a blank or a mark.
  induction phrase generalizing rest with
  | single _ ih => exact ih readable closes
  | @link before after left right op _ _ front last =>
    simp only [List.forall_mem_append, List.forall_mem_cons] at readable
    have written : (Filter.logical left op right).canonical.toList =
        left.canonical.toList ++
          (' ' :: ((Token.connective op).lexeme.toList ++ [' '] ++ right.canonical.toList)) := by
      simp [Filter.canonical, Token.lexeme]
    rw [written]
    have behind := (yields_lexeme_gap (.connective op) readable.2.1 _).append
      (last readable.2.2 closes)
    exact (front readable.1 (blank _)).append (behind.cons_gap rfl)
  | @group inner body _ inside =>
    simp only [List.forall_mem_append, List.forall_mem_cons] at readable
    have written : (Filter.group body).canonical.toList =
        (Token.lexeme .openGroup).toList ++
          (body.canonical.toList ++ (Token.lexeme .closeGroup).toList) := by
      simp [Filter.canonical, Token.lexeme]
    rw [written]
    have close := yields_lexeme .closeGroup readable.2.2.1 fun _ => closes
    exact (yields_lexeme_closed .openGroup readable.1 rfl _).append
      ((inside readable.2.1 (parenthesis _)).append close)
  | @negation inner body _ inside =>
    simp only [List.forall_mem_append, List.forall_mem_cons] at readable
    have written : (Filter.negation body).canonical.toList =
        (Token.lexeme .negation).toList ++ [' '] ++ ((Token.lexeme .openGroup).toList ++
          (body.canonical.toList ++ (Token.lexeme .closeGroup).toList)) := by
      simp [Filter.canonical, Token.lexeme]
    rw [written]
    have close := yields_lexeme .closeGroup readable.2.2.2.1 fun _ => closes
    exact (yields_lexeme_gap .negation readable.1 _).append
      ((yields_lexeme_closed .openGroup readable.2.1 rfl _).append
        ((inside readable.2.2.1 (parenthesis _)).append close))
  | @comparison path op token operand literal =>
    simp only [List.forall_mem_cons] at readable
    have written : (Filter.comparison (.attr path) op operand).canonical.toList =
        (Token.name path).lexeme.toList ++ [' '] ++
          ((Token.comparison op).lexeme.toList ++ [' '] ++ token.lexeme.toList) := by
      simp [Filter.canonical, Token.lexeme, literal.canonical_eq]
    rw [written]
    exact (yields_lexeme_gap _ readable.1 _).append
      ((yields_lexeme_gap _ readable.2.1 _).append
        (yields_lexeme _ readable.2.2.1 fun _ => closes))
  | matching path op value =>
    simp only [List.forall_mem_cons] at readable
    have written : (Filter.matching (.attr path) op value).canonical.toList =
        (Token.name path).lexeme.toList ++ [' '] ++
          ((Token.matching op).lexeme.toList ++ [' '] ++ (Token.text value).lexeme.toList) := by
      simp [Filter.canonical, Token.lexeme]
    rw [written]
    exact (yields_lexeme_gap _ readable.1 _).append
      ((yields_lexeme_gap _ readable.2.1 _).append
        (yields_lexeme _ readable.2.2.1 fun _ => closes))
  | presence path =>
    simp only [List.forall_mem_cons] at readable
    have written : (Filter.presence (.attr path)).canonical.toList =
        (Token.name path).lexeme.toList ++ [' '] ++ (Token.lexeme .presence).toList := by
      simp [Filter.canonical, Token.lexeme]
    rw [written]
    exact (yields_lexeme_gap _ readable.1 _).append
      (yields_lexeme _ readable.2.1 fun _ => closes)
  | @valuePath path inner body _ inside =>
    simp only [List.forall_mem_append, List.forall_mem_cons] at readable
    have written : (Filter.valuePath (.attr path) body).canonical.toList =
        (Token.name path).lexeme.toList ++ ((Token.lexeme .openPath).toList ++
          (body.canonical.toList ++ (Token.lexeme .closePath).toList)) := by
      simp [Filter.canonical, Token.lexeme]
    rw [written]
    have close := yields_lexeme .closePath readable.2.2.2.1 fun _ => closes
    exact (yields_lexeme _ readable.1 fun _ => closes_cons (by decide) _).append
      ((yields_lexeme_closed .openPath readable.2.1 rfl _).append
        ((inside readable.2.2.1 (bracket _)).append close))
  | @patchPath path target inner body _ _ inside =>
    simp only [List.forall_mem_append, List.forall_mem_cons] at readable
    have written : (Filter.patchPath (.attr path) body (.attr target)).canonical.toList =
        (Token.name path).lexeme.toList ++ ((Token.lexeme .openPath).toList ++
          (body.canonical.toList ++ ((Token.lexeme .closePath).toList ++
            ((Token.lexeme .dot).toList ++ (Token.name target).lexeme.toList)))) := by
      simp [Filter.canonical, Token.lexeme]
    rw [written]
    have close := yields_lexeme (.name target) readable.2.2.2.2.2.1 fun _ => closes
    exact (yields_lexeme _ readable.1 fun _ => closes_cons (by decide) _).append
      ((yields_lexeme_closed .openPath readable.2.1 rfl _).append
        ((inside readable.2.2.1 (bracket _)).append
          ((yields_lexeme_closed .closePath readable.2.2.2.1 rfl _).append
            ((yields_lexeme_closed .dot readable.2.2.2.2.1 rfl _).append close))))

/-- A text that yields the tokens of a phrase within the limit of nesting is read as its tree. -/
theorem ofText_of_yields {text : String} {tokens : List Token} {filter : Filter}
    (yields : Yields mode text.toList [] tokens)
    (phrase : Phrase (decide (mode = .patch)) .chain tokens filter)
    (fits : filter.nesting ≤ nestingLimit) : Filter.ofText mode text = .ok filter := by
  obtain ⟨found, place, stream, rfl⟩ := ofText_eq_of_yields yields
  exact ofText_eq_ok_iff.2 ⟨found, place, stream, phrase, fits⟩

/-- The canonical text of a tree is read as that tree, if the tree is that of a phrase which a text
can hold and which lies within the limit of nesting. -/
theorem Phrase.read_canonical {tokens : List Token} {filter : Filter}
    (phrase : Phrase (decide (mode = .patch)) .chain tokens filter)
    (readable : ∀ token ∈ tokens, token.Readable mode) (fits : filter.nesting ≤ nestingLimit) :
    Filter.ofText mode filter.canonical = .ok filter :=
  ofText_of_yields (phrase.yields_canonical readable closes_nil) phrase fits

end Grammar

/-- A filter that has been read from a text has a canonical text which is read as the same filter,
with the same settings of the switch for patch paths. -/
theorem ofText_canonical (settings : List Bool) (text : String) (filter : Filter)
    (read : Filter.ofText (.ofSwitches settings) text = .ok filter) :
    Filter.ofText (.ofSwitches settings) filter.canonical = .ok filter := by
  obtain ⟨tokens, place, stream, phrase, fits⟩ := Grammar.ofText_eq_ok_iff.1 read
  refine phrase.read_canonical ?_ fits
  intro token mem
  obtain ⟨placed, isPlaced, rfl⟩ := List.mem_map.1 mem
  have found : placed ∈ (TokenStream.ofText (.ofSwitches settings) text).tokens := by
    rw [stream]
    exact isPlaced
  exact TokenStream.readable_of_mem_scan found

/-- A text with keywords in any case, a number with leading zeros, an escape and a patch path. -/
theorem ofText_canonical_patchPath :
    ∃ filter,
      Filter.ofText (.ofSwitches [false, true])
        "NOT(a Eq 007)or emails[type CO \"w\\\"k\" aNd x ne NULL].value" = .ok filter ∧
      filter.canonical = "not (a eq 7) or emails[type co \"w\\\"k\" and x ne null].value" ∧
      Filter.ofText (.ofSwitches [false, true]) filter.canonical = .ok filter := by
  have read := eq_ok_of_toOption (by decide +kernel : (Filter.ofText (.ofSwitches [false, true])
      "NOT(a Eq 007)or emails[type CO \"w\\\"k\" aNd x ne NULL].value").toOption = some
    (.logical (.negation (.comparison (.attr "a") .equal (.number 7))) .disjunction
      (.patchPath (.attr "emails")
        (.logical (.matching (.attr "type") .contains "w\"k") .conjunction
          (.comparison (.attr "x") .notEqual .null)) (.attr "value"))))
  exact ⟨_, read, by decide +kernel, ofText_canonical _ _ _ read⟩

end ResourceFilter
