import ResourceFilter.Proofs.Token.Shape

/-! # The tokens of filters and of patch paths

The two modes of reading differ in the dot alone: a patch path has it as a token, a filter fails at
it. So the tokens that a text has as a filter are those that it has as a patch path, up to the first
dot, with the same places; `scan_filter` says so for whole streams.
-/

set_option autoImplicit false

namespace ResourceFilter

namespace Scan

/-- A reading of a patch path as it is in a filter. -/
def Reading.asFilter : Reading → Reading
  | .found token next rest =>
    if token.token = .dot then .failed (.unexpectedCharacter '.' token.place)
    else .found token next rest
  | other => other

/-- Only a dot is read differently in the two modes. -/
theorem tokenAt_mode_eq {c : Char} (notDot : c ≠ '.') (place : Position) (rest : List Char) :
    tokenAt .filter place c rest = tokenAt .patch place c rest := by
  have marks : Token.punctuation? .filter c = Token.punctuation? .patch c := by
    simp [Token.punctuation?, notDot]
  unfold tokenAt
  rw [marks]

/-- At one place, the reading of a filter is that of a patch path, failing at a dot. -/
theorem tokenAt_filter (place : Position) (c : Char) (rest : List Char) :
    tokenAt .filter place c rest = (tokenAt .patch place c rest).asFilter := by
  by_cases dot : c = '.'
  · subst dot
    have notWord : ¬startsWord '.' = true := by decide
    have patch : tokenAt .patch place '.' rest = .found ⟨.dot, place⟩ (place.next '.') rest := by
      unfold tokenAt
      rw [if_neg (by decide), if_neg (by decide), if_neg notWord]
      rfl
    have filter : tokenAt .filter place '.' rest = .failed (.unexpectedCharacter '.' place) := by
      unfold tokenAt
      rw [if_neg (by decide), if_neg (by decide), if_neg notWord]
      rfl
    rw [patch, filter, Reading.asFilter, if_pos rfl]
  · rw [← tokenAt_mode_eq dot]
    cases read : tokenAt .filter place c rest with
    | found token next behind =>
      have notDot : token.token ≠ .dot := by
        intro isDot
        have readable := readable_of_tokenAt read
        rw [isDot] at readable
        cases readable
      exact (if_neg notDot).symm
    | ended | failed => rfl

/-- The next token of a filter is that of a patch path, if it is no dot. -/
theorem token_filter (place : Position) (text : List Char) :
    token .filter place text = (token .patch place text).asFilter := by
  unfold token
  cases text.dropWhile isGap with
  | nil => rfl
  | cons c rest => exact tokenAt_filter _ c rest

end Scan

namespace TokenStream

/-- The first dot among tokens. -/
def firstDot? (tokens : List PlacedToken) : Option PlacedToken :=
  tokens.find? fun placed => placed.token = .dot

/-- A stream that fails at its first dot. -/
def asFilter (stream : TokenStream) : TokenStream :=
  match firstDot? stream.tokens with
  | some dot =>
    ⟨stream.tokens.takeWhile fun placed => placed.token ≠ .dot,
      .failed (.unexpectedCharacter '.' dot.place)⟩
  | none => stream

/-- A stream that begins with a dot fails there. -/
theorem asFilter_cons_dot {placed : PlacedToken} (isDot : placed.token = .dot)
    (stream : TokenStream) :
    (stream.cons placed).asFilter = ⟨[], .failed (.unexpectedCharacter '.' placed.place)⟩ := by
  simp [asFilter, firstDot?, cons, isDot]

/-- A first token that is no dot stays in front. -/
theorem asFilter_cons {placed : PlacedToken} (notDot : placed.token ≠ .dot)
    (stream : TokenStream) : (stream.cons placed).asFilter = stream.asFilter.cons placed := by
  have later : firstDot? (placed :: stream.tokens) = firstDot? stream.tokens := by
    simp [firstDot?, notDot]
  unfold asFilter
  simp only [cons, later]
  cases firstDot? stream.tokens with
  | none => rfl
  | some dot => simp [notDot]

/-- Without a dot a stream is the same in both modes. -/
theorem asFilter_of_dotless {stream : TokenStream}
    (dotless : .dot ∉ stream.tokens.map PlacedToken.token) : stream.asFilter = stream := by
  have none : firstDot? stream.tokens = none := by
    unfold firstDot?
    rw [List.find?_eq_none]
    intro placed mem isDot
    exact dotless (List.mem_map.2 ⟨placed, mem, of_decide_eq_true isDot⟩)
  unfold asFilter
  rw [none]

/-- The tokens in front of the first dot, the dot, and all that stands behind it. -/
theorem exists_of_dot_mem {tokens : List PlacedToken}
    (hasDot : .dot ∈ tokens.map PlacedToken.token) :
    ∃ before dot after, tokens = before ++ dot :: after ∧
      .dot ∉ before.map PlacedToken.token ∧ firstDot? tokens = some dot ∧
      ∀ ending, asFilter ⟨tokens, ending⟩ =
        ⟨before, .failed (.unexpectedCharacter '.' dot.place)⟩ := by
  induction tokens with
  | nil => cases hasDot
  | cons placed rest ih =>
    by_cases isDot : placed.token = .dot
    · refine ⟨[], placed, rest, rfl, List.not_mem_nil, ?_, ?_⟩
      · simp [firstDot?, isDot]
      · intro ending
        exact asFilter_cons_dot isDot ⟨rest, ending⟩
    · have later : .dot ∈ rest.map PlacedToken.token := by
        simpa [Ne.symm isDot] using hasDot
      obtain ⟨before, dot, after, split, dotless, first, failing⟩ := ih later
      refine ⟨placed :: before, dot, after, by rw [split, List.cons_append], ?_, ?_, ?_⟩
      · simp only [List.map_cons, List.mem_cons, not_or]
        exact ⟨Ne.symm isDot, dotless⟩
      · rw [← first]
        simp [firstDot?, isDot]
      · intro ending
        have step := asFilter_cons isDot ⟨rest, ending⟩
        rw [failing] at step
        exact step

/-- Where there is a dot, a stream fails as a filter. -/
theorem failed_of_dot_mem {stream : TokenStream}
    (hasDot : .dot ∈ stream.tokens.map PlacedToken.token) :
    ∃ error, stream.asFilter.ending = .failed error := by
  obtain ⟨before, dot, after, -, -, -, failing⟩ := exists_of_dot_mem hasDot
  exact ⟨_, congrArg ending (failing stream.ending)⟩

/-- The stream of a filter is that of the patch path, failing at the first dot. -/
theorem scan_filter (place : Position) (text : List Char) :
    scan .filter place text = (scan .patch place text).asFilter := by
  rw [scan_eq, Scan.token_filter]
  fun_induction scan .patch place text with
  | case1 place text placed next rest read ih =>
    rw [read]
    by_cases isDot : placed.token = .dot
    · simp [Scan.Reading.asFilter, isDot, asFilter_cons_dot]
    · rw [asFilter_cons isDot, ← ih, ← Scan.token_filter, ← scan_eq]
      simp [Scan.Reading.asFilter, isDot]
  | case2 place text last read =>
    rw [read]
    rfl
  | case3 place text error read =>
    rw [read]
    rfl

/-- The tokens of a filter are those of the patch path up to its first dot. -/
theorem ofText_filter (text : String) : ofText .filter text = (ofText .patch text).asFilter :=
  scan_filter .start text.toList

/-- The stream of a filter has no dots. -/
theorem dot_not_mem_ofText_filter (text : String) :
    .dot ∉ (ofText .filter text).tokens.map PlacedToken.token := by
  intro mem
  obtain ⟨placed, found, isDot⟩ := List.mem_map.1 mem
  have readable := readable_of_mem_scan found
  rw [isDot] at readable
  cases readable

end TokenStream

end ResourceFilter
