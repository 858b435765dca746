import Mathlib.Data.List.Basic
import Mathlib.Data.List.Induction
import ResourceFilter.Proofs.Token.Partition
import ResourceFilter.Text.Split

/-! # Where tokens stand

A reader keeps count of lines and columns as it goes, and the count is right at every token: a token
stands on the line, and in the column, that the text in front of its first character makes. So the
places of tokens are in the order of the tokens, and the place of an error is one where the text
shows what the error says, also where that is inside of a quoted value.
-/

set_option autoImplicit false

namespace ResourceFilter

namespace Position

/-- The place behind a text. Its line is one more than there are line feeds in the text, its column
one more than there are characters behind the last of them. -/
def behind (before : List Char) : Position :=
  ⟨1 + before.count '\n', 1 + (Text.afterLast '\n' before).length⟩

/-- The first place comes before the second one in a text. -/
def Before (first second : Position) : Prop :=
  first.line < second.line ∨ first.line = second.line ∧ first.column < second.column

/-- The place behind one more character is the next one. -/
theorem behind_append_singleton (before : List Char) (c : Char) :
    behind (before ++ [c]) = (behind before).next c := by
  unfold behind next
  by_cases feed : c = '\n'
  · subst feed
    rw [if_pos rfl, Text.afterLast_append before List.not_mem_nil]
    simp [Nat.add_assoc]
  · have free : '\n' ∉ [c] := by simpa using Ne.symm feed
    rw [if_neg feed, Text.afterLast_append_of_not_mem before free]
    simp [List.count_eq_zero_of_not_mem free, Nat.add_assoc]

/-- Walking through a text from its beginning leads to the place behind it. -/
theorem after_start (before : List Char) : start.after before = behind before := by
  induction before using List.reverseRecOn with
  | nil => rfl
  | append_singleton before c ih =>
    rw [after_append, ih, behind_append_singleton]
    rfl

/-- The next place comes later. -/
theorem before_next (place : Position) (c : Char) : place.Before (place.next c) := by
  unfold next
  split
  · exact .inl (Nat.lt_succ_self _)
  · exact .inr ⟨rfl, Nat.lt_succ_self _⟩

/-- Walking never leads back. -/
theorem not_after_before (place : Position) (run : List Char) :
    ¬(place.after run).Before place := by
  induction run generalizing place with
  | nil =>
    unfold Before
    rw [after_nil]
    omega
  | cons c more ih =>
    have step := place.before_next c
    have later := ih (place.next c)
    rw [after_cons]
    unfold Before at step later ⊢
    omega

/-- A walk over some characters leads to a later place. -/
theorem before_after {run : List Char} (nonempty : run ≠ []) (place : Position) :
    place.Before (place.after run) := by
  obtain ⟨c, more, rfl⟩ := List.exists_cons_of_ne_nil nonempty
  have step := place.before_next c
  have later := (place.next c).not_after_before more
  rw [after_cons]
  unfold Before at step later ⊢
  omega

/-- What comes before a place comes before all places that are not in front of it. -/
theorem Before.of_not_before {first second third : Position} (before : first.Before second)
    (later : ¬third.Before second) : first.Before third := by
  unfold Before at before later ⊢
  omega

end Position

/-- Every way to write a token has a character. -/
theorem Token.IsWritten.ne_nil {mode : Mode} {token : Token} {lexeme : List Char}
    (written : token.IsWritten mode lexeme) : lexeme ≠ [] := by
  cases written with
  | word shape =>
    obtain ⟨first, more, rfl, -⟩ := shape
    exact List.cons_ne_nil _ _
  | number nonempty => exact nonempty
  | text | mark => exact List.cons_ne_nil _ _

/-- A token that a digit does not prolong does not end with one. -/
theorem Token.IsWritten.getLast?_of_not_prolongs {mode : Mode} {token : Token}
    {lexeme : List Char} {digit : Char} (written : token.IsWritten mode lexeme)
    (isDigit : digit.isDigit = true) (ends : token.prolongs digit = false) :
    ∀ c ∈ lexeme.getLast?, c.isDigit = false := by
  intro c mem
  cases written with
  | word =>
    rw [prolongs_of_isWord (isWord_ofWord _), Scan.continuesWord_of_isDigit isDigit] at ends
    cases ends
  | number =>
    rw [prolongs, isDigit] at ends
    cases ends
  | text =>
    rw [← List.cons_append, List.getLast?_concat] at mem
    cases mem
    rfl
  | mark isMark =>
    cases mem
    exact (apart_of_punctuation? isMark).2.1

/-- In front of a run of digits that begins a token stands no digit. -/
theorem FrontLayout.getLast?_of_isDigit {mode : Mode} {digit : Char} {front rest : List Char}
    {tokens : List Token} (layout : FrontLayout mode (digit :: rest) front tokens)
    (isDigit : digit.isDigit = true) : ∀ c ∈ front.getLast?, c.isDigit = false := by
  induction layout with
  | blank blank =>
    intro c mem
    have gap := blank c (List.mem_of_getLast? mem)
    refine Bool.eq_false_iff.2 fun isDigit => ?_
    rw [Scan.isGap_of_continuesWord (Scan.continuesWord_of_isDigit isDigit)] at gap
    cases gap
  | @token gaps lexeme front token tokens blank written ends behind ih =>
    cases front with
    | nil =>
      rw [List.append_nil, List.getLast?_append_of_ne_nil _ written.ne_nil]
      exact written.getLast?_of_not_prolongs isDigit (ends digit rfl)
    | cons first more =>
      have nonempty : first :: more ≠ [] := List.cons_ne_nil _ _
      rw [← List.append_assoc, List.getLast?_append_of_ne_nil _ nonempty]
      exact ih

namespace TokenStream

variable {mode : Mode}

/-- The places of the tokens of a stream, and of the end of the text if the stream comes to it. -/
def places (stream : TokenStream) : List Position :=
  stream.tokens.map PlacedToken.place ++
    match stream.ending with
    | .atEnd last => [last]
    | .failed _ => []

/-- A token in front brings its place in front. -/
theorem places_cons (token : PlacedToken) (stream : TokenStream) :
    (stream.cons token).places = token.place :: stream.places := rfl

/-- All tokens of a text, and its end, stand behind where it begins. -/
theorem not_before_of_mem_places {place other : Position} {text : List Char}
    (mem : other ∈ (scan mode place text).places) : ¬other.Before place := by
  fun_induction scan mode place text with
  | case1 place text token next rest found ih =>
    obtain ⟨gaps, lexeme, rfl, -, -, -, here, rfl⟩ := Scan.token_eq_found_iff.1 found
    rw [places_cons] at mem
    rcases List.mem_cons.1 mem with rfl | later
    · rw [here]
      exact place.not_after_before gaps
    · intro before
      have behind := ih later
      have advanced := place.not_after_before (gaps ++ lexeme)
      unfold Position.Before at before behind advanced
      omega
  | case2 place text last ended =>
    obtain ⟨-, rfl⟩ := Scan.token_eq_ended_iff.1 ended
    obtain rfl := List.mem_singleton.1 mem
    exact place.not_after_before text
  | case3 => cases mem

/-- The places of the tokens are in the order of the tokens. -/
theorem pairwise_places (place : Position) (text : List Char) :
    (scan mode place text).places.Pairwise Position.Before := by
  fun_induction scan mode place text with
  | case1 place text token next rest found ih =>
    obtain ⟨gaps, lexeme, rfl, -, written, -, here, rfl⟩ := Scan.token_eq_found_iff.1 found
    rw [places_cons]
    refine List.pairwise_cons.2 ⟨?_, ih⟩
    intro other mem
    have advanced := Position.before_after written.ne_nil (place.after gaps)
    rw [here]
    rw [Position.after_append] at mem
    exact advanced.of_not_before (not_before_of_mem_places mem)
  | case2 => exact List.pairwise_singleton _ _
  | case3 => exact .nil

end TokenStream

/-- What an error says of the text in front of its place and behind it, where the text in front of
what could not be read is laid out as the given tokens. -/
def ScanError.PointsAt (mode : Mode) (text : List Char) (tokens : List Token) : ScanError → Prop
  | unexpectedCharacter c place => ∃ before rest, text = before ++ c :: rest ∧
      place = .behind before ∧
      (FrontLayout mode (c :: rest) before tokens ∨
        ∃ opened inside, before = opened ++ '"' :: inside ∧
          FrontLayout mode ('"' :: (inside ++ c :: rest)) opened tokens ∧
          Text.Quoted.isForbidden c = true)
  | unterminatedText place => ∃ before rest, text = before ++ '"' :: rest ∧
      place = .behind before ∧ FrontLayout mode ('"' :: rest) before tokens ∧
      Text.Quoted.Unclosed rest
  | numberOutOfRange written place => ∃ before digits rest, text = before ++ (digits ++ rest) ∧
      place = .behind before ∧ FrontLayout mode (digits ++ rest) before tokens ∧
      written = String.ofList digits ∧ Scan.Exceeds digits rest ∧
      ∀ c ∈ before.getLast?, c.isDigit = false

namespace TokenStream

variable {mode : Mode}

/-- Errors point at what they are about. -/
theorem pointsAt_of_failing {text : String} {error : ScanError}
    (failing : (ofText mode text).ending = .failed error) :
    error.PointsAt mode text.toList ((ofText mode text).tokens.map PlacedToken.token) := by
  obtain ⟨front, rest, isText, layout, fault⟩ := exists_fault failing
  rw [Position.after_start] at fault
  cases fault with
  | foreign => exact ⟨front, _, isText, rfl, .inl layout⟩
  | @forbidden inside rest c isForbidden =>
    refine ⟨front ++ '"' :: inside, rest, ?_, ?_, .inr ⟨front, inside, rfl, layout, isForbidden⟩⟩
    · rw [isText, List.append_assoc, List.cons_append]
    · rw [← Position.after_start, ← Position.after_append, Position.after_start]
  | unterminated unclosed => exact ⟨front, _, isText, rfl, layout, unclosed⟩
  | @outOfRange digits rest exceeds =>
    refine ⟨front, digits, rest, isText, rfl, layout, rfl, exceeds, ?_⟩
    obtain ⟨first, more, rfl⟩ := List.exists_cons_of_ne_nil exceeds.nonempty
    exact layout.getLast?_of_isDigit (exceeds.decimal first List.mem_cons_self)

/-- Every token stands where the text in front of its first character ends, counted in line feeds and
in characters behind the last of these. The places of the tokens are in order, in front of the end
of the text, which is counted in the same way, and errors point at what they are about. -/
theorem places_of_ofText (mode : Mode) (text : String) :
    (∀ earlier token later, (ofText mode text).tokens = earlier ++ token :: later →
      ∃ before lexeme rest, text.toList = before ++ (lexeme ++ rest) ∧
        FrontLayout mode (lexeme ++ rest) before (earlier.map PlacedToken.token) ∧
        token.token.IsWritten mode lexeme ∧
        (∀ c ∈ rest.head?, token.token.prolongs c = false) ∧ token.place = .behind before) ∧
    (ofText mode text).places.Pairwise Position.Before ∧
    (∀ last, (ofText mode text).ending = .atEnd last → last = .behind text.toList) ∧
    ∀ error, (ofText mode text).ending = .failed error →
      error.PointsAt mode text.toList ((ofText mode text).tokens.map PlacedToken.token) := by
  refine ⟨?_, pairwise_places .start text.toList, ?_, fun error => pointsAt_of_failing⟩
  · intro earlier token later split
    have read : ofText mode text = ⟨earlier ++ token :: later, (ofText mode text).ending⟩ := by
      rw [← split]
    obtain ⟨front, rest, isText, layout, left⟩ := exists_frontLayout read
    obtain ⟨next, behind, found⟩ := token_of_scan_cons left
    obtain ⟨gaps, lexeme, rfl, blank, written, ends, here, -⟩ := Scan.token_eq_found_iff.1 found
    refine ⟨front ++ gaps, lexeme, behind, ?_, layout.append_gaps blank, written, ends, ?_⟩
    · rw [isText, List.append_assoc]
    · rw [here, ← Position.after_append, Position.after_start]
  · intro last atEnd
    have read : ofText mode text = ⟨(ofText mode text).tokens ++ [], .atEnd last⟩ := by
      rw [List.append_nil, ← atEnd]
    obtain ⟨front, rest, isText, -, left⟩ := exists_frontLayout read
    obtain ⟨-, isLast⟩ := Scan.token_eq_ended_iff.1 (token_of_scan_nil left)
    rw [isLast, isText, ← Position.after_append, Position.after_start]

/-- A keyword behind a value of two lines stands on the third one, and a bell in a value that begins
there is reported for the fourth one. -/
theorem places_of_ofText_lines :
    let text := "a eq \"x\ny\"\n  and \"b\n\x07\""
    let earlier : List PlacedToken :=
      [⟨.name "a", ⟨1, 1⟩⟩, ⟨.comparison .equal, ⟨1, 3⟩⟩, ⟨.text "x\ny", ⟨1, 6⟩⟩]
    let keyword : PlacedToken := ⟨.connective .conjunction, ⟨3, 3⟩⟩
    let error : ScanError := .unexpectedCharacter '\x07' ⟨4, 1⟩
    ofText .filter text = ⟨earlier ++ [keyword], .failed error⟩ ∧
    (∃ before lexeme rest, text.toList = before ++ (lexeme ++ rest) ∧
      FrontLayout .filter (lexeme ++ rest) before (earlier.map PlacedToken.token) ∧
      keyword.token.IsWritten .filter lexeme ∧
      (∀ c ∈ rest.head?, keyword.token.prolongs c = false) ∧ ⟨3, 3⟩ = Position.behind before) ∧
    (ofText .filter text).places.Pairwise Position.Before ∧
    (∀ last, (ofText .filter text).ending = .atEnd last → last = .behind text.toList) ∧
    error.PointsAt .filter text.toList ((earlier ++ [keyword]).map PlacedToken.token) := by
  intro text earlier keyword error
  have read : ofText .filter text = ⟨earlier ++ [keyword], .failed error⟩ := by decide +kernel
  have split : (ofText .filter text).tokens = earlier ++ keyword :: [] := by rw [read]
  have failing : (ofText .filter text).ending = .failed error := by rw [read]
  obtain ⟨stands, order, atEnd, points⟩ := places_of_ofText .filter text
  have pointsAt := points error failing
  rw [split] at pointsAt
  exact ⟨read, stands earlier keyword [] split, order, atEnd, pointsAt⟩

end TokenStream

end ResourceFilter
