import ResourceFilter.Filter.Basic
import ResourceFilter.Proofs.Text.Quoted
import ResourceFilter.Proofs.Text.Run
import ResourceFilter.Proofs.Token.Shape

/-! # Lexemes

How each token is written, and that it is read back from what was written: `lexeme` is the way that
canonical texts have it, `IsWritten` are all of them. Reading takes a token as long as it can be, so
what stands behind a word or a number must not prolong it; behind any other token anything may
stand. `Yields` says that a piece of text is read as certain tokens whatever comes before it, and
pieces that follow each other yield their tokens in order.
-/

set_option autoImplicit false

namespace ResourceFilter

namespace Scan

/-- Words and numbers end before such a text. -/
def Closes (rest : List Char) : Prop :=
  ∀ c ∈ rest.head?, continuesWord c = false

/-- The end of the text ends words and numbers. -/
theorem closes_nil : Closes [] := by
  intro c mem
  cases mem

/-- A character that does not belong to words ends every token. -/
theorem closes_cons {c : Char} (foreign : continuesWord c = false) (rest : List Char) :
    Closes (c :: rest) := by
  intro other mem
  cases mem
  exact foreign

/-- The digits are the ASCII characters from `0` to `9`. -/
theorem isDigit_iff {c : Char} : c.isDigit = true ↔ 48 ≤ c.toNat ∧ c.toNat ≤ 57 := by
  simp only [Char.isDigit, Bool.and_eq_true, decide_eq_true_eq]
  exact Iff.rfl

/-- Digits are no letters. -/
theorem isAlpha_of_isDigit {c : Char} (digit : c.isDigit = true) : c.isAlpha = false := by
  have bounds := isDigit_iff.1 digit
  apply Bool.eq_false_iff.2
  intro alpha
  rcases Bool.or_eq_true_iff.1 alpha with upper | lower
  · have from_A : 65 ≤ c.toNat := (of_decide_eq_true upper).1
    omega
  · have from_a : 97 ≤ c.toNat := of_decide_eq_true (Bool.and_eq_true_iff.1 lower).1
    omega

/-- Digits continue words. -/
theorem continuesWord_of_isDigit {c : Char} (digit : c.isDigit = true) :
    continuesWord c = true := by
  have numeric := Unicode.isNumeric_ascii c.toNat (by have := isDigit_iff.1 digit; omega)
  rw [Char.ofNat_toNat, digit] at numeric
  simp [continuesWord, numeric]

/-- What starts a word is no digit. -/
theorem isDigit_of_startsWord {c : Char} (starts : startsWord c = true) : c.isDigit = false := by
  refine Bool.eq_false_iff.2 fun digit => ?_
  have letter := Unicode.isAlphabetic_ascii c.toNat (by have := isDigit_iff.1 digit; omega)
  rw [Char.ofNat_toNat, isAlpha_of_isDigit digit] at letter
  rcases Bool.or_eq_true_iff.1 starts with alphabetic | underscore
  · rw [letter] at alphabetic
    cases alphabetic
  · rw [of_decide_eq_true underscore] at digit
    exact absurd digit (by decide)

/-- What continues a word is no gap. -/
theorem isGap_of_continuesWord {c : Char} (continues : continuesWord c = true) :
    isGap c = false := by
  refine Bool.eq_false_iff.2 fun gap => ?_
  simp only [isGap, Bool.or_eq_true, decide_eq_true_eq] at gap
  rcases gap with ((rfl | rfl) | rfl) | rfl <;> exact absurd continues (by decide)

/-- A gap in front of a token is skipped, and only moves its place. -/
theorem token_of_isGap {mode : Mode} {place : Position} {c : Char} (gap : isGap c = true)
    (rest : List Char) : token mode place (c :: rest) = token mode (place.next c) rest := by
  unfold token
  rw [List.dropWhile_cons_of_pos gap, List.takeWhile_cons_of_pos gap, Position.after_cons]

/-- At any other character a token begins. -/
theorem token_of_not_isGap {mode : Mode} {place : Position} {c : Char} (solid : isGap c = false)
    (rest : List Char) : token mode place (c :: rest) = tokenAt mode place c rest := by
  have stop : ¬isGap c = true := by simp [solid]
  unfold token
  rw [List.dropWhile_cons_of_neg stop, List.takeWhile_cons_of_neg stop]
  rfl

/-- A run of characters of a class is read up to the first character outside of it. -/
theorem run_append {belongs : Char → Bool} {ofRun : List Char → Except ScanError Token}
    {word rest : List Char} {token : Token} (inside : ∀ c ∈ word, belongs c = true)
    (outside : ∀ c ∈ rest.head?, belongs c = false) (denotes : ofRun word = .ok token)
    (place : Position) :
    run belongs ofRun place (word ++ rest) = .found ⟨token, place⟩ (place.after word) rest := by
  unfold run
  rw [Text.takeWhile_append_of_head inside outside, Text.dropWhile_append_of_head inside outside,
    denotes]

/-- A word is read up to the first character that belongs to no word. -/
theorem token_word {mode : Mode} {place : Position} {word rest : List Char} (shape : IsWord word)
    (closes : Closes rest) :
    token mode place (word ++ rest) =
      .found ⟨Token.ofWord (String.ofList word), place⟩ (place.after word) rest := by
  have inside : ∀ c ∈ word, continuesWord c = true := fun c mem => shape.continuesWord_of_mem mem
  obtain ⟨first, more, rfl, starts, -⟩ := shape
  have notQuote : first ≠ '"' := by
    rintro rfl
    exact absurd starts (by decide)
  rw [List.cons_append, token_of_not_isGap
    (isGap_of_continuesWord (continuesWord_of_startsWord starts))]
  unfold tokenAt
  rw [if_neg notQuote, if_neg (by simp [isDigit_of_startsWord starts]), if_pos starts]
  exact run_append inside closes rfl place

/-- Where digits stand, a run of digits is read. -/
theorem token_digits {mode : Mode} {digits : List Char} (nonempty : digits ≠ [])
    (decimal : ∀ c ∈ digits, c.isDigit = true) (place : Position) (rest : List Char) :
    token mode place (digits ++ rest) =
      run Char.isDigit (ofDigits place) place (digits ++ rest) := by
  obtain ⟨first, more, rfl⟩ := List.exists_cons_of_ne_nil nonempty
  have digit := decimal first List.mem_cons_self
  have notQuote : first ≠ '"' := by
    rintro rfl
    exact absurd digit (by decide)
  rw [List.cons_append, token_of_not_isGap
    (isGap_of_continuesWord (continuesWord_of_isDigit digit))]
  unfold tokenAt
  rw [if_neg notQuote, if_pos digit]

/-- A run of digits is read up to the first character that is no digit. -/
theorem token_number {mode : Mode} {place : Position} {digits rest : List Char}
    (nonempty : digits ≠ []) (inside : ∀ c ∈ digits, c.isDigit = true)
    (small : Text.decimalValue digits ≤ largestNumber)
    (outside : ∀ c ∈ rest.head?, c.isDigit = false) :
    token mode place (digits ++ rest) =
      .found ⟨.integer (Int64.ofNat (Text.decimalValue digits)), place⟩ (place.after digits)
        rest := by
  have denotes : ofDigits place digits =
      .ok (.integer (Int64.ofNat (Text.decimalValue digits))) := if_pos small
  rw [token_digits nonempty inside]
  exact run_append inside outside denotes place

/-- A text literal is read up to its closing quote. -/
theorem token_quote {mode : Mode} {place : Position} {inside value : List Char}
    (denotes : Text.Quoted.Denotes inside value) (rest : List Char) :
    token mode place ('"' :: (inside ++ '"' :: rest)) =
      .found ⟨.text (String.ofList value), place⟩ (place.after ('"' :: (inside ++ ['"'])))
        rest := by
  rw [token_of_not_isGap (by decide)]
  unfold tokenAt
  rw [if_pos rfl, denotes.decode_eq]
  rfl

/-- A punctuation mark is read as its token, whatever follows. -/
theorem token_mark {mode : Mode} {place : Position} {c : Char} {mark : Token}
    (isMark : Token.punctuation? mode c = some mark)
    (apart : c ≠ '"' ∧ c.isDigit = false ∧ startsWord c = false ∧ isGap c = false)
    (rest : List Char) :
    token mode place (c :: rest) = .found ⟨mark, place⟩ (place.next c) rest := by
  obtain ⟨notQuote, notDigit, notWord, notGap⟩ := apart
  rw [token_of_not_isGap notGap]
  unfold tokenAt
  rw [if_neg notQuote, if_neg (by simp [notDigit]), if_neg (by simp [notWord]), isMark]

end Scan

namespace Token

/-- A token as filters write it. -/
def lexeme : Token → String
  | name word => word
  | text value => Text.Quoted.quote value
  | integer value => Text.decimal value.toInt
  | boolean value => Filter.truthValue value
  | null => "null"
  | negation => "not"
  | connective op => op.word
  | presence => "pr"
  | comparison op => op.word
  | matching op => op.word
  | openGroup => "("
  | closeGroup => ")"
  | openPath => "["
  | closePath => "]"
  | dot => "."

/-- Whether a token is a keyword or a name. -/
def isWord : Token → Bool
  | text _ | integer _ | openGroup | closeGroup | openPath | closePath | dot => false
  | _ => true

/-- Whether more characters of words would prolong a token. -/
def isOpenEnded : Token → Bool
  | integer _ => true
  | token => token.isWord

/-- Whether a character right behind a token would be read as a part of it. -/
def prolongs : Token → Char → Bool
  | integer _, c => c.isDigit
  | token, c => token.isWord && Scan.continuesWord c

/-- The texts that a token is read from: keywords are written in any case, numbers with zeros in
front, and texts with a backslash wherever it does not matter. -/
inductive IsWritten (mode : Mode) : Token → List Char → Prop where
  | word {word : List Char} (shape : Scan.IsWord word) :
      IsWritten mode (.ofWord (String.ofList word)) word
  | number {digits : List Char} (nonempty : digits ≠ [])
      (decimal : ∀ c ∈ digits, c.isDigit = true)
      (small : Text.decimalValue digits ≤ Scan.largestNumber) :
      IsWritten mode (.integer (Int64.ofNat (Text.decimalValue digits))) digits
  | text {inside value : List Char} (denotes : Text.Quoted.Denotes inside value) :
      IsWritten mode (.text (String.ofList value)) ('"' :: (inside ++ ['"']))
  | mark {c : Char} {token : Token} (isMark : punctuation? mode c = some token) :
      IsWritten mode token [c]

/-- What comes of a word is the token of a word. -/
theorem isWord_ofWord (word : String) : (ofWord word).isWord = true := by
  obtain ⟨-, isName⟩ | ⟨token, found, isKeyword⟩ := ofWord_cases word
  · rw [isName]
    rfl
  · have words : ∀ entry ∈ keywords, entry.2.isWord = true := by decide
    rw [isKeyword]
    exact words _ (mem_keywords_of_keyword? found)

/-- A word is prolonged by whatever continues words. -/
theorem prolongs_of_isWord {token : Token} (word : token.isWord = true) (c : Char) :
    token.prolongs c = Scan.continuesWord c := by
  cases token with
  | text | integer | openGroup | closeGroup | openPath | closePath | dot => cases word
  | _ => rfl

/-- A punctuation mark begins no other token. -/
theorem apart_of_punctuation? {mode : Mode} {c : Char} {token : Token}
    (isMark : punctuation? mode c = some token) :
    c ≠ '"' ∧ c.isDigit = false ∧ Scan.startsWord c = false ∧ Scan.isGap c = false := by
  rcases punctuation?_cases isMark with
    ⟨rfl, -⟩ | ⟨rfl, -⟩ | ⟨rfl, -⟩ | ⟨rfl, -⟩ | ⟨rfl, -⟩ <;> decide

/-- Punctuation marks are complete in themselves. -/
theorem not_isOpenEnded_of_punctuation? {mode : Mode} {c : Char} {token : Token}
    (isMark : punctuation? mode c = some token) : token.isOpenEnded ≠ true := by
  rcases punctuation?_cases isMark with
    ⟨-, rfl⟩ | ⟨-, rfl⟩ | ⟨-, rfl⟩ | ⟨-, rfl⟩ | ⟨-, rfl, -⟩ <;> decide

/-- However a token is written, it is read, if nothing behind prolongs it. -/
theorem IsWritten.token_eq {mode : Mode} {lexeme rest : List Char} {token : Token}
    (written : IsWritten mode token lexeme) (ends : ∀ c ∈ rest.head?, token.prolongs c = false)
    (place : Position) :
    Scan.token mode place (lexeme ++ rest) =
      .found ⟨token, place⟩ (place.after lexeme) rest := by
  cases written with
  | word shape =>
    refine Scan.token_word shape fun c mem => ?_
    rw [← prolongs_of_isWord (isWord_ofWord _) c]
    exact ends c mem
  | number nonempty decimal small => exact Scan.token_number nonempty decimal small ends
  | text denotes =>
    rw [List.cons_append, List.append_assoc]
    exact Scan.token_quote denotes rest
  | mark isMark => exact Scan.token_mark isMark (apart_of_punctuation? isMark) rest

/-- Keywords and names are read from their words. -/
theorem ofWord_lexeme {mode : Mode} {token : Token} (readable : token.Readable mode)
    (word : token.isWord = true) :
    Scan.IsWord token.lexeme.toList ∧ ofWord token.lexeme = token := by
  have keyword {first : Char} {more : List Char} (starts : Scan.startsWord first = true)
      (continues : more.all Scan.continuesWord = true) : Scan.IsWord (first :: more) :=
    ⟨first, more, rfl, starts, List.all_eq_true.1 continues⟩
  cases token with
  | name word => exact readable
  | boolean value => cases value <;> exact ⟨keyword (by decide) (by decide), by decide⟩
  | connective op => cases op <;> exact ⟨keyword (by decide) (by decide), by decide⟩
  | comparison op => cases op <;> exact ⟨keyword (by decide) (by decide), by decide⟩
  | matching op => cases op <;> exact ⟨keyword (by decide) (by decide), by decide⟩
  | null | negation | presence => exact ⟨keyword (by decide) (by decide), by decide⟩
  | text | integer | openGroup | closeGroup | openPath | closePath | dot => cases word

/-- The lexeme of a token is one of the texts that it is read from. -/
theorem isWritten_lexeme {mode : Mode} {token : Token} (readable : token.Readable mode) :
    IsWritten mode token token.lexeme.toList := by
  by_cases word : token.isWord = true
  · obtain ⟨shape, isToken⟩ := ofWord_lexeme readable word
    have written : IsWritten mode _ token.lexeme.toList := .word shape
    rwa [String.ofList_toList, isToken] at written
  · cases token with
    | text value =>
      have written : IsWritten mode _ _ := .text (Text.Quoted.denotes_encode readable)
      simpa [lexeme, Text.Quoted.quote] using written
    | integer value =>
      obtain ⟨n, isNat⟩ := Int.eq_ofNat_of_zero_le readable
      have small : n ≤ Scan.largestNumber := by
        have := Int64.toInt_le value
        rw [isNat, Scan.toInt_maxValue] at this
        exact Int.ofNat_le.1 this
      have back : Int64.ofNat n = value := by
        rw [← Int64.ofInt_eq_ofNat, ← isNat, Int64.ofInt_toInt]
      have digits : (integer value).lexeme.toList = Text.decimalDigits n := by
        show (Text.decimal value.toInt).toList = _
        rw [isNat]
        exact String.toList_ofList
      have written : IsWritten mode _ (Text.decimalDigits n) :=
        .number Nat.toDigits_ne_nil (fun c mem => Text.isDigit_of_mem_decimalDigits mem)
          (by rwa [Text.decimalValue_decimalDigits])
      rw [Text.decimalValue_decimalDigits, back] at written
      rwa [digits]
    | openGroup | closeGroup | openPath | closePath => exact .mark rfl
    | dot =>
      have patch : mode = .patch := readable
      subst patch
      exact .mark rfl
    | _ => exact absurd rfl word

/-- What ends all words and numbers prolongs no token. -/
theorem prolongs_of_closes {rest : List Char} (closes : Scan.Closes rest) (token : Token) :
    ∀ c ∈ rest.head?, token.prolongs c = false := by
  intro c mem
  have foreign := closes c mem
  cases token with
  | integer value =>
    refine Bool.eq_false_iff.2 fun digit => ?_
    rw [Scan.continuesWord_of_isDigit digit] at foreign
    cases foreign
  | _ => simp [prolongs, foreign]

/-- Nothing prolongs a token that is complete in itself. -/
theorem prolongs_of_not_isOpenEnded {token : Token} (closed : token.isOpenEnded ≠ true)
    (c : Char) : token.prolongs c = false := by
  cases token with
  | text | openGroup | closeGroup | openPath | closePath | dot => rfl
  | _ => exact absurd rfl closed

end Token

namespace TokenStream

/-- The stream with more tokens in front. -/
def prepend (tokens : List PlacedToken) (stream : TokenStream) : TokenStream :=
  { stream with tokens := tokens ++ stream.tokens }

/-- In front of `rest`, a piece of text is read as the given tokens, wherever it begins. -/
def Yields (mode : Mode) (text rest : List Char) (tokens : List Token) : Prop :=
  ∀ place, ∃ found, found.map PlacedToken.token = tokens ∧
    scan mode place (text ++ rest) = (scan mode (place.after text) rest).prepend found

variable {mode : Mode}

/-- No text yields no tokens. -/
theorem yields_nil (rest : List Char) : Yields mode [] rest [] :=
  fun _ => ⟨[], rfl, rfl⟩

/-- Pieces of text that follow each other yield their tokens in order. -/
theorem Yields.append {text more rest : List Char} {tokens others : List Token}
    (first : Yields mode text (more ++ rest) tokens) (second : Yields mode more rest others) :
    Yields mode (text ++ more) rest (tokens ++ others) := by
  intro place
  obtain ⟨found, isFirst, read⟩ := first place
  obtain ⟨behind, isSecond, readBehind⟩ := second (place.after text)
  refine ⟨found ++ behind, by rw [List.map_append, isFirst, isSecond], ?_⟩
  rw [List.append_assoc, read, readBehind, Position.after_append]
  simp only [prepend, List.append_assoc]

/-- A gap in front of a piece of text changes nothing about what it yields. -/
theorem Yields.cons_gap {c : Char} {text rest : List Char} {tokens : List Token}
    (behind : Yields mode text rest tokens) (gap : Scan.isGap c = true) :
    Yields mode (c :: text) rest tokens := by
  intro place
  obtain ⟨found, isBehind, read⟩ := behind (place.next c)
  refine ⟨found, isBehind, ?_⟩
  rw [List.cons_append, scan_eq, Scan.token_of_isGap gap, ← scan_eq, read]
  rfl

/-- However a token is written, it is yielded, if nothing behind prolongs it. -/
theorem yields_written {token : Token} {lexeme rest : List Char}
    (written : token.IsWritten mode lexeme) (ends : ∀ c ∈ rest.head?, token.prolongs c = false) :
    Yields mode lexeme rest [token] := by
  intro place
  refine ⟨[⟨token, place⟩], rfl, ?_⟩
  rw [scan_eq, written.token_eq ends]
  rfl

/-- A lexeme yields its token. -/
theorem yields_lexeme (token : Token) {rest : List Char} (readable : token.Readable mode)
    (closes : token.isOpenEnded = true → Scan.Closes rest) :
    Yields mode token.lexeme.toList rest [token] := by
  apply yields_written (Token.isWritten_lexeme readable)
  by_cases openEnded : token.isOpenEnded = true
  · exact Token.prolongs_of_closes (closes openEnded) token
  · intro c _
    exact Token.prolongs_of_not_isOpenEnded openEnded c

/-- The lexeme of a token that is complete in itself yields it, whatever follows. -/
theorem yields_lexeme_closed (token : Token) (readable : token.Readable mode)
    (closed : token.isOpenEnded = false) (rest : List Char) :
    Yields mode token.lexeme.toList rest [token] := by
  apply yields_lexeme token readable
  intro openEnded
  rw [closed] at openEnded
  cases openEnded

/-- A lexeme with a blank behind it yields its token. -/
theorem yields_lexeme_gap (token : Token) (readable : token.Readable mode) (rest : List Char) :
    Yields mode (token.lexeme.toList ++ [' ']) rest [token] :=
  (yields_lexeme token readable fun _ => Scan.closes_cons (by decide) rest).append
    ((yields_nil rest).cons_gap rfl)

/-- The stream of no text is empty, and ends where it begins. -/
theorem scan_nil (place : Position) : scan mode place [] = ⟨[], .atEnd place⟩ := by
  rw [scan_eq]
  rfl

/-- A text that yields tokens up to its end holds exactly those. -/
theorem ofText_eq_of_yields {text : String} {tokens : List Token}
    (yields : Yields mode text.toList [] tokens) : ∃ found place,
      ofText mode text = ⟨found, .atEnd place⟩ ∧ found.map PlacedToken.token = tokens := by
  obtain ⟨found, isFound, read⟩ := yields .start
  rw [List.append_nil, scan_nil] at read
  simp only [prepend, List.append_nil] at read
  exact ⟨found, _, read, isFound⟩

end TokenStream

end ResourceFilter
