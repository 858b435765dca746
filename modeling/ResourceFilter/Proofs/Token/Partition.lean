import ResourceFilter.Proofs.Grammar.Recognition
import ResourceFilter.Proofs.Token.Layout

/-! # A text cut into tokens

Tokens can be asked for one by one: a `Scanner` reads the next token of what is left of a text, and
stays where it is once it has come to the end or to an error. Its answers are those of the stream of
tokens, and since each token takes at least one character, the stream ends before a text has been
asked more often than it has characters.

A text that is read up to its end consists of blanks and of tokens in writing, each of them as long
as it can be, and nothing else. A text that is not has such a part in front of the place where
reading stops; `Fault` lists what may stand there. `ofText_partition` puts this together.
-/

set_option autoImplicit false

namespace ResourceFilter

namespace Scan

/-- A run of digits in front of `rest`, as long as it can be, that denotes too large a number. -/
structure Exceeds (digits rest : List Char) : Prop where
  nonempty : digits ≠ []
  decimal : ∀ c ∈ digits, c.isDigit = true
  maximal : ∀ c ∈ rest.head?, c.isDigit = false
  large : largestNumber < Text.decimalValue digits

/-- What stands at a place where no token can be read, and the error that it makes. -/
inductive Fault (place : Position) : List Char → ScanError → Prop where
  /-- A character that begins no token. -/
  | foreign {c : Char} {rest : List Char} : Fault place (c :: rest) (.unexpectedCharacter c place)
  /-- A text literal with a character that may not stand in it. -/
  | forbidden {inside rest : List Char} {c : Char}
      (isForbidden : Text.Quoted.isForbidden c = true) :
      Fault place ('"' :: (inside ++ c :: rest))
        (.unexpectedCharacter c (place.after ('"' :: inside)))
  /-- A text literal without an end. -/
  | unterminated {rest : List Char} (unclosed : Text.Quoted.Unclosed rest) :
      Fault place ('"' :: rest) (.unterminatedText place)
  /-- A number that is too large. -/
  | outOfRange {digits rest : List Char} (exceeds : Exceeds digits rest) :
      Fault place (digits ++ rest) (.numberOutOfRange (String.ofList digits) place)

/-- Where no token can be read, the text has the fault that the error says. -/
theorem fault_of_tokenAt {mode : Mode} {place : Position} {c : Char} {rest : List Char}
    {error : ScanError} (failed : tokenAt mode place c rest = .failed error) :
    Fault place (c :: rest) error := by
  unfold tokenAt at failed
  split at failed
  next quoted =>
    subst quoted
    split at failed
    next => cases failed
    next other otherPlace read =>
      cases failed
      obtain ⟨inside, behind, rfl, isForbidden, rfl⟩ :=
        Text.Quoted.exists_of_decode_forbidden read
      exact .forbidden isForbidden
    next read =>
      cases failed
      exact .unterminated (Text.Quoted.decode_eq_unclosed_iff.1 read)
  split at failed
  next digit =>
    unfold run ofDigits at failed
    by_cases small : Text.decimalValue ((c :: rest).takeWhile Char.isDigit) ≤ largestNumber
    · rw [if_pos small] at failed
      cases failed
    · rw [if_neg small] at failed
      cases failed
      have exceeds : Exceeds ((c :: rest).takeWhile Char.isDigit)
          ((c :: rest).dropWhile Char.isDigit) := by
        refine ⟨?_, ?_, Text.outside_of_dropWhile _, Nat.lt_of_not_le small⟩
        · rw [List.takeWhile_cons_of_pos digit]
          exact List.cons_ne_nil _ _
        · exact fun _ mem => List.mem_takeWhile_imp mem
      have fault : Fault place _ _ := .outOfRange exceeds
      rwa [List.takeWhile_append_dropWhile] at fault
  split at failed
  next =>
    unfold run at failed
    cases failed
  next =>
    split at failed
    next => cases failed
    next =>
      cases failed
      exact .foreign

/-- A number that is too large is no token. -/
theorem token_of_exceeds {mode : Mode} {digits rest : List Char} (exceeds : Exceeds digits rest)
    (place : Position) :
    token mode place (digits ++ rest) =
      .failed (.numberOutOfRange (String.ofList digits) place) := by
  obtain ⟨nonempty, decimal, maximal, large⟩ := exceeds
  have denotes : ofDigits place digits =
      .error (.numberOutOfRange (String.ofList digits) place) := if_neg (Nat.not_le.2 large)
  rw [token_digits nonempty decimal]
  unfold run
  rw [Text.takeWhile_append_of_head decimal maximal, denotes]

end Scan

/-! ### One token at a time -/

namespace TokenStream

/-- What a stream answers once it has no tokens left. -/
def Item.ofEnding : Ending → Item
  | .atEnd place => .atEnd place
  | .failed error => .failed error

end TokenStream

/-- What is left to read of a text: the part behind a place, or nothing behind an error. -/
inductive Scanner where
  | standing (place : Position) (rest : List Char)
  | halted (error : ScanError)
  deriving DecidableEq, Repr

namespace Scanner

open TokenStream

variable {mode : Mode}

/-- The scanner in front of a text. -/
def ofText (text : String) : Scanner := standing .start text.toList

/-- Reads the next token and moves behind it. -/
def next (mode : Mode) : Scanner → Item × Scanner
  | standing place rest =>
    match Scan.token mode place rest with
    | .found token next behind => (.token token, standing next behind)
    | .ended last => (.atEnd last, standing last [])
    | .failed error => (.failed error, halted error)
  | halted error => (.failed error, halted error)

/-- The answers to asking for the next token several times. -/
def answers (mode : Mode) : Nat → Scanner → List Item
  | 0, _ => []
  | count + 1, scanner => (scanner.next mode).1 :: answers mode count (scanner.next mode).2

/-- The tokens that a scanner has left to read. -/
def stream (mode : Mode) : Scanner → TokenStream
  | standing place rest => scan mode place rest
  | halted error => ⟨[], .failed error⟩

/-- A scanner reads the first token of its stream, and is left with the others. -/
theorem next_eq (mode : Mode) (scanner : Scanner) :
    (scanner.next mode).1 = (scanner.stream mode).head ∧
      (scanner.next mode).2.stream mode = (scanner.stream mode).tail := by
  cases scanner with
  | halted error => exact ⟨rfl, rfl⟩
  | standing place rest =>
    have here : (standing place rest).stream mode = _ := scan_eq mode place rest
    rw [here]
    unfold next
    dsimp only
    cases Scan.token mode place rest with
    | found token next behind => exact ⟨rfl, rfl⟩
    | failed error => exact ⟨rfl, rfl⟩
    | ended last =>
      refine ⟨rfl, ?_⟩
      show scan mode last [] = _
      rw [scan_eq]
      rfl

/-- However often a scanner is asked, its answers are those of its stream. -/
theorem answers_eq_take (count : Nat) (scanner : Scanner) :
    scanner.answers mode count = (scanner.stream mode).take count := by
  induction count generalizing scanner with
  | zero => rfl
  | succ count ih =>
    obtain ⟨first, behind⟩ := scanner.next_eq mode
    rw [answers, take, ih, first, behind]

/-- Once it has failed, a scanner gives the same error again. -/
example : (Scanner.ofText "a #").answers .filter 3 =
    [.token ⟨.name "a", ⟨1, 1⟩⟩, .failed (.unexpectedCharacter '#' ⟨1, 3⟩),
      .failed (.unexpectedCharacter '#' ⟨1, 3⟩)] := by
  decide +kernel

end Scanner

namespace TokenStream

variable {mode : Mode}

/-- Behind its tokens a stream answers for ever how it ended. -/
theorem take_eq (stream : TokenStream) (more : Nat) :
    stream.take (stream.tokens.length + more) =
      stream.tokens.map .token ++ List.replicate more (.ofEnding stream.ending) := by
  obtain ⟨tokens, ending⟩ := stream
  induction tokens with
  | cons first rest ih =>
    rw [List.length_cons, Nat.add_right_comm, take, List.map_cons, List.cons_append, ← ih]
    rfl
  | nil =>
    rw [List.length_nil, Nat.zero_add]
    induction more with
    | zero => rfl
    | succ more ih =>
      have first : head ⟨[], ending⟩ = .ofEnding ending := by cases ending <;> rfl
      show head ⟨[], ending⟩ :: take more ⟨[], ending⟩ = _
      rw [ih, first]
      rfl

/-- Each token takes at least one character. -/
theorem length_tokens_scan_le (place : Position) (text : List Char) :
    (scan mode place text).tokens.length ≤ text.length := by
  fun_induction scan mode place text with
  | case1 place text token next rest found ih =>
    have shorter := Scan.length_lt_of_token found
    simp only [cons, List.length_cons]
    omega
  | case2 => exact Nat.zero_le _
  | case3 => exact Nat.zero_le _

/-- The first token of a stream is the one that is found in its text. -/
theorem token_of_scan_cons {place : Position} {text : List Char} {token : PlacedToken}
    {later : List PlacedToken} {ending : Ending}
    (read : scan mode place text = ⟨token :: later, ending⟩) :
    ∃ next rest, Scan.token mode place text = .found token next rest := by
  rw [scan_eq] at read
  split at read
  next other next rest found =>
    cases read
    exact ⟨next, rest, found⟩
  next => cases read
  next => cases read

/-- Where reading fails, the text in front is laid out as the tokens that were found. -/
theorem exists_fault {place : Position} {text : List Char} {error : ScanError}
    (failing : (scan mode place text).ending = .failed error) :
    ∃ front rest, text = front ++ rest ∧
      FrontLayout mode rest front ((scan mode place text).tokens.map PlacedToken.token) ∧
      Scan.Fault (place.after front) rest error := by
  have read : scan mode place text = ⟨(scan mode place text).tokens ++ [], .failed error⟩ := by
    rw [List.append_nil, ← failing]
  obtain ⟨front, rest, rfl, layout, left⟩ := exists_frontLayout read
  obtain ⟨gaps, c, more, rfl, blank, -, atFault⟩ :=
    Scan.token_eq_failed_iff.1 (token_of_scan_nil left)
  refine ⟨front ++ gaps, c :: more, (List.append_assoc ..).symm, layout.append_gaps blank, ?_⟩
  rw [Position.after_append]
  exact Scan.fault_of_tokenAt atFault

/-- A stream comes to an error exactly if it ends with it. -/
theorem complete_eq_error_iff {stream : TokenStream} {error : ScanError} :
    stream.complete = .error error ↔ stream.ending = .failed error := by
  obtain ⟨tokens, ending⟩ := stream
  cases ending with
  | atEnd place => simp [complete]
  | failed other => simp [complete]

/-- Reading cuts a text into tokens. It comes to an end after no more tokens than the text has
characters, and asked again it answers the same. It succeeds exactly with the tokens that the text
is laid out as, and fails for a number exactly where the text in front is laid out as tokens and the
next one would have to be a number that is too large. -/
theorem ofText_partition (mode : Mode) (text : String) :
    (∀ count, (Scanner.ofText text).answers mode count = (ofText mode text).take count) ∧
    (ofText mode text).tokens.length ≤ text.length ∧
    (∀ more, (ofText mode text).take ((ofText mode text).tokens.length + more) =
      (ofText mode text).tokens.map .token ++
        List.replicate more (.ofEnding (ofText mode text).ending)) ∧
    (∀ tokens, (∃ found last, (ofText mode text).complete = .ok (found, last) ∧
      found.map PlacedToken.token = tokens) ↔ Layout mode text.toList tokens) ∧
    ∀ written place, (ofText mode text).complete = .error (.numberOutOfRange written place) ↔
      ∃ front digits rest tokens, text.toList = front ++ (digits ++ rest) ∧
        FrontLayout mode (digits ++ rest) front tokens ∧ Scan.Exceeds digits rest ∧
        written = String.ofList digits ∧ place = Position.start.after front := by
  refine ⟨?_, ?_, take_eq _, ?_, ?_⟩
  · intro count
    exact Scanner.answers_eq_take count (Scanner.ofText text)
  · rw [← String.length_toList]
    exact length_tokens_scan_le .start text.toList
  · intro tokens
    constructor
    · rintro ⟨found, last, complete, rfl⟩
      exact layout_of_scan (Grammar.complete_eq_ok_iff.1 complete)
    · intro layout
      obtain ⟨found, last, read, isFound⟩ :=
        ofText_eq_of_yields (yields_of_layout layout Scan.closes_nil)
      exact ⟨found, last, Grammar.complete_eq_ok_iff.2 read, isFound⟩
  · intro written place
    rw [complete_eq_error_iff]
    constructor
    · intro failing
      obtain ⟨front, rest, isText, layout, fault⟩ := exists_fault failing
      cases fault with
      | outOfRange exceeds => exact ⟨front, _, _, _, isText, layout, exceeds, rfl, rfl⟩
    · rintro ⟨front, digits, rest, tokens, isText, layout, exceeds, rfl, rfl⟩
      obtain ⟨found, -, read⟩ := layout.yields .start
      unfold ofText
      rw [isText, read, scan_eq, Scan.token_of_exceeds exceeds]
      rfl

end TokenStream

end ResourceFilter
