import ResourceFilter.Text.Quoted
import ResourceFilter.Token.Basic
import ResourceFilter.Unicode.Alphabetic
import ResourceFilter.Unicode.Numeric

/-! # The tokens of a text

Reading splits a text into blanks and tokens, each token as long as it can be. `Scan.token` reads
one token, and `TokenStream.ofText` reads all of them up to the end of the text or to the first
place where no token can be read. A stream is asked for its tokens one by one; behind the last one
it answers for ever how it ended.
-/

set_option autoImplicit false

namespace ResourceFilter

/-- Why no token can be read at a place. -/
inductive ScanError where
  /-- A character that begins no token, or may not stand in a quoted value. -/
  | unexpectedCharacter (c : Char) (place : Position)
  /-- A quoted value without a closing quote; the place is that of the opening one. -/
  | unterminatedText (place : Position)
  /-- A number above the largest one, as written. -/
  | numberOutOfRange (digits : String) (place : Position)
  deriving DecidableEq, Repr

namespace ScanError

/-- The place that an error is about. -/
def place : ScanError → Position
  | unexpectedCharacter _ place => place
  | unterminatedText place => place
  | numberOutOfRange _ place => place

/-- The wording of an error. -/
def message : ScanError → String
  | unexpectedCharacter c place =>
    "unexpected character '" ++ c.toString ++ "' at " ++ place.text
  | unterminatedText place => "unterminated string starting at " ++ place.text
  | numberOutOfRange digits place =>
    "number " ++ digits ++ " at " ++ place.text ++ " is out of range"

end ScanError

namespace Scan

/-- Whether a character may stand between tokens. -/
def isGap (c : Char) : Bool :=
  c = ' ' || c = '\t' || c = '\n' || c = '\r'

/-- Whether a word may begin with a character. -/
def startsWord (c : Char) : Bool :=
  Unicode.isAlphabetic c || c = '_'

/-- Whether a word may go on with a character. -/
def continuesWord (c : Char) : Bool :=
  Unicode.isAlphabetic c || Unicode.isNumeric c ||
    (c = '-' || c = '_' || c = '.' || c = ':' || c = '/')

/-- The largest number that a filter may hold, the largest signed one of 64 bits. -/
def largestNumber : Nat := 9223372036854775807

/-- The largest number is a signed one of 64 bits. -/
theorem toInt_maxValue : Int64.maxValue.toInt = largestNumber := by decide

/-- What reading one token comes to. -/
inductive Reading where
  /-- A token, and the place and the rest of the text behind it. -/
  | found (token : PlacedToken) (place : Position) (rest : List Char)
  /-- Nothing but blanks is left; the place is the end of the text. -/
  | ended (place : Position)
  /-- No token begins at the next character. -/
  | failed (error : ScanError)
  deriving DecidableEq, Repr

/-- Reads the longest run of characters of a class as a token. -/
def run (belongs : Char → Bool) (ofRun : List Char → Except ScanError Token) (place : Position)
    (text : List Char) : Reading :=
  match ofRun (text.takeWhile belongs) with
  | .ok token =>
    .found ⟨token, place⟩ (place.after (text.takeWhile belongs)) (text.dropWhile belongs)
  | .error error => .failed error

/-- The token of a run of digits, unless it denotes too large a number. -/
def ofDigits (place : Position) (digits : List Char) : Except ScanError Token :=
  if Text.decimalValue digits ≤ largestNumber then
    .ok (.integer (Int64.ofNat (Text.decimalValue digits)))
  else .error (.numberOutOfRange (String.ofList digits) place)

/-- The token of a run of word characters. -/
def ofWord (word : List Char) : Except ScanError Token :=
  .ok (.ofWord (String.ofList word))

/-- Reads the token whose first character stands at the given place. -/
def tokenAt (mode : Mode) (place : Position) (c : Char) (rest : List Char) : Reading :=
  if c = '"' then
    match Text.Quoted.decode (place.next c) rest with
    | .closed value next rest => .found ⟨.text (String.ofList value), place⟩ next rest
    | .forbidden other otherPlace => .failed (.unexpectedCharacter other otherPlace)
    | .unclosed => .failed (.unterminatedText place)
  else if c.isDigit then run Char.isDigit (ofDigits place) place (c :: rest)
  else if startsWord c then run continuesWord ofWord place (c :: rest)
  else
    match Token.punctuation? mode c with
    | some token => .found ⟨token, place⟩ (place.next c) rest
    | none => .failed (.unexpectedCharacter c place)

/-- Skips blanks and reads the token behind them. -/
def token (mode : Mode) (place : Position) (text : List Char) : Reading :=
  match text.dropWhile isGap with
  | [] => .ended (place.after (text.takeWhile isGap))
  | c :: rest => tokenAt mode (place.after (text.takeWhile isGap)) c rest

/-- A word may go on with each character that it may begin with. -/
theorem continuesWord_of_startsWord {c : Char} (starts : startsWord c = true) :
    continuesWord c = true := by
  unfold startsWord at starts
  unfold continuesWord
  rcases Bool.or_eq_true_iff.1 starts with alphabetic | underscore
  · simp [alphabetic]
  · simp [underscore]

/-- A run that takes its first character leaves less text. -/
theorem length_lt_of_run {belongs : Char → Bool} {ofRun : List Char → Except ScanError Token}
    {place next : Position} {c : Char} {text rest : List Char} {found : PlacedToken}
    (first : belongs c = true)
    (read : run belongs ofRun place (c :: text) = .found found next rest) :
    rest.length < (c :: text).length := by
  unfold run at read
  split at read
  · cases read
    rw [List.dropWhile_cons_of_pos first]
    have := (List.dropWhile_suffix (l := text) belongs).length_le
    simp only [List.length_cons]; omega
  · cases read

/-- A token takes at least its first character. -/
theorem length_lt_of_tokenAt {mode : Mode} {place next : Position} {c : Char}
    {text rest : List Char} {found : PlacedToken}
    (read : tokenAt mode place c text = .found found next rest) :
    rest.length < (c :: text).length := by
  unfold tokenAt at read
  split at read
  · split at read
    · cases read
      next closed =>
        have := Text.Quoted.length_lt_of_decode closed
        simp only [List.length_cons]; omega
    · cases read
    · cases read
  · split at read
    next digit => exact length_lt_of_run digit read
    next =>
      split at read
      next starts => exact length_lt_of_run (continuesWord_of_startsWord starts) read
      next =>
        split at read
        · cases read; simp
        · cases read

/-- Reading a token leaves less text than there was. -/
theorem length_lt_of_token {mode : Mode} {place next : Position} {text rest : List Char}
    {found : PlacedToken} (read : token mode place text = .found found next rest) :
    rest.length < text.length := by
  have shorter := (List.dropWhile_suffix (l := text) isGap).length_le
  unfold token at read
  split at read
  · cases read
  next c more behind =>
    rw [behind] at shorter
    have := length_lt_of_tokenAt read
    omega

end Scan

/-- How the tokens of a text end. -/
inductive Ending where
  /-- With the end of the text, at its place. -/
  | atEnd (place : Position)
  /-- Where no token could be read. -/
  | failed (error : ScanError)
  deriving DecidableEq, Repr

/-- The tokens of a text in order, and how they end. -/
structure TokenStream where
  tokens : List PlacedToken
  ending : Ending
  deriving DecidableEq, Repr

namespace TokenStream

/-- The stream with one more token in front. -/
def cons (token : PlacedToken) (stream : TokenStream) : TokenStream :=
  { stream with tokens := token :: stream.tokens }

/-- The tokens of a text that begins at the given place. -/
def scan (mode : Mode) (place : Position) (text : List Char) : TokenStream :=
  match _ : Scan.token mode place text with
  | .found token next rest => (scan mode next rest).cons token
  | .ended place => ⟨[], .atEnd place⟩
  | .failed error => ⟨[], .failed error⟩
  termination_by text.length
  decreasing_by exact Scan.length_lt_of_token ‹_›

/-- The first token of a text stands in front of the tokens of the rest. -/
theorem scan_eq (mode : Mode) (place : Position) (text : List Char) :
    scan mode place text =
      match Scan.token mode place text with
      | .found token next rest => (scan mode next rest).cons token
      | .ended place => ⟨[], .atEnd place⟩
      | .failed error => ⟨[], .failed error⟩ := by
  rw [scan]
  split <;> simp_all

/-- The tokens of a text. -/
def ofText (mode : Mode) (text : String) : TokenStream :=
  scan mode .start text.toList

/-- What a stream answers when it is asked for its next token. -/
inductive Item where
  | token (token : PlacedToken)
  | atEnd (place : Position)
  | failed (error : ScanError)
  deriving DecidableEq, Repr

/-- The next token, or how the stream ended. -/
def head : TokenStream → Item
  | ⟨token :: _, _⟩ => .token token
  | ⟨[], .atEnd place⟩ => .atEnd place
  | ⟨[], .failed error⟩ => .failed error

/-- The stream behind its next token; an ended stream stays as it is. -/
def tail (stream : TokenStream) : TokenStream :=
  { stream with tokens := stream.tokens.tail }

/-- The answers to asking a stream several times. -/
def take : Nat → TokenStream → List Item
  | 0, _ => []
  | count + 1, stream => stream.head :: take count stream.tail

/-- The stream after asking it several times. -/
def drop : Nat → TokenStream → TokenStream
  | 0, stream => stream
  | count + 1, stream => drop count stream.tail

/-- All tokens and the place of the end, if the whole text could be read. -/
def complete (stream : TokenStream) : Except ScanError (List PlacedToken × Position) :=
  match stream.ending with
  | .atEnd place => .ok (stream.tokens, place)
  | .failed error => .error error

end TokenStream

end ResourceFilter
