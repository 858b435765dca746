import Mathlib.Data.List.TakeWhile
import ResourceFilter.Proofs.Token.Lexeme

/-! # Layouts

A text that is read up to its end consists of blanks and of tokens in writing, each of them as long
as it can be. Such a layout says nothing of places, so it is the same wherever the text stands: in
front of anything that ends words and numbers, the text yields the same tokens as it does alone.

Where a text is not read up to its end, or not yet, the part in front of what is left is laid out in
the same way; `exists_frontLayout` is what everything about reading in the middle of a text rests on.
-/

set_option autoImplicit false

namespace ResourceFilter

namespace Scan

/-- A run of digits that is read denotes a number that is not too large. -/
theorem exists_of_ofDigits {place : Position} {digits : List Char} {token : Token}
    (denotes : ofDigits place digits = .ok token) :
    Text.decimalValue digits ≤ largestNumber ∧
      token = .integer (Int64.ofNat (Text.decimalValue digits)) := by
  unfold ofDigits at denotes
  split at denotes
  next small =>
    cases denotes
    exact ⟨small, rfl⟩
  next => cases denotes

/-- A token that is read stands there in writing, and nothing behind prolongs it. -/
theorem isWritten_of_tokenAt {mode : Mode} {place next : Position} {c : Char}
    {text rest : List Char} {found : PlacedToken}
    (read : tokenAt mode place c text = .found found next rest) :
    ∃ lexeme, c :: text = lexeme ++ rest ∧ found.token.IsWritten mode lexeme ∧
      ∀ c ∈ rest.head?, found.token.prolongs c = false := by
  -- The cases are those of the character that the token begins with.
  unfold tokenAt at read
  split at read
  next quoted =>
    subst quoted
    split at read
    next value behind more closed =>
      cases read
      obtain ⟨inside, rfl, denotes⟩ := Text.Quoted.denotes_of_decode closed
      exact ⟨_, by simp, .text denotes, fun _ _ => rfl⟩
    next => cases read
    next => cases read
  next =>
    split at read
    next digit =>
      obtain ⟨denotes, -, -, rfl⟩ := found_of_run read
      obtain ⟨small, isToken⟩ := exists_of_ofDigits denotes
      rw [isToken]
      refine ⟨(c :: text).takeWhile Char.isDigit, List.takeWhile_append_dropWhile.symm, ?_, ?_⟩
      · refine .number ?_ (fun _ mem => List.mem_takeWhile_imp mem) small
        rw [List.takeWhile_cons_of_pos digit]
        exact List.cons_ne_nil _ _
      · exact Text.outside_of_dropWhile (c :: text)
    next =>
      split at read
      next starts =>
        obtain ⟨denotes, -, -, rfl⟩ := found_of_run read
        rw [← Except.ok.inj denotes]
        refine ⟨(c :: text).takeWhile continuesWord, List.takeWhile_append_dropWhile.symm,
          .word (isWord_takeWhile starts text), ?_⟩
        intro d mem
        rw [Token.prolongs_of_isWord (Token.isWord_ofWord _)]
        exact Text.outside_of_dropWhile (c :: text) d mem
      next =>
        split at read
        next token isMark =>
          cases read
          have closed := Token.not_isOpenEnded_of_punctuation? isMark
          exact ⟨[c], rfl, .mark isMark, fun d _ => Token.prolongs_of_not_isOpenEnded closed d⟩
        next => cases read

/-- Only blanks stand in front of a token that is read. -/
theorem isWritten_of_token {mode : Mode} {place next : Position} {text rest : List Char}
    {found : PlacedToken} (read : token mode place text = .found found next rest) :
    ∃ gaps lexeme, (∀ c ∈ gaps, isGap c = true) ∧ text = gaps ++ (lexeme ++ rest) ∧
      found.token.IsWritten mode lexeme ∧ ∀ c ∈ rest.head?, found.token.prolongs c = false := by
  unfold token at read
  split at read
  next => cases read
  next c more behind =>
    obtain ⟨lexeme, split, written, ends⟩ := isWritten_of_tokenAt read
    refine ⟨text.takeWhile isGap, lexeme, ?_, ?_, written, ends⟩
    · exact fun _ mem => List.mem_takeWhile_imp mem
    · rw [← split, ← behind, List.takeWhile_append_dropWhile]

/-- A character always begins a token, or is one at which reading fails. -/
theorem tokenAt_ne_ended {mode : Mode} {place last : Position} {c : Char} {text : List Char} :
    tokenAt mode place c text ≠ .ended last := by
  unfold tokenAt run
  repeat' split
  all_goals simp

/-- A text without tokens has gaps only. -/
theorem isGap_of_ended {mode : Mode} {place last : Position} {text : List Char}
    (read : token mode place text = .ended last) : ∀ c ∈ text, isGap c = true := by
  unfold token at read
  split at read
  next nothing =>
    have whole : text.takeWhile isGap ++ text.dropWhile isGap = text :=
      List.takeWhile_append_dropWhile
    rw [nothing, List.append_nil] at whole
    intro c mem
    rw [← whole] at mem
    exact List.mem_takeWhile_imp mem
  next => exact absurd read tokenAt_ne_ended

/-- Gaps in front of a token are skipped, and only move its place. -/
theorem token_gaps {mode : Mode} {gaps : List Char} (blank : ∀ c ∈ gaps, isGap c = true)
    (place : Position) (text : List Char) :
    token mode place (gaps ++ text) = token mode (place.after gaps) text := by
  induction gaps generalizing place with
  | nil => rfl
  | cons c more ih =>
    obtain ⟨gap, behind⟩ := List.forall_mem_cons.1 blank
    rw [List.cons_append, token_of_isGap gap, ih behind, Position.after_cons]

/-- A token is found where nothing but blanks stands in front of a way to write it that nothing
behind prolongs. -/
theorem token_eq_found_iff {mode : Mode} {place next : Position} {text rest : List Char}
    {found : PlacedToken} :
    token mode place text = .found found next rest ↔
      ∃ gaps lexeme, text = gaps ++ (lexeme ++ rest) ∧ (∀ c ∈ gaps, isGap c = true) ∧
        found.token.IsWritten mode lexeme ∧ (∀ c ∈ rest.head?, found.token.prolongs c = false) ∧
        found.place = place.after gaps ∧ next = place.after (gaps ++ lexeme) := by
  have standing {gaps lexeme : List Char} {token : Token} (blank : ∀ c ∈ gaps, isGap c = true)
      (written : token.IsWritten mode lexeme)
      (ends : ∀ c ∈ rest.head?, token.prolongs c = false) :
      Scan.token mode place (gaps ++ (lexeme ++ rest)) =
        .found ⟨token, place.after gaps⟩ (place.after (gaps ++ lexeme)) rest := by
    rw [token_gaps blank, written.token_eq ends, Position.after_append]
  obtain ⟨token, tokenPlace⟩ := found
  constructor
  · intro read
    obtain ⟨gaps, lexeme, blank, rfl, written, ends⟩ := isWritten_of_token read
    rw [standing blank written ends] at read
    cases read
    exact ⟨gaps, lexeme, rfl, blank, written, ends, rfl, rfl⟩
  · rintro ⟨gaps, lexeme, rfl, blank, written, ends, rfl, rfl⟩
    exact standing blank written ends

/-- The text ends without a token exactly where it has gaps only. -/
theorem token_eq_ended_iff {mode : Mode} {place last : Position} {text : List Char} :
    token mode place text = .ended last ↔
      (∀ c ∈ text, isGap c = true) ∧ last = place.after text := by
  have blankText (blank : ∀ c ∈ text, isGap c = true) :
      token mode place text = .ended (place.after text) := by
    have all : token mode place (text ++ []) = _ := token_gaps blank place []
    rw [List.append_nil] at all
    rw [all]
    rfl
  constructor
  · intro read
    have blank := isGap_of_ended read
    rw [blankText blank] at read
    cases read
    exact ⟨blank, rfl⟩
  · rintro ⟨blank, rfl⟩
    exact blankText blank

/-- Where no token is found, the character behind the blanks is at fault. -/
theorem token_eq_failed_iff {mode : Mode} {place : Position} {text : List Char}
    {error : ScanError} :
    token mode place text = .failed error ↔
      ∃ gaps c more, text = gaps ++ c :: more ∧ (∀ c ∈ gaps, isGap c = true) ∧
        isGap c = false ∧ tokenAt mode (place.after gaps) c more = .failed error := by
  constructor
  · intro read
    unfold token at read
    split at read
    next => cases read
    next c more behind =>
      refine ⟨text.takeWhile isGap, c, more, ?_, ?_, ?_, read⟩
      · rw [← behind, List.takeWhile_append_dropWhile]
      · exact fun _ mem => List.mem_takeWhile_imp mem
      · apply Text.outside_of_dropWhile text
        rw [behind]
        rfl
  · rintro ⟨gaps, c, more, rfl, blank, solid, read⟩
    rw [token_gaps blank, token_of_not_isGap solid]
    exact read

end Scan

/-- How a text is laid out as tokens, with blanks around them. -/
inductive Layout (mode : Mode) : List Char → List Token → Prop where
  | blank {gaps : List Char} (blank : ∀ c ∈ gaps, Scan.isGap c = true) : Layout mode gaps []
  | token {gaps lexeme rest : List Char} {token : Token} {tokens : List Token}
      (blank : ∀ c ∈ gaps, Scan.isGap c = true) (written : token.IsWritten mode lexeme)
      (ends : ∀ c ∈ rest.head?, token.prolongs c = false) (behind : Layout mode rest tokens) :
      Layout mode (gaps ++ (lexeme ++ rest)) (token :: tokens)

/-- How the part of a text in front of `rest` is laid out as tokens, with blanks around them. -/
inductive FrontLayout (mode : Mode) (rest : List Char) : List Char → List Token → Prop where
  | blank {gaps : List Char} (blank : ∀ c ∈ gaps, Scan.isGap c = true) :
      FrontLayout mode rest gaps []
  | token {gaps lexeme front : List Char} {token : Token} {tokens : List Token}
      (blank : ∀ c ∈ gaps, Scan.isGap c = true) (written : token.IsWritten mode lexeme)
      (ends : ∀ c ∈ (front ++ rest).head?, token.prolongs c = false)
      (behind : FrontLayout mode rest front tokens) :
      FrontLayout mode rest (gaps ++ (lexeme ++ front)) (token :: tokens)

/-- Gaps yield no tokens. -/
theorem TokenStream.yields_gaps {mode : Mode} {gaps : List Char}
    (blank : ∀ c ∈ gaps, Scan.isGap c = true) (rest : List Char) : Yields mode gaps rest [] := by
  induction gaps with
  | nil => exact yields_nil rest
  | cons c more ih =>
    obtain ⟨gap, behind⟩ := List.forall_mem_cons.1 blank
    exact (ih behind).cons_gap gap

namespace FrontLayout

variable {mode : Mode} {front rest : List Char} {tokens : List Token}

/-- Blanks behind what is laid out belong to its layout. -/
theorem append_gaps {gaps : List Char} (layout : FrontLayout mode (gaps ++ rest) front tokens)
    (blank : ∀ c ∈ gaps, Scan.isGap c = true) :
    FrontLayout mode rest (front ++ gaps) tokens := by
  induction layout with
  | blank first => exact .blank (List.forall_mem_append.2 ⟨first, blank⟩)
  | token first written ends behind ih =>
    rw [List.append_assoc, List.append_assoc]
    rw [← List.append_assoc] at ends
    exact .token first written ends ih

/-- In front of nothing, what is laid out is a whole text. -/
theorem layout {text : List Char} (front : FrontLayout mode [] text tokens) :
    Layout mode text tokens := by
  induction front with
  | blank blank => exact .blank blank
  | token blank written ends behind ih =>
    rw [List.append_nil] at ends
    exact .token blank written ends ih

/-- What is laid out in front of a rest is read as its tokens there. -/
theorem yields (layout : FrontLayout mode rest front tokens) :
    TokenStream.Yields mode front rest tokens := by
  induction layout with
  | blank blank => exact TokenStream.yields_gaps blank rest
  | token blank written ends behind ih =>
    exact (TokenStream.yields_gaps blank _).append
      ((TokenStream.yields_written written ends).append ih)

/-- In front of anything that ends words and numbers, a text is laid out as it is alone. -/
theorem of_layout {text : List Char} (layout : Layout mode text tokens)
    (closes : Scan.Closes rest) : FrontLayout mode rest text tokens := by
  induction layout with
  | blank blank => exact .blank blank
  | @token gaps lexeme more token tokens blank written ends behind ih =>
    refine .token blank written ?_ ih
    cases more with
    | nil => exact Token.prolongs_of_closes closes token
    | cons first others => exact ends

/-- What is laid out in front of one rest is laid out so in front of another one that prolongs no
more tokens. -/
theorem of_ends {other : List Char} (layout : FrontLayout mode rest front tokens)
    (ends : ∀ token : Token, (∀ c ∈ rest.head?, token.prolongs c = false) →
      ∀ c ∈ other.head?, token.prolongs c = false) :
    FrontLayout mode other front tokens := by
  induction layout with
  | blank blank => exact .blank blank
  | @token gaps lexeme more token tokens blank written closed behind ih =>
    refine .token blank written ?_ ih
    cases more with
    | nil => exact ends token closed
    | cons first others => exact closed

/-- One token in writing is laid out in front of anything that does not prolong it. -/
theorem single {lexeme : List Char} {token : Token} (written : token.IsWritten mode lexeme)
    (ends : ∀ c ∈ rest.head?, token.prolongs c = false) :
    FrontLayout mode rest lexeme [token] := by
  have layout : FrontLayout mode rest ([] ++ (lexeme ++ [])) [token] :=
    .token nofun written ends (.blank nofun)
  rwa [List.nil_append, List.append_nil] at layout

/-- The layout of a text goes on behind what is laid out in front of it. -/
theorem append_layout {later : List Token} (layout : FrontLayout mode rest front tokens)
    (behind : Layout mode rest later) : Layout mode (front ++ rest) (tokens ++ later) := by
  induction layout with
  | blank blank =>
    cases behind with
    | blank more => exact .blank (List.forall_mem_append.2 ⟨blank, more⟩)
    | token more written ends others =>
      rw [← List.append_assoc]
      exact .token (List.forall_mem_append.2 ⟨blank, more⟩) written ends others
  | token blank written ends _ ih =>
    rw [List.append_assoc, List.append_assoc]
    exact .token blank written ends ih

end FrontLayout

/-- The reading that ends a stream. -/
def Scan.Reading.ofEnding : Ending → Reading
  | .atEnd place => .ended place
  | .failed error => .failed error

namespace TokenStream

variable {mode : Mode}

/-- In front of a text that ends words and numbers, a layout yields its tokens. -/
theorem yields_of_layout {text : List Char} {tokens : List Token}
    (layout : Layout mode text tokens) {rest : List Char} (closes : Scan.Closes rest) :
    Yields mode text rest tokens :=
  (FrontLayout.of_layout layout closes).yields

/-- Behind any of its tokens, the stream of a text is the one of the text that is left. -/
theorem exists_frontLayout {place : Position} {text : List Char}
    {earlier later : List PlacedToken} {ending : Ending}
    (read : scan mode place text = ⟨earlier ++ later, ending⟩) :
    ∃ front rest, text = front ++ rest ∧
      FrontLayout mode rest front (earlier.map PlacedToken.token) ∧
      scan mode (place.after front) rest = ⟨later, ending⟩ := by
  induction earlier generalizing place text with
  | nil => exact ⟨[], text, rfl, .blank (by simp), read⟩
  | cons first more ih =>
    rw [scan_eq] at read
    cases found : Scan.token mode place text with
    | found token next behind =>
      rw [found] at read
      cases stream : scan mode next behind with
      | mk tokens last =>
        simp only [stream] at read
        cases read
        obtain ⟨front, rest, rfl, layout, left⟩ := ih stream
        obtain ⟨gaps, lexeme, rfl, blank, written, ends, -, rfl⟩ :=
          Scan.token_eq_found_iff.1 found
        refine ⟨gaps ++ (lexeme ++ front), rest, by simp, .token blank written ends layout, ?_⟩
        rw [← List.append_assoc, Position.after_append]
        exact left
    | ended last =>
      rw [found] at read
      cases read
    | failed error =>
      rw [found] at read
      cases read

/-- A stream without tokens is that of a text in which none is found. -/
theorem token_of_scan_nil {place : Position} {text : List Char} {ending : Ending}
    (read : scan mode place text = ⟨[], ending⟩) :
    Scan.token mode place text = .ofEnding ending := by
  rw [scan_eq] at read
  split at read
  next => cases read
  next ended =>
    cases read
    exact ended
  next failed =>
    cases read
    exact failed

/-- A text that is read up to its end is laid out as the tokens that are found. -/
theorem layout_of_scan {place last : Position} {text : List Char} {tokens : List PlacedToken}
    (read : scan mode place text = ⟨tokens, .atEnd last⟩) :
    Layout mode text (tokens.map PlacedToken.token) := by
  rw [← List.append_nil tokens] at read
  obtain ⟨front, gaps, rfl, layout, left⟩ := exists_frontLayout read
  obtain ⟨blank, -⟩ := Scan.token_eq_ended_iff.1 (token_of_scan_nil left)
  rw [← List.append_nil gaps] at layout
  exact (layout.append_gaps blank).layout

/-- Behind the part that is laid out in front, a text is laid out as the tokens that are left. -/
theorem exists_layout_behind {front rest : List Char} {tokens before : List Token}
    (whole : Layout mode (front ++ rest) tokens) (layout : FrontLayout mode rest front before) :
    ∃ later, tokens = before ++ later ∧ Layout mode rest later := by
  obtain ⟨found, isWhole, read⟩ := yields_of_layout whole Scan.closes_nil .start
  obtain ⟨earlier, isFront, readFront⟩ := layout.yields .start
  rw [List.append_nil, readFront, scan_nil] at read
  cases stream : scan mode (Position.start.after front) rest with
  | mk left ending =>
    rw [stream] at read
    simp only [prepend, List.append_nil, mk.injEq] at read
    obtain ⟨rfl, rfl⟩ := read
    refine ⟨left.map PlacedToken.token, ?_, layout_of_scan stream⟩
    rw [← isWhole, ← isFront, List.map_append]

end TokenStream

end ResourceFilter
