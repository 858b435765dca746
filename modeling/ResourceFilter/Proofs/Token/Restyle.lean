import Mathlib.Logic.Relation
import ResourceFilter.Proofs.Token.Layout

/-! # Texts in another style

The same tokens can be written in many ways. `Restyled` lists the changes of a text that are a
matter of style: keywords in other letters, other blanks between two tokens, blanks at either end of
the text and beside parentheses and brackets. Each of them leaves the layout of the text as it is,
so a text that is restyled any number of times holds the tokens that it held.

The letters of a name are no matter of style. `Recased` changes their case, and with it one token.
-/

set_option autoImplicit false

namespace ResourceFilter

/-! ### Letters in either case -/

namespace Text

/-- In lower case a capital lies 32 characters further on, and all else stays where it is. -/
theorem toNat_toLower (c : Char) :
    c.toLower.toNat = if c.isUpper then c.toNat + 32 else c.toNat := by
  by_cases upper : c.isUpper = true
  · have inRange : c.val ≥ 'A'.val ∧ c.val ≤ 'Z'.val := of_decide_eq_true upper
    have bounds : 65 ≤ c.toNat ∧ c.toNat ≤ 90 := inRange
    unfold Char.toLower
    rw [if_pos upper, dif_pos inRange]
    show (c.val + 32).toNat = c.toNat + 32
    rw [UInt32.toNat_add]
    show (c.toNat + 32) % 4294967296 = c.toNat + 32
    omega
  · have outside : ¬(c.val ≥ 'A'.val ∧ c.val ≤ 'Z'.val) := fun inRange =>
      upper (decide_eq_true inRange)
    unfold Char.toLower
    rw [if_neg upper, dif_neg outside]

/-- Only letters are the same in lower case without being the same. -/
theorem eq_or_isAlpha_of_toLower_eq {c d : Char} (same : c.toLower = d.toLower) :
    c = d ∨ (c.isAlpha = true ∧ d.isAlpha = true) := by
  have upper (c : Char) : c.isUpper = true ↔ 65 ≤ c.toNat ∧ c.toNat ≤ 90 := by
    show decide (c.val ≥ 'A'.val ∧ c.val ≤ 'Z'.val) = true ↔ _
    rw [decide_eq_true_iff]
    exact Iff.rfl
  have lower (c : Char) : c.isLower = true ↔ 97 ≤ c.toNat ∧ c.toNat ≤ 122 := by
    show (decide (c.val ≥ 'a'.val) && decide (c.val ≤ 'z'.val)) = true ↔ _
    rw [Bool.and_eq_true, decide_eq_true_iff, decide_eq_true_iff]
    exact Iff.rfl
  have alpha (c : Char) : c.isAlpha = true ↔
      (65 ≤ c.toNat ∧ c.toNat ≤ 90) ∨ (97 ≤ c.toNat ∧ c.toNat ≤ 122) := by
    show (c.isUpper || c.isLower) = true ↔ _
    rw [Bool.or_eq_true, upper, lower]
  have points := congrArg Char.toNat same
  rw [toNat_toLower, toNat_toLower] at points
  simp only [upper] at points
  rw [alpha, alpha]
  by_cases equal : c.toNat = d.toNat
  · exact .inl (Char.toNat_inj.1 equal)
  · right
    split at points <;> split at points <;> omega

/-- Two texts are the same in lower case exactly if their characters are. -/
theorem lowercase_eq_iff {text other : String} :
    lowercase text = lowercase other ↔
      text.toList.map Char.toLower = other.toList.map Char.toLower := by
  unfold lowercase
  exact String.ofList_inj

end Text

namespace Scan

variable {c d : Char}

/-- ASCII letters are alphabetic. -/
theorem isAlphabetic_of_isAlpha (letter : c.isAlpha = true) : Unicode.isAlphabetic c = true := by
  have ascii : c.toNat < 128 := by
    rcases Bool.or_eq_true_iff.1 letter with upper | lower
    · have to_Z : c.toNat ≤ 90 := (of_decide_eq_true upper).2
      omega
    · have to_z : c.toNat ≤ 122 := of_decide_eq_true (Bool.and_eq_true_iff.1 lower).2
      omega
  have alphabetic := Unicode.isAlphabetic_ascii c.toNat ascii
  rwa [Char.ofNat_toNat, letter] at alphabetic

/-- A character and its other case are digits alike. -/
theorem isDigit_congr (same : c.toLower = d.toLower) : c.isDigit = d.isDigit := by
  have letter {c : Char} (alpha : c.isAlpha = true) : c.isDigit = false := by
    refine Bool.eq_false_iff.2 fun digit => ?_
    rw [isAlpha_of_isDigit digit] at alpha
    cases alpha
  obtain rfl | ⟨first, second⟩ := Text.eq_or_isAlpha_of_toLower_eq same
  · rfl
  · rw [letter first, letter second]

/-- A character and its other case start words alike. -/
theorem startsWord_congr (same : c.toLower = d.toLower) : startsWord c = startsWord d := by
  obtain rfl | ⟨first, second⟩ := Text.eq_or_isAlpha_of_toLower_eq same
  · rfl
  · simp [startsWord, isAlphabetic_of_isAlpha first, isAlphabetic_of_isAlpha second]

/-- A character and its other case continue words alike. -/
theorem continuesWord_congr (same : c.toLower = d.toLower) :
    continuesWord c = continuesWord d := by
  obtain rfl | ⟨first, second⟩ := Text.eq_or_isAlpha_of_toLower_eq same
  · rfl
  · simp [continuesWord, isAlphabetic_of_isAlpha first, isAlphabetic_of_isAlpha second]

/-- In other letters a word is a word. -/
theorem IsWord.recase {word other : List Char} (shape : IsWord word)
    (letters : other.map Char.toLower = word.map Char.toLower) : IsWord other := by
  obtain ⟨first, more, rfl, starts, continues⟩ := shape
  obtain ⟨head, tail, rfl, same, letters⟩ := List.map_eq_cons_iff.1 letters
  refine ⟨head, tail, rfl, (startsWord_congr same).trans starts, fun c mem => ?_⟩
  obtain ⟨d, isLetter, lower⟩ := List.mem_map.1 (letters ▸ List.mem_map_of_mem mem)
  rw [continuesWord_congr lower.symm, continues d isLetter]

/-- A gap does not continue a word. -/
theorem continuesWord_of_isGap {c : Char} (gap : isGap c = true) : continuesWord c = false := by
  refine Bool.eq_false_iff.2 fun continues => ?_
  rw [isGap_of_continuesWord continues] at gap
  cases gap

/-- Gaps in front of a text that ends words end them as well. -/
theorem closes_gaps {gaps rest : List Char} (blank : ∀ c ∈ gaps, isGap c = true)
    (closes : Closes rest) : Closes (gaps ++ rest) := by
  cases gaps with
  | nil => exact closes
  | cons first others =>
    exact closes_cons (continuesWord_of_isGap (blank first List.mem_cons_self)) _

end Scan

namespace Token

/-- The name that a token carries. -/
def name? : Token → Option String
  | name word => some word
  | _ => none

/-- A character and its other case prolong the same tokens. -/
theorem prolongs_congr (token : Token) {c d : Char} (same : c.toLower = d.toLower) :
    token.prolongs c = token.prolongs d := by
  cases token <;> simp [prolongs, Scan.isDigit_congr same, Scan.continuesWord_congr same]

/-- What stands in front of a word is not prolonged by it in other letters. -/
theorem prolongs_recase {token : Token} {word other back : List Char}
    (letters : other.map Char.toLower = word.map Char.toLower)
    (ends : ∀ c ∈ (word ++ back).head?, token.prolongs c = false) :
    ∀ c ∈ (other ++ back).head?, token.prolongs c = false := by
  cases word with
  | nil =>
    rw [List.map_eq_nil_iff.1 letters]
    exact ends
  | cons first more =>
    obtain ⟨head, tail, rfl, same, -⟩ := List.map_eq_cons_iff.1 letters
    rintro c ⟨⟩
    rw [prolongs_congr token same]
    exact ends first rfl

/-- The parentheses and brackets. -/
def brackets : List String := ["(", ")", "[", "]"]

/-- A parenthesis or bracket is a token of its own and belongs to no word. -/
theorem exists_of_mem_brackets (mode : Mode) {mark : String} (isBracket : mark ∈ brackets) :
    ∃ c token, mark.toList = [c] ∧ punctuation? mode c = some token ∧
      Scan.continuesWord c = false := by
  simp only [brackets, List.mem_cons, List.not_mem_nil, or_false] at isBracket
  rcases isBracket with rfl | rfl | rfl | rfl
  · exact ⟨'(', openGroup, rfl, rfl, by decide⟩
  · exact ⟨')', closeGroup, rfl, rfl, by decide⟩
  · exact ⟨'[', openPath, rfl, rfl, by decide⟩
  · exact ⟨']', closePath, rfl, rfl, by decide⟩

end Token

/-! ### Changes of a text -/

/-- The changes of a text that are a matter of style. The text in front of the place that changes
consists of whole tokens and of blanks, so that place lies within no quoted value. -/
inductive Restyled (mode : Mode) : String → String → Prop where
  /-- A keyword in other letters. -/
  | keyword {front word other back : String} {before : List Token}
      (here : FrontLayout mode (word ++ back).toList front.toList before)
      (shape : Scan.IsWord word.toList) (ends : Scan.Closes back.toList)
      (isKeyword : (Token.keyword? (Text.lowercase word)).isSome)
      (letters : Text.lowercase other = Text.lowercase word) :
      Restyled mode (front ++ (word ++ back)) (front ++ (other ++ back))
  /-- Other blanks in the place of some. -/
  | blanks {front gaps others back : String} {before : List Token}
      (here : FrontLayout mode (gaps ++ back).toList front.toList before)
      (blank : ∀ c ∈ gaps.toList, Scan.isGap c = true)
      (otherBlank : ∀ c ∈ others.toList, Scan.isGap c = true)
      (some : gaps ≠ "") (otherSome : others ≠ "") :
      Restyled mode (front ++ (gaps ++ back)) (front ++ (others ++ back))
  /-- Blanks in front of the text. -/
  | start {gaps text : String} (blank : ∀ c ∈ gaps.toList, Scan.isGap c = true) :
      Restyled mode text (gaps ++ text)
  /-- Blanks behind the text. -/
  | finish {gaps text : String} (blank : ∀ c ∈ gaps.toList, Scan.isGap c = true) :
      Restyled mode text (text ++ gaps)
  /-- Blanks on both sides of a parenthesis or bracket. -/
  | beside {front gaps mark more back : String} {before : List Token}
      (here : FrontLayout mode (mark ++ back).toList front.toList before)
      (isBracket : mark ∈ Token.brackets) (blank : ∀ c ∈ gaps.toList, Scan.isGap c = true)
      (moreBlank : ∀ c ∈ more.toList, Scan.isGap c = true) :
      Restyled mode (front ++ (mark ++ back)) (front ++ (gaps ++ mark ++ more ++ back))

/-- The change of a text that writes one of its names in other letters: the one with so many names
in front of it. In other letters a name is no keyword either. -/
inductive Recased (mode : Mode) (index : Nat) (name other : String) : String → String → Prop where
  | name {front back : String} {before : List Token}
      (here : FrontLayout mode (name ++ back).toList front.toList before)
      (isName : (Token.name name).Readable mode) (ends : Scan.Closes back.toList)
      (letters : Text.lowercase other = Text.lowercase name)
      (counted : (before.filterMap Token.name?).length = index) :
      Recased mode index name other (front ++ (name ++ back)) (front ++ (other ++ back))

namespace TokenStream

variable {mode : Mode}

/-- Where a part of a text that is laid out as tokens of its own is exchanged for another one, the
tokens of that one stand in their place. -/
theorem layout_exchange {front old new back : List Char} {tokens before middle other : List Token}
    (whole : Layout mode (front ++ (old ++ back)) tokens)
    (here : FrontLayout mode (old ++ back) front before) (was : FrontLayout mode back old middle)
    (stays : FrontLayout mode (new ++ back) front before)
    (becomes : FrontLayout mode back new other) :
    ∃ later, tokens = before ++ (middle ++ later) ∧
      Layout mode (front ++ (new ++ back)) (before ++ (other ++ later)) := by
  obtain ⟨behind, rfl, rest⟩ := exists_layout_behind whole here
  obtain ⟨later, rfl, layout⟩ := exists_layout_behind rest was
  exact ⟨later, rfl, stays.append_layout (becomes.append_layout layout)⟩

/-- A word in other letters is read where it stands. -/
theorem layout_recase {front word other back : List Char} {tokens before : List Token}
    (whole : Layout mode (front ++ (word ++ back)) tokens)
    (here : FrontLayout mode (word ++ back) front before) (shape : Scan.IsWord word)
    (ends : Scan.Closes back) (letters : other.map Char.toLower = word.map Char.toLower) :
    ∃ later, tokens = before ++ .ofWord (String.ofList word) :: later ∧
      Layout mode (front ++ (other ++ back))
        (before ++ .ofWord (String.ofList other) :: later) := by
  have stays : FrontLayout mode (other ++ back) front before :=
    here.of_ends fun token => Token.prolongs_recase letters
  have was : FrontLayout mode back word [.ofWord (String.ofList word)] :=
    .single (.word shape) (Token.prolongs_of_closes ends _)
  have becomes : FrontLayout mode back other [.ofWord (String.ofList other)] :=
    .single (.word (shape.recase letters)) (Token.prolongs_of_closes ends _)
  exact layout_exchange whole here was stays becomes

end TokenStream

namespace Restyled

open TokenStream

variable {mode : Mode} {text other : String} {tokens : List Token}

/-- In another style a text is laid out as the same tokens. -/
theorem layout (restyled : Restyled mode text other) (whole : Layout mode text.toList tokens) :
    Layout mode other.toList tokens := by
  cases restyled with
  | @keyword front word other back before here shape ends isKeyword letters =>
    simp only [String.toList_append] at whole here ⊢
    have same : Token.ofWord other = Token.ofWord word := by
      obtain ⟨token, found⟩ := Option.isSome_iff_exists.1 isKeyword
      unfold Token.ofWord
      rw [letters, found]
      rfl
    obtain ⟨later, rfl, recased⟩ :=
      layout_recase whole here shape ends (Text.lowercase_eq_iff.1 letters)
    simp only [String.ofList_toList] at recased ⊢
    rwa [same] at recased
  | @blanks front gaps others back before here blank otherBlank some otherSome =>
    simp only [String.toList_append] at whole here ⊢
    have closes : Scan.Closes (others.toList ++ back.toList) := by
      obtain ⟨first, more, isMore⟩ :=
        List.exists_cons_of_ne_nil (mt String.toList_eq_nil_iff.1 otherSome)
      rw [isMore] at otherBlank ⊢
      exact Scan.closes_cons (Scan.continuesWord_of_isGap (otherBlank first List.mem_cons_self)) _
    -- Other blanks end the word in front of them just as well, so the front keeps its tokens.
    have stays := here.of_ends fun token _ => Token.prolongs_of_closes closes token
    obtain ⟨later, rfl, exchanged⟩ :=
      layout_exchange whole here (.blank blank) stays (.blank otherBlank)
    exact exchanged
  | @start gaps _ blank =>
    rw [String.toList_append]
    have front : FrontLayout mode text.toList gaps.toList [] := .blank blank
    exact front.append_layout whole
  | @finish gaps _ blank =>
    rw [String.toList_append, ← List.append_nil tokens]
    have closes : Scan.Closes (gaps.toList ++ []) := Scan.closes_gaps blank Scan.closes_nil
    rw [List.append_nil] at closes
    exact (FrontLayout.of_layout whole closes).append_layout (.blank blank)
  | @beside front gaps mark more back before here isBracket blank moreBlank =>
    obtain ⟨c, token, single, isMark, foreign⟩ := Token.exists_of_mem_brackets mode isBracket
    simp only [String.toList_append, single] at whole here ⊢
    have ends (rest : List Char) : ∀ c ∈ rest.head?, token.prolongs c = false := fun c _ =>
      Token.prolongs_of_not_isOpenEnded (Token.not_isOpenEnded_of_punctuation? isMark) c
    have was : FrontLayout mode back.toList [c] [token] := .single (.mark isMark) (ends _)
    have becomes : FrontLayout mode back.toList (gaps.toList ++ ([c] ++ more.toList)) [token] :=
      .token blank (.mark isMark) (ends _) (.blank moreBlank)
    have closes : Scan.Closes (gaps.toList ++ ([c] ++ more.toList) ++ back.toList) := by
      rw [List.append_assoc]
      exact Scan.closes_gaps blank (Scan.closes_cons foreign _)
    have stays := here.of_ends fun token _ => Token.prolongs_of_closes closes token
    obtain ⟨later, rfl, exchanged⟩ := layout_exchange whole here was stays becomes
    rwa [← List.append_assoc gaps.toList] at exchanged

/-- However often it is restyled, a text stays laid out as the same tokens. -/
theorem layout_of_reflTransGen (restyled : Relation.ReflTransGen (Restyled mode) text other)
    (whole : Layout mode text.toList tokens) : Layout mode other.toList tokens := by
  induction restyled with
  | refl => exact whole
  | tail _ last ih => exact last.layout ih

end Restyled

/-- In a text in which one name has been written in other letters, this name is another token. -/
theorem Recased.layout {mode : Mode} {index : Nat} {name other text changed : String}
    {tokens : List Token} (recased : Recased mode index name other text changed)
    (whole : Layout mode text.toList tokens) :
    ∃ before later, tokens = before ++ .name name :: later ∧
      Layout mode changed.toList (before ++ .name other :: later) ∧
      (before.filterMap Token.name?).length = index := by
  obtain ⟨here, ⟨shape, isName⟩, ends, letters, rfl⟩ := recased
  simp only [String.toList_append] at whole here ⊢
  have otherName : Token.ofWord other = .name other := by
    rw [Token.ofWord_eq_name_iff, letters]
    exact Token.ofWord_eq_name_iff.1 isName
  obtain ⟨later, rfl, layout⟩ :=
    TokenStream.layout_recase whole here shape ends (Text.lowercase_eq_iff.1 letters)
  simp only [String.ofList_toList, isName, otherName] at layout ⊢
  exact ⟨_, later, rfl, layout, rfl⟩

end ResourceFilter
