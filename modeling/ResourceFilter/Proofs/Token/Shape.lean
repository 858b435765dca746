import Mathlib.Data.List.TakeWhile
import ResourceFilter.Token.Stream

/-! # The tokens that texts can hold

Not every token can come out of a text: a name is made of the characters of words and is no keyword,
a text literal holds no forbidden character, a number has no sign, and the dot is for patch paths.
`readable_of_mem_scan` says that all tokens of a stream are of this shape. The converse, that every
such token can be written down and read, is the matter of lexemes.
-/

set_option autoImplicit false

namespace ResourceFilter

namespace Scan

/-- The texts that are read as one word: a first character that may begin a word, and then only such
with which it may go on. -/
def IsWord (word : List Char) : Prop :=
  ∃ first more, word = first :: more ∧ startsWord first = true ∧
    ∀ c ∈ more, continuesWord c = true

/-- Every character of a word continues words. -/
theorem IsWord.continuesWord_of_mem {word : List Char} (shape : IsWord word) {c : Char}
    (mem : c ∈ word) : continuesWord c = true := by
  obtain ⟨first, more, rfl, starts, continues⟩ := shape
  rcases List.mem_cons.1 mem with rfl | later
  · exact continuesWord_of_startsWord starts
  · exact continues c later

/-- A run of word characters behind one that may begin a word is a word. -/
theorem isWord_takeWhile {first : Char} (starts : startsWord first = true) (rest : List Char) :
    IsWord ((first :: rest).takeWhile continuesWord) := by
  rw [List.takeWhile_cons_of_pos (continuesWord_of_startsWord starts)]
  refine ⟨first, rest.takeWhile continuesWord, rfl, starts, fun _ mem => ?_⟩
  exact List.mem_takeWhile_imp mem

end Scan

namespace Token

/-- The tokens that can be read from a text. -/
def Readable (mode : Mode) : Token → Prop
  | name word => Scan.IsWord word.toList ∧ ofWord word = name word
  | text value => ∀ c ∈ value.toList, Text.Quoted.isForbidden c = false
  | integer value => 0 ≤ value.toInt
  | dot => mode = .patch
  | _ => True

/-- Keywords are no names, texts or numbers. -/
theorem readable_of_mem_keywords {mode : Mode} {entry : String × Token}
    (mem : entry ∈ keywords) : entry.2.Readable mode := by
  simp only [keywords, List.mem_cons, List.not_mem_nil, or_false] at mem
  rcases mem with rfl | rfl | rfl | rfl | rfl | rfl | rfl | rfl | rfl | rfl | rfl | rfl | rfl |
    rfl | rfl | rfl <;> trivial

/-- What is found for a keyword stands in the list of keywords. -/
theorem mem_keywords_of_keyword? {word : String} {token : Token}
    (found : keyword? word = some token) : (word, token) ∈ keywords := by
  obtain ⟨front, back, split, -⟩ := List.lookup_eq_some_iff.1 found
  rw [split]
  exact List.mem_append_right front List.mem_cons_self

/-- A word is a name or a keyword. -/
theorem ofWord_cases (word : String) :
    (keyword? (Text.lowercase word) = none ∧ ofWord word = name word) ∨
      ∃ token, keyword? (Text.lowercase word) = some token ∧ ofWord word = token := by
  unfold ofWord
  cases keyword? (Text.lowercase word) with
  | none => exact .inl ⟨rfl, rfl⟩
  | some token => exact .inr ⟨token, rfl, rfl⟩

/-- A word is a name unless its lower case is a keyword. -/
theorem ofWord_eq_name_iff {word : String} :
    ofWord word = name word ↔ keyword? (Text.lowercase word) = none := by
  obtain ⟨none, isName⟩ | ⟨token, found, isKeyword⟩ := ofWord_cases word
  · exact iff_of_true isName none
  · refine iff_of_false ?_ (by simp [found])
    intro isName
    have mem := mem_keywords_of_keyword? found
    rw [← isKeyword, isName] at mem
    simp [keywords] at mem

/-- What comes of a word can be read in either mode. -/
theorem readable_ofWord {mode : Mode} {word : String} (shape : Scan.IsWord word.toList) :
    (ofWord word).Readable mode := by
  obtain ⟨-, isName⟩ | ⟨token, found, isKeyword⟩ := ofWord_cases word
  · rw [isName]
    exact ⟨shape, isName⟩
  · rw [isKeyword]
    exact readable_of_mem_keywords (mem_keywords_of_keyword? found)

/-- The punctuation marks, of which a dot is one in patch paths only. -/
theorem punctuation?_cases {mode : Mode} {c : Char} {token : Token}
    (mark : punctuation? mode c = some token) :
    (c = '(' ∧ token = openGroup) ∨ (c = ')' ∧ token = closeGroup) ∨ (c = '[' ∧ token = openPath) ∨
      (c = ']' ∧ token = closePath) ∨ (c = '.' ∧ token = dot ∧ mode = .patch) := by
  unfold punctuation? at mark
  split at mark
  next isMark =>
    cases mark
    exact .inl ⟨isMark, rfl⟩
  split at mark
  next isMark =>
    cases mark
    exact .inr (.inl ⟨isMark, rfl⟩)
  split at mark
  next isMark =>
    cases mark
    exact .inr (.inr (.inl ⟨isMark, rfl⟩))
  split at mark
  next isMark =>
    cases mark
    exact .inr (.inr (.inr (.inl ⟨isMark, rfl⟩)))
  split at mark
  next isMark =>
    cases mark
    exact .inr (.inr (.inr (.inr ⟨isMark.1, rfl, isMark.2⟩)))
  · cases mark

/-- A punctuation mark is a token of the mode. -/
theorem readable_of_punctuation? {mode : Mode} {c : Char} {token : Token}
    (mark : punctuation? mode c = some token) : token.Readable mode := by
  rcases punctuation?_cases mark with
    ⟨-, rfl⟩ | ⟨-, rfl⟩ | ⟨-, rfl⟩ | ⟨-, rfl⟩ | ⟨-, rfl, isPatch⟩
  · trivial
  · trivial
  · trivial
  · trivial
  · exact isPatch

end Token

namespace Scan

/-- What is known of a run of characters that is read as a token. -/
theorem found_of_run {belongs : Char → Bool} {ofRun : List Char → Except ScanError Token}
    {place next : Position} {text rest : List Char} {found : PlacedToken}
    (read : run belongs ofRun place text = .found found next rest) :
    ofRun (text.takeWhile belongs) = .ok found.token ∧ found.place = place ∧
      next = place.after (text.takeWhile belongs) ∧ rest = text.dropWhile belongs := by
  unfold run at read
  split at read
  next token denotes =>
    cases read
    exact ⟨denotes, rfl, rfl, rfl⟩
  next => cases read

/-- A number that is read has no sign. -/
theorem readable_of_ofDigits {mode : Mode} {place : Position} {digits : List Char} {token : Token}
    (denotes : ofDigits place digits = .ok token) : token.Readable mode := by
  unfold ofDigits at denotes
  split at denotes
  next small =>
    cases denotes
    show 0 ≤ (Int64.ofNat (Text.decimalValue digits)).toInt
    rw [Int64.toInt_ofNat_of_lt (Nat.lt_succ_of_le small)]
    exact Int.natCast_nonneg _
  next => cases denotes

/-- A token that is read is one that can be read. -/
theorem readable_of_tokenAt {mode : Mode} {place next : Position} {c : Char}
    {text rest : List Char} {found : PlacedToken}
    (read : tokenAt mode place c text = .found found next rest) : found.token.Readable mode := by
  unfold tokenAt at read
  split at read
  next quoted =>
    split at read
    next value behind more closed =>
      cases read
      intro other mem
      rw [String.toList_ofList] at mem
      exact Text.Quoted.allowed_of_decode closed other mem
    next => cases read
    next => cases read
  next =>
    split at read
    next digit => exact readable_of_ofDigits (found_of_run read).1
    next =>
      split at read
      next starts =>
        have isToken := Except.ok.inj (found_of_run read).1
        rw [← isToken]
        refine Token.readable_ofWord ?_
        rw [String.toList_ofList]
        exact isWord_takeWhile starts text
      next =>
        split at read
        next token mark =>
          cases read
          exact Token.readable_of_punctuation? mark
        next => cases read

end Scan

namespace TokenStream

/-- All tokens of a text can be read. -/
theorem readable_of_mem_scan {mode : Mode} {place : Position} {text : List Char}
    {placed : PlacedToken} (mem : placed ∈ (scan mode place text).tokens) :
    placed.token.Readable mode := by
  fun_induction scan mode place text with
  | case1 place text token next rest read ih =>
    rcases List.mem_cons.1 mem with rfl | later
    · unfold Scan.token at read
      split at read
      next => cases read
      next => exact Scan.readable_of_tokenAt read
    · exact ih later
  | case2 => cases mem
  | case3 => cases mem

/-- Every token that a text holds can be read. -/
theorem readable_of_ofText {mode : Mode} {text : String} {tokens : List PlacedToken}
    {ending : Ending} (stream : ofText mode text = ⟨tokens, ending⟩) :
    ∀ token ∈ tokens.map PlacedToken.token, token.Readable mode := by
  intro token mem
  obtain ⟨placed, isPlaced, rfl⟩ := List.mem_map.1 mem
  have found : placed ∈ (ofText mode text).tokens := by
    rw [stream]
    exact isPlaced
  exact readable_of_mem_scan found

end TokenStream

end ResourceFilter
