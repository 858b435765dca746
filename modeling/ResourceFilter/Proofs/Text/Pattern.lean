import Mathlib.Data.List.Infix
import ResourceFilter.Text.Pattern

/-! # What search patterns match

A pattern is read as a sequence of parts: characters that stand for themselves, and marks that have
a meaning. A backslash takes the meaning from the mark behind it. Of the marks only two are given a
meaning here, the one for the beginning and the one for the end of a text, and patterns of tests use
no others: whatever the value of a test, all of it stands for itself. So a pattern matches just the
texts that the test is about.
-/

set_option autoImplicit false

namespace ResourceFilter

namespace Pattern

/-- A part of a pattern. -/
inductive Part where
  /-- A character that stands for itself. -/
  | char (c : Char)
  /-- A character that patterns give a meaning to, without a backslash in front. -/
  | mark (c : Char)
  deriving DecidableEq, Repr

/-- The parts of a pattern. -/
def parts : List Char → List Part
  | [] => []
  | '\\' :: c :: rest => .char c :: parts rest
  | c :: rest => (if c ∈ Text.patternMarks then .mark c else .char c) :: parts rest

/-- Whether parts match the text behind a place, given the text before it. The two marks for the
ends of a text take up none of it. -/
def MatchesAt : List Part → List Char → List Char → Prop
  | [], _, _ => True
  | .char _ :: _, _, [] => False
  | .char c :: more, before, d :: behind => c = d ∧ MatchesAt more (before ++ [d]) behind
  | .mark c :: more, before, behind =>
    (c = '^' ∧ before = [] ∨ c = '$' ∧ behind = []) ∧ MatchesAt more before behind

/-- Whether a pattern matches at some place of a text. -/
def Matches (pattern text : String) : Prop :=
  ∃ before behind, text.toList = before ++ behind ∧
    MatchesAt (parts pattern.toList) before behind

/-- A character that is no backslash is a part of its own, a mark if it has a meaning. -/
theorem parts_cons_of_ne {c : Char} (notBackslash : c ≠ '\\') (rest : List Char) :
    parts (c :: rest) =
      (if c ∈ Text.patternMarks then .mark c else .char c) :: parts rest := by
  rw [parts]
  rintro d more rfl
  exact absurd rfl notBackslash

/-- A literal in a pattern stands for itself. -/
theorem parts_literalPattern_append (value rest : List Char) :
    parts (Text.literalPattern value ++ rest) = value.map .char ++ parts rest := by
  induction value with
  | nil => rfl
  | cons c more ih =>
    by_cases mark : c ∈ Text.patternMarks
    · have written : Text.literalPattern (c :: more) = '\\' :: c :: Text.literalPattern more := by
        simp [Text.literalPattern, mark]
      rw [written, List.cons_append, List.cons_append, parts, ih, List.map_cons, List.cons_append]
    · have written : Text.literalPattern (c :: more) = c :: Text.literalPattern more := by
        simp [Text.literalPattern, mark]
      have notBackslash : c ≠ '\\' := by
        rintro rfl
        exact mark (by decide)
      rw [written, List.cons_append, parts_cons_of_ne notBackslash, if_neg mark, ih,
        List.map_cons, List.cons_append]

/-- Characters that stand for themselves match where they stand, and what follows them is matched
behind them. -/
theorem matchesAt_chars_iff {value before behind : List Char} {more : List Part} :
    MatchesAt (value.map .char ++ more) before behind ↔
      ∃ rest, behind = value ++ rest ∧ MatchesAt more (before ++ value) rest := by
  induction value generalizing before behind with
  | nil => simp
  | cons c others ih =>
    cases behind with
    | nil => simp [MatchesAt]
    | cons d rest =>
      simp only [List.map_cons, List.cons_append, MatchesAt, ih, List.cons.injEq,
        List.append_assoc, List.nil_append]
      constructor
      · rintro ⟨rfl, last, rfl, matched⟩
        exact ⟨last, ⟨rfl, rfl⟩, matched⟩
      · rintro ⟨last, ⟨rfl, rfl⟩, matched⟩
        exact ⟨rfl, last, rfl, matched⟩

/-- The mark of the start matches where nothing stands before it. -/
theorem matchesAt_start_iff {before behind : List Char} {more : List Part} :
    MatchesAt (.mark '^' :: more) before behind ↔ before = [] ∧ MatchesAt more before behind := by
  simp [MatchesAt]

/-- The mark of the end matches where nothing stands behind it. -/
theorem matchesAt_end_iff {before behind : List Char} {more : List Part} :
    MatchesAt (.mark '$' :: more) before behind ↔ behind = [] ∧ MatchesAt more before behind := by
  simp [MatchesAt]

end Pattern

namespace Matching

open Pattern

/-- What a test of a text against a value asks for. -/
def Holds (op : Matching) (value text : String) : Prop :=
  match op with
  | contains => value.toList <:+: text.toList
  | startsWith => value.toList <+: text.toList
  | endsWith => value.toList <:+ text.toList

/-- The pattern for a value anywhere is that value, character by character. -/
theorem parts_contains (value : String) :
    parts (contains.pattern value).toList = value.toList.map .char := by
  have read := parts_literalPattern_append value.toList []
  rw [show parts [] = [] from rfl, List.append_nil, List.append_nil] at read
  simpa [pattern] using read

/-- The pattern for a value at the start is the mark of the start and then the value. -/
theorem parts_startsWith (value : String) :
    parts (startsWith.pattern value).toList = .mark '^' :: value.toList.map .char := by
  have written : (startsWith.pattern value).toList = '^' :: (contains.pattern value).toList := by
    simp [pattern]
  rw [written, parts_cons_of_ne (by decide), parts_contains]
  rfl

/-- The pattern for a value at the end is the value and then the mark of the end. -/
theorem parts_endsWith (value : String) :
    parts (endsWith.pattern value).toList = value.toList.map .char ++ [.mark '$'] := by
  have read := parts_literalPattern_append value.toList ['$']
  rw [show parts ['$'] = [.mark '$'] from rfl] at read
  simpa [pattern] using read

/-- The pattern of a test matches the texts that the test asks for. -/
theorem matches_pattern_iff (op : Matching) (value text : String) :
    Matches (op.pattern value) text ↔ op.Holds value text := by
  unfold Matches
  cases op with
  | contains =>
    rw [parts_contains, ← List.append_nil (value.toList.map Part.char)]
    simp only [matchesAt_chars_iff]
    constructor
    · rintro ⟨before, _, isText, rest, rfl, -⟩
      exact ⟨before, rest, by rw [isText, List.append_assoc]⟩
    · rintro ⟨before, rest, isText⟩
      exact ⟨before, _, by rw [← isText, List.append_assoc], rest, rfl, trivial⟩
  | startsWith =>
    rw [parts_startsWith, ← List.append_nil (value.toList.map Part.char)]
    simp only [matchesAt_start_iff, matchesAt_chars_iff]
    constructor
    · rintro ⟨_, _, isText, rfl, rest, rfl, -⟩
      exact ⟨rest, isText.symm⟩
    · rintro ⟨rest, isText⟩
      exact ⟨[], _, isText.symm, rfl, rest, rfl, trivial⟩
  | endsWith =>
    rw [parts_endsWith]
    simp only [matchesAt_chars_iff, matchesAt_end_iff]
    constructor
    · rintro ⟨before, _, isText, _, rfl, rfl, -⟩
      exact ⟨before, by rw [isText, List.append_nil]⟩
    · rintro ⟨before, isText⟩
      exact ⟨before, _, isText.symm, [], (List.append_nil _).symm, rfl, trivial⟩

/-- Tests of one kind against different values have different patterns: what a pattern is made of
still shows the value. -/
theorem pattern_injective (op : Matching) : Function.Injective op.pattern := by
  intro value other same
  have sameParts := congrArg (fun pattern : String => parts pattern.toList) same
  have charInjective : Function.Injective Part.char := fun _ _ => Part.char.inj
  rw [← String.toList_inj]
  apply List.map_injective_iff.mpr charInjective
  cases op with
  | contains => simpa only [parts_contains] using sameParts
  | startsWith => simpa only [parts_startsWith, List.cons.injEq, true_and] using sameParts
  | endsWith => simpa only [parts_endsWith, List.append_cancel_right_eq] using sameParts

/-- Whatever the value of a test, all of its characters stand for themselves in the pattern, and the
only mark of the pattern is the one that ties it to an end of the text. The pattern matches the
texts that the test asks for, and no other value has the same one. -/
theorem pattern_stands_for (value : String) :
    parts (contains.pattern value).toList = value.toList.map .char ∧
    parts (startsWith.pattern value).toList = .mark '^' :: value.toList.map .char ∧
    parts (endsWith.pattern value).toList = value.toList.map .char ++ [.mark '$'] ∧
    (∀ (op : Matching) (text : String), Matches (op.pattern value) text ↔ op.Holds value text) ∧
    ∀ (op : Matching) (other : String), op.pattern other = op.pattern value → other = value :=
  ⟨parts_contains value, parts_startsWith value, parts_endsWith value,
    fun op text => matches_pattern_iff op value text, fun op _ same => pattern_injective op same⟩

end Matching

end ResourceFilter
