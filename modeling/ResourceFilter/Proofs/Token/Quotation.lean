import ResourceFilter.Proofs.Token.Lexeme

/-! # Text literals in writing

Writing a value as a text literal and reading it back are inverse to each other wherever the literal
stands: what follows it is neither looked at nor taken. Only a value with a forbidden character is
not read back, and then reading fails at the first one. Literals may be written in more than one
way, since a backslash in front of other characters stands for itself; but whatever value is read
from a text, its literal is read as that value.
-/

set_option autoImplicit false

namespace ResourceFilter

namespace Scan

open Text

variable {mode : Mode}

/-- A value that may stand in a text literal is read back from its literal. -/
theorem token_of_allowed {value : String}
    (allowed : ∀ c ∈ value.toList, Quoted.isForbidden c = false) (place : Position)
    (rest : List Char) :
    token mode place ((Quoted.quote value).toList ++ rest) =
      .found ⟨.text value, place⟩ (place.after (Quoted.quote value).toList) rest := by
  have readable : (Token.text value).Readable mode := allowed
  have written : (Token.text value).IsWritten mode (Quoted.quote value).toList :=
    Token.isWritten_lexeme readable
  exact written.token_eq (fun _ _ => rfl) place

/-- Reading a literal fails at the first character of its value that may not stand in it. -/
theorem token_of_forbidden {before after : List Char} {c : Char}
    (allowed : ∀ other ∈ before, Quoted.isForbidden other = false)
    (forbidden : Quoted.isForbidden c = true) (place : Position) (rest : List Char) :
    token mode place ((Quoted.quote (String.ofList (before ++ c :: after))).toList ++ rest) =
      .failed (.unexpectedCharacter c (place.after ('"' :: Quoted.encode before))) := by
  have read := Quoted.decode_encode_of_forbidden allowed forbidden (place.next '"')
    (Quoted.encode after ++ '"' :: rest)
  rw [Quoted.toList_quote, String.toList_ofList, Quoted.encode_append_forbidden forbidden,
    List.cons_append, token_of_not_isGap (by decide)]
  unfold tokenAt
  rw [if_pos rfl, List.append_assoc, List.append_assoc, List.cons_append, List.singleton_append,
    read]
  rfl

/-- Every value that is read somewhere may stand in a text literal. -/
theorem allowed_of_mem {text value : String}
    (mem : .text value ∈ (TokenStream.ofText mode text).tokens.map PlacedToken.token) :
    ∀ c ∈ value.toList, Quoted.isForbidden c = false :=
  TokenStream.readable_of_ofText (rfl : TokenStream.ofText mode text = ⟨_, _⟩) _ mem

/-- Text literals are read as they are written, wherever they stand and whatever follows. A value is
read back, and the text behind its literal is left, unless one of its characters is forbidden:
reading fails at the first one then. And every value that is read as a text literal anywhere, in
whatever way it is written there, is read from its own literal. -/
theorem token_quote_eq (mode : Mode) (place : Position) (rest : List Char) :
    (∀ value : String, token mode place ((Quoted.quote value).toList ++ rest) =
      match value.toList.find? Quoted.isForbidden with
      | none => .found ⟨.text value, place⟩ (place.after (Quoted.quote value).toList) rest
      | some c => .failed (.unexpectedCharacter c (place.after ('"' :: Quoted.encode
          (value.toList.takeWhile fun other => !Quoted.isForbidden other))))) ∧
    ∀ (source : Mode) (text value : String),
      .text value ∈ (TokenStream.ofText source text).tokens.map PlacedToken.token →
        token mode place ((Quoted.quote value).toList ++ rest) =
          .found ⟨.text value, place⟩ (place.after (Quoted.quote value).toList) rest := by
  constructor
  · intro value
    split
    next none =>
      apply token_of_allowed
      intro c mem
      simpa using List.find?_eq_none.1 none c mem
    next c found =>
      obtain ⟨forbidden, before, after, isValue, allowed⟩ :=
        List.find?_eq_some_iff_append.1 found
      have clear : ∀ other ∈ before, Quoted.isForbidden other = false := by
        intro other mem
        simpa using allowed other mem
      have front : (before ++ c :: after).takeWhile (fun other => !Quoted.isForbidden other) =
          before := by
        apply Text.takeWhile_append_of_head allowed
        rintro _ ⟨⟩
        simp [forbidden]
      rw [isValue, front, ← token_of_forbidden clear forbidden, ← isValue, String.ofList_toList]
  · intro source text value mem
    exact token_of_allowed (allowed_of_mem mem) place rest

/-- A lone backslash is doubled in the literal of the value that it is read in, and a bell on the
second line of a value is where its literal fails. -/
theorem token_quote_eq_backslash :
    let text := "x eq \"a\\b\\\"\""
    let value := "a\\b\""
    let rest := "\" pr".toList
    .text value ∈ (TokenStream.ofText .filter text).tokens.map PlacedToken.token ∧
      Quoted.quote value = "\"a\\\\b\\\"\"" ∧
      token .patch .start ((Quoted.quote value).toList ++ rest) =
        .found ⟨.text value, .start⟩ ⟨1, 9⟩ rest ∧
      token .patch .start ((Quoted.quote "\"\n\x07\x07").toList ++ rest) =
        .failed (.unexpectedCharacter '\x07' ⟨2, 1⟩) := by
  intro text value rest
  have mem : .text value ∈ (TokenStream.ofText .filter text).tokens.map PlacedToken.token := by
    decide +kernel
  have literal : Quoted.quote value = "\"a\\\\b\\\"\"" := by decide +kernel
  have length : Position.start.after (Quoted.quote value).toList = ⟨1, 9⟩ := by decide +kernel
  have first : "\"\n\x07\x07".toList.find? Quoted.isForbidden = some '\x07' := by decide +kernel
  have front : Position.start.after ('"' :: Quoted.encode ("\"\n\x07\x07".toList.takeWhile
      fun other => !Quoted.isForbidden other)) = ⟨2, 1⟩ := by decide +kernel
  obtain ⟨read, readAgain⟩ := token_quote_eq .patch .start rest
  have again := readAgain .filter text value mem
  have bell := read "\"\n\x07\x07"
  rw [length] at again
  rw [first] at bell
  simp only [front] at bell
  exact ⟨mem, literal, again, bell⟩

end Scan

end ResourceFilter
