import ResourceFilter.Text.Quoted

/-! # What stands between quotes

A quoted value ends at the first quote that no backslash escapes. `Denotes` says which value the
text in front of that quote stands for, and `decode_eq_closed_iff` that the reader takes exactly
such texts, so neither the place of a value nor what follows its closing quote matters to it. Any
other text fails at its first forbidden character or is never closed, whichever the reader says; of
a value as it is written, `decode_encode_of_forbidden` tells which character that is.
-/

set_option autoImplicit false

namespace ResourceFilter.Text.Quoted

/-- The value that a text between quotes stands for: a backslash in front of a quote or of another
backslash escapes it, any other backslash stands for itself. -/
inductive Denotes : List Char → List Char → Prop where
  | nil : Denotes [] []
  | escaped {c : Char} {inside value : List Char} (special : c = '"' ∨ c = '\\')
      (behind : Denotes inside value) : Denotes ('\\' :: c :: inside) (c :: value)
  | plain {c : Char} {inside value : List Char} (notQuote : c ≠ '"')
      (lone : c = '\\' → ∃ next more, inside = next :: more ∧ next ≠ '"' ∧ next ≠ '\\')
      (allowed : isForbidden c = false) (behind : Denotes inside value) :
      Denotes (c :: inside) (c :: value)

/-- A backslash in front of neither a quote nor a backslash is read as itself. -/
theorem decode_lone_backslash {next : Char} (notQuote : next ≠ '"') (notBackslash : next ≠ '\\')
    (place : Position) (rest : List Char) :
    decode place ('\\' :: next :: rest) =
      (decode (place.next '\\') (next :: rest)).cons '\\' := by
  rw [decode]
  · rfl
  · simp
  · simp [notQuote]
  · simp [notBackslash]

/-- What stands for a value is read as it, up to the closing quote. -/
theorem Denotes.decode_eq {inside value : List Char} (denotes : Denotes inside value)
    (place : Position) (rest : List Char) :
    decode place (inside ++ '"' :: rest) =
      .closed value (place.after (inside ++ ['"'])) rest := by
  induction denotes generalizing place with
  | nil => rfl
  | escaped special _ ih =>
    rcases special with rfl | rfl
    · simp [decode, ih, Reading.cons]
    · simp [decode, ih, Reading.cons]
  | @plain c inside value notQuote lone allowed _ ih =>
    by_cases backslash : c = '\\'
    · subst backslash
      obtain ⟨next, more, rfl, apart⟩ := lone rfl
      have read := ih (place.next '\\')
      rw [List.cons_append] at read ⊢
      rw [List.cons_append, decode_lone_backslash apart.1 apart.2, read]
      rfl
    · rw [List.cons_append, decode_cons_of_plain notQuote backslash, allowed, ih]
      rfl

/-- A value that is read to its end was written in front of the closing quote. -/
theorem denotes_of_decode {place next : Position} {text value rest : List Char}
    (closed : decode place text = .closed value next rest) :
    ∃ inside, text = inside ++ '"' :: rest ∧ Denotes inside value := by
  fun_induction decode place text generalizing value with
  | case1 => cases closed
  | case2 =>
    cases closed
    exact ⟨[], rfl, .nil⟩
  | case3 place more ih =>
    obtain ⟨later, rfl, read⟩ := Reading.closed_of_cons closed
    obtain ⟨inside, rfl, denotes⟩ := ih read
    exact ⟨_, rfl, .escaped (.inl rfl) denotes⟩
  | case4 place more ih =>
    obtain ⟨later, rfl, read⟩ := Reading.closed_of_cons closed
    obtain ⟨inside, rfl, denotes⟩ := ih read
    exact ⟨_, rfl, .escaped (.inr rfl) denotes⟩
  | case5 => cases closed
  | case6 place c more notQuote notEscapedQuote notEscapedBackslash clear ih =>
    obtain ⟨later, rfl, read⟩ := Reading.closed_of_cons closed
    obtain ⟨inside, rfl, denotes⟩ := ih read
    refine ⟨c :: inside, rfl, .plain notQuote ?_ (Bool.eq_false_iff.2 clear) denotes⟩
    intro backslash
    -- The closing quote itself would be escaped by a backslash at the very end.
    cases inside with
    | nil => exact (notEscapedQuote rest backslash rfl).elim
    | cons next more =>
      refine ⟨next, more, rfl, ?_, ?_⟩
      · rintro rfl
        exact notEscapedQuote _ backslash rfl
      · rintro rfl
        exact notEscapedBackslash _ backslash rfl

/-- A value is closed exactly where the text in front of a quote stands for it. -/
theorem decode_eq_closed_iff {place next : Position} {text value rest : List Char} :
    decode place text = .closed value next rest ↔
      ∃ inside, text = inside ++ '"' :: rest ∧ Denotes inside value ∧
        next = place.after (inside ++ ['"']) := by
  constructor
  · intro closed
    obtain ⟨inside, rfl, denotes⟩ := denotes_of_decode closed
    rw [denotes.decode_eq] at closed
    cases closed
    exact ⟨inside, rfl, denotes, rfl⟩
  · rintro ⟨inside, rfl, denotes, rfl⟩
    exact denotes.decode_eq place rest

/-- What is written between quotes stands for the value. -/
theorem denotes_encode {value : List Char} (allowed : ∀ c ∈ value, isForbidden c = false) :
    Denotes (encode value) value := by
  obtain ⟨inside, written, denotes⟩ := denotes_of_decode (decode_encode allowed .start [])
  rwa [List.append_cancel_right written]

/-! ### Where no value ends -/

/-- A character in front does not change where reading fails. -/
@[simp] theorem Reading.cons_eq_forbidden_iff {c other : Char} {place : Position}
    {reading : Reading} :
    reading.cons c = .forbidden other place ↔ reading = .forbidden other place := by
  cases reading <;> simp [Reading.cons]

/-- A character in front does not close what is unclosed. -/
@[simp] theorem Reading.cons_eq_unclosed_iff {c : Char} {reading : Reading} :
    reading.cons c = .unclosed ↔ reading = .unclosed := by
  cases reading <;> simp [Reading.cons]

/-- The character that reading fails at stands in the text at its place. -/
theorem exists_of_decode_forbidden {place other : Position} {text : List Char} {c : Char}
    (failed : decode place text = .forbidden c other) :
    ∃ inside rest, text = inside ++ c :: rest ∧ isForbidden c = true ∧
      other = place.after inside := by
  fun_induction decode place text with
  | case1 => cases failed
  | case2 => cases failed
  | case3 place rest ih =>
    obtain ⟨inside, behind, rfl, forbidden, rfl⟩ := ih (Reading.cons_eq_forbidden_iff.1 failed)
    exact ⟨'\\' :: '"' :: inside, behind, rfl, forbidden, rfl⟩
  | case4 place rest ih =>
    obtain ⟨inside, behind, rfl, forbidden, rfl⟩ := ih (Reading.cons_eq_forbidden_iff.1 failed)
    exact ⟨'\\' :: '\\' :: inside, behind, rfl, forbidden, rfl⟩
  | case5 place first rest _ _ _ forbidden =>
    cases failed
    exact ⟨[], rest, rfl, forbidden, rfl⟩
  | case6 place first rest _ _ _ _ ih =>
    obtain ⟨inside, behind, rfl, forbidden, rfl⟩ := ih (Reading.cons_eq_forbidden_iff.1 failed)
    exact ⟨first :: inside, behind, rfl, forbidden, rfl⟩

/-- The text behind an opening quote that is never closed: it may all stand in a value, and no quote
in it ends one. -/
structure Unclosed (text : List Char) : Prop where
  allowed : ∀ c ∈ text, isForbidden c = false
  not_closed : ∀ inside rest, text = inside ++ '"' :: rest → ∀ value, ¬Denotes inside value

/-- What is read without coming to an end has no forbidden characters. -/
theorem allowed_of_decode_unclosed {place : Position} {text : List Char}
    (unclosed : decode place text = .unclosed) : ∀ c ∈ text, isForbidden c = false := by
  fun_induction decode place text with
  | case1 => simp
  | case2 => cases unclosed
  | case3 place rest ih | case4 place rest ih =>
    have behind := ih (Reading.cons_eq_unclosed_iff.1 unclosed)
    exact List.forall_mem_cons.2 ⟨by decide, List.forall_mem_cons.2 ⟨by decide, behind⟩⟩
  | case5 => cases unclosed
  | case6 place c rest _ _ _ clear ih =>
    have behind := ih (Reading.cons_eq_unclosed_iff.1 unclosed)
    exact List.forall_mem_cons.2 ⟨Bool.eq_false_iff.2 clear, behind⟩

/-- A value is unclosed exactly where no quote ends it and nothing is forbidden. -/
theorem decode_eq_unclosed_iff {place : Position} {text : List Char} :
    decode place text = .unclosed ↔ Unclosed text := by
  constructor
  · intro unclosed
    refine ⟨allowed_of_decode_unclosed unclosed, ?_⟩
    rintro inside rest rfl value denotes
    rw [denotes.decode_eq] at unclosed
    cases unclosed
  · intro unclosed
    cases read : decode place text with
    | unclosed => rfl
    | closed value next rest =>
      obtain ⟨inside, isText, denotes⟩ := denotes_of_decode read
      cases unclosed.not_closed inside rest isText value denotes
    | forbidden c other =>
      obtain ⟨inside, rest, rfl, forbidden, -⟩ := exists_of_decode_forbidden read
      have allowed := unclosed.allowed c (by simp)
      rw [forbidden] at allowed
      cases allowed

/-- Forbidden characters are neither quotes nor backslashes. -/
theorem plain_of_forbidden {c : Char} (forbidden : isForbidden c = true) :
    c ≠ '"' ∧ c ≠ '\\' := by
  constructor
  · rintro rfl
    exact absurd forbidden (by decide)
  · rintro rfl
    exact absurd forbidden (by decide)

/-- Reading fails at a forbidden character. -/
theorem decode_of_forbidden {c : Char} (forbidden : isForbidden c = true) (place : Position)
    (rest : List Char) : decode place (c :: rest) = .forbidden c place := by
  obtain ⟨notQuote, notBackslash⟩ := plain_of_forbidden forbidden
  rw [decode_cons_of_plain notQuote notBackslash, if_pos forbidden]

/-- A quoted value is its encoding between two quotes. -/
theorem toList_quote (value : String) :
    (quote value).toList = '"' :: (encode value.toList ++ ['"']) := by
  simp [quote]

/-- Up to its first forbidden character a value is written as that part of it alone. -/
theorem encode_append_forbidden {c : Char} (forbidden : isForbidden c = true)
    (before after : List Char) :
    encode (before ++ c :: after) = encode before ++ c :: encode after := by
  induction before with
  | nil =>
    obtain ⟨notQuote, notBackslash⟩ := plain_of_forbidden forbidden
    simp [encode, notQuote, notBackslash]
  | cons first more ih =>
    rw [List.cons_append, encode, encode, ih]
    split <;> rfl

/-- What was written is read character by character, whatever follows it: a backslash that escapes
nothing is never written. -/
theorem decode_encode_append {value : List Char} (allowed : ∀ c ∈ value, isForbidden c = false)
    (place : Position) (rest : List Char) :
    decode place (encode value ++ rest) =
      value.foldr Reading.cons (decode (place.after (encode value)) rest) := by
  induction value generalizing place with
  | nil => rfl
  | cons c more ih =>
    obtain ⟨clear, behind⟩ := List.forall_mem_cons.1 allowed
    have ih := ih behind
    by_cases special : c = '"' ∨ c = '\\'
    · have escaped : encode (c :: more) = '\\' :: c :: encode more := if_pos special
      rw [escaped]
      rcases special with rfl | rfl
      · simp [decode, ih]
      · simp [decode, ih]
    · have plain : encode (c :: more) = c :: encode more := if_neg special
      rw [not_or] at special
      rw [plain, List.cons_append, decode_cons_of_plain special.1 special.2, clear, ih]
      rfl

/-- Reading what was written fails at the first forbidden character of the value. -/
theorem decode_encode_of_forbidden {value : List Char} {c : Char}
    (allowed : ∀ other ∈ value, isForbidden other = false) (forbidden : isForbidden c = true)
    (place : Position) (rest : List Char) :
    decode place (encode value ++ c :: rest) = .forbidden c (place.after (encode value)) := by
  have kept (reached : Position) :
      value.foldr Reading.cons (.forbidden c reached) = .forbidden c reached := by
    clear allowed
    induction value with
    | nil => rfl
    | cons first more ih => rw [List.foldr_cons, ih, Reading.cons]
  rw [decode_encode_append allowed, decode_of_forbidden forbidden, kept]

end ResourceFilter.Text.Quoted
