import ResourceFilter.Position
import ResourceFilter.Unicode.Blank

/-! # Quoted values

A value stands between double quotes, with a backslash in front of each quote and backslash in it.
The reader is more lenient than the writer: a backslash in front of any other character stands for
itself. Control characters may not stand in a value unless they are blanks. The main statement,
`decode_encode`, says that reading a written value gives the value back and stops behind its closing
quote, whatever follows.
-/

set_option autoImplicit false

namespace ResourceFilter.Text.Quoted

/-- The inside of a quoted value: a backslash before each quote and each backslash. -/
def encode : List Char → List Char
  | [] => []
  | c :: rest => if c = '"' ∨ c = '\\' then '\\' :: c :: encode rest else c :: encode rest

/-- A value with its quotes. -/
def quote (value : String) : String :=
  "\"" ++ String.ofList (encode value.toList) ++ "\""

/-- Whether a character may not stand in a quoted value. -/
def isForbidden (c : Char) : Bool :=
  Unicode.isControl c && !Unicode.isBlank c

/-- What reading behind an opening quote comes to. -/
inductive Reading where
  /-- The value, and the place and the rest of the text behind the closing quote. -/
  | closed (value : List Char) (place : Position) (rest : List Char)
  /-- A character that may not stand in a value, and its place. -/
  | forbidden (c : Char) (place : Position)
  /-- The text ends before a closing quote. -/
  | unclosed
  deriving DecidableEq, Repr

/-- The reading with one more character in front of its value. -/
def Reading.cons (c : Char) : Reading → Reading
  | .closed value place rest => .closed (c :: value) place rest
  | .forbidden other place => .forbidden other place
  | .unclosed => .unclosed

/-- A closed reading with a character in front comes from a closed one without it. -/
theorem Reading.closed_of_cons {c : Char} {reading : Reading} {value rest : List Char}
    {place : Position} (closed : reading.cons c = .closed value place rest) :
    ∃ more, value = c :: more ∧ reading = .closed more place rest := by
  cases reading with
  | closed more other behind =>
    cases closed
    exact ⟨more, rfl, rfl⟩
  | forbidden | unclosed => cases closed

/-- Reads a value whose first character, behind the opening quote, stands at the given place. -/
def decode (place : Position) : List Char → Reading
  | [] => .unclosed
  | '"' :: rest => .closed [] (place.next '"') rest
  | '\\' :: '"' :: rest => (decode ((place.next '\\').next '"') rest).cons '"'
  | '\\' :: '\\' :: rest => (decode ((place.next '\\').next '\\') rest).cons '\\'
  | c :: rest => if isForbidden c then .forbidden c place else (decode (place.next c) rest).cons c

/-- A character that needs no backslash is read as itself. -/
theorem decode_cons_of_plain {c : Char} (notQuote : c ≠ '"') (notBackslash : c ≠ '\\')
    (place : Position) (rest : List Char) :
    decode place (c :: rest) =
      if isForbidden c then .forbidden c place else (decode (place.next c) rest).cons c := by
  rw [decode] <;> simp [notQuote, notBackslash]

/-- Reading what was written, with any text behind the closing quote, gives the value back and
stops behind that quote, provided the value holds no forbidden character. -/
theorem decode_encode {value : List Char} (allowed : ∀ c ∈ value, isForbidden c = false)
    (place : Position) (rest : List Char) :
    decode place (encode value ++ '"' :: rest) =
      .closed value (place.after (encode value ++ ['"'])) rest := by
  induction value generalizing place with
  | nil => simp [encode, decode]
  | cons c more ih =>
    have ih := ih fun other mem => allowed other (List.mem_cons_of_mem _ mem)
    have clear : isForbidden c = false := allowed c List.mem_cons_self
    by_cases quoteMark : c = '"'
    · subst quoteMark
      simp [encode, decode, ih, Reading.cons]
    · by_cases backslash : c = '\\'
      · subst backslash
        simp [encode, decode, ih, Reading.cons]
      · simp only [encode, quoteMark, backslash, or_self, ite_false, List.cons_append]
        rw [decode_cons_of_plain quoteMark backslash, clear]
        simp [ih, Reading.cons]

/-- The text behind a closing quote is shorter than the text behind the opening one. -/
theorem length_lt_of_decode {place next : Position} {text value rest : List Char}
    (closed : decode place text = .closed value next rest) : rest.length < text.length := by
  fun_induction decode place text generalizing value with
  | case1 => cases closed
  | case2 => cases closed; simp
  | case3 place more ih =>
    obtain ⟨inner, -, read⟩ := Reading.closed_of_cons closed
    have := ih read
    simp only [List.length_cons]; omega
  | case4 place more ih =>
    obtain ⟨inner, -, read⟩ := Reading.closed_of_cons closed
    have := ih read
    simp only [List.length_cons]; omega
  | case5 => cases closed
  | case6 place c more _ _ _ _ ih =>
    obtain ⟨inner, -, read⟩ := Reading.closed_of_cons closed
    have := ih read
    simp only [List.length_cons]; omega

/-- A value that is read holds no forbidden character. -/
theorem allowed_of_decode {place next : Position} {text value rest : List Char}
    (closed : decode place text = .closed value next rest) :
    ∀ c ∈ value, isForbidden c = false := by
  fun_induction decode place text generalizing value with
  | case1 => cases closed
  | case2 => cases closed; simp
  | case3 place more ih =>
    obtain ⟨inner, rfl, read⟩ := Reading.closed_of_cons closed
    exact List.forall_mem_cons.2 ⟨by decide, ih read⟩
  | case4 place more ih =>
    obtain ⟨inner, rfl, read⟩ := Reading.closed_of_cons closed
    exact List.forall_mem_cons.2 ⟨by decide, ih read⟩
  | case5 => cases closed
  | case6 place c more _ _ _ clear ih =>
    obtain ⟨inner, rfl, read⟩ := Reading.closed_of_cons closed
    exact List.forall_mem_cons.2 ⟨Bool.eq_false_iff.2 clear, ih read⟩

end ResourceFilter.Text.Quoted
