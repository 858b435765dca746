/-! # Splitting at a mark

The parts of a text around the first occurrence of a mark, and the part behind its last occurrence.
The main statements characterise both: the first split leaves no mark in front, and what stands
behind the last mark does not depend on what stands before it.
-/

set_option autoImplicit false

namespace ResourceFilter.Text

/-- The parts before and after the first `mark`, or nothing when there is none. -/
def splitFirst? (mark : Char) : List Char → Option (List Char × List Char)
  | [] => none
  | c :: rest =>
    if c = mark then some ([], rest)
    else (splitFirst? mark rest).map fun (before, after) => (c :: before, after)

/-- The part behind the last `mark`; the whole text when there is none. -/
def afterLast (mark : Char) (text : List Char) : List Char :=
  (text.reverse.takeWhile (· ≠ mark)).reverse

/-- A split puts the text back together around a mark that does not occur before. -/
theorem splitFirst?_eq_some_iff {mark : Char} {text before after : List Char} :
    splitFirst? mark text = some (before, after) ↔
      text = before ++ mark :: after ∧ mark ∉ before := by
  induction text generalizing before with
  | nil => simp [splitFirst?]
  | cons c rest ih =>
    unfold splitFirst?
    by_cases h : c = mark
    · subst h
      cases before with
      | nil => simp [eq_comm]
      | cons b bs =>
        simp only [ite_true, Option.some.injEq, Prod.mk.injEq, reduceCtorEq, false_and,
          List.cons_append, List.cons.injEq, List.mem_cons, not_or, false_iff, not_and]
        rintro ⟨rfl, -⟩ other
        exact absurd rfl other
    · cases before with
      | nil => simp [h]
      | cons b bs =>
        have step : (splitFirst? mark rest).map (fun p => (c :: p.1, p.2)) = some (b :: bs, after) ↔
            c = b ∧ splitFirst? mark rest = some (bs, after) := by
          cases splitFirst? mark rest with
          | none => simp
          | some p => obtain ⟨x, y⟩ := p; simp [and_assoc]
        simp only [h, ite_false]
        rw [step, ih]
        simp only [List.cons_append, List.cons.injEq, List.mem_cons, not_or]
        constructor
        · rintro ⟨rfl, rfl, free⟩
          exact ⟨⟨rfl, rfl⟩, fun e => h e.symm, free⟩
        · rintro ⟨⟨rfl, rfl⟩, -, free⟩
          exact ⟨rfl, rfl, free⟩

/-- There is no split exactly when the mark does not occur. -/
theorem splitFirst?_eq_none_iff {mark : Char} {text : List Char} :
    splitFirst? mark text = none ↔ mark ∉ text := by
  induction text with
  | nil => simp [splitFirst?]
  | cons c rest ih =>
    by_cases h : c = mark
    · simp [splitFirst?, h]
    · simp [splitFirst?, h, ih, Ne.symm h]

/-- What holds no mark stays behind the last one. -/
theorem afterLast_append_of_not_mem {mark : Char} (text : List Char) {more : List Char}
    (free : mark ∉ more) : afterLast mark (text ++ more) = afterLast mark text ++ more := by
  have all : ∀ c ∈ more.reverse, decide (c ≠ mark) = true := fun c mem =>
    decide_eq_true fun e => free (e ▸ List.mem_reverse.1 mem)
  unfold afterLast
  rw [List.reverse_append, List.takeWhile_append_of_pos all, List.reverse_append,
    List.reverse_reverse]

/-- Behind the last mark stands what follows it. -/
theorem afterLast_append {mark : Char} (before : List Char) {after : List Char}
    (free : mark ∉ after) : afterLast mark (before ++ mark :: after) = after := by
  have parts : before ++ mark :: after = (before ++ [mark]) ++ after := by simp
  rw [parts, afterLast_append_of_not_mem _ free]
  simp [afterLast]

/-- A text without the mark is all of it. -/
theorem afterLast_of_not_mem {mark : Char} {text : List Char} (free : mark ∉ text) :
    afterLast mark text = text :=
  afterLast_append_of_not_mem [] free

end ResourceFilter.Text
