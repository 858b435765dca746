import ResourceFilter.Filter.Reader

/-! # Runs of tokens

What becomes of an unfinished filter that takes many tokens one after the other, with a bound on the
levels that may be open at a time. The main statement, `read_eq_ok_iff`, says that a reading comes
to a filter exactly when the stream ends with the text and its tokens can all be taken up to a
finished filter; so questions about readings become questions about such runs.
-/

set_option autoImplicit false

namespace ResourceFilter.Unfinished

/-- The unfinished filter behind a run of tokens, if all of them can be taken without ever opening
more than `room` levels. -/
def takeAll (patchPaths : Bool) (room : Nat) (unfinished : Unfinished) :
    List Token → Option Unfinished
  | [] => some unfinished
  | token :: rest =>
    match unfinished.push patchPaths token with
    | none => none
    | some taken => if taken.depth ≤ room then takeAll patchPaths room taken rest else none

/-- A run without tokens stays where it is. -/
@[simp] theorem takeAll_nil (patchPaths : Bool) (room : Nat) (unfinished : Unfinished) :
    unfinished.takeAll patchPaths room [] = some unfinished := rfl

/-- A token that is taken leaves the rest of the run. -/
theorem takeAll_cons_of_push {patchPaths : Bool} {room : Nat} {unfinished taken : Unfinished}
    {token : Token} (pushed : unfinished.push patchPaths token = some taken)
    (fits : taken.depth ≤ room) (rest : List Token) :
    unfinished.takeAll patchPaths room (token :: rest) = taken.takeAll patchPaths room rest := by
  rw [takeAll, pushed]
  exact if_pos fits

/-- A run that is taken begins with a token that is taken. -/
theorem push_of_takeAll_cons {patchPaths : Bool} {room : Nat} {unfinished last : Unfinished}
    {token : Token} {rest : List Token}
    (run : unfinished.takeAll patchPaths room (token :: rest) = some last) :
    ∃ taken, unfinished.push patchPaths token = some taken ∧ taken.depth ≤ room ∧
      taken.takeAll patchPaths room rest = some last := by
  rw [takeAll] at run
  cases pushed : unfinished.push patchPaths token with
  | none =>
    rw [pushed] at run
    cases run
  | some taken =>
    rw [pushed] at run
    dsimp only at run
    split at run
    next fits => exact ⟨taken, rfl, fits, run⟩
    next => cases run

/-- One run behind another is one long run. -/
theorem takeAll_append {patchPaths : Bool} {room : Nat} {unfinished middle : Unfinished}
    {front : List Token} (first : unfinished.takeAll patchPaths room front = some middle)
    (back : List Token) :
    unfinished.takeAll patchPaths room (front ++ back) =
      middle.takeAll patchPaths room back := by
  induction front generalizing unfinished with
  | nil =>
    cases first
    rfl
  | cons token rest ih =>
    obtain ⟨taken, pushed, fits, behind⟩ := push_of_takeAll_cons first
    rw [List.cons_append, takeAll_cons_of_push pushed fits]
    exact ih behind

/-- A long run begins with a run over its first part. -/
theorem takeAll_of_append {patchPaths : Bool} {room : Nat} {unfinished last : Unfinished}
    {front back : List Token}
    (run : unfinished.takeAll patchPaths room (front ++ back) = some last) :
    ∃ middle, unfinished.takeAll patchPaths room front = some middle := by
  induction front generalizing unfinished with
  | nil => exact ⟨unfinished, rfl⟩
  | cons token rest ih =>
    obtain ⟨taken, pushed, fits, behind⟩ := push_of_takeAll_cons run
    obtain ⟨middle, found⟩ := ih behind
    exact ⟨middle, by rw [takeAll_cons_of_push pushed fits, found]⟩

/-- Where all tokens can be taken and the text goes on with none, reading fails just there. -/
theorem read_of_failed {patchPaths : Bool} {depth : Nat} {error : ScanError}
    {unfinished last : Unfinished} {tokens : List PlacedToken}
    (run : unfinished.takeAll patchPaths (nestingLimit - depth) (tokens.map PlacedToken.token) =
      some last) :
    (unfinished.read patchPaths depth (.failed error) tokens).1 = .error (.scan error) := by
  induction tokens generalizing unfinished with
  | nil => rfl
  | cons placed rest ih =>
    obtain ⟨taken, pushed, fits, behind⟩ := push_of_takeAll_cons run
    have allowed : ¬(unfinished.depth < taken.depth ∧ nestingLimit < depth + taken.depth) := by
      omega
    cases rest with
    | nil => simp [read, pushed]
    | cons next more =>
      have step := ih behind
      simpa [read, pushed, allowed] using step

/-- A reading comes to a filter exactly when the stream ends with the text, and its tokens are a run
that goes no deeper than the limit leaves room for, up to that filter. -/
theorem read_eq_ok_iff {patchPaths : Bool} {depth : Nat} {ending : Ending}
    {unfinished : Unfinished} {tokens : List PlacedToken} {filter : Filter}
    (fits : unfinished.depth ≤ nestingLimit - depth) :
    (unfinished.read patchPaths depth ending tokens).1 = .ok filter ↔
      (∃ place, ending = .atEnd place) ∧
        ∃ last, unfinished.takeAll patchPaths (nestingLimit - depth)
          (tokens.map PlacedToken.token) = some last ∧ last.finished? = some filter := by
  induction tokens generalizing unfinished with
  | nil =>
    cases ending with
    | failed error => simp [read]
    | atEnd place =>
      cases finished : unfinished.finished? with
      | none => simp [read, finished]
      | some whole => simp [read, finished]
  | cons placed rest ih =>
    obtain ⟨token, place⟩ := placed
    rw [read, List.map_cons]
    cases pushed : unfinished.push patchPaths token with
    | none => simp [takeAll, pushed]
    | some taken =>
      by_cases deeper : taken.depth ≤ nestingLimit - depth
      · rw [takeAll_cons_of_push pushed deeper, ← ih deeper]
        have allowed : ¬(unfinished.depth < taken.depth ∧ nestingLimit < depth + taken.depth) := by
          omega
        cases rest with
        | nil => cases ending <;> simp [allowed, read]
        | cons next more => simp [allowed]
      -- Too deep a level is refused by the reading and has no room in the run.
      · have refused : unfinished.depth < taken.depth ∧ nestingLimit < depth + taken.depth := by
          omega
        have stuck : unfinished.takeAll patchPaths (nestingLimit - depth)
            (token :: rest.map PlacedToken.token) = none := by
          rw [takeAll, pushed]
          exact if_neg deeper
        rw [stuck]
        cases rest with
        | nil => cases ending <;> simp [refused]
        | cons next more => simp [refused]

end ResourceFilter.Unfinished
