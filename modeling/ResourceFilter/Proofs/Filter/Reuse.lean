import ResourceFilter.Proofs.Grammar.Run

/-! # Readers that are used again

A reader made by hand may be used several times, with another setting of its switch for patch paths
each time, and goes on from where it stopped. What is left of its tokens after a reading are some of
those that it had. The dot shows what the switch does: without it no reading ever takes a dot, and
among tokens without a dot both settings read the same.
-/

set_option autoImplicit false

namespace ResourceFilter

namespace Reader

/-- The reader with its switch for patch paths set. -/
def setting (reader : Reader) (patchPaths : Bool) : Reader :=
  { reader with patchPaths := patchPaths }

/-- The reader after it has been used once for each setting of the switch. -/
def after (reader : Reader) : List Bool → Reader
  | [] => reader
  | patchPaths :: later => (reader.setting patchPaths).read.2.after later

/-- What a reader made from a stream comes to when it is used with a setting of the switch, after it
has been used once for each of the earlier settings. -/
def readAfter (earlier : List Bool) (patchPaths : Bool) (stream : TokenStream) :
    Except ReadError Filter := do
  let reader ← ofStream stream
  ((reader.after earlier).setting patchPaths).read.1

/-- A text is read by a reader that is used for the first time. -/
theorem ofText_eq_readAfter (mode : Mode) (text : String) :
    Filter.ofText mode text =
      readAfter [] (decide (mode = .patch)) (TokenStream.ofText mode text) :=
  rfl

/-- What every use keeps of a reader, all of them keep. -/
theorem after_induction (Kept : Reader → Prop) {settings : List Bool}
    (kept : ∀ reader, ∀ patchPaths ∈ settings,
      Kept reader → Kept (reader.setting patchPaths).read.2)
    {reader : Reader} (first : Kept reader) : Kept (reader.after settings) := by
  induction settings generalizing reader with
  | nil => exact first
  | cons patchPaths later ih =>
    have next := kept reader patchPaths List.mem_cons_self first
    apply ih
    · intro other setting mem
      exact kept other setting (List.mem_cons_of_mem _ mem)
    · exact next

/-- Whether a dot is among the tokens that are still to be read. -/
def HasDot (reader : Reader) : Prop :=
  .dot ∈ reader.source.tokens.map PlacedToken.token

end Reader

namespace Unfinished

/-- Without patch paths no dot is ever taken. -/
theorem push_dot (unfinished : Unfinished) : unfinished.push false .dot = none := by
  have closing (opener : Opener) : Token.dot ≠ opener.closingMark := by
    cases opener <;> exact Token.noConfusion
  have behind (unfinished : Unfinished) (condition : Filter) :
      unfinished.afterCondition condition .dot = none := by
    unfold afterCondition
    cases unfinished.enclosing with
    | nil => rfl
    | cons level outer => exact if_neg (closing level.opener)
  obtain ⟨enclosing, pending, next⟩ := unfinished
  cases next with
  | link condition => exact behind _ condition
  | pathLink parent body => exact behind _ (.valuePath (.attr parent) body)
  | _ => rfl

/-- The switch for patch paths matters to the dot alone. -/
theorem push_setting {token : Token} (notDot : token ≠ .dot) (unfinished : Unfinished)
    (patchPaths other : Bool) :
    unfinished.push patchPaths token = unfinished.push other token := by
  cases read : unfinished.next with
  | pathLink => simp [push, read, notDot]
  | _ => cases token <;> simp [push, read]

/-- A run without a dot does not depend on the switch. -/
theorem takeAll_setting {room : Nat} {tokens : List Token} (dotless : .dot ∉ tokens)
    (unfinished : Unfinished) (patchPaths other : Bool) :
    unfinished.takeAll patchPaths room tokens = unfinished.takeAll other room tokens := by
  induction tokens generalizing unfinished with
  | nil => rfl
  | cons token rest ih =>
    obtain ⟨notDot, later⟩ := not_or.1 (mt List.mem_cons.2 dotless)
    rw [takeAll, takeAll, push_setting (Ne.symm notDot) unfinished patchPaths other]
    cases unfinished.push other token with
    | none => rfl
    | some taken => simp only [ih later taken]

/-- Reading never changes how the stream ends. -/
theorem ending_read (patchPaths : Bool) (depth : Nat) (ending : Ending) (unfinished : Unfinished)
    (tokens : List PlacedToken) :
    (unfinished.read patchPaths depth ending tokens).2.source.ending = ending := by
  fun_induction unfinished.read patchPaths depth ending tokens with
  | case7 unfinished token place rest taken pushed allowed more ih => exact ih
  | _ => simp_all

/-- No reading leaves a dot that has not been there. -/
theorem hasDot_of_read {patchPaths : Bool} {depth : Nat} {ending : Ending}
    {unfinished : Unfinished} {tokens : List PlacedToken}
    (left : (unfinished.read patchPaths depth ending tokens).2.HasDot) :
    .dot ∈ tokens.map PlacedToken.token := by
  fun_induction unfinished.read patchPaths depth ending tokens with
  | case5 unfinished token place taken pushed error isFailed =>
    -- Taking the text out of the last token does not make a dot of it.
    cases token with
    | dot => exact List.mem_cons_self
    | _ => simp [Reader.HasDot, Token.emptied] at left
  | case7 unfinished token place rest taken pushed allowed more ih =>
    exact List.mem_cons_of_mem _ (ih left)
  | _ => simp_all [Reader.HasDot]

/-- Without patch paths a reading never gets past a dot. -/
theorem hasDot_read {depth : Nat} {ending : Ending} {unfinished : Unfinished}
    {tokens : List PlacedToken} (hasDot : .dot ∈ tokens.map PlacedToken.token) :
    (unfinished.read false depth ending tokens).2.HasDot := by
  have later {unfinished taken : Unfinished} {token : Token} {place : Position}
      {rest : List PlacedToken} (pushed : unfinished.push false token = some taken)
      (hasDot : .dot ∈ (⟨token, place⟩ :: rest).map PlacedToken.token) :
      .dot ∈ rest.map PlacedToken.token := by
    have notDot : Token.dot ≠ token := by
      rintro rfl
      rw [push_dot] at pushed
      cases pushed
    simpa [notDot] using hasDot
  fun_induction unfinished.read false depth ending tokens with
  | case1 | case2 | case3 => cases hasDot
  | case4 => exact hasDot
  | case5 unfinished token place taken pushed => cases later pushed hasDot
  | case6 unfinished token place rest taken pushed => exact later pushed hasDot
  | case7 unfinished token place rest taken pushed allowed more ih => exact ih (later pushed hasDot)

/-- Among tokens without a dot, readings with and without patch paths are the same. -/
theorem read_setting {depth : Nat} {ending : Ending} {tokens : List PlacedToken}
    (dotless : .dot ∉ tokens.map PlacedToken.token) (unfinished : Unfinished)
    (patchPaths other : Bool) :
    unfinished.read patchPaths depth ending tokens =
      ((unfinished.read other depth ending tokens).1,
        (unfinished.read other depth ending tokens).2.setting patchPaths) := by
  induction tokens generalizing unfinished with
  | nil =>
    unfold read
    cases ending with
    | failed error => rfl
    | atEnd place => cases unfinished.finished? <;> rfl
  | cons placed rest ih =>
    obtain ⟨token, place⟩ := placed
    obtain ⟨notDot, later⟩ := not_or.1 (mt List.mem_cons.2 dotless)
    rw [read, read, push_setting (Ne.symm notDot) unfinished patchPaths other]
    cases unfinished.push other token with
    | none => rfl
    | some taken =>
      -- The last token is a case of its own: a stream that fails is noticed behind it.
      have step := ih later taken
      cases rest with
      | nil =>
        cases ending with
        | failed error => rfl
        | atEnd place =>
          dsimp only
          split
          · rfl
          · exact step
      | cons next more =>
        dsimp only
        split
        · rfl
        · exact step

end Unfinished

end ResourceFilter
