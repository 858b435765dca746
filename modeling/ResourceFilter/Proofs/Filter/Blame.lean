import ResourceFilter.Proofs.Filter.Reuse
import ResourceFilter.Proofs.Grammar.Viable
import ResourceFilter.Proofs.Result

/-! # What errors blame

Reading a text takes its tokens one by one and stops at the first one that does not fit. So an error
is about the first place at which something is wrong: everything in front of it could still become a
filter. The limit of nesting is passed at the first opener of a level too many, but only if the
token behind the opener can be scanned; otherwise that is what is reported.
-/

set_option autoImplicit false

namespace ResourceFilter

open Grammar Unfinished

/-- Whether an opener, behind the tokens before it, is the first one to open more levels than may
be open at a time. -/
structure OpensTooDeep (patchPaths : Bool) (before : List Token) (opener : Token) : Prop where
  opens : opener = .openGroup ∨ opener = .openPath
  viable : Viable patchPaths (before ++ [opener])
  beyond : openLevels (before ++ [opener]) = nestingLimit + 1
  first : ∀ front, front <+: before → openLevels front ≤ nestingLimit

/-- Whether an error of a reading is about the first place of a stream where something is wrong. -/
def ReadError.Blames (patchPaths : Bool) (stream : TokenStream) : ReadError → Prop
  | scan error =>
    stream.ending = .failed error ∧ Viable patchPaths (stream.tokens.map PlacedToken.token)
  | unexpectedToken _ found place =>
    ∃ before after, stream.tokens = before ++ ⟨found, place⟩ :: after ∧
      Viable patchPaths (before.map PlacedToken.token) ∧
      ¬Viable patchPaths (before.map PlacedToken.token ++ [found])
  | unexpectedEnd _ place =>
    stream.ending = .atEnd place ∧ Viable patchPaths (stream.tokens.map PlacedToken.token) ∧
      ∀ filter, ¬Phrase patchPaths .chain (stream.tokens.map PlacedToken.token) filter
  | nestingTooDeep place =>
    ∃ before opener after, stream.tokens = before ++ ⟨opener, place⟩ :: after ∧
      OpensTooDeep patchPaths (before.map PlacedToken.token) opener ∧
      ∀ error, TokenStream.head ⟨after, stream.ending⟩ ≠ .failed error

variable {patchPaths : Bool} {room : Nat} {ending : Ending}

/-- Where an error comes from: the run in front of it, and why the run does not go on. -/
def ReadError.Arises (patchPaths : Bool) (room : Nat) (ending : Ending) (unfinished : Unfinished)
    (tokens : List PlacedToken) : ReadError → Prop
  | scan error =>
    ending = .failed error ∧
      ∃ wide last, unfinished.takeAll patchPaths wide (tokens.map PlacedToken.token) = some last
  | unexpectedToken _ found place =>
    ∃ before after last, tokens = before ++ ⟨found, place⟩ :: after ∧
      unfinished.takeAll patchPaths room (before.map PlacedToken.token) = some last ∧
      last.push patchPaths found = none
  | unexpectedEnd _ place =>
    ending = .atEnd place ∧
      ∃ last, unfinished.takeAll patchPaths room (tokens.map PlacedToken.token) = some last ∧
        last.finished? = none
  | nestingTooDeep place =>
    ∃ before opener after last taken, tokens = before ++ ⟨opener, place⟩ :: after ∧
      unfinished.takeAll patchPaths room (before.map PlacedToken.token) = some last ∧
      last.push patchPaths opener = some taken ∧ last.depth < taken.depth ∧ room < taken.depth ∧
      ∀ error, TokenStream.head ⟨after, ending⟩ ≠ .failed error

/-- An error behind a token that is taken arises in the same way in front of that token. -/
theorem ReadError.Arises.cons {unfinished taken : Unfinished} {token : Token} {place : Position}
    {rest : List PlacedToken} {error : ReadError}
    (arises : error.Arises patchPaths room ending taken rest)
    (pushed : unfinished.push patchPaths token = some taken) (fits : taken.depth ≤ room) :
    error.Arises patchPaths room ending unfinished (⟨token, place⟩ :: rest) := by
  cases error with
  | scan error =>
    obtain ⟨failed, wide, last, run⟩ := arises
    refine ⟨failed, max wide room, last, ?_⟩
    rw [List.map_cons, takeAll_cons_of_push pushed (by omega)]
    exact takeAll_mono run (Nat.le_max_left wide room)
  | unexpectedToken expected found at_place =>
    obtain ⟨before, after, last, split, run, refused⟩ := arises
    refine ⟨⟨token, place⟩ :: before, after, last, by rw [split, List.cons_append], ?_, refused⟩
    rw [List.map_cons, takeAll_cons_of_push pushed fits]
    exact run
  | unexpectedEnd expected at_place =>
    obtain ⟨atEnd, last, run, unfinished⟩ := arises
    refine ⟨atEnd, last, ?_, unfinished⟩
    rw [List.map_cons, takeAll_cons_of_push pushed fits]
    exact run
  | nestingTooDeep at_place =>
    obtain ⟨before, opener, after, last, beyond, split, run, behind⟩ := arises
    refine ⟨⟨token, place⟩ :: before, opener, after, last, beyond,
      by rw [split, List.cons_append], ?_, behind⟩
    rw [List.map_cons, takeAll_cons_of_push pushed fits]
    exact run

/-- Where tokens are left, or the text has ended, what comes next is no scan error. -/
theorem TokenStream.head_ne_failed {tokens : List PlacedToken}
    (scanned : ∀ error, tokens = [] → ending = .failed error → False) (error : ScanError) :
    TokenStream.head ⟨tokens, ending⟩ ≠ .failed error := by
  intro isFailed
  unfold TokenStream.head at isFailed
  split at isFailed <;> simp_all

/-- Every error of a reading arises at the end of a run. -/
theorem Unfinished.arises_of_read {depth : Nat} {unfinished : Unfinished}
    {tokens : List PlacedToken} {error : ReadError}
    (fits : unfinished.depth ≤ nestingLimit - depth)
    (failed : (unfinished.read patchPaths depth ending tokens).1 = .error error) :
    error.Arises patchPaths (nestingLimit - depth) ending unfinished tokens := by
  fun_induction unfinished.read patchPaths depth ending tokens with
  | case1 unfinished scanError isFailed =>
    cases failed
    exact ⟨isFailed, 0, unfinished, rfl⟩
  | case2 => cases failed
  | case3 unfinished place isEnd open_ended =>
    cases failed
    exact ⟨isEnd, unfinished, rfl, open_ended⟩
  | case4 unfinished token place rest refused =>
    cases failed
    exact ⟨[], rest, unfinished, rfl, rfl, refused⟩
  | case5 unfinished token place taken pushed scanError isFailed =>
    cases failed
    exact ⟨isFailed, taken.depth, taken, takeAll_cons_of_push pushed (Nat.le_refl _) []⟩
  | case6 unfinished token place rest taken pushed tooDeep scanned =>
    cases failed
    refine ⟨[], token, rest, unfinished, taken, rfl, rfl, pushed, tooDeep.1, by omega, ?_⟩
    exact TokenStream.head_ne_failed scanned
  | case7 unfinished token place rest taken pushed allowed scanned ih =>
    have within : taken.depth ≤ nestingLimit - depth := by omega
    exact (ih within failed).cons pushed within

/-- An opener of a level too many, with nothing to scan behind it, is read like any last token. -/
theorem Unfinished.read_of_failed_behind {depth : Nat} {error : ScanError}
    {unfinished last taken : Unfinished} {before : List PlacedToken} {final : PlacedToken}
    (run : unfinished.takeAll patchPaths (nestingLimit - depth)
      (before.map PlacedToken.token) = some last)
    (pushed : last.push patchPaths final.token = some taken) :
    (unfinished.read patchPaths depth (.failed error) (before ++ [final])).1 =
      .error (.scan error) := by
  induction before generalizing unfinished with
  | nil =>
    cases run
    simp [read, pushed]
  | cons placed rest ih =>
    obtain ⟨middle, first, fits, behind⟩ := push_of_takeAll_cons run
    have allowed : ¬(unfinished.depth < middle.depth ∧ nestingLimit < depth + middle.depth) := by
      omega
    have step := ih behind
    cases rest with
    | nil => simpa [read, first, allowed] using step
    | cons next more => simpa [read, first, allowed] using step

/-- An opener that is taken beyond the limit is the first one of its kind. -/
theorem OpensTooDeep.of_push {before : List Token} {opener : Token} {last taken : Unfinished}
    (run : Unfinished.start.takeAll patchPaths nestingLimit before = some last)
    (pushed : last.push patchPaths opener = some taken) (deeper : last.depth < taken.depth)
    (beyond : nestingLimit < taken.depth) : OpensTooDeep patchPaths before opener := by
  have empty : Unfinished.start.depth ≤ nestingLimit := Nat.zero_le _
  have within : last.depth ≤ nestingLimit := depth_le_of_takeAll run empty
  have levels : (last.depth : Int) = Unfinished.start.depth + openLevels before := depth_takeAll run
  have step : (taken.depth : Int) = last.depth + opener.opens := depth_push pushed
  have none_yet : Unfinished.start.depth = 0 := rfl
  have positive : 0 < opener.opens := by omega
  have isOpener := Token.opens_pos_iff.1 positive
  have opens : opener.opens = 1 := by
    rcases isOpener with rfl | rfl <;> rfl
  refine ⟨isOpener, viable_of_push run pushed, ?_, ?_⟩
  · rw [openLevels_append, openLevels_cons, openLevels_nil]
    omega
  · intro front isFront
    have low := openLevels_le_of_takeAll run empty isFront
    omega

/-- What is in front of an opener beyond the limit is a run within the limit, and the opener would
be taken behind it. -/
theorem OpensTooDeep.push {before : List Token} {opener : Token}
    (tooDeep : OpensTooDeep patchPaths before opener) :
    ∃ last taken, Unfinished.start.takeAll patchPaths nestingLimit before = some last ∧
      last.push patchPaths opener = some taken := by
  obtain ⟨wide, final, whole⟩ := viable_iff.1 tooDeep.viable
  obtain ⟨last, front⟩ := takeAll_of_append whole
  rw [takeAll_append front] at whole
  obtain ⟨taken, pushed, -, -⟩ := push_of_takeAll_cons whole
  refine ⟨last, taken, takeAll_of_openLevels front ?_, pushed⟩
  intro start isFront
  have low := tooDeep.first start isFront
  have none_yet : Unfinished.start.depth = 0 := rfl
  omega

/-- The run in front of an error, read from the start, shows what the error blames. -/
theorem ReadError.Arises.blames {tokens : List PlacedToken} {error : ReadError}
    (arises : error.Arises patchPaths nestingLimit ending Unfinished.start tokens) :
    error.Blames patchPaths ⟨tokens, ending⟩ := by
  cases error with
  | scan error =>
    obtain ⟨failed, wide, last, run⟩ := arises
    exact ⟨failed, viable_iff.2 ⟨wide, last, run⟩⟩
  | unexpectedToken expected found place =>
    obtain ⟨before, after, last, split, run, refused⟩ := arises
    have viable := viable_iff.2 ⟨nestingLimit, last, run⟩
    exact ⟨before, after, split, viable, not_viable_of_push run refused⟩
  | unexpectedEnd expected place =>
    obtain ⟨atEnd, last, run, open_ended⟩ := arises
    have viable := viable_iff.2 ⟨nestingLimit, last, run⟩
    exact ⟨atEnd, viable, not_phrase_of_unfinished run open_ended⟩
  | nestingTooDeep place =>
    obtain ⟨before, opener, after, last, taken, split, run, pushed, deeper, beyond, scanned⟩ :=
      arises
    exact ⟨before, opener, after, split, .of_push run pushed deeper beyond, scanned⟩

/-- An error is about the first place of a text where something is wrong. In front of an unexpected
token, or of an unexpected end, the tokens could still become a filter; with it they cannot. The
tokens in front of an unreadable place could all become a filter, and what is reported is how they
end. Nesting is too deep at the first opener of a level too many, provided that the token behind it
can be read; if it cannot, then that is reported. -/
theorem ofText_blames (settings : List Bool) (text : String) :
    (∀ error, Filter.ofText (.ofSwitches settings) text = .error error →
      error.Blames (settings.getLast?.getD false)
        (TokenStream.ofText (.ofSwitches settings) text)) ∧
    (∀ before opener error,
      TokenStream.ofText (.ofSwitches settings) text = ⟨before ++ [opener], .failed error⟩ →
      OpensTooDeep (settings.getLast?.getD false) (before.map PlacedToken.token) opener.token →
        Filter.ofText (.ofSwitches settings) text = .error (.scan error)) := by
  have switch : decide (Mode.ofSwitches settings = .patch) = settings.getLast?.getD false := by
    unfold Mode.ofSwitches Mode.ofSwitch
    cases settings.getLast?.getD false <;> rfl
  rw [Filter.ofText_eq_read, switch]
  constructor
  · intro error failed
    have arises := arises_of_read (Nat.zero_le _) failed
    exact arises.blames
  · intro before opener error stream tooDeep
    obtain ⟨last, taken, run, pushed⟩ := tooDeep.push
    rw [stream]
    exact read_of_failed_behind run pushed

/-- A bracket where the parenthesis should be closed is blamed for itself; behind 65 parentheses it
is an unreadable character that is reported. -/
theorem ofText_blames_bracket :
    let deep := String.ofList (List.replicate 65 '(') ++ "#"
    (∃ error, Filter.ofText (.ofSwitches []) "(a pr]" = .error error ∧ error.place = ⟨1, 6⟩ ∧
      error.Blames false (TokenStream.ofText (.ofSwitches []) "(a pr]")) ∧
    OpensTooDeep false (List.replicate 64 .openGroup) .openGroup ∧
    Filter.ofText (.ofSwitches []) deep =
      .error (.scan (.unexpectedCharacter '#' ⟨1, 66⟩)) := by
  intro deep
  have failed : Filter.ofText (.ofSwitches []) "(a pr]" =
      .error (.unexpectedToken (.closing .closeGroup) .closePath ⟨1, 6⟩) := by
    decide +kernel
  have run : Unfinished.start.takeAll false nestingLimit (List.replicate 64 .openGroup) =
      some ⟨List.replicate 64 ⟨none, .group⟩, none, .term⟩ := by decide +kernel
  have tooDeep : OpensTooDeep false (List.replicate 64 .openGroup) .openGroup :=
    .of_push run rfl (by decide) (by decide)
  have stream : TokenStream.ofText (.ofSwitches []) deep =
      ⟨(List.range 64).map (fun before => ⟨.openGroup, ⟨1, before + 1⟩⟩) ++
        [⟨.openGroup, ⟨1, 65⟩⟩], .failed (.unexpectedCharacter '#' ⟨1, 66⟩)⟩ := by
    decide +kernel
  have same : ((List.range 64).map fun before => PlacedToken.mk .openGroup ⟨1, before + 1⟩).map
      PlacedToken.token = List.replicate 64 .openGroup := by decide +kernel
  refine ⟨⟨_, failed, rfl, (ofText_blames [] "(a pr]").1 _ failed⟩, tooDeep, ?_⟩
  apply (ofText_blames [] deep).2 _ _ _ stream
  rw [same]
  exact tooDeep

end ResourceFilter
