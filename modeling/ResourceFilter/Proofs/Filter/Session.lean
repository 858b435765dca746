import Mathlib.Data.Nat.PSub
import ResourceFilter.Proofs.Filter.Blame
import ResourceFilter.Proofs.Filter.PatchPaths

/-! # Sessions with a reader

A reader may be used any number of times, with its switch for patch paths turned on and off in
between. Failed readings leave it somewhere in the text, with some levels counted as open. All the
same, every single reading is sound: it comes to a filter exactly when the tokens that are left are
a phrase, with as much nesting as the open levels leave room for.

That the count of open levels never goes below zero is said by a second account of reading, which
carries the count along as it goes up and down, and fails where it would have to go down from zero.
It is proved to be the same as reading.
-/

set_option autoImplicit false

namespace ResourceFilter

open Grammar

namespace Unfinished

variable {patchPaths : Bool}

/-- Whether the chain of an inner level is complete: behind a condition comes neither a connective
nor the dot of a sub-attribute. -/
def leaves (patchPaths : Bool) (unfinished : Unfinished) (next : Option Token) : Bool :=
  match unfinished.enclosing, unfinished.next, next with
  | [], _, _ => false
  | _ :: _, .link _, some (.connective _) => false
  | _ :: _, .link _, _ => true
  | _ :: _, .pathLink _ _, some (.connective _) => false
  | _ :: _, .pathLink _ _, some .dot => !patchPaths
  | _ :: _, .pathLink _ _, _ => true
  | _ :: _, _, _ => false

/-- The count of open levels in front of what comes next. It goes down as soon as the chain of an
inner level is complete, and cannot go down from zero. -/
def settle (patchPaths : Bool) (unfinished : Unfinished) (next : Option Token) (count : Nat) :
    Option Nat :=
  if unfinished.leaves patchPaths next then count.ppred else some count

/-- Reads on to the end of the stream, with the count of open levels as it goes up and down. -/
def readCounting (patchPaths : Bool) (ending : Ending) (count : Nat) (unfinished : Unfinished) :
    List PlacedToken → Option (Except ReadError Filter × Reader)
  | [] =>
    match ending with
    | .failed error => some (.error (.scan error), ⟨⟨[], ending⟩, count, patchPaths⟩)
    | .atEnd place => do
      let count ← unfinished.settle patchPaths none count
      match unfinished.finished? with
      | some filter => some (.ok filter, ⟨⟨[], ending⟩, count, patchPaths⟩)
      | none =>
        some (.error (.unexpectedEnd unfinished.expected place), ⟨⟨[], ending⟩, count, patchPaths⟩)
  | ⟨token, place⟩ :: rest => do
    let count ← unfinished.settle patchPaths (some token) count
    match unfinished.push patchPaths token with
    | none =>
      some (.error (.unexpectedToken unfinished.expected token place),
        ⟨⟨⟨token, place⟩ :: rest, ending⟩, count, patchPaths⟩)
    | some taken =>
      match rest, ending with
      | [], .failed error =>
        some (.error (.scan error), ⟨⟨[⟨token.emptied, place⟩], ending⟩, count, patchPaths⟩)
      | _, _ =>
        if 0 < token.opens then
          if nestingLimit < count + 1 then
            some (.error (.nestingTooDeep place), ⟨⟨rest, ending⟩, count + 1, patchPaths⟩)
          else readCounting patchPaths ending (count + 1) taken rest
        else readCounting patchPaths ending count taken rest

/-- Where an inner level is left, the count goes down by one. -/
theorem settle_of_leaves {unfinished : Unfinished} {next : Option Token}
    (leaving : unfinished.leaves patchPaths next = true) (count : Nat) :
    unfinished.settle patchPaths next (count + unfinished.depth) =
      some (count + (unfinished.depth - 1)) := by
  obtain ⟨enclosing, pending, continuation⟩ := unfinished
  cases enclosing with
  | nil => simp [leaves] at leaving
  | cons level outer =>
    rw [settle, if_pos leaving]
    rfl

/-- Where no level is left, the count stays. -/
theorem settle_of_not_leaves {unfinished : Unfinished} {next : Option Token}
    (staying : unfinished.leaves patchPaths next = false) (count : Nat) :
    unfinished.settle patchPaths next count = some count := by
  simp [settle, staying]

/-- Behind a condition only connectives are taken, and on inner levels closing marks. -/
theorem connective_or_closingMark {unfinished taken : Unfinished} {condition : Filter}
    {token : Token} (pushed : unfinished.afterCondition condition token = some taken) :
    (∃ op, token = .connective op) ∨
      (∃ level outer, unfinished.enclosing = level :: outer) ∧
        (token = .closeGroup ∨ token = .closePath) := by
  unfold afterCondition at pushed
  split at pushed
  next op => exact .inl ⟨op, rfl⟩
  next =>
    split at pushed
    next => cases pushed
    next level outer isInner =>
      split at pushed
      next closing =>
        refine .inr ⟨⟨level, outer, isInner⟩, ?_⟩
        rw [closing]
        cases level.opener <;> simp [Opener.closingMark]
      next => cases pushed

/-- The count goes down just where a closing mark is taken. -/
theorem leaves_of_push {unfinished taken : Unfinished} {token : Token}
    (pushed : unfinished.push patchPaths token = some taken) :
    unfinished.leaves patchPaths (some token) = true ↔ token.opens < 0 := by
  obtain ⟨enclosing, pending, next⟩ := unfinished
  cases next with
  | link condition =>
    rcases connective_or_closingMark pushed with ⟨op, rfl⟩ | ⟨⟨level, outer, rfl⟩, closing⟩
    · cases enclosing <;> simp [leaves, Token.opens]
    · rcases closing with rfl | rfl <;> simp [leaves, Token.opens]
  | pathLink parent body =>
    dsimp only [push] at pushed
    split at pushed
    next dot => cases enclosing <;> simp [leaves, dot, Token.opens]
    next =>
      rcases connective_or_closingMark pushed with ⟨op, rfl⟩ | ⟨⟨level, outer, rfl⟩, closing⟩
      · cases enclosing <;> simp [leaves, Token.opens]
      · rcases closing with rfl | rfl <;> simp [leaves, Token.opens]
  | _ =>
    have stays : ¬token.opens < 0 := by
      cases token <;> cases pushed <;> simp [Token.opens]
    cases enclosing <;> simp [leaves, stays]

/-- In front of a token that is taken, the count goes down to what is open on both sides. -/
theorem settle_of_push {unfinished taken : Unfinished} {token : Token}
    (pushed : unfinished.push patchPaths token = some taken) (count : Nat) :
    unfinished.settle patchPaths (some token) (count + unfinished.depth) =
      some (count + min unfinished.depth taken.depth) := by
  have levels := depth_push pushed
  have leaving := leaves_of_push pushed
  have one := token.neg_one_le_opens
  cases left : unfinished.leaves patchPaths (some token) with
  | true =>
    have closes := leaving.1 left
    rw [settle_of_leaves left]
    congr 2
    omega
  | false =>
    have stays : ¬token.opens < 0 := fun closes => by simp [leaving.2 closes] at left
    rw [settle_of_not_leaves left]
    congr 2
    omega

/-- An inner level with a complete chain is left in front of whatever it refuses. -/
theorem leaves_of_refused {unfinished : Unfinished} {next : Option Token}
    (inner : unfinished.enclosing ≠ []) (complete : unfinished.next.condition?.isSome)
    (refused : ∀ token, next = some token → unfinished.push patchPaths token = none) :
    unfinished.leaves patchPaths next = true := by
  obtain ⟨enclosing, pending, continuation⟩ := unfinished
  cases enclosing with
  | nil => cases inner rfl
  | cons level outer =>
    cases next with
    | none =>
      cases continuation with
      | link condition => rfl
      | pathLink parent body => rfl
      | _ => cases complete
    | some token =>
      have never := refused token rfl
      cases continuation with
      | link condition =>
        cases token with
        | connective op => cases never
        | _ => rfl
      | pathLink parent body =>
        cases token with
        | connective op => simp [push, afterCondition] at never
        | dot =>
          cases patchPaths with
          | true => simp [push] at never
          | false => rfl
        | _ => rfl
      | _ => cases complete

/-- When the next token is refused, or the text ends, the level counts as left if its condition is
complete. -/
theorem settle_of_refused {unfinished : Unfinished} {next : Option Token}
    (refused : ∀ token, next = some token → unfinished.push patchPaths token = none)
    (count : Nat) :
    unfinished.settle patchPaths next (count + unfinished.depth) =
      some (count + unfinished.depthWhenRefused) := by
  unfold depthWhenRefused
  cases complete : unfinished.next.condition? with
  | none =>
    apply settle_of_not_leaves
    obtain ⟨enclosing, pending, continuation⟩ := unfinished
    cases enclosing with
    | nil => rfl
    | cons level outer =>
      cases continuation with
      | link condition => cases complete
      | pathLink parent body => cases complete
      | _ => rfl
  | some condition =>
    by_cases inner : unfinished.enclosing = []
    · have outermost : unfinished.depth = 0 := by simp [depth, inner]
      have staying : unfinished.leaves patchPaths next = false := by simp [leaves, inner]
      rw [settle_of_not_leaves staying, outermost]
    · exact settle_of_leaves (leaves_of_refused inner (by simp [complete]) refused) count

/-- Where a filter is complete, no level is left open. -/
theorem depthWhenRefused_of_finished {unfinished : Unfinished} {filter : Filter}
    (finished : unfinished.finished? = some filter) : unfinished.depthWhenRefused = 0 := by
  obtain ⟨enclosing, pending, next⟩ := unfinished
  cases enclosing with
  | cons level outer => cases finished
  | nil => cases next <;> rfl

/-- The count never goes below zero, and a reading with the count is the reading. -/
theorem readCounting_eq (depth : Nat) (ending : Ending) (unfinished : Unfinished)
    (tokens : List PlacedToken) :
    unfinished.readCounting patchPaths ending (depth + unfinished.depth) tokens =
      some (unfinished.read patchPaths depth ending tokens) := by
  induction tokens generalizing unfinished with
  | nil =>
    cases ending with
    | failed error => rfl
    | atEnd place =>
      have settled : unfinished.settle patchPaths none (depth + unfinished.depth) =
          some (depth + unfinished.depthWhenRefused) := by
        apply settle_of_refused
        intro token absurd
        cases absurd
      cases finished : unfinished.finished? with
      | some filter =>
        simp [readCounting, read, settled, finished, depthWhenRefused_of_finished finished]
      | none => simp [readCounting, read, settled, finished]
  | cons placed rest ih =>
    obtain ⟨token, place⟩ := placed
    cases pushed : unfinished.push patchPaths token with
    | none =>
      have settled : unfinished.settle patchPaths (some token) (depth + unfinished.depth) =
          some (depth + unfinished.depthWhenRefused) := by
        apply settle_of_refused
        rintro _ ⟨⟩
        exact pushed
      simp [readCounting, read, settled, pushed]
    | some taken =>
      rw [readCounting, read, settle_of_push pushed depth, pushed]
      -- The limit is looked at behind openers, and there the count has gone up by one.
      have levels := depth_push pushed
      have one := token.opens_le_one
      have opening : unfinished.depth < taken.depth ↔ 0 < token.opens := by omega
      have step (stopped : Nat → Except ReadError Filter × Reader) :
          (if 0 < token.opens then
            if nestingLimit < depth + min unfinished.depth taken.depth + 1 then
              some (stopped (depth + min unfinished.depth taken.depth + 1))
            else readCounting patchPaths ending
              (depth + min unfinished.depth taken.depth + 1) taken rest
          else readCounting patchPaths ending (depth + min unfinished.depth taken.depth)
            taken rest) =
          some (if unfinished.depth < taken.depth ∧ nestingLimit < depth + taken.depth then
              stopped (depth + taken.depth)
            else read patchPaths depth ending taken rest) := by
        by_cases opens : 0 < token.opens
        · have count : depth + min unfinished.depth taken.depth + 1 = depth + taken.depth := by
            omega
          simp only [opening, opens, if_true, true_and, count, ih taken]
          split <;> rfl
        · have count : depth + min unfinished.depth taken.depth = depth + taken.depth := by omega
          simp only [opening, opens, if_false, false_and, count, ih taken]
      cases rest with
      | nil =>
        cases ending with
        | failed error => rfl
        | atEnd end_place => exact step fun left => (_, ⟨⟨[], .atEnd end_place⟩, left, patchPaths⟩)
      | cons next more => exact step fun left => (_, ⟨⟨next :: more, ending⟩, left, patchPaths⟩)

/-- A reading that comes to a filter closes all levels that it opens. -/
theorem depth_of_read {depth : Nat} {ending : Ending} {unfinished : Unfinished}
    {tokens : List PlacedToken} {filter : Filter}
    (read : (unfinished.read patchPaths depth ending tokens).1 = .ok filter) :
    (unfinished.read patchPaths depth ending tokens).2.depth = depth := by
  fun_induction unfinished.read patchPaths depth ending tokens with
  | case2 => rfl
  | case7 unfinished token place rest taken pushed allowed more ih => exact ih read
  | _ => cases read

/-- What a reading leaves of a text that ends well is the last part of what there was. -/
theorem suffix_of_read {depth : Nat} {ending : Ending} {unfinished : Unfinished}
    {tokens : List PlacedToken} (scanned : ∀ error, ending ≠ .failed error) :
    (unfinished.read patchPaths depth ending tokens).2.source.tokens <:+ tokens := by
  fun_induction unfinished.read patchPaths depth ending tokens with
  | case1 unfinished error isFailed => cases scanned error isFailed
  | case2 | case3 => exact List.suffix_refl []
  | case4 unfinished token place rest refused => exact List.suffix_refl _
  | case5 unfinished token place taken pushed error isFailed => cases scanned error isFailed
  | case6 unfinished token place rest => exact List.suffix_cons _ _
  | case7 unfinished token place rest taken pushed allowed more ih =>
    exact ih.trans (List.suffix_cons _ _)

end Unfinished

namespace Reader

/-- What can be done with a reader. -/
inductive Call where
  /-- Reads a filter. -/
  | read
  /-- Sets the switch for patch paths. -/
  | setting (patchPaths : Bool)
  deriving DecidableEq, Repr

/-- The reader after a call. -/
def call (reader : Reader) : Call → Reader
  | .read => reader.read.2
  | .setting patchPaths => reader.setting patchPaths

/-- The reader after several calls. -/
def afterCalls (reader : Reader) (calls : List Call) : Reader :=
  calls.foldl call reader

/-- Reads a filter that takes up all of the stream, with the count of open levels. -/
def readCounting (reader : Reader) : Option (Except ReadError Filter × Reader) :=
  Unfinished.start.readCounting reader.patchPaths reader.source.ending reader.depth
    reader.source.tokens

/-- What every single call keeps of a reader, all of them keep. -/
theorem afterCalls_induction (Kept : Reader → Prop)
    (kept : ∀ reader call, Kept reader → Kept (reader.call call)) {reader : Reader}
    (first : Kept reader) (calls : List Call) : Kept (reader.afterCalls calls) := by
  induction calls generalizing reader with
  | nil => exact first
  | cons call later ih =>
    have next := kept reader call first
    exact ih next

/-- No sequence of calls changes how the stream of a reader ends. -/
theorem ending_afterCalls (reader : Reader) (calls : List Call) :
    (reader.afterCalls calls).source.ending = reader.source.ending := by
  refine afterCalls_induction (fun other => other.source.ending = reader.source.ending) ?_ rfl calls
  intro other call same
  cases call with
  | read => exact (Unfinished.ending_read ..).trans same
  | setting patchPaths => exact same

/-- The tokens that are left of a text that ends well are its own last ones. -/
theorem suffix_afterCalls {reader : Reader}
    (scanned : ∀ error, reader.source.ending ≠ .failed error) (calls : List Call) :
    (reader.afterCalls calls).source.tokens <:+ reader.source.tokens := by
  have both := afterCalls_induction
    (fun other => other.source.ending = reader.source.ending ∧
      other.source.tokens <:+ reader.source.tokens) ?_ ⟨rfl, List.suffix_refl _⟩ calls
  · exact both.2
  · rintro other call ⟨same, suffix⟩
    cases call with
    | setting patchPaths => exact ⟨same, suffix⟩
    | read =>
      refine ⟨(Unfinished.ending_read ..).trans same, ?_⟩
      rw [← same] at scanned
      exact (Unfinished.suffix_of_read scanned).trans suffix

/-- A reading fails with a scan error only if the stream ends with it. -/
theorem failed_of_read {reader : Reader} {error : ScanError}
    (failed : reader.read.1 = .error (.scan error)) : reader.source.ending = .failed error :=
  (Unfinished.arises_of_read (Nat.zero_le _) failed).1

end Reader

open Reader

/-- Whatever part of a text a reader is made for, and whatever calls have been made to it, the next
reading is sound. Its count of open levels never goes down from zero, and is the same again once a
filter has been read. It comes to a filter exactly when the tokens that are left, up to the end of
the text, are a phrase of the grammar for the switch as it is set, with no more nesting than the
open levels leave room for. Once a reading has failed at an unreadable place no other one succeeds;
so what is read as a filter are always tokens of the text as they stand in it. -/
theorem session_sound {mode : Mode} {text : String} {skipped : Nat} {reader : Reader}
    (made : ofStream ((TokenStream.ofText mode text).drop skipped) = .ok reader)
    (calls : List Call) :
    let now := reader.afterCalls calls
    now.readCounting = some now.read ∧
    (∀ filter, now.read.1 = .ok filter → now.read.2.depth = now.depth) ∧
    (∀ filter, now.read.1 = .ok filter ↔
      ∃ tokens place, now.source.complete = .ok (tokens, place) ∧
        Phrase now.patchPaths .chain (tokens.map PlacedToken.token) filter ∧
        filter.nesting ≤ nestingLimit - now.depth) ∧
    (∀ error, now.read.1 = .error (.scan error) →
      ∀ later filter, (now.read.2.afterCalls later).read.1 ≠ .ok filter) ∧
    ∀ filter, now.read.1 = .ok filter →
      now.source.tokens <:+ (TokenStream.ofText mode text).tokens := by
  intro now
  refine ⟨?_, ?_, ?_, ?_, ?_⟩
  · exact Unfinished.readCounting_eq now.depth now.source.ending .start now.source.tokens
  · intro filter read
    exact Unfinished.depth_of_read read
  · intro filter
    simp only [complete_eq_ok_iff]
    exact read_eq_ok_iff
  · intro error failed later filter
    have unreadable := failed_of_read failed
    have still : (now.read.2.afterCalls later).source.ending = .failed error := by
      rw [ending_afterCalls]
      exact (Unfinished.ending_read ..).trans unreadable
    exact read_ne_ok_of_failed still filter
  · intro filter read
    obtain rfl := ofStream_eq_ok made
    -- The stream ends well, or nothing would have been read, so no token was emptied.
    obtain ⟨place, atEnd⟩ := (phrase_of_read read).2
    have ending := (ending_afterCalls _ calls).symm.trans atEnd
    have scanned (error : ScanError) :
        ((TokenStream.ofText mode text).drop skipped).ending ≠ .failed error := by
      intro failed
      cases ending.symm.trans failed
    have suffix : now.source.tokens <:+ ((TokenStream.ofText mode text).drop skipped).tokens := by
      apply suffix_afterCalls
      exact scanned
    exact suffix.trans (suffix_drop skipped _)

/-- Behind the first word a reader fails within a group, and goes on there with a level less to
open; behind an unreadable character it is of no use any more. -/
theorem session_sound_group :
    (∃ reader, ofStream ((TokenStream.ofText .filter "x (a b pr").drop 1) = .ok reader ∧
      let now := reader.afterCalls [.setting true, .read, .setting false]
      now.depth = 1 ∧ now.readCounting = some now.read ∧
        now.read.1 = .ok (.presence (.attr "b")) ∧ now.read.2.depth = 1) ∧
    ∃ reader, ofStream (TokenStream.ofText .filter "b#") = .ok reader ∧
      ∀ later filter, (reader.afterCalls (.read :: later)).read.1 ≠ .ok filter := by
  constructor
  · have made := eq_ok_of_toOption (by decide +kernel :
      (ofStream ((TokenStream.ofText .filter "x (a b pr").drop 1)).toOption =
        some ⟨(TokenStream.ofText .filter "x (a b pr").drop 1, 0, false⟩)
    have read : ((afterCalls ⟨(TokenStream.ofText .filter "x (a b pr").drop 1, 0, false⟩
        [.setting true, .read, .setting false]).read).1 = .ok (.presence (.attr "b")) := by
      decide +kernel
    have depth : (afterCalls ⟨(TokenStream.ofText .filter "x (a b pr").drop 1, 0, false⟩
        [.setting true, .read, .setting false]).depth = 1 := by decide +kernel
    obtain ⟨counting, closed, -⟩ :=
      session_sound made [.setting true, .read, .setting false]
    exact ⟨_, made, depth, counting, read, (closed _ read).trans depth⟩
  · have made := eq_ok_of_toOption (by decide +kernel :
      (ofStream ((TokenStream.ofText .filter "b#").drop 0)).toOption =
        some ⟨TokenStream.ofText .filter "b#", 0, false⟩)
    have failed : (afterCalls ⟨TokenStream.ofText .filter "b#", 0, false⟩ []).read.1 =
        .error (.scan (.unexpectedCharacter '#' ⟨1, 2⟩)) := by decide +kernel
    obtain ⟨-, -, -, useless, -⟩ := session_sound made []
    exact ⟨_, made, useless _ failed⟩

end ResourceFilter
