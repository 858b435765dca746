import ResourceFilter.Proofs.Grammar.Recognition

/-! # Viable prefixes

A sequence of tokens is viable if some continuation makes a phrase of it. Every unfinished filter
can be finished: with a shortest rest of the condition that it stands in, and the marks of the
levels that are open. Hence reading without regard to the limit of nesting takes exactly the viable
sequences, token by token, which is what `viable_iff` says. How many levels such a sequence leaves
open can be counted from its openers and closing marks alone.
-/

set_option autoImplicit false

namespace ResourceFilter

/-- By how many a token changes the number of open levels. -/
def Token.opens : Token → Int
  | openGroup | openPath => 1
  | closeGroup | closePath => -1
  | _ => 0

/-- Levels are opened by the opening marks alone. -/
theorem Token.opens_pos_iff {token : Token} :
    0 < token.opens ↔ token = openGroup ∨ token = openPath := by
  cases token <;> simp [opens]

/-- A token opens one level at most. -/
theorem Token.opens_le_one (token : Token) : token.opens ≤ 1 := by
  cases token <;> simp [opens]

/-- A token closes one level at most. -/
theorem Token.neg_one_le_opens (token : Token) : -1 ≤ token.opens := by
  cases token <;> simp [opens]

/-- The levels that tokens leave open: their openers less their closing marks. -/
def openLevels : List Token → Int
  | [] => 0
  | token :: rest => token.opens + openLevels rest

/-- No tokens open no levels. -/
@[simp] theorem openLevels_nil : openLevels [] = 0 := rfl

/-- The levels opened by a first token count towards those opened by all. -/
@[simp] theorem openLevels_cons (token : Token) (rest : List Token) :
    openLevels (token :: rest) = token.opens + openLevels rest := rfl

/-- The levels opened by two pieces add up. -/
@[simp] theorem openLevels_append (front back : List Token) :
    openLevels (front ++ back) = openLevels front + openLevels back := by
  induction front with
  | nil => simp
  | cons token rest ih =>
    rw [List.cons_append, openLevels_cons, openLevels_cons, ih]
    omega

namespace Unfinished

variable {patchPaths : Bool} {room : Nat}

/-! ### Runs with more and with less room -/

/-- A run that fits in a room fits in a wider one. -/
theorem takeAll_mono {wider : Nat} {unfinished last : Unfinished} {tokens : List Token}
    (run : unfinished.takeAll patchPaths room tokens = some last) (le : room ≤ wider) :
    unfinished.takeAll patchPaths wider tokens = some last := by
  induction tokens generalizing unfinished with
  | nil => exact run
  | cons token rest ih =>
    obtain ⟨taken, pushed, fits, behind⟩ := push_of_takeAll_cons run
    rw [takeAll_cons_of_push pushed (by omega)]
    exact ih behind

/-- Where a run leads does not depend on the room it has. -/
theorem takeAll_unique {other : Nat} {unfinished last otherLast : Unfinished}
    {tokens : List Token} (run : unfinished.takeAll patchPaths room tokens = some last)
    (otherRun : unfinished.takeAll patchPaths other tokens = some otherLast) :
    last = otherLast := by
  have wide := takeAll_mono run (Nat.le_max_left room other)
  rw [takeAll_mono otherRun (Nat.le_max_right room other)] at wide
  exact (Option.some.inj wide).symm

/-- A run that begins within its room ends within it. -/
theorem depth_le_of_takeAll {unfinished last : Unfinished} {tokens : List Token}
    (run : unfinished.takeAll patchPaths room tokens = some last)
    (fits : unfinished.depth ≤ room) : last.depth ≤ room := by
  induction tokens generalizing unfinished with
  | nil =>
    cases run
    exact fits
  | cons token rest ih =>
    obtain ⟨taken, -, fits, behind⟩ := push_of_takeAll_cons run
    exact ih behind fits

/-! ### Open levels -/

/-- A closing mark closes one level. -/
theorem opens_closingMark (opener : Opener) : opener.closingMark.opens = -1 := by
  cases opener <;> rfl

/-- What is taken behind a condition opens or closes as many levels as its kind says. -/
theorem depth_afterCondition {unfinished taken : Unfinished} {condition : Filter} {token : Token}
    (pushed : unfinished.afterCondition condition token = some taken) :
    (taken.depth : Int) = unfinished.depth + token.opens := by
  unfold afterCondition at pushed
  split at pushed
  next op =>
    cases pushed
    simp [depth, Token.opens]
  next =>
    split at pushed
    next => cases pushed
    next level outer enclosing =>
      split at pushed
      next closing =>
        cases pushed
        rw [closing, opens_closingMark]
        simp only [depth, enclosing, List.length_cons]
        omega
      next => cases pushed

/-- A token that is taken opens as many levels as its kind says. -/
theorem depth_push {unfinished taken : Unfinished} {token : Token}
    (pushed : unfinished.push patchPaths token = some taken) :
    (taken.depth : Int) = unfinished.depth + token.opens := by
  obtain ⟨enclosing, pending, next⟩ := unfinished
  cases next with
  | link condition => exact depth_afterCondition pushed
  | pathLink parent body =>
    dsimp only [push] at pushed
    split at pushed
    next dot =>
      obtain ⟨-, rfl⟩ := dot
      cases pushed
      simp [depth, await, Token.opens]
    next => exact depth_afterCondition pushed
  | operand path op =>
    obtain ⟨operand, denoted, rfl⟩ := Option.map_eq_some_iff.1 pushed
    cases Grammar.literal?_eq_some_iff.1 denoted <;> simp [depth, await, Token.opens]
  | _ => cases token <;> cases pushed <;> simp [depth, await, enter, Token.opens]

/-- A run opens as many levels as its tokens do. -/
theorem depth_takeAll {unfinished last : Unfinished} {tokens : List Token}
    (run : unfinished.takeAll patchPaths room tokens = some last) :
    (last.depth : Int) = unfinished.depth + openLevels tokens := by
  induction tokens generalizing unfinished with
  | nil =>
    cases run
    simp
  | cons token rest ih =>
    obtain ⟨taken, pushed, -, behind⟩ := push_of_takeAll_cons run
    have step := depth_push pushed
    have later := ih behind
    rw [openLevels_cons]
    omega

/-- A run needs no more room than its tokens open levels at any time. -/
theorem takeAll_of_openLevels {wide : Nat} {unfinished last : Unfinished} {tokens : List Token}
    (run : unfinished.takeAll patchPaths wide tokens = some last)
    (low : ∀ front, front <+: tokens → unfinished.depth + openLevels front ≤ room) :
    unfinished.takeAll patchPaths room tokens = some last := by
  induction tokens generalizing unfinished with
  | nil => exact run
  | cons token rest ih =>
    obtain ⟨taken, pushed, -, behind⟩ := push_of_takeAll_cons run
    have step := depth_push pushed
    have here := low [token] (by simp)
    simp only [openLevels_cons, openLevels_nil, Int.add_zero] at here
    rw [takeAll_cons_of_push pushed (by omega)]
    apply ih behind
    intro front isFront
    have later := low (token :: front) (List.cons_prefix_cons.2 ⟨rfl, isFront⟩)
    rw [openLevels_cons] at later
    omega

/-- At no time does a run have more levels open than it has room for. -/
theorem openLevels_le_of_takeAll {unfinished last : Unfinished} {tokens front : List Token}
    (run : unfinished.takeAll patchPaths room tokens = some last)
    (fits : unfinished.depth ≤ room) (isFront : front <+: tokens) :
    unfinished.depth + openLevels front ≤ room := by
  obtain ⟨back, rfl⟩ := isFront
  obtain ⟨middle, first⟩ := takeAll_of_append run
  have levels := depth_takeAll first
  have low := depth_le_of_takeAll first fits
  omega

/-! ### Completions -/

/-- Behind a condition, the marks of the open levels complete a filter. -/
theorem exists_finished {enclosing : List Level} {pending : Pending} {next : Continuation}
    (complete : next.condition?.isSome) (fits : enclosing.length ≤ room) :
    ∃ last, takeAll patchPaths room ⟨enclosing, pending, next⟩
      (enclosing.map fun level => level.opener.closingMark) = some last ∧
      last.finished?.isSome := by
  obtain ⟨condition, read⟩ := Option.isSome_iff_exists.1 complete
  induction enclosing generalizing pending next condition with
  | nil => exact ⟨_, rfl, by simp [finished?, read]⟩
  | cons level outer ih =>
    obtain ⟨around, opener⟩ := level
    rw [List.length_cons] at fits
    have closed : (opener.close (pending.fold condition)).condition?.isSome := by
      cases opener <;> rfl
    obtain ⟨whole, readWhole⟩ := Option.isSome_iff_exists.1 closed
    rw [List.map_cons, takeAll_cons_of_push (push_closingMark read)]
    · exact ih closed (by omega) whole readWhole
    · show outer.length ≤ room
      omega

/-- From everywhere some tokens lead behind a condition, at most one level further in. -/
theorem exists_condition (patchPaths : Bool) (unfinished : Unfinished) :
    ∃ tokens middle, unfinished.takeAll patchPaths (unfinished.depth + 1) tokens = some middle ∧
      middle.next.condition?.isSome := by
  obtain ⟨enclosing, pending, next⟩ := unfinished
  cases next with
  | term =>
    refine ⟨[.name "a", .presence], ⟨enclosing, pending, .link (.presence (.attr "a"))⟩, ?_, rfl⟩
    simp [takeAll, push, await, depth]
  | negatedGroup =>
    refine ⟨[.openGroup, .name "a", .presence],
      ⟨⟨pending, .negation⟩ :: enclosing, none, .link (.presence (.attr "a"))⟩, ?_, rfl⟩
    simp [takeAll, push, await, enter, depth]
  | relation path =>
    have pushed : push patchPaths ⟨enclosing, pending, .relation path⟩ .presence =
        some ⟨enclosing, pending, .link (.presence (.attr path))⟩ := rfl
    exact ⟨_, _, takeAll_cons_of_push pushed (Nat.le_succ _) [], rfl⟩
  | operand path op =>
    have pushed : push patchPaths ⟨enclosing, pending, .operand path op⟩ .null =
        some ⟨enclosing, pending, .link (.comparison (.attr path) op .null)⟩ := rfl
    exact ⟨_, _, takeAll_cons_of_push pushed (Nat.le_succ _) [], rfl⟩
  | pattern path op =>
    have pushed : push patchPaths ⟨enclosing, pending, .pattern path op⟩ (.text "") =
        some ⟨enclosing, pending, .link (.matching (.attr path) op "")⟩ := rfl
    exact ⟨_, _, takeAll_cons_of_push pushed (Nat.le_succ _) [], rfl⟩
  | link condition => exact ⟨[], _, rfl, rfl⟩
  | pathLink parent body => exact ⟨[], _, rfl, rfl⟩
  | target parent body =>
    have pushed : push patchPaths ⟨enclosing, pending, .target parent body⟩ (.name "a") =
        some ⟨enclosing, pending, .link (.patchPath (.attr parent) body (.attr "a"))⟩ := rfl
    exact ⟨_, _, takeAll_cons_of_push pushed (Nat.le_succ _) [], rfl⟩

/-- Every unfinished filter can be finished. -/
theorem exists_completion (patchPaths : Bool) (unfinished : Unfinished) :
    ∃ more last, unfinished.takeAll patchPaths (unfinished.depth + 1) more = some last ∧
      last.finished?.isSome := by
  obtain ⟨tokens, ⟨enclosing, pending, next⟩, first, complete⟩ :=
    exists_condition patchPaths unfinished
  have fits : enclosing.length ≤ unfinished.depth + 1 :=
    depth_le_of_takeAll first (Nat.le_succ _)
  obtain ⟨last, closed, finished⟩ := exists_finished complete fits
  exact ⟨_, last, (takeAll_append first _).trans closed, finished⟩

end Unfinished

/-! ### Viable prefixes -/

namespace Grammar

open Unfinished

variable {patchPaths : Bool}

/-- Whether some continuation makes a phrase of the tokens, however deep its levels are. -/
def Viable (patchPaths : Bool) (tokens : List Token) : Prop :=
  ∃ more filter, Phrase patchPaths .chain (tokens ++ more) filter

/-- The viable sequences of tokens are those that can be taken one by one, given room enough. -/
theorem viable_iff {tokens : List Token} :
    Viable patchPaths tokens ↔
      ∃ room last, Unfinished.start.takeAll patchPaths room tokens = some last := by
  constructor
  · rintro ⟨more, filter, phrase⟩
    obtain ⟨last, run, -⟩ := takeAll_start_iff.2 ⟨phrase, Nat.le_refl filter.nesting⟩
    exact ⟨filter.nesting, takeAll_of_append run⟩
  · rintro ⟨room, middle, first⟩
    obtain ⟨more, last, second, finished⟩ := exists_completion patchPaths middle
    obtain ⟨filter, isFilter⟩ := Option.isSome_iff_exists.1 finished
    have wideFirst := takeAll_mono first (Nat.le_max_left room (middle.depth + 1))
    have wideSecond := takeAll_mono second (Nat.le_max_right room (middle.depth + 1))
    have whole := (takeAll_append wideFirst more).trans wideSecond
    exact ⟨more, filter, (takeAll_start_iff.1 ⟨last, whole, isFilter⟩).1⟩

/-- Whatever token is taken behind a run keeps what has been read viable. -/
theorem viable_of_push {room : Nat} {before : List Token} {last taken : Unfinished} {token : Token}
    (run : Unfinished.start.takeAll patchPaths room before = some last)
    (pushed : last.push patchPaths token = some taken) : Viable patchPaths (before ++ [token]) := by
  refine viable_iff.2 ⟨max room taken.depth, taken, ?_⟩
  rw [takeAll_append (takeAll_mono run (Nat.le_max_left room taken.depth))]
  exact takeAll_cons_of_push pushed (Nat.le_max_right room taken.depth) []

/-- A token that is not taken ends what is viable. -/
theorem not_viable_of_push {room : Nat} {before : List Token} {last : Unfinished} {token : Token}
    (run : Unfinished.start.takeAll patchPaths room before = some last)
    (refused : last.push patchPaths token = none) : ¬Viable patchPaths (before ++ [token]) := by
  rw [viable_iff]
  rintro ⟨wide, final, whole⟩
  obtain ⟨middle, first⟩ := takeAll_of_append whole
  obtain rfl := takeAll_unique run first
  rw [takeAll_append first] at whole
  obtain ⟨taken, pushed, -⟩ := push_of_takeAll_cons whole
  rw [refused] at pushed
  cases pushed

/-- Where a filter that is read could not end, the tokens are no phrase. -/
theorem not_phrase_of_unfinished {room : Nat} {tokens : List Token} {last : Unfinished}
    (run : Unfinished.start.takeAll patchPaths room tokens = some last)
    (open_ended : last.finished? = none) (filter : Filter) :
    ¬Phrase patchPaths .chain tokens filter := by
  intro phrase
  obtain ⟨final, whole, finished⟩ := takeAll_start_iff.2 ⟨phrase, Nat.le_refl filter.nesting⟩
  rw [← takeAll_unique run whole, open_ended] at finished
  cases finished

end Grammar

end ResourceFilter
