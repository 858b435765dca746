import Mathlib.Data.Set.Subsingleton
import ResourceFilter.Proofs.Grammar.Spelling

/-! # Reading recognises the grammar

Reading takes every phrase of the grammar and builds its tree, and whatever it takes is a phrase:
the first half is an induction over phrases, the second half the record that an unfinished filter
keeps of its tokens. Since a run has one outcome, a sequence of tokens stands for one tree at most.
The main statement is `ofText_eq_ok_iff_phrase`.
-/

set_option autoImplicit false

namespace ResourceFilter

namespace Unfinished

variable {patchPaths : Bool}

/-- Behind a condition a connective begins the next one. -/
theorem push_connective {unfinished : Unfinished} {condition : Filter}
    (read : unfinished.next.condition? = some condition) (op : Connective) :
    unfinished.push patchPaths (.connective op) =
      some ⟨unfinished.enclosing, some (unfinished.pending.fold condition, op), .term⟩ := by
  obtain ⟨enclosing, pending, next⟩ := unfinished
  cases next with
  | link other => cases read; rfl
  | pathLink parent body => cases read; simp [push, afterCondition]
  | _ => cases read

/-- Behind a condition the mark of the innermost level closes it. -/
theorem push_closingMark {outer : List Level} {around pending : Pending} {opener : Opener}
    {next : Continuation} {condition : Filter} (read : next.condition? = some condition) :
    push patchPaths ⟨⟨around, opener⟩ :: outer, pending, next⟩ opener.closingMark =
      some ⟨outer, around, opener.close (pending.fold condition)⟩ := by
  cases next with
  | link other => cases read; cases opener <;> rfl
  | pathLink parent body =>
    cases read
    cases opener <;> simp [push, afterCondition, Opener.closingMark]
  | _ => cases read

/-- A run over a condition leads behind that condition, on the level where it began. -/
def TakesCondition (patchPaths : Bool) (tokens : List Token) (condition : Filter) : Prop :=
  ∀ (room : Nat) (enclosing : List Level) (pending : Pending),
    enclosing.length + condition.nesting ≤ room →
    ∃ next, takeAll patchPaths room ⟨enclosing, pending, .term⟩ tokens =
      some ⟨enclosing, pending, next⟩ ∧ next.condition? = some condition

/-- A run over a chain leads behind its last condition, with the others folded before it. -/
def TakesChain (patchPaths : Bool) (tokens : List Token) (chain : Filter) : Prop :=
  ∀ (room : Nat) (enclosing : List Level), enclosing.length + chain.nesting ≤ room →
    ∃ pending next condition, takeAll patchPaths room ⟨enclosing, none, .term⟩ tokens =
      some ⟨enclosing, pending, next⟩ ∧ next.condition? = some condition ∧
      pending.fold condition = chain

/-- Behind its opener, the chain of a level and its closing mark lead out of it again. -/
theorem TakesChain.close {inner : List Token} {body : Filter}
    (inside : TakesChain patchPaths inner body) {room : Nat} {enclosing : List Level}
    (fits : enclosing.length + (body.nesting + 1) ≤ room) (pending : Pending) (opener : Opener)
    (more : List Token) :
    takeAll patchPaths room ⟨⟨pending, opener⟩ :: enclosing, none, .term⟩
        (inner ++ opener.closingMark :: more) =
      takeAll patchPaths room ⟨enclosing, pending, opener.close body⟩ more := by
  have deeper : (⟨pending, opener⟩ :: enclosing : List Level).length + body.nesting ≤ room := by
    rw [List.length_cons]
    omega
  obtain ⟨chain, next, condition, run, read, folded⟩ := inside room _ deeper
  have back : depth ⟨enclosing, pending, opener.close body⟩ ≤ room := by
    show enclosing.length ≤ room
    omega
  rw [takeAll_append run]
  refine takeAll_cons_of_push ?_ back more
  rw [push_closingMark read, folded]

/-- A level is taken as a whole: its opener, its chain and its closing mark. -/
theorem TakesChain.level {inner : List Token} {body : Filter}
    (inside : TakesChain patchPaths inner body) {room : Nat} {enclosing : List Level}
    (fits : enclosing.length + (body.nesting + 1) ≤ room) (pending : Pending) (opener : Opener)
    (more : List Token) :
    takeAll patchPaths room ⟨enclosing, pending, .term⟩
        (opener.tokens ++ inner ++ opener.closingMark :: more) =
      takeAll patchPaths room ⟨enclosing, pending, opener.close body⟩ more := by
  have here (next : Continuation) : depth ⟨enclosing, pending, next⟩ ≤ room := by
    show enclosing.length ≤ room
    omega
  have entered : depth ⟨⟨pending, opener⟩ :: enclosing, none, .term⟩ ≤ room := by
    show enclosing.length + 1 ≤ room
    omega
  rw [← inside.close fits pending opener more, List.append_assoc]
  cases opener with
  | group => exact takeAll_cons_of_push rfl entered _
  | negation =>
    exact (takeAll_cons_of_push rfl (here .negatedGroup) _).trans
      (takeAll_cons_of_push rfl entered _)
  | valuePath parent =>
    exact (takeAll_cons_of_push rfl (here (.relation parent)) _).trans
      (takeAll_cons_of_push rfl entered _)

end Unfinished

namespace Grammar

open Unfinished

variable {patchPaths : Bool}

/-- What a run over a phrase leads to. -/
def Takes (patchPaths : Bool) : Part → List Token → Filter → Prop
  | .chain => TakesChain patchPaths
  | .condition => TakesCondition patchPaths

/-- Reading takes every phrase, if the limit leaves room for its nesting. -/
theorem Phrase.takes {part : Part} {tokens : List Token} {filter : Filter}
    (phrase : Phrase patchPaths part tokens filter) : Takes patchPaths part tokens filter := by
  induction phrase with
  | single _ ih =>
    intro room enclosing fits
    obtain ⟨next, run, read⟩ := ih room enclosing none fits
    exact ⟨none, next, _, run, read, rfl⟩
  | @link before after left right op _ _ front last =>
    intro room enclosing fits
    have both : enclosing.length + max left.nesting right.nesting ≤ room := fits
    -- The connective folds the chain in front of it, which then waits for the last condition.
    obtain ⟨pending, next, condition, run, read, folded⟩ := front room enclosing (by omega)
    obtain ⟨final, lastRun, lastRead⟩ := last room enclosing (some (left, op)) (by omega)
    refine ⟨some (left, op), final, right, ?_, lastRead, rfl⟩
    have level : depth ⟨enclosing, some (left, op), .term⟩ ≤ room := by
      show enclosing.length ≤ room
      omega
    have linked : push patchPaths ⟨enclosing, pending, next⟩ (.connective op) =
        some ⟨enclosing, some (left, op), .term⟩ := by
      rw [push_connective read, folded]
    rw [takeAll_append run, takeAll_cons_of_push linked level]
    exact lastRun
  | group _ inside =>
    intro room enclosing pending fits
    exact ⟨_, inside.level fits pending .group [], rfl⟩
  | negation _ inside =>
    intro room enclosing pending fits
    exact ⟨_, inside.level fits pending .negation [], rfl⟩
  | comparison path op literal =>
    intro room enclosing pending fits
    have here (next : Continuation) : depth ⟨enclosing, pending, next⟩ ≤ room := fits
    refine ⟨.link (.comparison (.attr path) op _), ?_, rfl⟩
    rw [takeAll_cons_of_push rfl (here (.relation path)),
      takeAll_cons_of_push rfl (here (.operand path op))]
    refine takeAll_cons_of_push ?_ (here _) []
    simp only [push, literal?_eq_some_iff.2 literal]
    rfl
  | matching path op value =>
    intro room enclosing pending fits
    have here (next : Continuation) : depth ⟨enclosing, pending, next⟩ ≤ room := fits
    refine ⟨.link (.matching (.attr path) op value), ?_, rfl⟩
    rw [takeAll_cons_of_push rfl (here (.relation path)),
      takeAll_cons_of_push rfl (here (.pattern path op))]
    exact takeAll_cons_of_push rfl (here _) []
  | presence path =>
    intro room enclosing pending fits
    have here (next : Continuation) : depth ⟨enclosing, pending, next⟩ ≤ room := fits
    refine ⟨.link (.presence (.attr path)), ?_, rfl⟩
    rw [takeAll_cons_of_push rfl (here (.relation path))]
    exact takeAll_cons_of_push rfl (here _) []
  | valuePath path _ inside =>
    intro room enclosing pending fits
    exact ⟨_, inside.level fits pending (.valuePath path) [], rfl⟩
  | @patchPath path target inner body allowed _ inside =>
    intro room enclosing pending fits
    have here (next : Continuation) : depth ⟨enclosing, pending, next⟩ ≤ room :=
      Nat.le_of_add_right_le fits
    refine ⟨.link (.patchPath (.attr path) body (.attr target)), ?_, rfl⟩
    refine (inside.level fits pending (.valuePath path) [.dot, .name target]).trans ?_
    have dot : push patchPaths ⟨enclosing, pending, .pathLink path body⟩ .dot =
        some ⟨enclosing, pending, .target path body⟩ := by
      simp only [push, allowed]
      rfl
    rw [show Opener.close body (.valuePath path) = .pathLink path body from rfl,
      takeAll_cons_of_push dot (here _)]
    exact takeAll_cons_of_push rfl (here _) []

/-- From the beginning to the end of the text, exactly the phrases within the limit are taken. -/
theorem takeAll_start_iff {room : Nat} {tokens : List Token} {filter : Filter} :
    (∃ last, Unfinished.start.takeAll patchPaths room tokens = some last ∧
      last.finished? = some filter) ↔
      Phrase patchPaths .chain tokens filter ∧ filter.nesting ≤ room := by
  constructor
  · rintro ⟨⟨enclosing, pending, next⟩, run, finished⟩
    have spelled := (spells_start room).takeAll run
    cases enclosing with
    | cons level outer => cases finished
    | nil =>
      obtain ⟨condition, read, rfl⟩ := Option.map_eq_some_iff.1 finished
      obtain ⟨left, outside, inner, total, whole, levels, phrase, fits⟩ := spelled.chain read
      cases levels
      rw [List.nil_append, List.nil_append] at whole
      rw [whole]
      have allLeft : 0 + left = room := total
      exact ⟨phrase, by omega⟩
  · rintro ⟨phrase, fits⟩
    have takes : TakesChain patchPaths tokens filter := phrase.takes
    obtain ⟨pending, next, condition, run, read, folded⟩ := takes room [] (by simpa using fits)
    refine ⟨_, run, ?_⟩
    simp only [finished?, read, Option.map_some, folded]

/-- A sequence of tokens stands for at most one tree. -/
theorem Phrase.tree_unique {tokens : List Token} {filter other : Filter}
    (phrase : Phrase patchPaths .chain tokens filter)
    (second : Phrase patchPaths .chain tokens other) : filter = other := by
  -- Both are what the run over the tokens comes to, with room enough for either of them.
  obtain ⟨last, run, finished⟩ :=
    takeAll_start_iff.2 ⟨phrase, Nat.le_max_left filter.nesting other.nesting⟩
  obtain ⟨otherLast, otherRun, otherFinished⟩ :=
    takeAll_start_iff.2 ⟨second, Nat.le_max_right filter.nesting other.nesting⟩
  rw [run] at otherRun
  cases otherRun
  rw [finished] at otherFinished
  exact Option.some.inj otherFinished

/-- The tokens of a stream, when all of its text could be read. -/
theorem complete_eq_ok_iff {stream : TokenStream} {tokens : List PlacedToken} {place : Position} :
    stream.complete = .ok (tokens, place) ↔ stream = ⟨tokens, .atEnd place⟩ := by
  obtain ⟨found, ending⟩ := stream
  cases ending with
  | atEnd other => simp [TokenStream.complete]
  | failed error => simp [TokenStream.complete]

end Grammar

open Grammar

/-- A reading comes to a filter when all tokens that are left can be read and are a phrase, with no
more nesting than the levels that are counted as open leave room for. -/
theorem Reader.read_eq_ok_iff {reader : Reader} {filter : Filter} :
    reader.read.1 = .ok filter ↔
      ∃ tokens place, reader.source = ⟨tokens, .atEnd place⟩ ∧
        Phrase reader.patchPaths .chain (tokens.map PlacedToken.token) filter ∧
        filter.nesting ≤ nestingLimit - reader.depth := by
  obtain ⟨⟨found, ending⟩, depth, patchPaths⟩ := reader
  refine (Unfinished.read_eq_ok_iff (Nat.zero_le _)).trans ?_
  rw [takeAll_start_iff]
  constructor
  · rintro ⟨⟨place, rfl⟩, accepted⟩
    exact ⟨found, place, rfl, accepted⟩
  · rintro ⟨tokens, place, same, accepted⟩
    cases same
    exact ⟨⟨place, rfl⟩, accepted⟩

/-- A text is read from its first token on; if that cannot be read, then reading fails there too. -/
theorem Filter.ofText_eq_read (mode : Mode) (text : String) :
    Filter.ofText mode text =
      (Reader.read ⟨TokenStream.ofText mode text, 0, decide (mode = .patch)⟩).1 := by
  unfold Filter.ofText
  obtain ⟨tokens, ending⟩ := TokenStream.ofText mode text
  cases tokens with
  | cons token rest => rfl
  | nil => cases ending <;> rfl

namespace Grammar

/-- A text is read as a filter when its tokens can be read and are a phrase within the limit. -/
theorem ofText_eq_ok_iff {mode : Mode} {text : String} {filter : Filter} :
    Filter.ofText mode text = .ok filter ↔
      ∃ tokens place, TokenStream.ofText mode text = ⟨tokens, .atEnd place⟩ ∧
        Phrase (decide (mode = .patch)) .chain (tokens.map PlacedToken.token) filter ∧
        filter.nesting ≤ nestingLimit := by
  rw [Filter.ofText_eq_read]
  exact Reader.read_eq_ok_iff

/-- A text is a filter exactly when all of it can be split into tokens and these tokens are a phrase
of the grammar, patch paths included if the last setting of their switch says so, with no more
groups and value paths in each other than the limit. The tree is that of the phrase, and a sequence
of tokens stands for no other one. -/
theorem ofText_eq_ok_iff_phrase (settings : List Bool) (text : String) :
    (∀ filter, Filter.ofText (.ofSwitches settings) text = .ok filter ↔
      ∃ tokens place,
        (TokenStream.ofText (.ofSwitches settings) text).complete = .ok (tokens, place) ∧
        Phrase (settings.getLast?.getD false) .chain (tokens.map PlacedToken.token) filter ∧
        filter.nesting ≤ nestingLimit) ∧
      ∀ tokens,
        {tree | Phrase (settings.getLast?.getD false) .chain tokens tree}.Subsingleton := by
  have switch : decide (Mode.ofSwitches settings = .patch) = settings.getLast?.getD false := by
    unfold Mode.ofSwitches Mode.ofSwitch
    cases settings.getLast?.getD false <;> rfl
  constructor
  · intro filter
    simp only [complete_eq_ok_iff]
    rw [← switch]
    exact ofText_eq_ok_iff
  · intro tokens tree phrase other second
    exact Phrase.tree_unique phrase second

end Grammar

end ResourceFilter
