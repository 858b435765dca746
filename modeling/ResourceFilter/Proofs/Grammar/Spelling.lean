import ResourceFilter.Proofs.Grammar.Phrase
import ResourceFilter.Proofs.Grammar.Run

/-! # What an unfinished filter spells

The invariant of reading: an unfinished filter is the record of the tokens that have been taken.
Each interrupted level accounts for the conditions before its opener and for the opener, the current
level for its conditions and connectives, and the continuation for the tokens of the condition that
is being read. The tokens of complete conditions are phrases of the grammar. Along with that goes
how much deeper a level may still go: `room` counts the levels that may be opened inside it.
-/

set_option autoImplicit false

namespace ResourceFilter

/-- The tokens that open a level. -/
def Opener.tokens : Opener → List Token
  | group => [.openGroup]
  | negation => [.negation, .openGroup]
  | valuePath parent => [.name parent, .openPath]

namespace Grammar

variable {patchPaths : Bool}

/-- The tokens of the conditions of a level before the current one. -/
inductive SpellsPending (patchPaths : Bool) (room : Nat) : Pending → List Token → Prop where
  | none : SpellsPending patchPaths room none []
  | some {tokens : List Token} {chain : Filter} (op : Connective)
      (front : Phrase patchPaths .chain tokens chain) (fits : chain.nesting ≤ room) :
      SpellsPending patchPaths room (some (chain, op)) (tokens ++ [.connective op])

/-- The tokens of interrupted levels, with room for levels inside the innermost one. -/
inductive SpellsLevels (patchPaths : Bool) : Nat → List Level → List Token → Prop where
  | nil (room : Nat) : SpellsLevels patchPaths room [] []
  | cons {room : Nat} {outer : List Level} {before tokens : List Token} {pending : Pending}
      (opener : Opener) (around : SpellsLevels patchPaths (room + 1) outer before)
      (front : SpellsPending patchPaths (room + 1) pending tokens) :
      SpellsLevels patchPaths room (⟨pending, opener⟩ :: outer)
        (before ++ tokens ++ opener.tokens)

/-- The tokens of the current condition as far as it has been read. -/
inductive SpellsNext (patchPaths : Bool) (room : Nat) : Continuation → List Token → Prop where
  | term : SpellsNext patchPaths room .term []
  | negatedGroup : SpellsNext patchPaths room .negatedGroup [.negation]
  | relation (path : String) : SpellsNext patchPaths room (.relation path) [.name path]
  | operand (path : String) (op : Comparison) :
      SpellsNext patchPaths room (.operand path op) [.name path, .comparison op]
  | pattern (path : String) (op : Matching) :
      SpellsNext patchPaths room (.pattern path op) [.name path, .matching op]
  | link {tokens : List Token} {condition : Filter}
      (phrase : Phrase patchPaths .condition tokens condition)
      (fits : condition.nesting ≤ room) : SpellsNext patchPaths room (.link condition) tokens
  | pathLink (parent : String) {inner : List Token} {body : Filter}
      (inside : Phrase patchPaths .chain inner body) (fits : body.nesting < room) :
      SpellsNext patchPaths room (.pathLink parent body)
        (.name parent :: .openPath :: (inner ++ [.closePath]))
  | target (parent : String) {inner : List Token} {body : Filter} (allowed : patchPaths = true)
      (inside : Phrase patchPaths .chain inner body) (fits : body.nesting < room) :
      SpellsNext patchPaths room (.target parent body)
        (.name parent :: .openPath :: (inner ++ [.closePath, .dot]))

/-- The tokens of an unfinished filter of which at most `limit` levels may be open. -/
def Spells (patchPaths : Bool) (limit : Nat) (unfinished : Unfinished) (tokens : List Token) :
    Prop :=
  ∃ room outside before current, unfinished.depth + room = limit ∧
    tokens = outside ++ before ++ current ∧
    SpellsLevels patchPaths room unfinished.enclosing outside ∧
    SpellsPending patchPaths room unfinished.pending before ∧
    SpellsNext patchPaths room unfinished.next current

/-- A chain with one more condition behind it is a chain, and no deeper than both. -/
theorem SpellsPending.chain {room : Nat} {pending : Pending} {before current : List Token}
    {condition : Filter} (front : SpellsPending patchPaths room pending before)
    (phrase : Phrase patchPaths .condition current condition)
    (fits : condition.nesting ≤ room) :
    Phrase patchPaths .chain (before ++ current) (pending.fold condition) ∧
      (pending.fold condition).nesting ≤ room := by
  cases front with
  | none => exact ⟨.single phrase, fits⟩
  | some op chain chainFits =>
    rw [List.append_assoc]
    exact ⟨.link op chain phrase, Nat.max_le.2 ⟨chainFits, fits⟩⟩

/-- Behind a condition, the current tokens are those of the condition. -/
theorem SpellsNext.condition {room : Nat} {next : Continuation} {current : List Token}
    {condition : Filter} (spelled : SpellsNext patchPaths room next current)
    (read : next.condition? = some condition) :
    Phrase patchPaths .condition current condition ∧ condition.nesting ≤ room := by
  cases spelled with
  | link phrase fits =>
    cases read
    exact ⟨phrase, fits⟩
  | pathLink parent inside fits =>
    cases read
    exact ⟨.valuePath parent inside, fits⟩
  | _ => cases read

/-- A level that is closed becomes the current condition of the level around it. -/
theorem SpellsNext.close {room : Nat} {inner : List Token} {body : Filter} (opener : Opener)
    (inside : Phrase patchPaths .chain inner body) (fits : body.nesting ≤ room) :
    SpellsNext patchPaths (room + 1) (opener.close body)
      (opener.tokens ++ inner ++ [opener.closingMark]) := by
  have deeper : body.nesting + 1 ≤ room + 1 := Nat.succ_le_succ fits
  cases opener with
  | group => exact .link (.group inside) deeper
  | negation => exact .link (.negation inside) deeper
  | valuePath parent => exact .pathLink parent inside deeper

/-- The tokens of a filter that has been read, as a chain on its level. -/
theorem Spells.chain {limit : Nat} {unfinished : Unfinished} {tokens : List Token}
    {condition : Filter} (spelled : Spells patchPaths limit unfinished tokens)
    (read : unfinished.next.condition? = some condition) :
    ∃ room outside inner, unfinished.depth + room = limit ∧ tokens = outside ++ inner ∧
      SpellsLevels patchPaths room unfinished.enclosing outside ∧
      Phrase patchPaths .chain inner (unfinished.pending.fold condition) ∧
      (unfinished.pending.fold condition).nesting ≤ room := by
  obtain ⟨room, outside, before, current, total, rfl, levels, pending, next⟩ := spelled
  obtain ⟨phrase, fits⟩ := next.condition read
  obtain ⟨inside, inFits⟩ := pending.chain phrase fits
  exact ⟨room, outside, before ++ current, total, List.append_assoc .., levels, inside, inFits⟩

/-- The token behind a condition is added to the record. -/
theorem Spells.afterCondition {limit : Nat} {unfinished taken : Unfinished} {tokens : List Token}
    {condition : Filter} {token : Token} (spelled : Spells patchPaths limit unfinished tokens)
    (read : unfinished.next.condition? = some condition)
    (pushed : unfinished.afterCondition condition token = some taken) :
    Spells patchPaths limit taken (tokens ++ [token]) := by
  obtain ⟨room, outside, inner, total, rfl, levels, inside, fits⟩ := spelled.chain read
  unfold Unfinished.afterCondition at pushed
  split at pushed
  next op =>
    cases pushed
    exact ⟨room, outside, inner ++ [.connective op], [], total, by simp, levels,
      .some op inside fits, .term⟩
  next =>
    obtain ⟨enclosing, pending, next⟩ := unfinished
    cases levels with
    | nil => cases pushed
    | cons opener around front =>
      dsimp only at pushed
      split at pushed
      next closing =>
        cases pushed
        subst closing
        refine ⟨room + 1, _, _, _, ?_, by simp, around, front, .close opener inside fits⟩
        simp only [Unfinished.depth, List.length_cons] at total ⊢
        omega
      next => cases pushed

/-- The last token of an opener opens a level, if the limit leaves room for it. -/
theorem Spells.enter {limit room : Nat} {unfinished : Unfinished}
    {outside before current : List Token} {token : Token} {opener : Opener}
    (complete : current ++ [token] = opener.tokens) (total : unfinished.depth + room = limit)
    (levels : SpellsLevels patchPaths room unfinished.enclosing outside)
    (front : SpellsPending patchPaths room unfinished.pending before)
    (deeper : (unfinished.enter opener).depth ≤ limit) :
    Spells patchPaths limit (unfinished.enter opener)
      (outside ++ before ++ current ++ [token]) := by
  have depth : (unfinished.enter opener).depth = unfinished.depth + 1 := List.length_cons
  obtain ⟨smaller, rfl⟩ : ∃ smaller, room = smaller + 1 := ⟨room - 1, by omega⟩
  refine ⟨smaller, _, [], [], by omega, ?_, .cons opener levels front, .none, .term⟩
  rw [List.append_assoc _ current, complete, List.append_nil, List.append_nil]

/-- Every token that is taken is added to the record. -/
theorem Spells.push {limit : Nat} {unfinished taken : Unfinished} {tokens : List Token}
    {token : Token} (spelled : Spells patchPaths limit unfinished tokens)
    (pushed : unfinished.push patchPaths token = some taken) (deeper : taken.depth ≤ limit) :
    Spells patchPaths limit taken (tokens ++ [token]) := by
  obtain ⟨enclosing, pending, next⟩ := unfinished
  obtain ⟨room, outside, before, current, total, rfl, levels, front, now⟩ := id spelled
  dsimp only at total levels front now
  -- On the same level only the current tokens grow.
  have await {next : Continuation} (longer : SpellsNext patchPaths room next (current ++ [token])) :
      Spells patchPaths limit ⟨enclosing, pending, next⟩
        (outside ++ before ++ current ++ [token]) :=
    ⟨room, outside, before, current ++ [token], total, by simp, levels, front, longer⟩
  cases now with
  | term =>
    cases token with
    | name path => cases pushed; exact await (.relation path)
    | negation => cases pushed; exact await .negatedGroup
    | openGroup =>
      cases pushed
      exact Spells.enter rfl total levels front deeper
    | _ => cases pushed
  | negatedGroup =>
    cases token with
    | openGroup =>
      cases pushed
      exact Spells.enter rfl total levels front deeper
    | _ => cases pushed
  | relation path =>
    cases token with
    | comparison op => cases pushed; exact await (.operand path op)
    | matching op => cases pushed; exact await (.pattern path op)
    | presence => cases pushed; exact await (.link (.presence path) (Nat.zero_le _))
    | openPath =>
      cases pushed
      exact Spells.enter rfl total levels front deeper
    | _ => cases pushed
  | operand path op =>
    obtain ⟨operand, denoted, rfl⟩ := Option.map_eq_some_iff.1 pushed
    exact await (.link (.comparison path op (literal?_eq_some_iff.1 denoted)) (Nat.zero_le _))
  | pattern path op =>
    cases token with
    | text value => cases pushed; exact await (.link (.matching path op value) (Nat.zero_le _))
    | _ => cases pushed
  | link phrase fits => exact spelled.afterCondition rfl pushed
  | pathLink parent inside fits =>
    dsimp only [Unfinished.push] at pushed
    split at pushed
    next dot =>
      obtain ⟨allowed, rfl⟩ := dot
      cases pushed
      refine await ?_
      simpa using SpellsNext.target parent allowed inside fits
    next => exact spelled.afterCondition rfl pushed
  | target parent allowed inside fits =>
    cases token with
    | name path =>
      cases pushed
      refine await (.link ?_ fits)
      simpa using Phrase.patchPath parent path allowed inside
    | _ => cases pushed

/-- The start is spelled by no tokens. -/
theorem spells_start (limit : Nat) : Spells patchPaths limit .start [] :=
  ⟨limit, [], [], [], Nat.zero_add limit, rfl, .nil limit, .none, .term⟩

/-- A run of tokens is added to the record. -/
theorem Spells.takeAll {limit : Nat} {unfinished last : Unfinished} {tokens more : List Token}
    (spelled : Spells patchPaths limit unfinished tokens)
    (run : unfinished.takeAll patchPaths limit more = some last) :
    Spells patchPaths limit last (tokens ++ more) := by
  induction more generalizing unfinished tokens with
  | nil =>
    cases run
    rwa [List.append_nil]
  | cons token rest ih =>
    obtain ⟨taken, pushed, fits, behind⟩ := Unfinished.push_of_takeAll_cons run
    have longer := ih (spelled.push pushed fits) behind
    rwa [List.append_assoc] at longer

end Grammar

end ResourceFilter
