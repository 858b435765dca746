import ResourceFilter.Filter.Basic

/-! # Filters under construction

A filter is built token by token. What has been read of it is an `Unfinished` filter: the openers of
groups and value paths that are not closed yet, the chain of conditions read so far on the innermost
level, and what may come next. `push` takes one more token, or refuses it when no filter goes on
with it; `expected` names what could have come instead. Chains fold to the left, with one rank for
both connectives.
-/

set_option autoImplicit false

namespace ResourceFilter

/-- What opens a level of nesting. -/
inductive Opener where
  | group
  | negation
  | valuePath (parent : String)
  deriving DecidableEq, Repr

/-- The conditions of a level before the current one, folded, with the connective behind them. -/
abbrev Pending := Option (Filter × Connective)

/-- A level that is interrupted by an opener. -/
structure Level where
  pending : Pending
  opener : Opener
  deriving DecidableEq, Repr

/-- What an unfinished filter goes on with. -/
inductive Continuation where
  /-- A condition: an attribute, a group or a negation. -/
  | term
  /-- The parenthesis behind a negation. -/
  | negatedGroup
  /-- An operator, or the bracket of a value path, behind an attribute. -/
  | relation (path : String)
  /-- The literal of a comparison. -/
  | operand (path : String) (op : Comparison)
  /-- The text of a match. -/
  | pattern (path : String) (op : Matching)
  /-- A connective, a closing mark or the end, behind a condition. -/
  | link (condition : Filter)
  /-- As for a link, or the dot of a sub-attribute, behind a value path. -/
  | pathLink (parent : String) (body : Filter)
  /-- The sub-attribute behind the dot. -/
  | target (parent : String) (body : Filter)
  deriving DecidableEq, Repr

/-- A filter of which a first part has been read. -/
structure Unfinished where
  /-- The interrupted levels, innermost first. -/
  enclosing : List Level
  pending : Pending
  next : Continuation
  deriving DecidableEq, Repr

/-- What could have stood where something else stands. -/
inductive Expectation where
  | term
  | negatedGroup
  | relation
  | operand
  | pattern
  | target
  /-- A connective or the end of the text. -/
  | link
  /-- The mark that closes the innermost level. -/
  | closing (mark : Token)
  deriving DecidableEq, Repr

/-- An expectation in words. -/
def Expectation.text : Expectation → String
  | term => "attribute, '(' or 'not'"
  | negatedGroup => Token.openGroup.describe
  | relation => "operator or '['"
  | operand => "string, number, boolean or null"
  | pattern => "quoted string"
  | target => "sub-attribute"
  | link => "'and', 'or' or end of input"
  | closing mark => mark.describe

/-- The mark that closes what an opener opens. -/
def Opener.closingMark : Opener → Token
  | group => .closeGroup
  | negation => .closeGroup
  | valuePath _ => .closePath

/-- What stands behind a closed level. -/
def Opener.close (body : Filter) : Opener → Continuation
  | group => .link (.group body)
  | negation => .link (.negation body)
  | valuePath parent => .pathLink parent body

/-- A chain with one more condition at its end. -/
def Pending.fold (pending : Pending) (condition : Filter) : Filter :=
  match pending with
  | none => condition
  | some (chain, op) => .logical chain op condition

/-- The condition that has just been read, if the filter stands behind one. -/
def Continuation.condition? : Continuation → Option Filter
  | link condition => some condition
  | pathLink parent body => some (.valuePath (.attr parent) body)
  | _ => none

/-- The literal that a token denotes. -/
def Token.literal? : Token → Option Filter
  | text value => some (.text value)
  | integer value => some (.number value)
  | boolean value => some (.boolean value)
  | null => some .null
  | _ => none

namespace Unfinished

/-- Nothing has been read yet. -/
def start : Unfinished := ⟨[], none, .term⟩

/-- How many groups and value paths are open. -/
def depth (unfinished : Unfinished) : Nat :=
  unfinished.enclosing.length

/-- Going on with something else on the same level. -/
def await (unfinished : Unfinished) (next : Continuation) : Unfinished :=
  { unfinished with next := next }

/-- Opening a level. -/
def enter (unfinished : Unfinished) (opener : Opener) : Unfinished :=
  ⟨⟨unfinished.pending, opener⟩ :: unfinished.enclosing, none, .term⟩

/-- Behind a condition: a connective prolongs the chain, and the mark of the innermost level closes
that level. -/
def afterCondition (unfinished : Unfinished) (condition : Filter) (token : Token) :
    Option Unfinished :=
  match token with
  | .connective op =>
    some ⟨unfinished.enclosing, some (unfinished.pending.fold condition, op), .term⟩
  | _ =>
    match unfinished.enclosing with
    | [] => none
    | level :: outer =>
      if token = level.opener.closingMark then
        some ⟨outer, level.pending, level.opener.close (unfinished.pending.fold condition)⟩
      else none

/-- Takes one more token, unless no filter goes on with it. Sub-attributes are for patch paths. -/
def push (patchPaths : Bool) (unfinished : Unfinished) (token : Token) : Option Unfinished :=
  match unfinished.next, token with
  | .term, .name path => some (unfinished.await (.relation path))
  | .term, .negation => some (unfinished.await .negatedGroup)
  | .term, .openGroup => some (unfinished.enter .group)
  | .term, _ => none
  | .negatedGroup, .openGroup => some (unfinished.enter .negation)
  | .negatedGroup, _ => none
  | .relation path, .comparison op => some (unfinished.await (.operand path op))
  | .relation path, .matching op => some (unfinished.await (.pattern path op))
  | .relation path, .presence =>
    some (unfinished.await (.link (.presence (.attr path))))
  | .relation path, .openPath => some (unfinished.enter (.valuePath path))
  | .relation _, _ => none
  | .operand path op, literal =>
    literal.literal?.map fun operand =>
      unfinished.await (.link (.comparison (.attr path) op operand))
  | .pattern path op, .text value =>
    some (unfinished.await (.link (.matching (.attr path) op value)))
  | .pattern _ _, _ => none
  | .link condition, token => unfinished.afterCondition condition token
  | .pathLink parent body, token =>
    if patchPaths ∧ token = .dot then some (unfinished.await (.target parent body))
    else unfinished.afterCondition (.valuePath (.attr parent) body) token
  | .target parent body, .name path =>
    some (unfinished.await (.link (.patchPath (.attr parent) body (.attr path))))
  | .target _ _, _ => none

/-- What could come next. -/
def expected (unfinished : Unfinished) : Expectation :=
  match unfinished.next with
  | .term => .term
  | .negatedGroup => .negatedGroup
  | .relation _ => .relation
  | .operand _ _ => .operand
  | .pattern _ _ => .pattern
  | .target _ _ => .target
  | .link _ | .pathLink _ _ =>
    match unfinished.enclosing with
    | [] => .link
    | level :: _ => .closing level.opener.closingMark

/-- The whole filter, if the text may end here. -/
def finished? (unfinished : Unfinished) : Option Filter :=
  match unfinished.enclosing with
  | [] => unfinished.next.condition?.map unfinished.pending.fold
  | _ :: _ => none

end Unfinished

end ResourceFilter
