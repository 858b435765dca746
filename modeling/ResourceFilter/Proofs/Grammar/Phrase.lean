import ResourceFilter.Filter.Unfinished

/-! # The grammar of filters

Which sequences of tokens are filters, and which tree each of them stands for, said without a word
about how a text is read. A chain is a condition, or a chain with a connective and one more
condition behind it, so chains fold to the left and both connectives have the same rank. Groups and
value paths hold chains again; how deep they lie in each other is the nesting of the tree.
-/

set_option autoImplicit false

namespace ResourceFilter

/-- How many groups and value paths lie around the innermost condition of a filter. Conditions side
by side do not add up. -/
def Filter.nesting : Filter → Nat
  | .logical left _ right => max left.nesting right.nesting
  | .group body => body.nesting + 1
  | .negation body => body.nesting + 1
  | .valuePath _ body => body.nesting + 1
  | .patchPath _ body _ => body.nesting + 1
  | .comparison .. | .matching .. | .presence _ => 0
  | .attr _ | .text _ | .number _ | .boolean _ => 0

namespace Grammar

/-- The literals of comparisons. -/
inductive Literal : Token → Filter → Prop where
  | text (value : String) : Literal (.text value) (.text value)
  | integer (value : Int64) : Literal (.integer value) (.number value)
  | boolean (value : Bool) : Literal (.boolean value) (.boolean value)
  | null : Literal .null (.attr "null")

/-- The two kinds of phrases. -/
inductive Part where
  /-- One condition or several with connectives between them. -/
  | chain
  /-- A condition without connectives outside of parentheses and brackets. -/
  | condition
  deriving DecidableEq, Repr

/-- The phrases of the language and the trees they stand for. A sub-attribute behind a value path is
for patch paths only. -/
inductive Phrase (patchPaths : Bool) : Part → List Token → Filter → Prop where
  | single {tokens : List Token} {condition : Filter}
      (only : Phrase patchPaths .condition tokens condition) :
      Phrase patchPaths .chain tokens condition
  | link {before after : List Token} {left right : Filter} (op : Connective)
      (front : Phrase patchPaths .chain before left)
      (last : Phrase patchPaths .condition after right) :
      Phrase patchPaths .chain (before ++ .connective op :: after) (.logical left op right)
  | group {inner : List Token} {body : Filter} (inside : Phrase patchPaths .chain inner body) :
      Phrase patchPaths .condition (.openGroup :: (inner ++ [.closeGroup])) (.group body)
  | negation {inner : List Token} {body : Filter} (inside : Phrase patchPaths .chain inner body) :
      Phrase patchPaths .condition (.negation :: .openGroup :: (inner ++ [.closeGroup]))
        (.negation body)
  | comparison (path : String) (op : Comparison) {token : Token} {operand : Filter}
      (literal : Literal token operand) :
      Phrase patchPaths .condition [.name path, .comparison op, token]
        (.comparison (.attr path) op operand)
  | matching (path : String) (op : Matching) (value : String) :
      Phrase patchPaths .condition [.name path, .matching op, .text value]
        (.matching (.attr path) op value)
  | presence (path : String) :
      Phrase patchPaths .condition [.name path, .presence] (.presence (.attr path))
  | valuePath (path : String) {inner : List Token} {body : Filter}
      (inside : Phrase patchPaths .chain inner body) :
      Phrase patchPaths .condition (.name path :: .openPath :: (inner ++ [.closePath]))
        (.valuePath (.attr path) body)
  | patchPath (path target : String) {inner : List Token} {body : Filter}
      (allowed : patchPaths = true) (inside : Phrase patchPaths .chain inner body) :
      Phrase patchPaths .condition
        (.name path :: .openPath :: (inner ++ [.closePath, .dot, .name target]))
        (.patchPath (.attr path) body (.attr target))

/-- Reading takes exactly the literals of the grammar for operands. -/
theorem literal?_eq_some_iff {token : Token} {operand : Filter} :
    token.literal? = some operand ↔ Literal token operand := by
  constructor
  · intro denoted
    cases token with
    | text value => cases denoted; exact .text value
    | integer value => cases denoted; exact .integer value
    | boolean value => cases denoted; exact .boolean value
    | null => cases denoted; exact .null
    | _ => cases denoted
  · intro literal
    cases literal <;> rfl

end Grammar

end ResourceFilter
