import ResourceFilter.Text.Quoted
import ResourceFilter.Token.Basic

/-! # Filters

A filter is a tree of conditions over attributes. Attributes and literals are leaves of the same
type, so a tree that is put together by hand may hold any node in any place; reading a text only
builds trees whose leaves stand where they belong. Every tree has a canonical text: single spaces,
no parentheses but those of its groups, chains of connectives written flat.
-/

set_option autoImplicit false

namespace ResourceFilter

/-- A filter, or a part of one. -/
inductive Filter where
  /-- A comparison of an attribute with a literal. -/
  | comparison (subject : Filter) (op : Comparison) (operand : Filter)
  /-- A test of an attribute's text against a given text. -/
  | matching (subject : Filter) (op : Matching) (value : String)
  /-- The condition that an attribute has a value. -/
  | presence (subject : Filter)
  /-- Two conditions joined by a connective. -/
  | logical (left : Filter) (op : Connective) (right : Filter)
  /-- A condition in parentheses. -/
  | group (body : Filter)
  /-- A negated condition, always in parentheses. -/
  | negation (body : Filter)
  /-- A condition on the values of an attribute that has many of them. -/
  | valuePath (parent body : Filter)
  /-- A value path with the sub-attribute that a patch operation aims at. -/
  | patchPath (parent body target : Filter)
  /-- An attribute, by its path as written; as a literal, the word for no value. -/
  | attr (path : String)
  /-- A text literal. -/
  | text (value : String)
  /-- A number literal. -/
  | number (value : Int64)
  /-- A truth value literal. -/
  | boolean (value : Bool)
  deriving DecidableEq, Repr

namespace Filter

/-- The kinds of nodes that sentences about filters tell apart. -/
inductive Kind where
  | comparison
  | matching
  | presence
  | logical
  | group
  | valuePath
  | attr
  | text
  | number
  | boolean
  deriving DecidableEq, Repr

/-- The name of a kind. -/
def Kind.name : Kind → String
  | comparison => "comparison"
  | matching => "match expression"
  | presence => "presence test"
  | logical => "logical expression"
  | group => "group"
  | valuePath => "value path"
  | attr => "identifier"
  | text => "string literal"
  | number => "number"
  | boolean => "boolean"

/-- The kind of a filter's topmost node. -/
def kind : Filter → Kind
  | comparison .. => .comparison
  | matching .. => .matching
  | presence _ => .presence
  | logical .. => .logical
  | group _ => .group
  | negation _ => .group
  | valuePath .. => .valuePath
  | patchPath .. => .valuePath
  | attr _ => .attr
  | text _ => .text
  | number _ => .number
  | boolean _ => .boolean

/-- The literal for no value. -/
def null : Filter := attr "null"

/-- A truth value as filters and outlines write it. -/
def truthValue (value : Bool) : String :=
  if value then "true" else "false"

/-- The canonical text of a filter. -/
def canonical : Filter → String
  | comparison subject op operand => subject.canonical ++ " " ++ op.word ++ " " ++ operand.canonical
  | matching subject op value =>
    subject.canonical ++ " " ++ op.word ++ " " ++ Text.Quoted.quote value
  | presence subject => subject.canonical ++ " pr"
  | logical left op right => left.canonical ++ " " ++ op.word ++ " " ++ right.canonical
  | group body => "(" ++ body.canonical ++ ")"
  | negation body => "not (" ++ body.canonical ++ ")"
  | valuePath parent body => parent.canonical ++ "[" ++ body.canonical ++ "]"
  | patchPath parent body target =>
    parent.canonical ++ "[" ++ body.canonical ++ "]." ++ target.canonical
  | attr path => path
  | text value => Text.Quoted.quote value
  | number value => Text.decimal value.toInt
  | boolean value => truthValue value

end Filter

end ResourceFilter
