import ResourceFilter.Filter.Basic

/-! # Outlines

The structure of a filter over several lines: each node by its label, what it is made of one level
further in, and a comma behind every part. Negated and plain groups share a label and differ in
their operator; every value path tells whether it has a sub-attribute.
-/

set_option autoImplicit false

namespace ResourceFilter.Outline

/-- The indentation of a level. -/
def margin (level : Nat) : String :=
  String.ofList (List.replicate (4 * level) ' ')

/-- A node with named parts, which are already laid out one level further in. -/
def fields (level : Nat) (label : String) (parts : List (String × String)) : String :=
  let line := fun (name, part) => margin (level + 1) ++ name ++ ": " ++ part ++ ",\n"
  label ++ " \x7b\n" ++ String.join (parts.map line) ++ margin level ++ "\x7d"

/-- A node with one unnamed part, which is already laid out one level further in. -/
def wrapping (level : Nat) (label part : String) : String :=
  label ++ "(\n" ++ margin (level + 1) ++ part ++ ",\n" ++ margin level ++ ")"

/-- The outline of a filter whose first line is indented to the given level already. -/
def filter (level : Nat) : Filter → String
  | .comparison subject op operand =>
    fields level "Compare"
      [("lhs", filter (level + 1) subject), ("op", op.label), ("rhs", filter (level + 1) operand)]
  | .matching subject op value =>
    fields level "Regex"
      [("lhs", filter (level + 1) subject), ("op", op.label), ("value", Text.escaped value)]
  | .presence subject => fields level "Presence" [("attr", filter (level + 1) subject)]
  | .logical left op right =>
    fields level "Logical"
      [("lhs", filter (level + 1) left), ("op", op.label), ("rhs", filter (level + 1) right)]
  | .group body => fields level "Paren" [("op", "Group"), ("sub", filter (level + 1) body)]
  | .negation body => fields level "Paren" [("op", "Not"), ("sub", filter (level + 1) body)]
  | .valuePath parent body =>
    fields level "ValuePath"
      [("parent", filter (level + 1) parent), ("sub_attr", "None"),
        ("sub_expr", filter (level + 1) body)]
  | .patchPath parent body target =>
    fields level "ValuePath"
      [("parent", filter (level + 1) parent),
        ("sub_attr", wrapping (level + 1) "Some" (filter (level + 2) target)),
        ("sub_expr", filter (level + 1) body)]
  | .attr path => wrapping level "Identifier" (Text.escaped path)
  | .text value => wrapping level "AttrValue" (Text.escaped value)
  | .number value => wrapping level "Number" (Text.decimal value.toInt)
  | .boolean value => wrapping level "Bool" (Filter.truthValue value)

end ResourceFilter.Outline

namespace ResourceFilter

/-- The outline of a filter. -/
def Filter.outline (filter : Filter) : String :=
  Outline.filter 0 filter

end ResourceFilter
