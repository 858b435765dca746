/-! # The words of the filter language

The operators of filters, each a closed set: comparisons with a literal, tests of a text against
another one, and the two connectives. Every operator has its word in filters, its label in outlines
and, where a query writes it, its symbol there.
-/

set_option autoImplicit false

namespace ResourceFilter

/-- Comparisons of an attribute with a literal. -/
inductive Comparison where
  | equal
  | notEqual
  | greater
  | greaterOrEqual
  | less
  | lessOrEqual
  deriving DecidableEq, Repr

/-- Tests of an attribute's text against a given text. -/
inductive Matching where
  | contains
  | startsWith
  | endsWith
  deriving DecidableEq, Repr

/-- Connectives between two conditions. -/
inductive Connective where
  | conjunction
  | disjunction
  deriving DecidableEq, Repr

namespace Comparison

/-- The word in filters. -/
def word : Comparison → String
  | equal => "eq"
  | notEqual => "ne"
  | greater => "gt"
  | greaterOrEqual => "ge"
  | less => "lt"
  | lessOrEqual => "le"

/-- The label in outlines. -/
def label : Comparison → String
  | equal => "Eq"
  | notEqual => "Ne"
  | greater => "Gt"
  | greaterOrEqual => "Ge"
  | less => "Lt"
  | lessOrEqual => "Le"

/-- The symbol in queries. -/
def symbol : Comparison → String
  | equal => "="
  | notEqual => "!="
  | greater => ">"
  | greaterOrEqual => ">="
  | less => "<"
  | lessOrEqual => "<="

end Comparison

namespace Matching

/-- The word in filters. -/
def word : Matching → String
  | contains => "co"
  | startsWith => "sw"
  | endsWith => "ew"

/-- The label in outlines. -/
def label : Matching → String
  | contains => "Co"
  | startsWith => "Sw"
  | endsWith => "Ew"

end Matching

namespace Connective

/-- The word in filters. -/
def word : Connective → String
  | conjunction => "and"
  | disjunction => "or"

/-- The label in outlines. -/
def label : Connective → String
  | conjunction => "And"
  | disjunction => "Or"

/-- The symbol in queries. -/
def symbol : Connective → String
  | conjunction => "AND"
  | disjunction => "OR"

end Connective

end ResourceFilter
