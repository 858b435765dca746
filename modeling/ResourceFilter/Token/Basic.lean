import ResourceFilter.Position
import ResourceFilter.Text.Decimal
import ResourceFilter.Text.Escaped
import ResourceFilter.Text.Lowercase
import ResourceFilter.Vocabulary

/-! # Tokens

The units that a filter is made of, how a word or a punctuation mark becomes one, and the two ways
of naming one: in a sentence about a misplaced token, and in a listing of tokens. Words are keywords
in any case of their letters. Two modes of reading differ in one thing only: in paths of patch
operations the dot is a token of its own.
-/

set_option autoImplicit false

namespace ResourceFilter

/-- What a text is read as. -/
inductive Mode where
  /-- A filter of a search. -/
  | filter
  /-- A path of a patch operation, which may name a sub-attribute behind a value path. -/
  | patch
  deriving DecidableEq, Repr

namespace Mode

/-- The name of a mode. -/
def name : Mode → String
  | filter => "filter"
  | patch => "patch"

/-- The mode that a switch for patch paths selects. -/
def ofSwitch (patchPaths : Bool) : Mode :=
  if patchPaths then patch else filter

/-- The mode after setting the switch several times: the last setting holds, and without any the
text is read as a filter. -/
def ofSwitches (settings : List Bool) : Mode :=
  ofSwitch (settings.getLast?.getD false)

end Mode

/-- The units of a filter. -/
inductive Token where
  | name (word : String)
  | text (value : String)
  | integer (value : Int64)
  | boolean (value : Bool)
  | null
  | negation
  | connective (op : Connective)
  | presence
  | comparison (op : Comparison)
  | matching (op : Matching)
  | openGroup
  | closeGroup
  | openPath
  | closePath
  | dot
  deriving DecidableEq, Repr

namespace Token

/-- The keywords, in lower case, with their tokens. -/
def keywords : List (String × Token) :=
  [("not", negation), ("and", connective .conjunction), ("or", connective .disjunction),
    ("pr", presence), ("eq", comparison .equal), ("ne", comparison .notEqual),
    ("gt", comparison .greater), ("ge", comparison .greaterOrEqual), ("lt", comparison .less),
    ("le", comparison .lessOrEqual), ("co", matching .contains), ("sw", matching .startsWith),
    ("ew", matching .endsWith), ("true", boolean true), ("false", boolean false), ("null", null)]

/-- The token of a lower-case keyword. -/
def keyword? (word : String) : Option Token :=
  keywords.lookup word

/-- The token of a word: a keyword in any case, else a name as it is written. Only ASCII letters
count here, since no keyword holds a letter that a character outside ASCII has as its lower case. -/
def ofWord (word : String) : Token :=
  (keyword? (Text.lowercase word)).getD (name word)

/-- The token of a punctuation mark. -/
def punctuation? (mode : Mode) (c : Char) : Option Token :=
  if c = '(' then some openGroup
  else if c = ')' then some closeGroup
  else if c = '[' then some openPath
  else if c = ']' then some closePath
  else if c = '.' ∧ mode = .patch then some dot
  else none

/-- A token as a sentence about it names it. -/
def describe : Token → String
  | name word => "identifier '" ++ word ++ "'"
  | text value => "string \"" ++ value ++ "\""
  | integer value => "number " ++ Text.decimal value.toInt
  | boolean value => "boolean " ++ (if value then "true" else "false")
  | null => "null"
  | negation => "'not'"
  | connective op => "'" ++ op.word ++ "'"
  | presence => "'pr'"
  | comparison op => "'" ++ op.word ++ "'"
  | matching op => "'" ++ op.word ++ "'"
  | openGroup => "'('"
  | closeGroup => "')'"
  | openPath => "'['"
  | closePath => "']'"
  | dot => "'.'"

/-- A token as a listing shows it. -/
def label : Token → String
  | name word => "Identifier(" ++ Text.escaped word ++ ")"
  | text value => "String(" ++ Text.escaped value ++ ")"
  | integer value => "Integer(" ++ Text.decimal value.toInt ++ ")"
  | boolean value => "Boolean(" ++ (if value then "true" else "false") ++ ")"
  | null => "Null"
  | negation => "Not"
  | connective op => op.label
  | presence => "Pr"
  | comparison op => op.label
  | matching op => op.label
  | openGroup => "LParen"
  | closeGroup => "RParen"
  | openPath => "LBracket"
  | closePath => "RBracket"
  | dot => "Dot"

/-- The token with its text, if it carries one, taken out of it. -/
def emptied : Token → Token
  | name _ => name ""
  | text _ => text ""
  | other => other

end Token

/-- The end of a text as a sentence about it names it. -/
def endDescription : String := "end of input"

/-- The end of a text as a listing of tokens shows it. -/
def endLabel : String := "Eof"

/-- A token and the place of its first character. -/
structure PlacedToken where
  token : Token
  place : Position
  deriving DecidableEq, Repr

end ResourceFilter
