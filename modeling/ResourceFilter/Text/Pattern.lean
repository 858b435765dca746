import ResourceFilter.Vocabulary

/-! # Search patterns

A test of a text is carried out as a regular expression: the given text with a backslash in front of
every character that patterns give a meaning to, tied to the beginning or to the end of the tested
text where the test asks for that.
-/

set_option autoImplicit false

namespace ResourceFilter.Text

/-- The characters that patterns give a meaning to. -/
def patternMarks : List Char :=
  ['\\', '.', '+', '*', '?', '(', ')', '|', '[', ']', '\x7b', '\x7d', '^', '$', '#', '&', '-', '~']

/-- A text as a pattern that stands for this text only. -/
def literalPattern (text : List Char) : List Char :=
  text.flatMap fun c => if c ∈ patternMarks then ['\\', c] else [c]

end ResourceFilter.Text

namespace ResourceFilter

/-- The pattern of a test against a text. -/
def Matching.pattern (op : Matching) (value : String) : String :=
  let literal := String.ofList (Text.literalPattern value.toList)
  match op with
  | contains => literal
  | startsWith => "^" ++ literal
  | endsWith => literal ++ "$"

end ResourceFilter
