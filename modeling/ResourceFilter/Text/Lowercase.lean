/-! # Lower case

Words that are compared without regard to the case of their ASCII letters. Other letters keep their
case, so they never make two words equal that differ otherwise.
-/

set_option autoImplicit false

namespace ResourceFilter.Text

/-- A text with its ASCII letters in lower case. -/
def lowercase (text : String) : String :=
  String.ofList (text.toList.map Char.toLower)

end ResourceFilter.Text
