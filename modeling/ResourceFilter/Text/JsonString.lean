/-! # Strings of a JSON document

A string between double quotes, with a backslash before quotes and backslashes, the short escapes
for backspace, form feed, line feed, carriage return and tab, and four hexadecimal digits for every
other character below the space. All other characters stand for themselves.
-/

set_option autoImplicit false

namespace ResourceFilter.Text

/-- A character as it stands in a JSON string. -/
def jsonChar (c : Char) : List Char :=
  if c = '"' ∨ c = '\\' then ['\\', c]
  else if c = '\x08' then ['\\', 'b']
  else if c = '\x0c' then ['\\', 'f']
  else if c = '\n' then ['\\', 'n']
  else if c = '\r' then ['\\', 'r']
  else if c = '\t' then ['\\', 't']
  else if c.toNat < 0x20 then
    ['\\', 'u', '0', '0', Nat.digitChar (c.toNat / 16), Nat.digitChar (c.toNat % 16)]
  else [c]

/-- A text as a JSON string, with its quotes. -/
def jsonString (text : String) : String :=
  "\"" ++ String.ofList (text.toList.flatMap jsonChar) ++ "\""

end ResourceFilter.Text
