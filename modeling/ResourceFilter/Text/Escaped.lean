import ResourceFilter.Unicode.Unprintable

/-! # Escaped text

Text shown so that every character of it can be seen: between double quotes, with a backslash before
quotes and backslashes, short escapes for NUL, tab, line feed and carriage return, and the
hexadecimal code point of every other character that does not print by itself.
-/

set_option autoImplicit false

namespace ResourceFilter.Text

/-- A code point in lower-case hexadecimal digits, without padding. -/
def hexadecimal (c : Char) : List Char :=
  Nat.toDigits 16 c.toNat

/-- A character as escaped text shows it. -/
def escapedChar (c : Char) : List Char :=
  if c = '\x00' then ['\\', '0']
  else if c = '\t' then ['\\', 't']
  else if c = '\n' then ['\\', 'n']
  else if c = '\r' then ['\\', 'r']
  else if c = '"' ∨ c = '\\' then ['\\', c]
  else if Unicode.isUnprintable c then ['\\', 'u', '\x7b'] ++ hexadecimal c ++ ['\x7d']
  else [c]

/-- A text in escaped form, with its quotes. -/
def escaped (text : String) : String :=
  "\"" ++ String.ofList (text.toList.flatMap escapedChar) ++ "\""

end ResourceFilter.Text
