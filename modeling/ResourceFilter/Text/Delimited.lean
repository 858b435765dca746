/-! # Delimited names

A name in a query stands between double quotes, and a quote in it is written twice. So a name may
hold any character, and it ends at the first quote that is not doubled.
-/

set_option autoImplicit false

namespace ResourceFilter.Text

/-- The inside of a delimited name. -/
def doubled (name : List Char) : List Char :=
  name.flatMap fun c => if c = '"' then ['"', '"'] else [c]

/-- A name with its quotes. -/
def delimited (name : String) : String :=
  "\"" ++ String.ofList (doubled name.toList) ++ "\""

end ResourceFilter.Text
