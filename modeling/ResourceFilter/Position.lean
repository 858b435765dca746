import ResourceFilter.Text.Decimal

/-! # Places in a text

A place is a line and a column, both counted from one in characters. Only a line feed begins a new
line; every other character, a carriage return or a tab included, is one column wide.
-/

set_option autoImplicit false

namespace ResourceFilter

/-- A place in a text. -/
structure Position where
  line : Nat
  column : Nat
  deriving DecidableEq, Repr, Inhabited

namespace Position

/-- Where a text begins. -/
def start : Position := ⟨1, 1⟩

/-- The place behind a character that stands at the given place. -/
def next (place : Position) (c : Char) : Position :=
  if c = '\n' then ⟨place.line + 1, 1⟩ else ⟨place.line, place.column + 1⟩

/-- The place behind a run of characters that begins at the given place. -/
def after (place : Position) (run : List Char) : Position :=
  run.foldl next place

/-- Line and column with a colon between them. -/
def text (place : Position) : String :=
  Text.decimal place.line ++ ":" ++ Text.decimal place.column

/-- A walk over no characters stays where it is. -/
@[simp] theorem after_nil (place : Position) : place.after [] = place := rfl

/-- A walk goes on from the place behind its first character. -/
@[simp] theorem after_cons (place : Position) (c : Char) (run : List Char) :
    place.after (c :: run) = (place.next c).after run := rfl

/-- Two runs one behind the other are walked as one. -/
theorem after_append (place : Position) (run more : List Char) :
    place.after (run ++ more) = (place.after run).after more :=
  List.foldl_append

end Position

end ResourceFilter
