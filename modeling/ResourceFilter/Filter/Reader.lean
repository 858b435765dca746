import ResourceFilter.Filter.Unfinished
import ResourceFilter.Token.Stream

/-! # Reading filters

`Filter.ofText` reads a text as a filter. It rests on a `Reader`, which holds the tokens that are
still to be read and may be used again after a failure: it then goes on from where it stopped, and
counts the levels that were left open as still open.

A token is taken only when the token behind it, or the end, can be read too. So a text that breaks
off in unreadable characters is reported as such, at whatever token stands before them.
-/

set_option autoImplicit false

namespace ResourceFilter

/-- How many groups and value paths may be open at a time. -/
def nestingLimit : Nat := 64

/-- Why a text is not a filter. -/
inductive ReadError where
  /-- The text does not consist of tokens. -/
  | scan (error : ScanError)
  /-- A token stands where no filter has it. -/
  | unexpectedToken (expected : Expectation) (found : Token) (place : Position)
  /-- The text ends within a filter. -/
  | unexpectedEnd (expected : Expectation) (place : Position)
  /-- An opener goes beyond the limit of nesting. -/
  | nestingTooDeep (place : Position)
  deriving DecidableEq, Repr

namespace ReadError

/-- The place that an error is about. -/
def place : ReadError → Position
  | scan error => error.place
  | unexpectedToken _ _ place => place
  | unexpectedEnd _ place => place
  | nestingTooDeep place => place

/-- The wording of an error. -/
def message : ReadError → String
  | scan error => "scan error: " ++ error.message
  | unexpectedToken expected found place =>
    "syntax error at " ++ place.text ++ ": expected " ++ expected.text ++ ", found " ++
      found.describe
  | unexpectedEnd expected place =>
    "syntax error at " ++ place.text ++ ": expected " ++ expected.text ++ ", found " ++
      endDescription
  | nestingTooDeep place =>
    "syntax error at " ++ place.text ++ ": nesting deeper than " ++ Text.decimal nestingLimit ++
      " levels"

end ReadError

/-- Reads filters from a stream of tokens. -/
structure Reader where
  /-- The tokens still to be read. -/
  source : TokenStream
  /-- The levels that failed readings have left open. -/
  depth : Nat
  /-- Whether value paths may have a sub-attribute. -/
  patchPaths : Bool
  deriving DecidableEq, Repr

namespace Unfinished

/-- The levels that stay open when the next token is refused: the innermost one counts as closed
once its condition is complete, whatever stands in the place of its closing mark. -/
def depthWhenRefused (unfinished : Unfinished) : Nat :=
  match unfinished.next.condition? with
  | none => unfinished.depth
  | some _ => unfinished.depth - 1

/-- Reads on to the end of the stream. The result comes with the reader as it is left: where it
stopped, and with the levels left open. -/
def read (patchPaths : Bool) (depth : Nat) (ending : Ending) (unfinished : Unfinished) :
    List PlacedToken → Except ReadError Filter × Reader
  | [] =>
    match ending with
    | .failed error => (.error (.scan error), ⟨⟨[], ending⟩, depth + unfinished.depth, patchPaths⟩)
    | .atEnd place =>
      match unfinished.finished? with
      | some filter => (.ok filter, ⟨⟨[], ending⟩, depth, patchPaths⟩)
      | none =>
        (.error (.unexpectedEnd unfinished.expected place),
          ⟨⟨[], ending⟩, depth + unfinished.depthWhenRefused, patchPaths⟩)
  | ⟨token, place⟩ :: rest =>
    match unfinished.push patchPaths token with
    | none =>
      (.error (.unexpectedToken unfinished.expected token place),
        ⟨⟨⟨token, place⟩ :: rest, ending⟩, depth + unfinished.depthWhenRefused, patchPaths⟩)
    | some taken =>
      match rest, ending with
      | [], .failed error =>
        (.error (.scan error),
          ⟨⟨[⟨token.emptied, place⟩], ending⟩, depth + min unfinished.depth taken.depth,
            patchPaths⟩)
      | _, _ =>
        if unfinished.depth < taken.depth ∧ nestingLimit < depth + taken.depth then
          (.error (.nestingTooDeep place), ⟨⟨rest, ending⟩, depth + taken.depth, patchPaths⟩)
        else read patchPaths depth ending taken rest

end Unfinished

namespace Reader

/-- A reader of a stream, provided its first token can be read. Sub-attributes are off. -/
def ofStream (source : TokenStream) : Except ReadError Reader :=
  match source.head with
  | .failed error => .error (.scan error)
  | _ => .ok ⟨source, 0, false⟩

/-- Reads a filter that takes up all of the stream. -/
def read (reader : Reader) : Except ReadError Filter × Reader :=
  Unfinished.start.read reader.patchPaths reader.depth reader.source.ending reader.source.tokens

end Reader

/-- Reads a text as a filter, or as a patch path. -/
def Filter.ofText (mode : Mode) (text : String) : Except ReadError Filter := do
  let reader ← Reader.ofStream (TokenStream.ofText mode text)
  ({ reader with patchPaths := decide (mode = Mode.patch) }).read.1

end ResourceFilter
