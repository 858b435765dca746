import ResourceFilter.Filter.Reader
import ResourceFilter.Sql.Query

/-! # What the commands do

Each command starts from the text of a filter, which may not be blank, and either fails for one
reason or gives its result: the filter that was read, its tokens, or its query. For a query, columns
may be given for single attributes, each as an attribute and a column with an equals sign between
them. Of several faults the one counts that is met first: a blank filter, the leftmost malformed
mapping, the text of the filter, the flavour, the root table, the filter's own faults.
-/

set_option autoImplicit false

namespace ResourceFilter.Command

/-- Why a command fails. -/
inductive Failure where
  | read (error : ReadError)
  | query (error : Sql.QueryError)
  | noFilter
  | malformedMapping (mapping : String)
  /-- What was piped in is not text. -/
  | undecodableInput
  deriving DecidableEq, Repr

/-- The wording of a failure. -/
def Failure.message : Failure → String
  | read error => "Parse error: " ++ error.message
  | query error => "Compile error: " ++ error.message
  | noFilter => "No filter provided. Pass it as an argument or pipe it to stdin."
  | malformedMapping mapping =>
    "Invalid column mapping '" ++ mapping ++ "': expected attribute=column"
  | undecodableInput => "IO error: stream did not contain valid UTF-8"

/-- Refuses a text of blanks only. -/
def requireFilter (text : String) : Except Failure Unit :=
  if Unicode.trim text = "" then .error .noFilter else .ok ()

/-- The filter that a text holds. -/
def check (mode : Mode) (text : String) : Except Failure Filter := do
  requireFilter text
  (Filter.ofText mode text).mapError .read

/-- The tokens of a text, and the place of its end. -/
def tokens (mode : Mode) (text : String) : Except Failure (List PlacedToken × Position) := do
  requireFilter text
  (TokenStream.ofText mode text).complete.mapError fun error => .read (.scan error)

/-- A line of a table of tokens. -/
def tokenLine (place : Position) (label : String) : String :=
  place.text ++ "\t" ++ label ++ "\n"

/-- Tokens as a table: a line for each of them and for the end, with the place in front. -/
def tokenTable (tokens : List PlacedToken) (place : Position) : String :=
  String.join (tokens.map fun token => tokenLine token.place token.token.label) ++
    tokenLine place endLabel

/-- The attribute and the column of a mapping: the texts around its first equals sign without the
blanks around them, of which neither may be missing. -/
def mappingOf (mapping : String) : Except Failure (String × Column) :=
  match Text.splitFirst? '=' mapping.toList with
  | some (path, column) =>
    if Unicode.trimmed path = [] ∨ Unicode.trimmed column = [] then
      .error (.malformedMapping mapping)
    else
      .ok (String.ofList (Unicode.trimmed path),
        Column.ofPath (String.ofList (Unicode.trimmed column)))
  | none => .error (.malformedMapping mapping)

/-- What a query is made from. -/
structure QueryRequest where
  filter : String
  mode : Mode
  table : String
  flavour : String
  mappings : List String
  /-- Whether attributes without a mapping are refused. -/
  strict : Bool
  deriving DecidableEq, Repr

/-- The listing of the columns given for attributes; the last one given to an attribute counts. -/
def listingOf (strict : Bool) (mappings : List String) : Except Failure Listing :=
  mappings.foldlM
    (fun listing mapping => do
      let (path, column) ← mappingOf mapping
      return listing.insert path column)
    (Listing.empty strict)

/-- The query that is asked for. -/
def QueryRequest.query (request : QueryRequest) : Except Failure Sql.Query := do
  requireFilter request.filter
  let listing ← listingOf request.strict request.mappings
  let filter ← (Filter.ofText request.mode request.filter).mapError .read
  (Sql.query request.table request.flavour listing.mapping filter).mapError .query

end ResourceFilter.Command
