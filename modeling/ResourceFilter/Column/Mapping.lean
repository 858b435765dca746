import ResourceFilter.Column.Basic
import ResourceFilter.Text.Lowercase

/-! # From attributes to columns

A mapping sends the attributes of filters to columns and refuses those that it does not know. The
standard mapping drops the schema in front of an attribute and takes the rest as the path of a
column. A listing names columns for single attributes; for all others it falls back on the standard
mapping, or refuses them if it is strict.
-/

set_option autoImplicit false

namespace ResourceFilter

/-- An attribute without the schema it is qualified by: what stands behind the last colon of a name
that begins with `urn:`, in any case. -/
def dropSchema (path : String) : String :=
  if (path.toList.take 4).map Char.toLower = ['u', 'r', 'n', ':'] then
    String.ofList (Text.afterLast ':' path.toList)
  else path

/-- Sends attributes to columns, and refuses some of them. -/
abbrev ColumnMapping := String → Option Column

namespace ColumnMapping

/-- Takes what is left of an attribute without its schema, unless nothing is left, as a path. -/
def standard : ColumnMapping := fun path =>
  if dropSchema path = "" then none else some (Column.ofPath (dropSchema path))

end ColumnMapping

/-- Columns for single attributes. -/
structure Listing where
  entries : List (String × Column)
  /-- Whether attributes that are not listed are refused. -/
  strict : Bool
  /-- Each attribute is listed once. -/
  distinct : entries.Pairwise fun first second => first.1 ≠ second.1

namespace Listing

/-- A listing without attributes. -/
def empty (strict : Bool) : Listing := ⟨[], strict, .nil⟩

/-- The listing with a column for an attribute, in place of the one it may have had. -/
def insert (listing : Listing) (path : String) (column : Column) : Listing where
  entries := (path, column) :: listing.entries.filter fun entry => entry.1 ≠ path
  strict := listing.strict
  distinct := by
    refine List.pairwise_cons.2 ⟨?_, listing.distinct.filter _⟩
    intro entry mem
    exact Ne.symm (of_decide_eq_true (List.mem_filter.1 mem).2)

/-- The column listed for an attribute. -/
def get? (listing : Listing) (path : String) : Option Column :=
  listing.entries.lookup path

/-- How many attributes are listed. -/
def size (listing : Listing) : Nat :=
  listing.entries.length

/-- The mapping that a listing stands for. -/
def mapping (listing : Listing) : ColumnMapping := fun path =>
  match listing.get? path with
  | some column => some column
  | none => if listing.strict then none else ColumnMapping.standard path

/-- A listing without attributes has no column for any. -/
@[simp] theorem get?_empty (strict : Bool) (path : String) :
    (empty strict).get? path = none := rfl

/-- Leaving out the entries of one path does not affect any other path. -/
theorem lookup_filter_ne {path other : String} (different : other ≠ path)
    (entries : List (String × Column)) :
    (entries.filter fun entry => entry.1 ≠ path).lookup other = entries.lookup other := by
  induction entries with
  | nil => rfl
  | cons entry rest ih =>
    obtain ⟨key, column⟩ := entry
    by_cases dropped : key = path
    · subst dropped
      rw [List.filter_cons_of_neg (by simp), ih, List.lookup_cons, beq_false_of_ne different]
    · rw [List.filter_cons_of_pos (by simp [dropped]), List.lookup_cons, List.lookup_cons, ih]

/-- The last column given to an attribute counts, and no other attribute is affected. -/
theorem get?_insert (listing : Listing) (path other : String) (column : Column) :
    (listing.insert path column).get? other =
      if other = path then some column else listing.get? other := by
  unfold get? insert
  by_cases same : other = path
  · subst same
    rw [List.lookup_cons_self, if_pos rfl]
  · rw [List.lookup_cons, beq_false_of_ne same, lookup_filter_ne same, if_neg same]

end Listing

end ResourceFilter
