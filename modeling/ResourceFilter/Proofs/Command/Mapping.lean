import Mathlib.Data.List.Induction
import ResourceFilter.Command.Task
import ResourceFilter.Proofs.Result

/-! # Columns given for attributes

A mapping assigns a column to an attribute, or it is malformed. Of several mappings for the same
attribute the last one counts. This is what a listing comes to that takes them one after the other,
and it depends on their order only where two of them are for the same attribute.
-/

set_option autoImplicit false

namespace ResourceFilter.Command

/-- Whether a mapping assigns a column to an attribute: without the blanks at their ends, the texts
around its first equals sign are the attribute and the path of the column, and both are there. -/
def Assigns (mapping path : String) (column : Column) : Prop :=
  ∃ before after, mapping.toList = before ++ '=' :: after ∧ '=' ∉ before ∧
    Unicode.trimmed before ≠ [] ∧ Unicode.trimmed after ≠ [] ∧
    path = String.ofList (Unicode.trimmed before) ∧
    column = Column.ofPath (String.ofList (Unicode.trimmed after))

/-- Whether a mapping assigns anything. -/
def IsWellFormed (mapping : String) : Prop :=
  ∃ path column, Assigns mapping path column

/-- Whether two mappings are for different attributes. -/
def Apart (first second : String) : Prop :=
  ∀ path column other, Assigns first path column → ¬Assigns second path other

/-- Whether the last mapping for an attribute assigns a column to it. -/
def IsAssigned (mappings : List String) (path : String) (column : Column) : Prop :=
  ∃ front mapping back, mappings = front ++ mapping :: back ∧ Assigns mapping path column ∧
    ∀ later ∈ back, ∀ other, ¬Assigns later path other

/-- Whether mappings stand for a mapping of all attributes: an attribute has the column that is
assigned to it, and any other one is refused if that is asked for, and has its standard column
otherwise. -/
structure StandFor (mappings : List String) (strict : Bool) (mapping : ColumnMapping) : Prop where
  assigned : ∀ path column, IsAssigned mappings path column → mapping path = some column
  unassigned : ∀ path, (∀ column, ¬IsAssigned mappings path column) →
    mapping path = if strict then none else ColumnMapping.standard path

variable {mapping path : String} {column : Column} {mappings : List String} {strict : Bool}

/-! ### One mapping -/

/-- A mapping is read as just what it assigns. -/
theorem mappingOf_eq_ok_iff :
    mappingOf mapping = .ok (path, column) ↔ Assigns mapping path column := by
  unfold mappingOf
  constructor
  · intro read
    split at read
    next before after split =>
      obtain ⟨isMapping, free⟩ := Text.splitFirst?_eq_some_iff.1 split
      split at read
      next => cases read
      next both =>
        obtain ⟨someBefore, someAfter⟩ := not_or.1 both
        cases read
        exact ⟨before, after, isMapping, free, someBefore, someAfter, rfl, rfl⟩
    next => cases read
  · rintro ⟨before, after, isMapping, free, someBefore, someAfter, rfl, rfl⟩
    rw [Text.splitFirst?_eq_some_iff.2 ⟨isMapping, free⟩]
    exact if_neg (not_or.2 ⟨someBefore, someAfter⟩)

/-- A mapping that assigns nothing is malformed. -/
theorem mappingOf_of_not_isWellFormed (malformed : ¬IsWellFormed mapping) :
    mappingOf mapping = .error (.malformedMapping mapping) := by
  cases read : mappingOf mapping with
  | ok assignment => exact absurd ⟨_, _, mappingOf_eq_ok_iff.1 read⟩ malformed
  | error failure =>
    unfold mappingOf at read
    split at read
    next =>
      split at read
      next => rw [← read]
      next => cases read
    next => rw [← read]

/-- A mapping assigns one column to one attribute at most. -/
theorem Assigns.unique {other : String} {otherColumn : Column}
    (assigns : Assigns mapping path column) (again : Assigns mapping other otherColumn) :
    other = path ∧ otherColumn = column := by
  have same := (mappingOf_eq_ok_iff.2 again).symm.trans (mappingOf_eq_ok_iff.2 assigns)
  cases same
  exact ⟨rfl, rfl⟩

/-- Being for different attributes has no direction. -/
theorem Apart.symm {first second : String} (apart : Apart first second) : Apart second first :=
  fun path column other assigns again => apart path other column again assigns

/-! ### Several mappings -/

/-- There is only one mapping of all attributes that mappings stand for. -/
theorem StandFor.unique {first second : ColumnMapping} (standFor : StandFor mappings strict first)
    (again : StandFor mappings strict second) : first = second := by
  funext path
  by_cases assigned : ∃ column, IsAssigned mappings path column
  · obtain ⟨column, assigned⟩ := assigned
    rw [standFor.assigned path column assigned, again.assigned path column assigned]
  · have unassigned := not_exists.1 assigned
    rw [standFor.unassigned path unassigned, again.unassigned path unassigned]

end ResourceFilter.Command
