import ResourceFilter.Proofs.Column.Path
import ResourceFilter.Proofs.Command.Mapping
import ResourceFilter.Proofs.Text.Trim

/-! # Mappings in writing

A mapping can be written in several ways, with any blanks around its attribute and its column. What
a mapping writes is stated here on its text: where it is taken apart, and what of it are blanks. So
each mapping writes one attribute and one column at most, reading finds them, and writing them
without the blanks gives a mapping that is read as the same again.
-/

set_option autoImplicit false

namespace ResourceFilter.Command

/-- Whether a mapping has an attribute and a column: there is an equals sign, and trimming leaves
something of the texts on either side of the first one. -/
def HasSides (mapping : String) : Prop :=
  ∃ before after, mapping.toList = before ++ '=' :: after ∧ '=' ∉ before ∧
    ¬Unicode.TrimsTo before [] ∧ ¬Unicode.TrimsTo after []

/-- Whether a mapping writes a column for an attribute: the texts on the two sides of its first
equals sign are the attribute and the path of the column, with blanks around them. Neither is empty,
and the column is split as its path is. -/
def Writes (mapping path : String) (column : Column) : Prop :=
  ∃ before after, mapping.toList = before ++ '=' :: after ∧ '=' ∉ before ∧
    Unicode.TrimsTo before path.toList ∧ Unicode.TrimsTo after column.path.toList ∧
    path ≠ "" ∧ column.path ≠ "" ∧ column.IsSplit

variable {mapping path : String} {column : Column}

/-- A mapping assigns what is written on the two sides of its first equals sign. -/
theorem assigns_iff_writes : Assigns mapping path column ↔ Writes mapping path column := by
  constructor
  · rintro ⟨before, after, isMapping, free, someBefore, someAfter, rfl, isColumn⟩
    obtain ⟨written, split⟩ := Column.ofPath_eq_iff.1 isColumn.symm
    refine ⟨before, after, isMapping, free, ?_, ?_, by simpa using someBefore, ?_, split⟩
    · rw [String.toList_ofList]
      exact Unicode.trimsTo_trimmed before
    · rw [written, String.toList_ofList]
      exact Unicode.trimsTo_trimmed after
    · rw [written]
      simpa using someAfter
  · rintro ⟨before, after, isMapping, free, left, right, named, placed, split⟩
    refine ⟨before, after, isMapping, free, ?_⟩
    rw [left.trimmed_eq, right.trimmed_eq, String.ofList_toList, String.ofList_toList]
    exact ⟨by simpa using named, by simpa using placed, rfl,
      (Column.ofPath_eq_iff.2 ⟨rfl, split⟩).symm⟩

/-- Reading a mapping finds exactly what it writes. -/
theorem mappingOf_eq_ok_iff_writes :
    mappingOf mapping = .ok (path, column) ↔ Writes mapping path column :=
  mappingOf_eq_ok_iff.trans assigns_iff_writes

/-- A mapping assigns something exactly if it has an attribute and a column. -/
theorem isWellFormed_iff_hasSides : IsWellFormed mapping ↔ HasSides mapping := by
  unfold HasSides
  simp only [← Unicode.trimmed_eq_iff]
  constructor
  · rintro ⟨path, column, before, after, isMapping, free, someBefore, someAfter, -⟩
    exact ⟨before, after, isMapping, free, someBefore, someAfter⟩
  · rintro ⟨before, after, isMapping, free, someBefore, someAfter⟩
    exact ⟨_, _, before, after, isMapping, free, someBefore, someAfter, rfl, rfl⟩

/-- An attribute and a column that a mapping writes can be written without blanks. -/
theorem Writes.bare (writes : Writes mapping path column) :
    Writes (path ++ "=" ++ column.path) path column := by
  obtain ⟨before, after, -, free, left, right, named, placed, split⟩ := writes
  refine ⟨path.toList, column.path.toList, by simp, ?_, left.again, right.again, named, placed,
    split⟩
  exact fun mem => free (left.mem_of_mem mem)

/-- Mappings are read without loss. A mapping is read exactly if it has an attribute and a column,
and it is read as the ones that it writes. Writing these without blanks gives a mapping that is read
as the same. Any other mapping is malformed, and is named as it stands in the failure. -/
theorem mappingOf_reads_back (mapping : String) :
    ((∃ path column, mappingOf mapping = .ok (path, column)) ↔ HasSides mapping) ∧
    (∀ path column, mappingOf mapping = .ok (path, column) ↔ Writes mapping path column) ∧
    (∀ path column, mappingOf mapping = .ok (path, column) →
      mappingOf (path ++ "=" ++ column.path) = .ok (path, column)) ∧
    (¬HasSides mapping → mappingOf mapping = .error (.malformedMapping mapping)) := by
  refine ⟨?_, fun _ _ => mappingOf_eq_ok_iff_writes, ?_, ?_⟩
  · rw [← isWellFormed_iff_hasSides]
    simp only [mappingOf_eq_ok_iff]
    rfl
  · intro path column read
    have writes := mappingOf_eq_ok_iff_writes.1 read
    exact mappingOf_eq_ok_iff_writes.2 writes.bare
  · intro noSides
    apply mappingOf_of_not_isWellFormed
    rwa [isWellFormed_iff_hasSides]

/-- A mapping with an equals sign and two dots in its column, and one whose column is a no-break
space. -/
theorem mappingOf_reads_back_dots :
    let mapping := " mail.kind =\tmails.kind.x=y\n"
    mappingOf mapping = .ok ("mail.kind", ⟨some "mails", "kind.x=y"⟩) ∧
      Writes mapping "mail.kind" ⟨some "mails", "kind.x=y"⟩ ∧
      mappingOf "mail.kind=mails.kind.x=y" = .ok ("mail.kind", ⟨some "mails", "kind.x=y"⟩) ∧
      ¬HasSides "kind=\u00a0" ∧
      mappingOf "kind=\u00a0" = .error (.malformedMapping "kind=\u00a0") := by
  intro mapping
  have read : mappingOf mapping = .ok ("mail.kind", ⟨some "mails", "kind.x=y"⟩) :=
    eq_ok_of_toOption (by decide +kernel)
  have unread : (mappingOf "kind=\u00a0").toOption = none := by decide +kernel
  obtain ⟨-, writes, again, -⟩ := mappingOf_reads_back mapping
  obtain ⟨sides, -, -, malformed⟩ := mappingOf_reads_back "kind=\u00a0"
  have noSides : ¬HasSides "kind=\u00a0" := by
    intro hasSides
    obtain ⟨path, column, found⟩ := sides.2 hasSides
    rw [found] at unread
    cases unread
  exact ⟨read, (writes _ _).1 read, again _ _ read, noSides, malformed noSides⟩

end ResourceFilter.Command
