import Mathlib.Data.List.DropRight
import Mathlib.Data.List.TakeWhile
import ResourceFilter.Proofs.Text.Run
import ResourceFilter.Unicode.Blank

/-! # Trimming

What trimming leaves of a text, without the walk from its two ends: the text stands between blanks,
and neither begins nor ends with one. There is only one such part of a text, and trimming finds it.
-/

set_option autoImplicit false

namespace ResourceFilter.Unicode

/-- Whether a text is `core` with blanks around it, which itself has no blank at its ends. -/
structure TrimsTo (text core : List Char) : Prop where
  surrounded : ∃ front back, text = front ++ core ++ back ∧
    (∀ c ∈ front, isBlank c = true) ∧ ∀ c ∈ back, isBlank c = true
  first : ∀ c ∈ core.head?, isBlank c = false
  last : ∀ c ∈ core.getLast?, isBlank c = false

variable {text core : List Char}

/-- Trimming takes blanks and nothing else. -/
theorem trimmed_eq_nil_iff : trimmed text = [] ↔ ∀ c ∈ text, isBlank c = true := by
  have inner : trimmed text = [] ↔ ∀ c ∈ text.dropWhile isBlank, isBlank c = true :=
    List.rdropWhile_eq_nil_iff
  rw [inner, ← List.dropWhile_eq_nil_iff, List.dropWhile_idempotent, List.dropWhile_eq_nil_iff]

/-- A text trims to what trimming leaves of it. -/
theorem trimsTo_trimmed (text : List Char) : TrimsTo text (trimmed text) where
  surrounded := by
    refine ⟨text.takeWhile isBlank, (text.dropWhile isBlank).rtakeWhile isBlank, ?_,
      fun _ => List.mem_takeWhile_imp, fun _ => List.mem_rtakeWhile_imp⟩
    have behind : trimmed text ++ (text.dropWhile isBlank).rtakeWhile isBlank =
        text.dropWhile isBlank := List.rdropWhile_append_rtakeWhile
    rw [List.append_assoc, behind, List.takeWhile_append_dropWhile]
  first := by
    intro c mem
    have kept : trimmed text <+: text.dropWhile isBlank := List.rdropWhile_prefix isBlank _
    obtain ⟨back, split⟩ := kept
    apply Text.outside_of_dropWhile text
    rw [← split, List.head?_append, Option.mem_def.1 mem]
    rfl
  last := by
    unfold trimmed
    rw [List.getLast?_reverse]
    exact Text.outside_of_dropWhile _

/-- Blanks around a text without blanks at its ends are taken away. -/
theorem TrimsTo.trimmed_eq (trims : TrimsTo text core) : trimmed text = core := by
  obtain ⟨⟨front, back, rfl, blankFront, blankBack⟩, first, last⟩ := trims
  cases core with
  | nil =>
    rw [trimmed_eq_nil_iff, List.append_nil]
    exact List.forall_mem_append.2 ⟨blankFront, blankBack⟩
  | cons c more =>
    have inner : (front ++ (c :: more ++ back)).dropWhile isBlank = c :: more ++ back :=
      Text.dropWhile_append_of_head blankFront first
    have outer : (back.reverse ++ (c :: more).reverse).dropWhile isBlank = (c :: more).reverse :=
      Text.dropWhile_append_of_head (fun other mem => blankBack other (List.mem_reverse.1 mem))
        (by rwa [List.head?_reverse])
    unfold trimmed
    rw [List.append_assoc, inner, List.reverse_append, outer, List.reverse_reverse]

/-- What trimming leaves is the only text that it trims to. -/
theorem trimmed_eq_iff : trimmed text = core ↔ TrimsTo text core := by
  constructor
  · rintro rfl
    exact trimsTo_trimmed text
  · exact TrimsTo.trimmed_eq

/-- What is trimmed already stays as it is. -/
theorem TrimsTo.again (trims : TrimsTo text core) : TrimsTo core core where
  surrounded := ⟨[], [], by simp⟩
  first := trims.first
  last := trims.last

/-- All characters of what trimming leaves stand in the text. -/
theorem TrimsTo.mem_of_mem (trims : TrimsTo text core) {c : Char} (mem : c ∈ core) : c ∈ text := by
  obtain ⟨front, back, rfl, -⟩ := trims.surrounded
  exact List.mem_append_left _ (List.mem_append_right _ mem)

end ResourceFilter.Unicode
