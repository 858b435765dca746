/-! # Runs of characters

Where a run of characters of one class ends, both in filters and in queries: at the first character
outside of the class.
-/

set_option autoImplicit false

namespace ResourceFilter.Text

variable {belongs : Char → Bool} {run rest : List Char}

/-- A text that begins outside of a class has no run of it in front. -/
theorem takeWhile_of_head (outside : ∀ c ∈ rest.head?, belongs c = false) :
    rest.takeWhile belongs = [] ∧ rest.dropWhile belongs = rest := by
  cases rest with
  | nil => exact ⟨rfl, rfl⟩
  | cons c more =>
    have foreign : ¬belongs c = true := by simp [outside c rfl]
    exact ⟨List.takeWhile_cons_of_neg foreign, List.dropWhile_cons_of_neg foreign⟩

/-- A run is taken as far as its class goes. -/
theorem takeWhile_append_of_head (inside : ∀ c ∈ run, belongs c = true)
    (outside : ∀ c ∈ rest.head?, belongs c = false) : (run ++ rest).takeWhile belongs = run := by
  rw [List.takeWhile_append_of_pos inside, (takeWhile_of_head outside).1, List.append_nil]

/-- Behind a run stands what does not belong to its class. -/
theorem dropWhile_append_of_head (inside : ∀ c ∈ run, belongs c = true)
    (outside : ∀ c ∈ rest.head?, belongs c = false) : (run ++ rest).dropWhile belongs = rest := by
  rw [List.dropWhile_append_of_pos inside, (takeWhile_of_head outside).2]

/-- What is left of a text behind a run begins with nothing that belongs to it. -/
theorem outside_of_dropWhile (text : List Char) :
    ∀ c ∈ (text.dropWhile belongs).head?, belongs c = false := by
  intro c mem
  have stop := List.head?_dropWhile_not belongs text
  rw [Option.mem_def.1 mem] at stop
  exact stop

end ResourceFilter.Text
