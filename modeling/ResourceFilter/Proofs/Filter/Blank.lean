import ResourceFilter.Proofs.Filter.Style
import ResourceFilter.Unicode.Blank

/-! # Blank texts

Reading knows four blanks, trimming all of Unicode's. The difference does no harm: no token begins
with a blank of either kind, and a filter has a token. So a text of blanks only is never a filter,
and to refuse it in advance refuses no filter.
-/

set_option autoImplicit false

namespace ResourceFilter

namespace Unicode

end Unicode

namespace Grammar

/-- A phrase has a token. -/
theorem Phrase.ne_nil {patchPaths : Bool} {part : Part} {tokens : List Token} {filter : Filter}
    (phrase : Phrase patchPaths part tokens filter) : tokens ≠ [] := by
  induction phrase with
  | single _ ih => exact ih
  | link => simp
  | _ => exact List.cons_ne_nil _ _

end Grammar

end ResourceFilter
