import ResourceFilter.Proofs.Filter.Canonical

/-! # How high filters are

The limit of nesting counts groups and value paths. A chain of connectives folds to the left, so it
is as high as it is long without being nested at all, and nothing limits it. The height of a filter
that has been read lies between the length of its longest chain and what the limit allows for such
chains in each other; so heights are bounded where the lengths of chains are, and nowhere else.
-/

set_option autoImplicit false

namespace ResourceFilter

namespace Filter

/-- How many nodes lie in each other at most, whatever their kinds. -/
def height : Filter → Nat
  | .comparison subject _ operand => max subject.height operand.height + 1
  | .matching subject _ _ => subject.height + 1
  | .presence subject => subject.height + 1
  | .logical left _ right => max left.height right.height + 1
  | .group body => body.height + 1
  | .negation body => body.height + 1
  | .valuePath parent body => max parent.height body.height + 1
  | .patchPath parent body target => max parent.height (max body.height target.height) + 1
  | .attr _ | .text _ | .number _ | .boolean _ => 1

/-- How many connectives the outermost chain of a filter has. -/
def links : Filter → Nat
  | .logical left _ _ => left.links + 1
  | _ => 0

/-- How many connectives the longest chain of a filter has, on whatever level it stands. -/
def longestChain : Filter → Nat
  | .logical left _ right => max (left.links + 1) (max left.longestChain right.longestChain)
  | .group body => body.longestChain
  | .negation body => body.longestChain
  | .valuePath _ body => body.longestChain
  | .patchPath _ body _ => body.longestChain
  | _ => 0

/-- A chain at the top of a filter is no longer than its longest chain. -/
theorem links_le_longestChain (filter : Filter) : filter.links ≤ filter.longestChain := by
  cases filter with
  | logical left op right => exact Nat.le_max_left _ _
  | _ => exact Nat.zero_le _

end Filter

namespace Grammar

variable {patchPaths : Bool} {part : Part} {tokens : List Token} {filter : Filter}

/-- A literal has the height of a leaf. -/
theorem Literal.height_eq {token : Token} {operand : Filter} (literal : Literal token operand) :
    operand.height = 1 := by
  cases literal <;> rfl

/-- A single condition has no connectives at its top. -/
theorem Phrase.links_eq_zero (phrase : Phrase patchPaths part tokens filter)
    (single : part = .condition) : filter.links = 0 := by
  cases phrase with
  | single | link => cases single
  | _ => rfl

/-- Each connective of a chain lies below the one behind it. -/
theorem Phrase.links_le_height (phrase : Phrase patchPaths part tokens filter) :
    filter.links + 2 ≤ filter.height := by
  induction phrase with
  | single _ ih => exact ih
  | link op _ _ front last =>
    simp only [Filter.links, Filter.height]
    omega
  | comparison path op literal => simp [Filter.links, Filter.height, literal.height_eq]
  | matching | presence => simp [Filter.links, Filter.height]
  | group _ inside | negation _ inside | valuePath _ _ inside | patchPath _ _ _ _ inside =>
    simp only [Filter.links, Filter.height]
    omega

/-- A tree is at least as high as its longest chain makes it. -/
theorem Phrase.longestChain_le_height (phrase : Phrase patchPaths part tokens filter) :
    filter.longestChain + 2 ≤ filter.height := by
  induction phrase with
  | single _ ih => exact ih
  | link op front last front_ih last_ih =>
    have left := front.links_le_height
    simp only [Filter.longestChain, Filter.height]
    omega
  | comparison path op literal => simp [Filter.longestChain, Filter.height, literal.height_eq]
  | matching | presence => simp [Filter.longestChain, Filter.height]
  | group _ inside | negation _ inside | valuePath _ _ inside | patchPath _ _ _ _ inside =>
    simp only [Filter.longestChain, Filter.height]
    omega

/-- A level adds one node for its parentheses or brackets, and one for each connective on it. -/
theorem Phrase.height_le (phrase : Phrase patchPaths part tokens filter) {most : Nat}
    (short : filter.longestChain ≤ most) :
    filter.height ≤ filter.links + filter.nesting * (most + 1) + 2 := by
  have level {body : Filter} (inside : body.height ≤ body.links + body.nesting * (most + 1) + 2)
      (short : body.longestChain ≤ most) :
      body.height + 1 ≤ (body.nesting + 1) * (most + 1) + 2 := by
    have links := body.links_le_longestChain
    rw [Nat.succ_mul]
    omega
  -- `most` bounds the chains of all levels, so that the products on both sides of a connective
  -- and inside of a level have the same factor.
  induction phrase with
  | single _ ih => exact ih short
  | @link before after left right op front last front_ih last_ih =>
    simp only [Filter.longestChain, Nat.max_le] at short
    obtain ⟨-, short_left, short_right⟩ := short
    have low_left := front_ih short_left
    have low_right := last_ih short_right
    have no_links := last.links_eq_zero rfl
    have deeper_left := Nat.mul_le_mul_right (most + 1) (Nat.le_max_left left.nesting right.nesting)
    have deeper_right :=
      Nat.mul_le_mul_right (most + 1) (Nat.le_max_right left.nesting right.nesting)
    simp only [Filter.height, Filter.links, Filter.nesting]
    omega
  | comparison path op literal =>
    simp [Filter.height, literal.height_eq]
  | matching | presence => simp [Filter.height]
  | group _ inside | negation _ inside | valuePath _ _ inside | patchPath _ _ _ _ inside =>
    have below := level (inside short) short
    simp only [Filter.height, Filter.links, Filter.nesting]
    omega

end Grammar

/-- The height of a filter that has been read is more than the length of its longest chain of
connectives, and the limit of nesting bounds it for any given length. -/
theorem height_of_ofText {settings : List Bool} {text : String} {filter : Filter}
    (read : Filter.ofText (.ofSwitches settings) text = .ok filter) :
    filter.longestChain + 2 ≤ filter.height ∧
      filter.height ≤ (nestingLimit + 1) * (filter.longestChain + 1) + 1 := by
  obtain ⟨tokens, place, stream, phrase, fits⟩ := Grammar.ofText_eq_ok_iff.1 read
  refine ⟨phrase.longestChain_le_height, ?_⟩
  have low := phrase.height_le (Nat.le_refl _)
  have links := filter.links_le_longestChain
  have deepest := Nat.mul_le_mul_right (filter.longestChain + 1) fits
  rw [Nat.succ_mul]
  omega

/-- Two chains on different levels, of which the inner one is the longer. -/
theorem height_of_ofText_levels :
    ∃ filter,
      Filter.ofText (.ofSwitches []) "x[not (d eq 1)] and (a pr and b pr or c pr)" = .ok filter ∧
      filter.longestChain = 2 ∧ filter.height = 6 ∧ 2 + 2 ≤ filter.height ∧
      filter.height ≤ (nestingLimit + 1) * (2 + 1) + 1 := by
  have read := eq_ok_of_toOption (by decide +kernel : (Filter.ofText (.ofSwitches [])
      "x[not (d eq 1)] and (a pr and b pr or c pr)").toOption = some
    (.logical
      (.valuePath (.attr "x") (.negation (.comparison (.attr "d") .equal (.number 1))))
      .conjunction
      (.group (.logical
        (.logical (.presence (.attr "a")) .conjunction (.presence (.attr "b"))) .disjunction
        (.presence (.attr "c"))))))
  exact ⟨_, read, rfl, rfl, height_of_ofText read⟩

/-! ### Chains without end -/

/-- A test joined to itself by as many connectives. -/
def Filter.repeated : Nat → Filter
  | 0 => .presence (.attr "a")
  | count + 1 => .logical (repeated count) .conjunction (.presence (.attr "a"))

/-- The tokens of a repeated test. -/
def Grammar.repeatedTokens : Nat → List Token
  | 0 => [.name "a", .presence]
  | count + 1 => repeatedTokens count ++ .connective .conjunction :: [.name "a", .presence]

namespace Grammar

/-- The tokens of a repeated condition are a phrase of its tree. -/
theorem phrase_repeated (count : Nat) :
    Phrase false .chain (repeatedTokens count) (Filter.repeated count) := by
  induction count with
  | zero => exact .single (.presence "a")
  | succ count ih => exact .link .conjunction ih (.presence "a")

/-- Every token of a repeated condition can be read. -/
theorem readable_repeatedTokens (count : Nat) :
    ∀ token ∈ repeatedTokens count, token.Readable .filter := by
  have name : (Token.name "a").Readable .filter := by
    refine ⟨⟨'a', [], rfl, by decide, ?_⟩, by decide⟩
    intro c mem
    cases mem
  induction count with
  | zero =>
    intro token mem
    simp only [repeatedTokens, List.mem_cons, List.not_mem_nil, or_false] at mem
    rcases mem with rfl | rfl
    · exact name
    · trivial
  | succ count ih =>
    intro token mem
    simp only [repeatedTokens, List.mem_append, List.mem_cons, List.not_mem_nil, or_false] at mem
    rcases mem with before | rfl | rfl | rfl
    · exact ih token before
    · trivial
    · exact name
    · trivial

end Grammar

/-- Each repetition adds one to the height of the tree. -/
theorem Filter.height_repeated (count : Nat) : (repeated count).height = count + 2 := by
  induction count with
  | zero => rfl
  | succ count ih =>
    simp only [repeated, height, ih]
    omega

/-- A repeated condition opens no levels. -/
theorem Filter.nesting_repeated (count : Nat) : (repeated count).nesting = 0 := by
  induction count with
  | zero => rfl
  | succ count ih => simp [repeated, nesting, ih]

/-- No number bounds the heights of all filters that can be read: a chain that is long enough is
higher. -/
theorem height_unbounded :
    ¬∃ bound, ∀ (settings : List Bool) (text : String) (filter : Filter),
      Filter.ofText (.ofSwitches settings) text = .ok filter → filter.height ≤ bound := by
  rintro ⟨bound, low⟩
  have fits : (Filter.repeated bound).nesting ≤ nestingLimit := by
    rw [Filter.nesting_repeated]
    exact Nat.zero_le _
  have read : Filter.ofText .filter (Filter.repeated bound).canonical =
      .ok (Filter.repeated bound) :=
    Grammar.Phrase.read_canonical (Grammar.phrase_repeated bound)
      (Grammar.readable_repeatedTokens bound) fits
  have bounded := low [] _ _ read
  rw [Filter.height_repeated] at bounded
  omega

end ResourceFilter
