import ResourceFilter.Proofs.Filter.Reuse
import ResourceFilter.Proofs.Grammar.Recognition
import ResourceFilter.Proofs.Result
import ResourceFilter.Proofs.Token.Modes

/-! # Patch paths extend filters

Two switches make a patch path: the mode in which the text is split into tokens, and the setting of
the reader. A sub-attribute takes both of them, since it stands behind a dot. Everything else is
read alike: a text is a filter exactly when it is a patch path without a sub-attribute, and a patch
path with one fails as a filter at its first dot.
-/

set_option autoImplicit false

namespace ResourceFilter

/-- Whether some value path of a filter has a sub-attribute. -/
def Filter.hasTarget : Filter → Bool
  | .comparison subject _ operand => subject.hasTarget || operand.hasTarget
  | .matching subject _ _ => subject.hasTarget
  | .presence subject => subject.hasTarget
  | .logical left _ right => left.hasTarget || right.hasTarget
  | .group body => body.hasTarget
  | .negation body => body.hasTarget
  | .valuePath parent body => parent.hasTarget || body.hasTarget
  | .patchPath _ _ _ => true
  | .attr _ | .text _ | .number _ | .boolean _ => false

namespace Grammar

variable {patchPaths : Bool} {part : Part} {tokens : List Token} {filter : Filter}

/-- Literals are no dots and have no sub-attributes. -/
theorem Literal.not_hasTarget {token : Token} {operand : Filter}
    (literal : Literal token operand) : token ≠ .dot ∧ operand.hasTarget = false := by
  cases literal <;> exact ⟨Token.noConfusion, rfl⟩

/-- A phrase holds a dot just when its tree has a sub-attribute. -/
theorem Phrase.dot_mem_iff (phrase : Phrase patchPaths part tokens filter) :
    .dot ∈ tokens ↔ filter.hasTarget = true := by
  induction phrase with
  | single _ ih => exact ih
  | link op _ _ front last => simp [Filter.hasTarget, front, last]
  | group _ inside | negation _ inside => simp [Filter.hasTarget, inside]
  | comparison path op literal =>
    obtain ⟨notDot, plain⟩ := literal.not_hasTarget
    simp [Filter.hasTarget, plain, Ne.symm notDot]
  | matching path op value | presence path => simp [Filter.hasTarget]
  | valuePath path _ inside => simp [Filter.hasTarget, inside]
  | patchPath path target allowed _ _ => simp [Filter.hasTarget]

/-- Only where patch paths are allowed does a phrase have a sub-attribute. -/
theorem Phrase.patchPaths_of_hasTarget (phrase : Phrase patchPaths part tokens filter)
    (target : filter.hasTarget = true) : patchPaths = true := by
  induction phrase with
  | single _ ih => exact ih target
  | link op _ _ front last =>
    rcases Bool.or_eq_true_iff.1 target with left | right
    · exact front left
    · exact last right
  | group _ inside | negation _ inside => exact inside target
  | comparison path op literal =>
    simp [Filter.hasTarget, literal.not_hasTarget.2] at target
  | matching path op value | presence path => cases target
  | valuePath path _ inside => exact inside target
  | patchPath path target allowed _ _ => exact allowed

end Grammar

namespace Reader

open Grammar

/-- What a reader reads is a phrase of all its tokens, and they end with the text. -/
theorem phrase_of_read {reader : Reader} {filter : Filter} (read : reader.read.1 = .ok filter) :
    Phrase reader.patchPaths .chain (reader.source.tokens.map PlacedToken.token) filter ∧
      ∃ place, reader.source.ending = .atEnd place := by
  have accepted := (Unfinished.read_eq_ok_iff (Nat.zero_le _)).1 read
  exact ⟨(takeAll_start_iff.1 accepted.2).1, accepted.1⟩

/-- From a stream that ends at an unreadable place nothing is read. -/
theorem read_ne_ok_of_failed {reader : Reader} {error : ScanError}
    (failed : reader.source.ending = .failed error) (filter : Filter) :
    reader.read.1 ≠ .ok filter := by
  intro read
  obtain ⟨place, atEnd⟩ := (phrase_of_read read).2
  rw [failed] at atEnd
  cases atEnd

/-- A reader is made with no open level and without patch paths. -/
theorem ofStream_eq_ok {stream : TokenStream} {reader : Reader}
    (made : ofStream stream = .ok reader) : reader = ⟨stream, 0, false⟩ := by
  unfold ofStream at made
  split at made <;> cases made
  rfl

/-- Uses of a reader never bring in a dot. -/
theorem not_hasDot_after {reader : Reader} (dotless : ¬reader.HasDot) (settings : List Bool) :
    ¬(reader.after settings).HasDot := by
  refine after_induction (fun reader => ¬reader.HasDot) ?_ dotless
  intro other patchPaths _ none left
  exact none (Unfinished.hasDot_of_read left)

/-- Among tokens without a dot, the setting makes no difference to what is read. -/
theorem read_setting {reader : Reader} (dotless : ¬reader.HasDot) (patchPaths other : Bool) :
    (reader.setting patchPaths).read =
      ((reader.setting other).read.1, (reader.setting other).read.2.setting patchPaths) :=
  Unfinished.read_setting dotless .start patchPaths other

/-- Without a dot all settings leave the same behind. -/
theorem setting_after {reader : Reader} (dotless : ¬reader.HasDot) (before : Bool)
    (settings : List Bool) (patchPaths : Bool) :
    ((reader.setting before).after settings).setting patchPaths =
      (reader.after (settings.map fun _ => false)).setting patchPaths := by
  induction settings generalizing reader before with
  | nil => rfl
  | cons setting later ih =>
    have step : (reader.setting setting).read.2 = (reader.setting false).read.2.setting setting :=
      congrArg Prod.snd (read_setting dotless setting false)
    have stillDotless : ¬(reader.setting false).read.2.HasDot :=
      not_hasDot_after dotless [false]
    show ((reader.setting setting).read.2.after later).setting patchPaths = _
    rw [step, ih stillDotless]
    rfl

/-- Without a dot the settings of a reader make no difference to what it reads. -/
theorem readAfter_setting {stream : TokenStream}
    (dotless : .dot ∉ stream.tokens.map PlacedToken.token) (earlier : List Bool)
    (patchPaths : Bool) :
    readAfter earlier patchPaths stream = readAfter (earlier.map fun _ => false) false stream := by
  unfold readAfter
  cases made : ofStream stream with
  | error => rfl
  | ok reader =>
    have none : ¬reader.HasDot := by
      rw [ofStream_eq_ok made]
      exact dotless
    have same : reader.setting false = reader := by
      rw [ofStream_eq_ok made]
      rfl
    have settings := setting_after none false earlier patchPaths
    rw [same] at settings
    show ((reader.after earlier).setting patchPaths).read.1 = _
    rw [settings, read_setting (not_hasDot_after none _) patchPaths false]
    rfl

/-- A reader that was made for texts with a dot, but does not allow patch paths, reads nothing. -/
theorem readAfter_ne_ok_of_dot {stream : TokenStream}
    (hasDot : .dot ∈ stream.tokens.map PlacedToken.token) {earlier : List Bool}
    (off : ∀ setting ∈ earlier, setting = false) (filter : Filter) :
    readAfter earlier false stream ≠ .ok filter := by
  intro read
  obtain ⟨reader, made, last⟩ := bind_eq_ok read
  obtain rfl := ofStream_eq_ok made
  have left : (after ⟨stream, 0, false⟩ earlier).HasDot := by
    refine after_induction HasDot ?_ hasDot
    intro other patchPaths mem held
    obtain rfl := off patchPaths mem
    exact Unfinished.hasDot_read held
  have phrase := (phrase_of_read last).1
  have target := phrase.dot_mem_iff.1 left
  exact absurd (phrase.patchPaths_of_hasTarget target) Bool.false_ne_true

/-- From a stream that fails nothing is read, however often. -/
theorem readAfter_ne_ok_of_failed {stream : TokenStream} {error : ScanError}
    (failed : stream.ending = .failed error) (earlier : List Bool) (patchPaths : Bool)
    (filter : Filter) : readAfter earlier patchPaths stream ≠ .ok filter := by
  intro read
  obtain ⟨reader, made, last⟩ := bind_eq_ok read
  obtain rfl := ofStream_eq_ok made
  have still : (after ⟨stream, 0, false⟩ earlier).source.ending = .failed error := by
    refine after_induction (fun reader => reader.source.ending = .failed error) ?_ failed
    intro other patchPaths _ held
    exact (Unfinished.ending_read ..).trans held
  have unreadable : ((after ⟨stream, 0, false⟩ earlier).setting patchPaths).source.ending =
      .failed error := still
  exact read_ne_ok_of_failed unreadable filter last

end Reader

open Grammar Reader TokenStream

/-- Dropping tokens leaves the last ones of a stream. -/
theorem suffix_drop (count : Nat) (stream : TokenStream) :
    (stream.drop count).tokens <:+ stream.tokens := by
  induction count generalizing stream with
  | zero => exact List.suffix_refl _
  | succ count ih => exact (ih stream.tail).trans (List.tail_suffix _)

/-- A text that has no dot as a token comes to the same as a filter and as a patch path. -/
theorem ofText_filter_of_dotless {text : String}
    (dotless : .dot ∉ (TokenStream.ofText .patch text).tokens.map PlacedToken.token) :
    Filter.ofText .filter text = Filter.ofText .patch text := by
  rw [ofText_eq_readAfter, ofText_eq_readAfter, ofText_filter, asFilter_of_dotless dotless]
  rw [readAfter_setting dotless [] (decide (Mode.patch = .patch))]
  rfl

/-- What is read as a filter is what is read as a patch path without a sub-attribute. -/
theorem ofText_filter_iff {text : String} {filter : Filter} :
    Filter.ofText .filter text = .ok filter ↔
      Filter.ofText .patch text = .ok filter ∧ filter.hasTarget = false := by
  have dot_iff (read : Filter.ofText .patch text = .ok filter) :
      .dot ∈ (TokenStream.ofText .patch text).tokens.map PlacedToken.token ↔
        filter.hasTarget = true := by
    obtain ⟨tokens, place, stream, phrase, -⟩ := ofText_eq_ok_iff.1 read
    rw [stream]
    exact phrase.dot_mem_iff
  by_cases hasDot : .dot ∈ (TokenStream.ofText .patch text).tokens.map PlacedToken.token
  · -- The text fails as a filter, and as a patch path it has a sub-attribute.
    obtain ⟨error, failed⟩ := failed_of_dot_mem hasDot
    rw [← ofText_filter] at failed
    rw [ofText_eq_readAfter .filter]
    refine iff_of_false (readAfter_ne_ok_of_failed failed [] _ filter) ?_
    rintro ⟨read, plain⟩
    exact absurd ((dot_iff read).1 hasDot) (Bool.eq_false_iff.1 plain)
  · rw [ofText_filter_of_dotless hasDot]
    constructor
    · intro read
      exact ⟨read, Bool.eq_false_iff.2 (mt (dot_iff read).2 hasDot)⟩
    · rintro ⟨read, -⟩
      exact read

/-- A patch path with a sub-attribute fails as a filter at its first dot. -/
theorem ofText_filter_of_hasTarget {text : String} {filter : Filter}
    (read : Filter.ofText .patch text = .ok filter) (target : filter.hasTarget = true) :
    ∃ dot, firstDot? (TokenStream.ofText .patch text).tokens = some dot ∧
      Filter.ofText .filter text = .error (.scan (.unexpectedCharacter '.' dot.place)) := by
  obtain ⟨tokens, place, stream, phrase, fits⟩ := ofText_eq_ok_iff.1 read
  obtain ⟨before, dot, after, split, dotless, first, failing⟩ :=
    exists_of_dot_mem (phrase.dot_mem_iff.2 target)
  refine ⟨dot, by rw [stream, first], ?_⟩
  -- The tokens in front of the dot are taken in both modes, so it is the dot that is reported.
  obtain ⟨last, run, -⟩ := takeAll_start_iff.2 ⟨phrase, fits⟩
  rw [split, List.map_append] at run
  obtain ⟨middle, front⟩ := Unfinished.takeAll_of_append run
  rw [Unfinished.takeAll_setting dotless _ _ false] at front
  have failed : (Unfinished.start.read false 0 (.failed (.unexpectedCharacter '.' dot.place))
      before).1 = .error (.scan (.unexpectedCharacter '.' dot.place)) :=
    Unfinished.read_of_failed front
  unfold Filter.ofText
  rw [ofText_filter, stream, failing]
  cases before with
  | nil => rfl
  | cons placed rest => exact failed

/-- A reader made from any part of a stream reads a sub-attribute only with both switches on. -/
theorem switches_of_hasTarget {text : String} {mode : Mode} {skipped : Nat} {earlier : List Bool}
    {patchPaths : Bool} {filter : Filter}
    (read : readAfter earlier patchPaths ((TokenStream.ofText mode text).drop skipped) =
      .ok filter) (target : filter.hasTarget = true) : mode = .patch ∧ patchPaths = true := by
  obtain ⟨reader, made, last⟩ := bind_eq_ok read
  have phrase := (phrase_of_read last).1
  refine ⟨?_, phrase.patchPaths_of_hasTarget target⟩
  cases mode with
  | patch => rfl
  | filter =>
    have dotless : ¬reader.HasDot := by
      intro hasDot
      rw [ofStream_eq_ok made] at hasDot
      obtain ⟨placed, mem, isDot⟩ := List.mem_map.1 hasDot
      have inText := List.mem_map.2 ⟨placed, (suffix_drop skipped _).mem mem, isDot⟩
      exact dot_not_mem_ofText_filter text inText
    exact absurd (phrase.dot_mem_iff.2 target) (not_hasDot_after dotless earlier)

/-- With one switch off a reader reads what a reader of filters does after as many uses. -/
theorem readAfter_eq_ok_iff_filter {text : String} {mode : Mode} {earlier : List Bool}
    {patchPaths : Bool}
    (off : mode = .filter ∨ (patchPaths = false ∧ ∀ setting ∈ earlier, setting = false))
    {filter : Filter} :
    readAfter earlier patchPaths (TokenStream.ofText mode text) = .ok filter ↔
      readAfter (earlier.map fun _ => false) false (TokenStream.ofText .filter text) =
        .ok filter := by
  cases mode with
  | filter =>
    exact Eq.congr_left (readAfter_setting (dot_not_mem_ofText_filter text) earlier patchPaths)
  | patch =>
    obtain impossible | ⟨rfl, off⟩ := off
    · cases impossible
    by_cases hasDot : .dot ∈ (TokenStream.ofText .patch text).tokens.map PlacedToken.token
    · -- One reader does not get past the dot, the other one does not get there.
      obtain ⟨error, failed⟩ := failed_of_dot_mem hasDot
      rw [← ofText_filter] at failed
      exact iff_of_false (readAfter_ne_ok_of_dot hasDot off filter)
        (readAfter_ne_ok_of_failed failed (earlier.map fun _ => false) false filter)
    · rw [ofText_filter, asFilter_of_dotless hasDot]
      exact Eq.congr_left (readAfter_setting hasDot earlier false)

/-- Patch paths extend filters by sub-attributes and by nothing else: a text is a filter just when
it is a patch path without a sub-attribute, and one with a sub-attribute fails as a filter at the
first dot that the patch path has as a token. Whatever part of a stream a reader is made from, and
however often it has been used before, it reads a sub-attribute only if both switches are on; with
one of them off it reads what a reader of filters does after as many uses. -/
theorem patchPaths_extend_filters (text : String) :
    (∀ filter, Filter.ofText .filter text = .ok filter ↔
      Filter.ofText .patch text = .ok filter ∧ filter.hasTarget = false) ∧
    (∀ filter, Filter.ofText .patch text = .ok filter → filter.hasTarget = true →
      ∃ dot, firstDot? (TokenStream.ofText .patch text).tokens = some dot ∧
        Filter.ofText .filter text = .error (.scan (.unexpectedCharacter '.' dot.place))) ∧
    (∀ mode skipped earlier patchPaths filter,
      readAfter earlier patchPaths ((TokenStream.ofText mode text).drop skipped) = .ok filter →
        filter.hasTarget = true → mode = .patch ∧ patchPaths = true) ∧
    (∀ mode earlier patchPaths,
      mode = .filter ∨ (patchPaths = false ∧ ∀ setting ∈ earlier, setting = false) →
        ∀ filter, readAfter earlier patchPaths (TokenStream.ofText mode text) = .ok filter ↔
          readAfter (earlier.map fun _ => false) false (TokenStream.ofText .filter text) =
            .ok filter) := by
  refine ⟨?_, ?_, ?_, ?_⟩
  · intro filter
    exact ofText_filter_iff
  · intro filter read target
    exact ofText_filter_of_hasTarget read target
  · intro mode skipped earlier patchPaths filter read target
    exact switches_of_hasTarget read target
  · intro mode earlier patchPaths off filter
    exact readAfter_eq_ok_iff_filter off

/-- Dots in a word and in a text are no tokens; the one behind the bracket is what a filter fails at,
and what a reader without patch paths does not get past. -/
theorem patchPaths_extend_filters_dot :
    let text := "a.b pr and emails[type eq \"w.\"].value"
    ∃ filter dot, Filter.ofText .patch text = .ok filter ∧ filter.hasTarget = true ∧
      firstDot? (TokenStream.ofText .patch text).tokens = some dot ∧ dot.place = ⟨1, 32⟩ ∧
      Filter.ofText .filter text = .error (.scan (.unexpectedCharacter '.' dot.place)) ∧
      readAfter [false] false (TokenStream.ofText .patch text) ≠ .ok filter := by
  intro text
  have read := eq_ok_of_toOption (by decide +kernel : (Filter.ofText .patch text).toOption = some
    (.logical (.presence (.attr "a.b")) .conjunction
      (.patchPath (.attr "emails") (.comparison (.attr "type") .equal (.text "w."))
        (.attr "value"))))
  have place : (firstDot? (TokenStream.ofText .patch text).tokens).map PlacedToken.place =
      some ⟨1, 32⟩ := by decide +kernel
  obtain ⟨-, failing, switches, -⟩ := patchPaths_extend_filters text
  obtain ⟨dot, first, failed⟩ := failing _ read rfl
  rw [first] at place
  refine ⟨_, dot, read, rfl, first, Option.some.inj place, failed, ?_⟩
  intro allowed
  obtain ⟨-, on⟩ := switches .patch 0 [false] false _ allowed rfl
  cases on

end ResourceFilter
