import ResourceFilter.Proofs.Sql.Lexeme

/-! # Conditions as a database reads them

The lexemes of a condition are read with the ranks that SQL gives to its operators: `NOT` binds
closest, then `AND`, then `OR`, and operators of one rank are taken from left to right. The reader
knows nothing of how conditions are written here. `run_parenthesized` says that a condition written
between parentheses is nevertheless read as the tree it is, wherever an operand may stand.
-/

set_option autoImplicit false

namespace ResourceFilter.Sql

/-- What a condition asks of a column. -/
inductive Test where
  | isNull
  | isNotNull
  | comparison (op : Comparison)
  | matching
  deriving DecidableEq, Repr

/-- A condition without the values that are bound to its placeholders. -/
inductive Clause where
  | test (column : Column) (test : Test)
  | logical (left : Clause) (op : Connective) (right : Clause)
  | negation (body : Clause)
  deriving DecidableEq, Repr

/-- The clause of a condition: its values left out, everything else as it is. -/
def Condition.clause : Condition → Clause
  | isNull column => .test column .isNull
  | isNotNull column => .test column .isNotNull
  | comparison column op _ => .test column (.comparison op)
  | matching column _ => .test column .matching
  | logical left op right => .logical left.clause op right.clause
  | negation body => .negation body.clause

namespace Clause

/-- A clause behind several negations. -/
def negated : Nat → Clause → Clause
  | 0, clause => clause
  | count + 1, clause => .negation (negated count clause)

/-- What stands in front of an operand within one pair of parentheses. -/
structure Before where
  /-- The clause in front of the last `OR`. -/
  disjunct : Option Clause
  /-- The clause between the last `OR` and the last `AND` behind it. -/
  conjunct : Option Clause
  /-- How many times `NOT` stands directly in front of the operand. -/
  negations : Nat
  deriving DecidableEq, Repr

namespace Before

/-- Nothing stands in front of the operand. -/
def nothing : Before := ⟨none, none, 0⟩

/-- The operand with what binds it closer than `OR` does. -/
def conjoin (before : Before) (operand : Clause) : Clause :=
  match before.conjunct with
  | none => negated before.negations operand
  | some left => .logical left .conjunction (negated before.negations operand)

/-- The operand with everything in front of it. -/
def disjoin (before : Before) (operand : Clause) : Clause :=
  match before.disjunct with
  | none => before.conjoin operand
  | some left => .logical left .disjunction (before.conjoin operand)

end Before

/-- What a reading of a condition goes on with. -/
inductive Next where
  | operand
  /-- A dot or an operator, behind a name. -/
  | named (word : String)
  /-- The name of a column, behind the name of its table and a dot. -/
  | qualified (table : String)
  /-- An operator, behind a column. -/
  | operator (column : Column)
  /-- The rest of a test for no value, behind `IS`. -/
  | emptiness (column : Column)
  /-- The rest of a test for a value, behind `IS NOT`. -/
  | presence (column : Column)
  /-- The placeholder of a value. -/
  | value (column : Column) (test : Test)
  /-- A connective, a closing parenthesis or the end, behind an operand. -/
  | link (clause : Clause)
  deriving DecidableEq, Repr

/-- A condition of which a first part has been read. -/
structure Reading where
  /-- What stands in front of the parentheses that are open, innermost first. -/
  enclosing : List Before
  before : Before
  next : Next
  deriving DecidableEq, Repr

namespace Reading

/-- Nothing has been read yet. -/
def start : Reading := ⟨[], .nothing, .operand⟩

/-- Going on with something else between the same parentheses. -/
def await (reading : Reading) (next : Next) : Reading :=
  { reading with next := next }

/-- What an operator behind a column asks for. -/
def operator? (column : Column) : Lexeme → Option Next
  | .keyword .isWord => some (.emptiness column)
  | .comparison op => some (.value column (.comparison op))
  | .matching => some (.value column .matching)
  | _ => none

/-- Takes one more lexeme, unless no condition goes on with it. -/
def push (reading : Reading) (lexeme : Lexeme) : Option Reading :=
  match reading.next, lexeme with
  | .operand, .keyword .notWord =>
    some { reading with before.negations := reading.before.negations + 1 }
  | .operand, .openMark => some ⟨reading.before :: reading.enclosing, .nothing, .operand⟩
  | .operand, .name word => some (reading.await (.named word))
  | .operand, _ => none
  | .named table, .dot => some (reading.await (.qualified table))
  | .named name, other => (operator? ⟨none, name⟩ other).map reading.await
  | .qualified table, .name name => some (reading.await (.operator ⟨some table, name⟩))
  | .qualified _, _ => none
  | .operator column, other => (operator? column other).map reading.await
  | .emptiness column, .keyword .nullWord => some (reading.await (.link (.test column .isNull)))
  | .emptiness column, .keyword .notWord => some (reading.await (.presence column))
  | .emptiness _, _ => none
  | .presence column, .keyword .nullWord => some (reading.await (.link (.test column .isNotNull)))
  | .presence _, _ => none
  | .value column asked, .placeholder => some (reading.await (.link (.test column asked)))
  | .value _ _, _ => none
  | .link clause, .connective .conjunction =>
    some ⟨reading.enclosing, ⟨reading.before.disjunct, some (reading.before.conjoin clause), 0⟩,
      .operand⟩
  | .link clause, .connective .disjunction =>
    some ⟨reading.enclosing, ⟨some (reading.before.disjoin clause), none, 0⟩, .operand⟩
  | .link clause, .closeMark =>
    match reading.enclosing with
    | [] => none
    | outer :: more => some ⟨more, outer, .link (reading.before.disjoin clause)⟩
  | .link _, _ => none

/-- Takes several lexemes, one after the other. -/
def run (reading : Reading) : List Lexeme → Option Reading
  | [] => some reading
  | lexeme :: rest => (reading.push lexeme).bind fun taken => run taken rest

/-- The whole clause, if the condition may end here. -/
def finished? (reading : Reading) : Option Clause :=
  match reading.enclosing, reading.next with
  | [], .link clause => some (reading.before.disjoin clause)
  | _, _ => none

end Reading

/-- The clause that lexemes are read as. -/
def ofLexemes? (found : List Lexeme) : Option Clause :=
  (Reading.start.run found).bind Reading.finished?

end Clause

/-- A column in lexemes. -/
def columnLexemes (column : Column) : List Lexeme :=
  match column.table with
  | some table => [.name table, .dot, .name column.name]
  | none => [.name column.name]

/-- A condition in lexemes, as its text has it. -/
def Condition.lexemes : Condition → List Lexeme
  | isNull column => columnLexemes column ++ [.keyword .isWord, .keyword .nullWord]
  | isNotNull column =>
    columnLexemes column ++ [.keyword .isWord, .keyword .notWord, .keyword .nullWord]
  | comparison column op _ => columnLexemes column ++ [.comparison op, .placeholder]
  | matching column _ => columnLexemes column ++ [.matching, .placeholder]
  | logical left op right =>
    .openMark :: (left.lexemes ++ .closeMark :: .connective op :: .openMark ::
      (right.lexemes ++ [.closeMark]))
  | negation body => .keyword .notWord :: .openMark :: (body.lexemes ++ [.closeMark])

namespace Clause.Reading

/-- A condition between parentheses is read as an operand, and as the tree that it is. -/
theorem run_parenthesized (condition : Condition) (enclosing : List Before) (before : Before)
    (more : List Lexeme) :
    run ⟨enclosing, before, .operand⟩ (.openMark :: (condition.lexemes ++ .closeMark :: more)) =
      run ⟨enclosing, before, .link condition.clause⟩ more := by
  induction condition generalizing enclosing before more with
  | isNull column | isNotNull column | comparison column _ _ | matching column _ =>
    obtain ⟨table, name⟩ := column
    cases table <;> rfl
  | logical left op right left_ih right_ih =>
    have opened (inner : List Lexeme) : run ⟨enclosing, before, .operand⟩ (.openMark :: inner) =
        run ⟨before :: enclosing, .nothing, .operand⟩ inner := rfl
    simp only [Condition.lexemes, List.cons_append, List.append_assoc]
    rw [opened, left_ih]
    -- Behind the connective the left side is all that stands in front of the right one.
    cases op with
    | conjunction =>
      exact right_ih (before :: enclosing) ⟨none, some left.clause, 0⟩ (.closeMark :: more)
    | disjunction =>
      exact right_ih (before :: enclosing) ⟨some left.clause, none, 0⟩ (.closeMark :: more)
  | negation body ih =>
    have opened (inner : List Lexeme) :
        run ⟨enclosing, before, .operand⟩ (.openMark :: .keyword .notWord :: inner) =
          run ⟨before :: enclosing, ⟨none, none, 1⟩, .operand⟩ inner := rfl
    simp only [Condition.lexemes, List.cons_append, List.append_assoc]
    rw [opened]
    exact ih (before :: enclosing) ⟨none, none, 1⟩ (.closeMark :: more)

end Clause.Reading

/-- Without parentheses around them, `NOT` binds closer than `AND` and `AND` closer than `OR`. -/
theorem Clause.ofLexemes?_ranks (left middle right : Condition) :
    ofLexemes? (.openMark :: (left.lexemes ++ .closeMark :: .connective .disjunction ::
      .keyword .notWord :: .openMark :: (middle.lexemes ++ .closeMark ::
        .connective .conjunction :: .openMark :: (right.lexemes ++ [.closeMark])))) =
      some (.logical left.clause .disjunction
        (.logical (.negation middle.clause) .conjunction right.clause)) := by
  have disjoined (rest : List Lexeme) :
      Reading.run ⟨[], .nothing, .link left.clause⟩
        (.connective .disjunction :: .keyword .notWord :: rest) =
      Reading.run ⟨[], ⟨some left.clause, none, 1⟩, .operand⟩ rest := rfl
  have conjoined (rest : List Lexeme) :
      Reading.run ⟨[], ⟨some left.clause, none, 1⟩, .link middle.clause⟩
        (.connective .conjunction :: rest) =
      Reading.run ⟨[], ⟨some left.clause, some (.negation middle.clause), 0⟩, .operand⟩ rest := rfl
  unfold ofLexemes? Reading.start
  rw [Reading.run_parenthesized, disjoined, Reading.run_parenthesized, conjoined,
    Reading.run_parenthesized]
  rfl

/-- A whole condition between parentheses is read as the tree that it is. -/
theorem Clause.ofLexemes?_parenthesized (condition : Condition) :
    ofLexemes? (.openMark :: (condition.lexemes ++ [.closeMark])) = some condition.clause := by
  unfold ofLexemes? Reading.start
  rw [Reading.run_parenthesized]
  rfl

end ResourceFilter.Sql
