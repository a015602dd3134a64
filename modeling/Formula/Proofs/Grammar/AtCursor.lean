import Formula.Proofs.Grammar.Automaton
import Formula.Proofs.Grammar.Progress

/-! The automaton at a cursor. It takes the lexemes ahead, and these begin with what is next after
white space: a character that is neither letter nor digit is a lexeme of its own, so that taking it
moves the cursor behind it. What comes next decides also what an operation of some level has
finished: it is over if none of the operators follows with which it or one of its operands would go
on. -/
namespace Formula.Cursor
open Grammar
variable {c : Cursor}

theorem skipBlanks_skipBlanks (c : Cursor) : c.skipBlanks.skipBlanks = c.skipBlanks := by
  have nothing : c.skipBlanks.ahead.takeWhile Text.isBlank = [] := by
    cases ahead : c.skipBlanks.ahead with
    | nil => rfl
    | cons next rest =>
      exact List.takeWhile_cons_of_neg (Bool.eq_false_iff.mp (isBlank_of_skipBlanks ahead))
  rw [skipBlanks.eq_1 c.skipBlanks, nothing, List.length_nil, skip_zero]

theorem lexemes_nil (ahead : c.ahead = []) : c.lexemes = [] := by
  rw [lexemes, ahead, Lexeme.scan_nil]

theorem lexemes_skipBlanks (c : Cursor) : c.skipBlanks.lexemes = c.lexemes := by
  have whole := scan_blanks_append
    ⟨c.ahead.takeWhile Text.isBlank, List.all_eq_true.mp List.all_takeWhile⟩ c.position
    (c.ahead.dropWhile Text.isBlank)
  rw [List.takeWhile_append_dropWhile] at whole
  rw [lexemes, lexemes, ahead_skipBlanks, skipBlanks, c.position_skip c.length_blanks_le, whole]

theorem lexemes_mark (ahead : c.ahead = d :: rest) (blank : Text.isBlank d = false)
    (separates : d.isAlphanum = false) :
    c.lexemes = ⟨.mark d, c.position⟩ :: (c.skip 1).lexemes := by
  have first : Lexeme.first d rest = (.mark d, 0) := by
    simp [Lexeme.first, isDigit_of_isAlphanum separates, isAlpha_of_isAlphanum separates]
  rw [lexemes_first ahead blank, first]
  rfl

theorem lexemes_name (ahead : c.ahead = d :: rest) (letter : d.isAlpha = true) :
    c.lexemes = ⟨.name (c.ahead.takeWhile Char.isAlphanum), c.position⟩ ::
      (c.skip (c.ahead.takeWhile Char.isAlphanum).length).lexemes := by
  have word := isAlphanum_of_isAlpha letter
  have first : (Lexeme.first d rest).1 = .name (c.ahead.takeWhile Char.isAlphanum) := by
    simp [Lexeme.first, isDigit_of_isAlpha letter, letter, ahead, word]
  rw [lexemes_first ahead (isBlank_of_isAlphanum word), first]
  rfl

end Formula.Cursor

namespace Formula.Descent
open Grammar

/-! ### Situations -/

section
variable (number? : String → Option Value) (final : Nat)

/-- The automaton goes on from a situation at a cursor as from another one at another cursor. -/
def Leads (c : Cursor) (s : Situation) (d : Cursor) (t : Situation) : Prop :=
  s.run number? final c.lexemes = t.run number? final d.lexemes

/-- The fault is the error that the outcome refuses a source of the name with. -/
def Reports (name : String) (outcome : Except Refusal Term) (fault : Fault) : Prop :=
  ∃ refusal, fault = .expression (refusal.toError name) ∧ outcome = .error refusal

/-- The cursor is one of a source that has the name and ends before the position. -/
structure Within (name : String) (final : Nat) (c : Cursor) : Prop where
  name_eq : c.name = name
  final_eq : c.source.length + 1 = final

variable {number? final} {name : String} {c d : Cursor} {s t u : Situation}

theorem Within.skip (within : Within name final c) (count : Nat) :
    Within name final (c.skip count) :=
  ⟨within.name_eq, by rw [c.source_skip, within.final_eq]⟩

theorem Within.moves (within : Within name final c) (moves : Moves c size d) :
    Within name final d := by
  obtain ⟨count, _, rfl, _⟩ := moves
  exact within.skip count

theorem Within.position (within : Within name final c) (ahead : c.ahead = []) :
    c.position = final := by
  rw [← within.final_eq, Cursor.position, Cursor.source, ahead, List.append_nil,
    List.length_reverse]

theorem Leads.trans (first : Leads number? final c s d t) (second : Leads number? final d t e u) :
    Leads number? final c s e u :=
  Eq.trans first second

theorem Leads.reports (leads : Leads number? final c s d t)
    (reports : Reports name (t.run number? final d.lexemes) fault) :
    Reports name (s.run number? final c.lexemes) fault := by
  rw [leads]
  exact reports

theorem leads_skipBlanks (c : Cursor) (s : Situation) :
    Leads number? final c s c.skipBlanks s := by
  rw [Leads, c.lexemes_skipBlanks]

theorem Within.reports (within : Within name final c)
    (refused : outcome = .error ⟨cause, c.position⟩) :
    Reports name outcome (c.malformed cause) :=
  ⟨_, by rw [Cursor.malformed, within.name_eq], refused⟩

theorem leads_take (ahead : c.skipBlanks.ahead = next :: rest)
    (separates : next.isAlphanum = false) (taken : s.take number? (.mark next) = .ok t) :
    Leads number? final c s (c.skipBlanks.skip 1) t := by
  rw [Leads, ← c.lexemes_skipBlanks,
    Cursor.lexemes_mark ahead (Cursor.isBlank_of_skipBlanks ahead) separates, Situation.run, taken]

theorem refused_take (ahead : c.skipBlanks.ahead = next :: rest)
    (refused : s.take number? (Lexeme.first next rest).1 = .error cause) :
    s.run number? final c.lexemes = .error ⟨cause, c.skipBlanks.position⟩ := by
  rw [← c.lexemes_skipBlanks, Cursor.lexemes_first ahead (Cursor.isBlank_of_skipBlanks ahead),
    Situation.run, refused]

/-- At the end of the source, what is unfinished is refused there. -/
theorem Within.refused_finish (within : Within name final c) (ahead : c.skipBlanks.ahead = [])
    (refused : s.finish = .error cause) :
    s.run number? final c.lexemes = .error ⟨cause, c.skipBlanks.position⟩ := by
  rw [← c.lexemes_skipBlanks, Cursor.lexemes_nil ahead, Situation.run, refused,
    (show Within name final c.skipBlanks from within.skip _).position ahead]

end

/-! ### Levels -/

theorem Absent.skipBlanks (absent : Absent wanted c) : Absent wanted c.skipBlanks := by
  rw [Absent, c.skipBlanks_skipBlanks]
  exact absent

namespace Level

/-- Nothing on top of the stack waits for less than an operation of the level. -/
def Awaits : Level → List Frame → Prop
  | sum => AwaitsSum
  | product => AwaitsProduct

/-- The operation of the level that is read when a product has been read inside a stack. -/
def finish : Level → Term × List Frame → Term × List Frame
  | sum, state => Term.finishProduct state.1 state.2
  | product, state => state

/-- What an operand of the level finishes. -/
def settle : Level → Term → List Frame → Term × List Frame
  | sum => Term.finishProduct
  | product => Term.finishAtom

def frame : Level → Term → BinaryOperator → Frame
  | sum => .sum
  | product => .product

/-- No operator comes next that an operand of the level would go on with. -/
def Ready : Level → Cursor → Prop
  | sum, c => Absent Term.multiplicative? c
  | product, _ => True

/-- No operator comes next that an operation of the level would go on with. -/
def Over (level : Level) (c : Cursor) : Prop :=
  level.Ready c ∧ Absent level.operator? c

variable {level : Level} {c : Cursor}

theorem Ready.skipBlanks (ready : level.Ready c) : level.Ready c.skipBlanks := by
  cases level with
  | sum => exact Absent.skipBlanks ready
  | product => trivial

theorem settle_eq (awaits : level.Awaits stack) (term : Term) :
    level.settle term stack = (term, stack) := by
  cases level with
  | sum => exact finishProduct_eq awaits term
  | product => exact finishAtom_eq awaits term

theorem settle_frame (level : Level) (left right : Term) (op : BinaryOperator)
    (stack : List Frame) :
    level.settle right (level.frame left op :: stack) = (.binary op left right, stack) := by
  cases level <;> rfl

theorem operator_symbol (found : level.operator? next = some op) : next = op.symbol := by
  cases level with
  | sum => exact (additive_symbol found).1
  | product => exact (multiplicative_symbol found).1

/-- An operator of the level opens its right side after the operation on its left. -/
theorem take_operator (ready : level.Ready c) (ahead : c.skipBlanks.ahead = next :: rest)
    (found : level.operator? next = some op) (finished : level.finish state = (left, stack)) :
    (Situation.following state).take number? (.mark next) =
      .ok (.operand (level.frame left op :: stack)) := by
  cases level with
  | sum =>
    have looser := (absent_cons ahead).mp ready
    simp only [finish] at finished
    simp only [operator?] at found
    simp only [Situation.take, Situation.takeFollowing, looser, found, finished, frame]
  | product =>
    simp only [finish] at finished
    simp only [operator?] at found
    simp only [Situation.take, Situation.takeFollowing, found, finished, frame]

end Level

/-! ### Marks -/

theorem eq_of_exactly (found : exactly mark next = some u) : next = mark := by
  by_contra different
  rw [exactly, if_neg different] at found
  contradiction

theorem ne_of_absent {c : Cursor} (absent : Absent (exactly mark) c)
    (ahead : c.skipBlanks.ahead = next :: rest) : next ≠ mark := by
  rintro rfl
  have none := (absent_cons ahead).mp absent
  simp [exactly] at none

/-- A mark that does not come next is not the next lexeme. -/
theorem not_mark_of_absent {c : Cursor} (absent : Absent (exactly mark) c) :
    c.lexemes ≠ ⟨.mark mark, position⟩ :: more := by
  rw [← c.lexemes_skipBlanks]
  cases ahead : c.skipBlanks.ahead with
  | nil => simp [Cursor.lexemes_nil ahead]
  | cons next rest =>
    rw [Cursor.lexemes_first ahead (Cursor.isBlank_of_skipBlanks ahead)]
    intro same
    have first := congrArg LocatedLexeme.lexeme (List.cons.inj same).1
    unfold Lexeme.first at first
    split_ifs at first
    exact ne_of_absent absent ahead (Lexeme.mark.inj first)

/-! ### Following -/

section
variable {number? : String → Option Value} {final : Nat} {c : Cursor}

/-- A mark that is no operator is taken after a sum. -/
theorem take_afterSum (ended : Level.sum.Over c) (ahead : c.skipBlanks.ahead = next :: rest)
    (finished : Term.finishProduct state.1 state.2 = sum) :
    (Situation.following state).take number? (.mark next) = Situation.takeAfterSum next sum := by
  have noFactor := (absent_cons ahead).mp ended.1
  have noAddend : Term.additive? next = none := (absent_cons ahead).mp ended.2
  simp only [Situation.take, Situation.takeFollowing, noFactor, noAddend, finished]

theorem takeAfterSum_group (different : next ≠ ')') :
    Situation.takeAfterSum next (sum, .group :: stack) = .error .closingParenthesisExpected :=
  Situation.takeAfterSum.eq_4 _ _ _ (fun _ closing => absurd closing different) nofun nofun

theorem takeAfterSum_call (noClosing : next ≠ ')') (noComma : next ≠ ',') :
    Situation.takeAfterSum next (sum, .call name inputs :: stack) = .error .commaExpected :=
  Situation.takeAfterSum.eq_4 _ _ _ nofun (fun _ _ _ closing => absurd closing noClosing)
    fun _ _ _ comma => absurd comma noComma

theorem takeAfterSum_nil (next : Char) (sum : Term) :
    Situation.takeAfterSum next (sum, []) = .error .notAnExpression :=
  Situation.takeAfterSum.eq_4 _ _ _ nofun nofun nofun

/-- What comes after a sum and is neither an operator nor taken there is refused. -/
theorem refused_afterSum (ended : Level.sum.Over c) (ahead : c.skipBlanks.ahead = next :: rest)
    (finished : Term.finishProduct state.1 state.2 = (sum, stack))
    (refused : Situation.takeAfterSum next (sum, stack) = .error (Term.refuseAfterSum stack)) :
    (Situation.following state).run number? final c.lexemes =
      .error ⟨Term.refuseAfterSum stack, c.skipBlanks.position⟩ := by
  refine refused_take ahead ?_
  by_cases digit : next.isDigit = true
  · simp [Lexeme.first, digit, Situation.take, Situation.takeFollowing, finished]
  · by_cases letter : next.isAlpha = true
    · simp [Lexeme.first, digit, letter, Situation.take, Situation.takeFollowing, finished]
    · have mark : (Lexeme.first next rest).1 = .mark next := by
        simp [Lexeme.first, digit, letter]
      rw [mark, take_afterSum ended ahead finished, refused]

end

end Formula.Descent
