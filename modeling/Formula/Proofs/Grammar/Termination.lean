import Formula.Proofs.Grammar.Agreement

/-! Reading ends, and moves on all the way. No call of a routine needs a bound: each comes to an end
because what it returns has been paid for with characters of the source. Since the routines read
every source as reading does, this is how reading goes. -/
namespace Formula.Descent
open Grammar

/-- The routines that return a tree. -/
inductive Routine where
  | sum
  | product
  | atom
  | number
  | identifier

namespace Routine

def run (number? : String → Option Value) : Routine → Cursor → Attempt (Term × Cursor)
  | sum => Descent.run number? (.operation .sum)
  | product => Descent.run number? (.operation .product)
  | atom => Descent.run number? .atom
  | number => Descent.number number?
  | identifier => Descent.identifier (Descent.run number?)

/-- What is next where the routine is called. -/
def Enters : Routine → Cursor → Prop
  | number, c => ∃ digit rest, c.ahead = digit :: rest ∧ digit.isDigit = true
  | identifier, c => ∃ letter rest, c.ahead = letter :: rest ∧ letter.isAlpha = true
  | sum, _ | product, _ | atom, _ => True

theorem reads (number? : String → Option Value) (routine : Routine) {c : Cursor}
    (enters : routine.Enters c) : ReadsTree c (routine.run number? c) := by
  cases routine with
  | sum | product | atom => exact Descent.reads number? _ c rfl
  | number =>
    obtain ⟨digit, rest, ahead, isDigit⟩ := enters
    exact reads_number ahead isDigit
  | identifier =>
    obtain ⟨letter, rest, ahead, isAlpha⟩ := enters
    exact reads_identifier (goes_below number? c) ahead isAlpha

end Routine

/-- The second cursor is the first one moved on over so many characters of those ahead, and over at
least one. -/
def Consumes (c : Cursor) (count : Nat) (d : Cursor) : Prop :=
  0 < count ∧ count ≤ c.ahead.length ∧ d = c.skip count

theorem Moves.consumes (moves : Moves c size d) (some : 0 < size) :
    ∃ count, Consumes c count d ∧ size ≤ inked (c.ahead.take count) := by
  obtain ⟨count, within, same, enough⟩ := moves
  refine ⟨count, ⟨?_, within, same⟩, enough⟩
  rcases Nat.eq_zero_or_pos count with rfl | positive
  · exact absurd enough (Nat.not_le.mpr some)
  · exact positive

/-- Every call comes to an end. Where a routine returns a tree, it has gone over at least one
character, over none past the end, and over at least as many characters that are no white space as
the tree has nodes; and a pass of a loop after which the loop goes on has gone over at least one
character. So reading any source by the routines comes to an end, and it gives the tree or the error
that reading gives. -/
theorem read_ends (number? : String → Option Value) (source name : String) :
    (∀ what c, Halts (fun _ => True) (fun _ => True) (run number? what c)) ∧
    (∀ (routine : Routine) c, routine.Enters c → Halts
      (fun r => ∃ count, Consumes c count r.2 ∧ r.1.size ≤ inked (c.ahead.take count))
      (fun _ => True) (routine.run number? c)) ∧
    (∀ level left c, Halts (fun r => ∀ longer ∈ r.1, ∃ count, Consumes c count r.2)
      (fun _ => True) (operator (run number?) level left c)) ∧
    (∀ inputs c, Halts (fun r => ∀ input ∈ r.1, ∃ count, Consumes c count r.2)
      (fun _ => True) (argument (run number?) inputs c)) ∧
    read number? source name = settled (match Term.read number? source with
      | .ok term => .ok term
      | .error refusal => .error (.expression (refusal.toError name))) := by
  refine ⟨fun what c => ?_, fun routine c enters => ?_, fun level left c => ?_,
    fun inputs c => ?_, read_eq number? source name⟩
  · exact (goes number? what c).imp (fun _ _ => trivial) fun _ _ => trivial
  · exact (routine.reads number? enters).imp
      (fun r moved => moved.consumes r.1.size_pos) fun _ _ => trivial
  · refine (operator_moves (goes_below number? c) level left).imp ?_ fun _ _ => trivial
    rintro r ⟨size, enough, moved⟩ longer found
    obtain ⟨count, consumes, _⟩ := moved.consumes (enough longer found).1
    exact ⟨count, consumes⟩
  · refine (argument_moves (goes_below number? c) inputs).imp ?_ fun _ _ => trivial
    rintro r ⟨size, some, _, moved⟩ _ _
    obtain ⟨count, consumes, _⟩ := moved.consumes some
    exact ⟨count, consumes⟩

/-- A name with an argument is read where its first letter is next. -/
theorem read_ends_of_name :
    Routine.identifier.Enters (.start "f( x)" "<expr>") ∧
    Halts (fun r => ∃ count, Consumes (.start "f( x)" "<expr>") count r.2 ∧
        r.1.size ≤ inked (['f', '(', ' ', 'x', ')'].take count))
      (fun _ => True) (Routine.identifier.run NumberKind.int.read? (.start "f( x)" "<expr>")) := by
  have enters : Routine.identifier.Enters (.start "f( x)" "<expr>") := ⟨'f', _, rfl, rfl⟩
  exact ⟨enters, (read_ends NumberKind.int.read? "f( x)" "<expr>").2.1 .identifier _ enters⟩

end Formula.Descent
