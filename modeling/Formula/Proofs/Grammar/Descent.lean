import Formula.Proofs.Grammar.LongestMatch
import Mathlib.Control.LawfulFix

/-! Reading by recursive descent. There is one routine for each level of precedence, one for atoms,
one for numbers, and one for names with their arguments. The routines begin calls of each other, and
the loops over operators and arguments go on while there are any; nothing bounds them. What calls do
is therefore the least solution of the equations between them, and it may be to come to no end. The
routines are continuous in what the calls inside them do, so that the equations hold of it. -/
namespace Formula.Descent
open Grammar OmegaCompletePartialOrder

/-- A computation that gives a result or a fault, or comes to no end. -/
abbrev Attempt (α : Type) := ExceptT Fault Part α

noncomputable instance : OmegaCompletePartialOrder (Attempt α) :=
  inferInstanceAs (OmegaCompletePartialOrder (Part (Except Fault α)))

def settled (outcome : Except Fault α) : Attempt α :=
  ExceptT.mk (Part.some outcome)

/-- The levels of precedence of binary operators. -/
inductive Level where
  | sum
  | product

def Level.operator? : Level → Char → Option BinaryOperator
  | sum => Term.additive?
  | product => Term.multiplicative?

/-- What can be begun at a cursor: the operands of a level with the operators between them, the
operators after a left side, an atom, and the arguments of a call after those read so far. -/
inductive Call where
  | operation (level : Level)
  | operators (level : Level) (left : Term)
  | atom
  | arguments (name : String) (inputs : List Term)

/-- Goes over white space, and over the next character if it is one of the wanted ones. -/
def accept (wanted : Char → Option α) (c : Cursor) : Except Fault (Option α × Cursor) :=
  let c := c.skipBlanks
  match c.ahead.head?.bind wanted with
  | some found => do
    let (_, c) ← c.advance
    pure (some found, c)
  | none => pure (none, c)

def exactly (mark : Char) (c : Char) : Option Unit :=
  if c = mark then some () else none

/-! ### Routines -/

section
variable (number? : String → Option Value) (call : Call → Cursor → Attempt (Term × Cursor))

/-- Reads the number that is next. -/
def number (c : Cursor) : Attempt (Term × Cursor) := do
  let (value, c) ← settled (c.readNumber number?)
  pure (.literal value, c)

/-- Goes over the parenthesis that closes a group. -/
def close (inner : Term) (c : Cursor) : Attempt (Term × Cursor) := do
  match ← settled (accept (exactly ')') c) with
  | (some _, c) => pure (inner, c)
  | (none, c) => throw (c.malformed .closingParenthesisExpected)

/-- Reads what the operators of a level combine. -/
def operand (level : Level) (c : Cursor) : Attempt (Term × Cursor) :=
  match level with
  | .sum => call (.operation .product) c
  | .product => call .atom c

/-- Reads an operator with its right operand, if there is one. -/
def operator (level : Level) (left : Term) (c : Cursor) : Attempt (Option Term × Cursor) := do
  match ← settled (accept level.operator? c) with
  | (some op, c) =>
    let (right, c) ← operand call level c
    pure (some (.binary op left right), c)
  | (none, c) => pure (none, c)

/-- Reads the name that is next, and its arguments if a parenthesis follows. -/
def identifier (c : Cursor) : Attempt (Term × Cursor) := do
  let name := c.ahead.takeWhile Char.isAlphanum
  match ← settled (accept (exactly '(') (c.skip name.length)) with
  | (some _, c) => call (.arguments (String.ofList name) []) c
  | (none, c) => pure (.var (String.ofList name), c)

def atom (c : Cursor) : Attempt (Term × Cursor) := do
  let c := c.skipBlanks
  let next ← settled c.peek
  if next.isDigit then number number? c
  else if next.isAlpha then identifier call c
  else if next = '-' then
    let (_, c) ← settled c.advance
    let (operand, c) ← call .atom c
    pure (.negation operand, c)
  else if next = '(' then
    let (_, c) ← settled c.advance
    let (inner, c) ← call (.operation .sum) c
    close inner c
  else throw (c.malformed .valueExpected)

/-- Reads an argument after those read so far, or the closing parenthesis. -/
def argument (inputs : List Term) (c : Cursor) : Attempt (Option Term × Cursor) := do
  let c := c.skipBlanks
  let next ← settled c.peek
  if next = ')' then
    let (_, c) ← settled c.advance
    pure (none, c)
  else if inputs.isEmpty then
    let (input, c) ← call (.operation .sum) c
    pure (some input, c)
  else if next = ',' then
    let (_, c) ← settled c.advance
    let (input, c) ← call (.operation .sum) c
    pure (some input, c)
  else throw (c.malformed .commaExpected)

/-- What is done when a call begins, where further calls are begun in the given way. -/
def step : Call → Cursor → Attempt (Term × Cursor)
  | .operation level, c => do
    let (left, c) ← operand call level c
    call (.operators level left) c
  | .operators level left, c => do
    match ← operator call level left c with
    | (some longer, c) => call (.operators level longer) c
    | (none, c) => pure (left, c)
  | .atom, c => atom number? call c
  | .arguments name inputs, c => do
    match ← argument call inputs c with
    | (some input, c) => call (.arguments name (inputs ++ [input])) c
    | (none, c) => pure (.call name inputs, c)

instance : Fix (Call → Cursor → Attempt (Term × Cursor)) :=
  inferInstanceAs (Fix (Call → Cursor → Part (Except Fault (Term × Cursor))))

noncomputable instance : LawfulFix (Call → Cursor → Attempt (Term × Cursor)) :=
  inferInstanceAs (LawfulFix (Call → Cursor → Part (Except Fault (Term × Cursor))))

/-- What calls do: the least solution of their equations. -/
def run : Call → Cursor → Attempt (Term × Cursor) :=
  Fix.fix (step number?)

/-- Reads a source that is one expression with white space around its lexemes. -/
def read (source name : String) : Attempt Term := do
  let (term, c) ← run number? (.operation .sum) (.start source name)
  let c := c.skipBlanks
  if c.isAtEnd then pure term else throw (c.malformed .notAnExpression)

end

/-! ### Equations -/

section
variable {σ : Type} [OmegaCompletePartialOrder σ]

theorem continuous_const (attempt : Attempt α) : ωScottContinuous fun _ : σ => attempt :=
  ωScottContinuous.const

theorem continuous_bind {m : σ → Attempt α} {f : σ → α → Attempt β} (first : ωScottContinuous m)
    (next : ∀ a, ωScottContinuous fun s => f s a) : ωScottContinuous fun s => m s >>= f s := by
  refine ContinuousHom.ωScottContinuous.bind (α := σ) (β := Except Fault α)
    (γ := Except Fault β) (f := m) (g := fun s => ExceptT.bindCont (f s)) first
    (.of_apply₂ fun outcome => ?_)
  cases outcome with
  | ok a => exact next a
  | error fault => exact continuous_const (settled (.error fault))

theorem continuous_ite {first other : σ → Attempt α} (condition : Prop) [Decidable condition]
    (yes : ωScottContinuous first) (no : ωScottContinuous other) :
    ωScottContinuous fun s => if condition then first s else other s := by
  by_cases holds : condition
  · simpa only [if_pos holds] using yes
  · simpa only [if_neg holds] using no

end

section
variable (number? : String → Option Value)

theorem continuous_call (what : Call) (c : Cursor) :
    ωScottContinuous fun call : Call → Cursor → Attempt (Term × Cursor) => call what c :=
  (ωScottContinuous.apply what).apply₂ c

theorem continuous_operand (level : Level) (c : Cursor) :
    ωScottContinuous fun call => operand call level c := by
  cases level <;> exact continuous_call _ c

theorem continuous_operator (level : Level) (left : Term) (c : Cursor) :
    ωScottContinuous fun call => operator call level left c := by
  refine continuous_bind (continuous_const _) ?_
  rintro ⟨found, d⟩
  cases found with
  | none => exact continuous_const _
  | some op => exact continuous_bind (continuous_operand level d) fun _ => continuous_const _

theorem continuous_identifier (c : Cursor) : ωScottContinuous fun call => identifier call c := by
  refine continuous_bind (continuous_const _) ?_
  rintro ⟨found, d⟩
  cases found with
  | none => exact continuous_const _
  | some => exact continuous_call _ d

theorem continuous_atom (c : Cursor) : ωScottContinuous fun call => atom number? call c := by
  refine continuous_bind (continuous_const _) fun next => ?_
  refine continuous_ite _ (continuous_const _) ?_
  refine continuous_ite _ (continuous_identifier _) ?_
  refine continuous_ite _ ?_ (continuous_ite _ ?_ (continuous_const _))
  · refine continuous_bind (continuous_const _) fun advanced => ?_
    exact continuous_bind (continuous_call _ _) fun _ => continuous_const _
  · refine continuous_bind (continuous_const _) fun advanced => ?_
    exact continuous_bind (continuous_call _ _) fun _ => continuous_const _

theorem continuous_argument (inputs : List Term) (c : Cursor) :
    ωScottContinuous fun call => argument call inputs c := by
  refine continuous_bind (continuous_const _) fun next => ?_
  refine continuous_ite _ (continuous_const _) ?_
  refine continuous_ite _ ?_ (continuous_ite _ ?_ (continuous_const _))
  · exact continuous_bind (continuous_call _ _) fun _ => continuous_const _
  · refine continuous_bind (continuous_const _) fun advanced => ?_
    exact continuous_bind (continuous_call _ _) fun _ => continuous_const _

theorem continuous_step : ωScottContinuous (step number?) := by
  refine .of_apply₂ fun what => .of_apply₂ fun c => ?_
  cases what with
  | operation level =>
    exact continuous_bind (continuous_operand level c) fun _ => continuous_call _ _
  | operators level left =>
    refine continuous_bind (continuous_operator level left c) ?_
    rintro ⟨found, d⟩
    cases found with
    | none => exact continuous_const _
    | some longer => exact continuous_call _ d
  | atom => exact continuous_atom number? c
  | arguments name inputs =>
    refine continuous_bind (continuous_argument inputs c) ?_
    rintro ⟨found, d⟩
    cases found with
    | none => exact continuous_const _
    | some input => exact continuous_call _ d

/-- Calls do what the routines say, with the calls that are begun inside them doing the same. -/
theorem run_eq (what : Call) (c : Cursor) :
    run number? what c = step number? (run number?) what c :=
  congrFun (congrFun (LawfulFix.fix_eq (continuous_step number?)) what) c

end

end Formula.Descent
