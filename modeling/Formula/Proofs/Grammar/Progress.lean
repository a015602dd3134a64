import Formula.Proofs.Grammar.Descent

/-! Progress of recursive descent. A call comes to an end if those that begin farther on do: what it
begins at its own cursor is of a lower level, and everything else begins after at least one
character has been gone over. Whatever a call returns has gone over at least one character that is
no white space for every node that it has added to what it had at hand. -/
namespace Formula.Tree

theorem size_pos (tree : Tree ν φ) : 0 < tree.size := by
  cases tree <;> exact Nat.succ_pos _

theorem sizeAll_concat (trees : List (Tree ν φ)) (tree : Tree ν φ) :
    sizeAll (trees ++ [tree]) = sizeAll trees + tree.size := by
  induction trees with
  | nil => simp [sizeAll]
  | cons first trees ih => simp only [List.cons_append, sizeAll, ih, Nat.add_assoc]

end Formula.Tree

namespace Formula.Cursor

variable {c : Cursor}

theorem peek_cons (ahead : c.ahead = next :: rest) : c.peek = .ok next := by
  rw [peek, ahead]

theorem peek_nil (ahead : c.ahead = []) :
    c.peek = .error (c.malformed .endOfInput) := by
  rw [peek, ahead]
  rfl

theorem isBlank_of_skipBlanks (ahead : c.skipBlanks.ahead = next :: rest) :
    Text.isBlank next = false := by
  rw [ahead_skipBlanks] at ahead
  have stopped := List.head?_dropWhile_not Text.isBlank c.ahead
  rw [ahead] at stopped
  simpa using stopped

end Formula.Cursor

namespace Formula.Descent
open Grammar

/-! ### Attempts that end -/

/-- The attempt ends, with a result or a fault of which this holds. -/
inductive Halts (P : α → Prop) (E : Fault → Prop) : Attempt α → Prop where
  | result : P a → Halts P E (settled (.ok a))
  | fault : E fault → Halts P E (settled (.error fault))

section
variable {P : α → Prop} {Q : β → Prop} {E : Fault → Prop} {m : Attempt α} {f : α → Attempt β}

theorem settled_ok_bind (a : α) (f : α → Attempt β) : settled (.ok a) >>= f = f a :=
  Part.bind_some _ _

theorem settled_error_bind (fault : Fault) (f : α → Attempt β) :
    settled (.error fault) >>= f = settled (.error fault) :=
  Part.bind_some _ _

theorem Halts.bind (first : Halts P E m) (next : ∀ a, P a → Halts Q E (f a)) :
    Halts Q E (m >>= f) := by
  cases first with
  | result holds =>
    rw [settled_ok_bind]
    exact next _ holds
  | fault holds =>
    rw [settled_error_bind]
    exact .fault holds

theorem Halts.imp {P' : α → Prop} {E' : Fault → Prop} (halts : Halts P E m)
    (result : ∀ a, P a → P' a) (fault : ∀ f, E f → E' f) : Halts P' E' m := by
  cases halts with
  | result holds => exact .result (result _ holds)
  | fault holds => exact .fault (fault _ holds)

theorem Halts.of_ok {a : α} (halts : Halts P E (settled (.ok a))) : P a := by
  generalize same : settled (.ok a) = m at halts
  cases halts with
  | result holds =>
    cases Part.some_injective same
    exact holds
  | fault => cases Part.some_injective same

theorem Halts.and {P' : α → Prop} (halts : Halts P (fun _ => True) m) (other : Halts P' E m) :
    Halts (fun a => P a ∧ P' a) E m := by
  cases other with
  | result holds => exact .result ⟨halts.of_ok, holds⟩
  | fault holds => exact .fault holds

end

section
variable {c d : Cursor}

/-- The character after white space is none of the wanted ones. -/
def Absent (wanted : Char → Option α) (c : Cursor) : Prop :=
  ∀ next, c.skipBlanks.ahead.head? = some next → wanted next = none

theorem absent_nil (ahead : c.skipBlanks.ahead = []) : Absent wanted c := by
  rw [Absent, ahead]
  exact nofun

theorem absent_cons (ahead : c.skipBlanks.ahead = next :: rest) :
    Absent wanted c ↔ wanted next = none := by
  simp [Absent, ahead]

/-- Accepting goes over a character that is wanted, and fails on none. -/
theorem accept_cases (wanted : Char → Option α) (c : Cursor) :
    (∃ next rest found, c.skipBlanks.ahead = next :: rest ∧ wanted next = some found ∧
      accept wanted c = .ok (some found, c.skipBlanks.skip 1)) ∨
    Absent wanted c ∧ accept wanted c = .ok (none, c.skipBlanks) := by
  cases ahead : c.skipBlanks.ahead with
  | nil => exact .inr ⟨absent_nil ahead, by simp only [accept, ahead]; rfl⟩
  | cons next rest =>
    cases found : wanted next with
    | some a =>
      refine .inl ⟨next, rest, a, rfl, found, ?_⟩
      simp only [accept, ahead, List.head?_cons, Option.bind_some, found,
        Cursor.advance_cons ahead]
      rfl
    | none =>
      refine .inr ⟨(absent_cons ahead).mpr found, ?_⟩
      simp only [accept, ahead, List.head?_cons, Option.bind_some, found]
      rfl

end

/-! ### Progress -/

/-- The number of characters that are no white space. -/
def inked (text : List Char) : Nat :=
  text.countP fun c => !Text.isBlank c

/-- The second cursor is the first one moved on in its source, over at least so many characters that
are no white space. -/
def Moves (c : Cursor) (size : Nat) (d : Cursor) : Prop :=
  ∃ count, count ≤ c.ahead.length ∧ d = c.skip count ∧ size ≤ inked (c.ahead.take count)

section
variable {c d e : Cursor}

theorem Moves.trans (first : Moves c size d) (second : Moves d more e) :
    Moves c (size + more) e := by
  obtain ⟨count, within, rfl, enough⟩ := first
  obtain ⟨further, withinRest, rfl, enoughMore⟩ := second
  rw [Cursor.ahead_skip] at withinRest enoughMore
  rw [List.length_drop] at withinRest
  refine ⟨count + further, by omega, c.skip_skip count further, ?_⟩
  rw [List.take_add, inked, List.countP_append]
  exact Nat.add_le_add enough enoughMore

theorem Moves.mono (moves : Moves c more d) (fewer : size ≤ more) : Moves c size d := by
  obtain ⟨count, within, same, enough⟩ := moves
  exact ⟨count, within, same, Nat.le_trans fewer enough⟩

theorem Moves.length (moves : Moves c size d) : d.ahead.length + size ≤ c.ahead.length := by
  obtain ⟨count, within, rfl, enough⟩ := moves
  have fewer := List.countP_le_length (p := fun c => !Text.isBlank c) (l := c.ahead.take count)
  rw [inked] at enough
  rw [List.length_take] at fewer
  rw [Cursor.ahead_skip, List.length_drop]
  omega

theorem moves_skipBlanks (c : Cursor) : Moves c 0 c.skipBlanks :=
  ⟨_, c.length_blanks_le, rfl, Nat.zero_le _⟩

theorem moves_text (text : next :: more <+: c.ahead) (blank : Text.isBlank next = false) :
    Moves c 1 (c.skip (next :: more).length) := by
  refine ⟨_, text.length_le, rfl, ?_⟩
  rw [← List.prefix_iff_eq_take.mp text, inked, List.countP_cons, blank]
  exact Nat.le_add_left _ _

theorem moves_advance (ahead : c.ahead = next :: rest) (blank : Text.isBlank next = false) :
    Moves c 1 (c.skip 1) :=
  moves_text (by rw [ahead]; exact ⟨rest, rfl⟩ : [next] <+: c.ahead) blank

theorem moves_accept (wanted : Char → Option α) (c : Cursor) :
    Halts (fun r => Moves c (if r.1.isSome then 1 else 0) r.2) (fun _ => True)
      (settled (accept wanted c)) := by
  rcases accept_cases wanted c with ⟨next, rest, found, ahead, _, same⟩ | ⟨_, same⟩
  · have advanced := moves_advance ahead (Cursor.isBlank_of_skipBlanks ahead)
    rw [same]
    exact .result ((moves_skipBlanks c).trans advanced)
  · rw [same]
    exact .result (moves_skipBlanks c)

end

section
variable (number? : String → Option Value)

/-- A routine that comes to an end, and moves on if it returns a tree. -/
def ReadsTree (c : Cursor) : Attempt (Term × Cursor) → Prop :=
  Halts (fun r => Moves c r.1.size r.2) fun _ => True

/-- The number of nodes that a call has at hand when it begins. -/
def Call.held : Call → Nat
  | operation _ | atom => 0
  | operators _ left => left.size
  | arguments _ inputs => Tree.sizeAll inputs

/-- A call that comes to an end, and moves on as far as the tree that it returns has grown. -/
def Goes (what : Call) (c : Cursor) : Prop :=
  Halts (fun r => ∃ size, r.1.size ≤ what.held + size ∧ Moves c size r.2) (fun _ => True)
    (run number? what c)

variable {number?} {c : Cursor}

theorem ReadsTree.goes {what : Call} (reads : ReadsTree c (run number? what c)) :
    Goes number? what c :=
  reads.imp (fun _ moved => ⟨_, Nat.le_add_left _ _, moved⟩) fun _ _ => trivial

theorem Goes.reads {what : Call} (goes : Goes number? what c) (none : what.held = 0) :
    ReadsTree c (run number? what c) := by
  refine goes.imp ?_ fun _ _ => trivial
  rintro r ⟨size, enough, moved⟩
  exact moved.mono (by omega)

theorem ReadsTree.after (moves : Moves c 0 d) {attempt : Attempt (Term × Cursor)}
    (reads : ReadsTree d attempt) : ReadsTree c attempt :=
  reads.imp (fun _ moved => (moves.trans moved).mono (by omega)) fun _ _ => trivial

theorem reads_number (ahead : c.ahead = d :: rest) (digit : d.isDigit = true) :
    ReadsTree c (number number? c) := by
  obtain ⟨more, text⟩ := exists_longestNumber_cons digit rest
  have begins := isPrefix_longestNumber c.ahead
  rw [number, Cursor.readNumber_eq]
  cases number? (String.ofList (Lexeme.longestNumber c.ahead)) with
  | none =>
    rw [settled_error_bind]
    exact .fault trivial
  | some value =>
    rw [ahead, text, ← ahead] at begins
    rw [settled_ok_bind, ahead, text]
    exact .result (moves_text begins (isBlank_of_isAlphanum (isAlphanum_of_isDigit digit)))

variable (number? c) in
/-- Where less is ahead, every call goes on. -/
def Below : Prop :=
  ∀ what (d : Cursor), d.ahead.length < c.ahead.length → Goes number? what d

theorem Below.after (below : Below number? c) (moves : Moves c size d) : Below number? d := by
  have within := moves.length
  exact fun what e less => below what e (by omega)

theorem Below.goes (below : Below number? c) (moves : Moves c size d) (some : 0 < size)
    (what : Call) : Goes number? what d := by
  have shorter := moves.length
  exact below what d (by omega)

theorem moves_name (ahead : c.ahead = letter :: rest) (alphabetic : letter.isAlpha = true) :
    Moves c 1 (c.skip (c.ahead.takeWhile Char.isAlphanum).length) := by
  have word := isAlphanum_of_isAlpha alphabetic
  have begins := List.takeWhile_prefix (l := c.ahead) Char.isAlphanum
  rw [ahead, List.takeWhile_cons_of_pos word, ← ahead] at begins
  rw [ahead, List.takeWhile_cons_of_pos word]
  exact moves_text begins (isBlank_of_isAlphanum word)

theorem reads_identifier (below : Below number? c) (ahead : c.ahead = letter :: rest)
    (alphabetic : letter.isAlpha = true) : ReadsTree c (identifier (run number?) c) := by
  have named := moves_name ahead alphabetic
  refine (moves_accept _ _).bind ?_
  rintro ⟨found, d⟩ further
  have moved := named.trans further
  cases found with
  | none => exact .result moved
  | some mark =>
    refine (below.goes moved (by omega) (.arguments _ [])).imp ?_ fun _ _ => trivial
    rintro ⟨term, e⟩ ⟨size, enough, last⟩
    refine (moved.trans last).mono ?_
    simp only [Call.held, Tree.sizeAll] at enough
    dsimp only
    omega

theorem moves_close (inner : Term) (c : Cursor) :
    Halts (fun r => r.1 = inner ∧ Moves c 0 r.2) (fun _ => True) (close inner c) := by
  refine (moves_accept _ _).bind ?_
  rintro ⟨found, d⟩ moved
  cases found with
  | some => exact .result ⟨rfl, moved.mono (Nat.zero_le _)⟩
  | none => exact .fault trivial

theorem reads_atom (below : Below number? c) : ReadsTree c (run number? .atom c) := by
  have skipped := moves_skipBlanks c
  rw [run_eq]
  change ReadsTree c (atom number? (run number?) c)
  rw [atom]
  cases ahead : c.skipBlanks.ahead with
  | nil =>
    rw [Cursor.peek_nil ahead, settled_error_bind]
    exact .fault trivial
  | cons next rest =>
    have advanced := skipped.trans (moves_advance ahead (Cursor.isBlank_of_skipBlanks ahead))
    have shorter := below.goes advanced Nat.one_pos
    simp only [Cursor.peek_cons ahead, Cursor.advance_cons ahead, settled_ok_bind]
    split_ifs with digit letter minus opening
    · exact (reads_number ahead digit).after skipped
    · exact (reads_identifier (below.after skipped) ahead letter).after skipped
    · refine ((shorter .atom).reads rfl).bind ?_
      rintro ⟨operand, d⟩ moved
      exact .result ((advanced.trans moved).mono (by simp only [Tree.size]; omega))
    · refine ((shorter (.operation .sum)).reads rfl).bind ?_
      rintro ⟨inner, d⟩ moved
      refine (moves_close inner d).imp ?_ fun _ _ => trivial
      rintro r ⟨same, further⟩
      exact ((advanced.trans moved).trans further).mono (by dsimp only at same ⊢; rw [same]; omega)
    · exact .fault trivial

theorem reads_operand (level : Level) (product : ReadsTree c (run number? (.operation .product) c))
    (atom : ReadsTree c (run number? .atom c)) : ReadsTree c (operand (run number?) level c) := by
  cases level with
  | sum => exact product
  | product => exact atom

/-- A pass of the loop over operators moves on if it finds one. -/
theorem operator_moves (below : Below number? c) (level : Level) (left : Term) :
    Halts (fun r => ∃ size, (∀ longer ∈ r.1, 0 < size ∧ longer.size ≤ left.size + size) ∧
      Moves c size r.2) (fun _ => True) (operator (run number?) level left c) := by
  refine (moves_accept _ _).bind ?_
  rintro ⟨found, d⟩ moved
  cases found with
  | none => exact .result ⟨_, nofun, moved⟩
  | some op =>
    have shorter := below.goes moved Nat.one_pos
    have product := (shorter (.operation .product)).reads rfl
    have atom := (shorter .atom).reads rfl
    refine (reads_operand level product atom).bind ?_
    rintro ⟨right, e⟩ further
    refine .result ⟨_, ?_, moved.trans further⟩
    rintro _ ⟨⟩
    simp only [Tree.size, Option.isSome_some, if_true]
    omega

theorem goes_operators (below : Below number? c) (level : Level) (left : Term) :
    Goes number? (.operators level left) c := by
  rw [Goes, run_eq]
  refine (operator_moves below level left).bind ?_
  rintro ⟨found, d⟩ ⟨size, enough, moved⟩
  cases found with
  | none => exact .result ⟨0, Nat.le_refl _, moved.mono (Nat.zero_le _)⟩
  | some longer =>
    obtain ⟨some, longerSize⟩ := enough longer rfl
    refine (below.goes moved some (.operators level longer)).imp ?_ fun _ _ => trivial
    rintro ⟨term, e⟩ ⟨more, termSize, further⟩
    refine ⟨size + more, ?_, moved.trans further⟩
    simp only [Call.held] at termSize ⊢
    omega

theorem reads_of_operand (below : Below number? c) {level : Level}
    (operand : ReadsTree c (operand (run number?) level c)) :
    ReadsTree c (run number? (.operation level) c) := by
  rw [run_eq]
  refine operand.bind ?_
  rintro ⟨left, d⟩ moved
  refine (goes_operators (below.after moved) level left).imp ?_ fun _ _ => trivial
  rintro ⟨term, e⟩ ⟨more, enough, further⟩
  exact (moved.trans further).mono enough

theorem reads_operation (below : Below number? c) (level : Level) :
    ReadsTree c (run number? (.operation level) c) := by
  -- A sum begins with a product at its own cursor, where less is not ahead.
  have product : ReadsTree c (run number? (.operation .product) c) :=
    reads_of_operand below (reads_atom below)
  cases level with
  | product => exact product
  | sum => exact reads_of_operand below product

/-- A pass of the loop over arguments moves on. -/
theorem argument_moves (below : Below number? c) (inputs : List Term) :
    Halts (fun r => ∃ size, 0 < size ∧ (∀ input ∈ r.1, input.size ≤ size) ∧ Moves c size r.2)
      (fun _ => True) (argument (run number?) inputs c) := by
  have skipped := moves_skipBlanks c
  rw [argument]
  cases ahead : c.skipBlanks.ahead with
  | nil =>
    rw [Cursor.peek_nil ahead, settled_error_bind]
    exact .fault trivial
  | cons next rest =>
    have advanced := skipped.trans (moves_advance ahead (Cursor.isBlank_of_skipBlanks ahead))
    simp only [Cursor.peek_cons ahead, Cursor.advance_cons ahead, settled_ok_bind]
    split_ifs with closing first comma
    · exact .result ⟨_, Nat.one_pos, nofun, advanced⟩
    · refine (reads_operation (below.after skipped) .sum).bind ?_
      rintro ⟨input, d⟩ moved
      refine .result ⟨_, ?_, ?_, skipped.trans moved⟩
      · exact Nat.lt_of_lt_of_le input.size_pos (Nat.le_add_left _ _)
      · rintro _ ⟨⟩
        exact Nat.le_add_left _ _
    · refine ((below.goes advanced Nat.one_pos (.operation .sum)).reads rfl).bind ?_
      rintro ⟨input, d⟩ moved
      refine .result ⟨_, ?_, ?_, advanced.trans moved⟩
      · omega
      · rintro _ ⟨⟩
        exact Nat.le_add_left _ _
    · exact .fault trivial

theorem goes_arguments (below : Below number? c) (name : String) (inputs : List Term) :
    Goes number? (.arguments name inputs) c := by
  rw [Goes, run_eq]
  refine (argument_moves below inputs).bind ?_
  rintro ⟨found, d⟩ ⟨size, some, enough, moved⟩
  cases found with
  | none =>
    refine .result ⟨size, ?_, moved⟩
    simp only [Tree.size, Call.held]
    omega
  | some input =>
    refine (below.goes moved some (.arguments name (inputs ++ [input]))).imp ?_
      fun _ _ => trivial
    rintro ⟨all, e⟩ ⟨more, enoughMore, further⟩
    refine ⟨size + more, ?_, moved.trans further⟩
    have inputSize := enough input rfl
    simp only [Call.held, Tree.sizeAll_concat] at enoughMore ⊢
    omega

variable (number?) in
/-- Every call comes to an end, and goes on as far as its tree grows. -/
theorem goes (what : Call) (c : Cursor) : Goes number? what c := by
  generalize length : c.ahead.length = size
  induction size using Nat.strongRecOn generalizing what c with
  | ind size ih =>
    subst length
    have below : Below number? c := fun what d less => ih _ less what d rfl
    cases what with
    | operation level => exact (reads_operation below level).goes
    | operators level left => exact goes_operators below level left
    | atom => exact (reads_atom below).goes
    | arguments name inputs => exact goes_arguments below name inputs

variable (number?) in
theorem goes_below (c : Cursor) : Below number? c :=
  fun what d _ => goes number? what d

variable (number?) in
theorem reads (what : Call) (c : Cursor) (none : what.held = 0) :
    ReadsTree c (run number? what c) :=
  (goes number? what c).reads none

end

end Formula.Descent
