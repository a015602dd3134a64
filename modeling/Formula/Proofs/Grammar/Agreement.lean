import Formula.Proofs.Grammar.AtCursor

/-! Recursive descent does what the automaton does. Where a call begins in a situation of the
automaton, the automaton goes on at the cursor that the call returns, in the situation in which the
tree of the call has been read; and where the call fails, the automaton refuses the same lexemes for
the same cause at the same position. So a source is read the same in both ways. -/
namespace Formula.Descent
open Grammar

/-! ### Calls -/

/-- A situation in which a call begins inside a stack. -/
inductive Begins : Call → Cursor → List Frame → Situation → Prop where
  | atom : Begins .atom c stack (.operand stack)
  | operation : level.Awaits stack → Begins (.operation level) c stack (.operand stack)
  | operators : level.Ready c → level.finish state = (left, stack) →
      Begins (.operators level left) c stack (.following state)
  | noArgument : Begins (.arguments name []) c stack (.opened name stack)
  | someArguments : Level.sum.Over c →
      Term.finishProduct state.1 state.2 = (last, .call name init :: stack) →
      Begins (.arguments name (last :: init).reverse) c stack (.following state)

/-- The situation after a call that has returned a term inside a stack. -/
def Ends : Call → List Frame → Term → Cursor → Situation → Prop
  | .operation level, stack, term, d, s | .operators level _, stack, term, d, s =>
    ∃ state, s = .following state ∧ level.Over d ∧ level.finish state = (term, stack)
  | .atom, stack, term, _, s | .arguments _ _, stack, term, _, s =>
    s = .following (Term.finishAtom term stack)

section
variable (number? : String → Option Value) (final : Nat) (name : String)

/-- The attempt does what the automaton does from a situation on: what it returns is so in the
situation in which the automaton goes on, and what it reports is what the automaton refuses. -/
def Follows (c : Cursor) (s : Situation) (after : α → Cursor → Situation → Prop) :
    Attempt (α × Cursor) → Prop :=
  Halts (fun r => ∃ t, after r.1 r.2 t ∧ Leads number? final c s r.2 t)
    (Reports name (s.run number? final c.lexemes))

def Agrees (what : Call) (c : Cursor) : Prop :=
  ∀ stack s, Begins what c stack s →
    Follows number? final name c s (Ends what stack) (run number? what c)

/-- Calls that begin farther on agree with the automaton. -/
def AgreesBelow (c : Cursor) : Prop :=
  ∀ what size d, Moves c size d → 0 < size → Agrees number? final name what d

variable {number? final name} {c d : Cursor} {s t : Situation}

theorem Follows.of_leads {after : α → Cursor → Situation → Prop} {attempt : Attempt (α × Cursor)}
    (leads : Leads number? final c s d t) (follows : Follows number? final name d t after attempt) :
    Follows number? final name c s after attempt := by
  refine follows.imp ?_ fun _ => leads.reports
  rintro r ⟨u, holds, further⟩
  exact ⟨u, holds, leads.trans further⟩

theorem Follows.imp {after other : α → Cursor → Situation → Prop} {attempt : Attempt (α × Cursor)}
    (follows : Follows number? final name c s after attempt)
    (weaker : ∀ a d t, after a d t → other a d t) :
    Follows number? final name c s other attempt :=
  Halts.imp follows (fun _ ⟨t, holds, leads⟩ => ⟨t, weaker _ _ t holds, leads⟩) fun _ => id

theorem follows_result {after : α → Cursor → Situation → Prop} {a : α} (holds : after a d t)
    (leads : Leads number? final c s d t) :
    Follows number? final name c s after (settled (.ok (a, d))) :=
  .result ⟨t, holds, leads⟩

theorem Within.follows_malformed {after : α → Cursor → Situation → Prop}
    (within : Within name final d)
    (refused : s.run number? final c.lexemes = .error ⟨cause, d.position⟩) :
    Follows number? final name c s after (settled (.error (d.malformed cause))) :=
  .fault (within.reports refused)

/-- What is done next begins where the first attempt has moved on to. -/
theorem Follows.bind_moved {after : α → Cursor → Situation → Prop} {P : α × Cursor → Prop}
    {next : β → Cursor → Situation → Prop} {m : Attempt (α × Cursor)}
    {f : α × Cursor → Attempt (β × Cursor)}
    (first : Follows number? final name c s after m) (moves : Halts P (fun _ => True) m)
    (rest : ∀ a d t, after a d t → P (a, d) → Follows number? final name d t next (f (a, d))) :
    Follows number? final name c s next (m >>= f) := by
  refine (moves.and first).bind ?_
  rintro ⟨a, d⟩ ⟨moved, t, holds, leads⟩
  exact (rest a d t holds moved).of_leads leads

theorem Follows.bind {after : α → Cursor → Situation → Prop}
    {next : β → Cursor → Situation → Prop} {m : Attempt (α × Cursor)}
    {f : α × Cursor → Attempt (β × Cursor)}
    (first : Follows number? final name c s after m)
    (rest : ∀ a d t, after a d t → Follows number? final name d t next (f (a, d))) :
    Follows number? final name c s next (m >>= f) :=
  first.bind_moved (Halts.imp first (fun _ _ => trivial) fun _ _ => trivial)
    fun a d t holds _ => rest a d t holds

theorem AgreesBelow.after (below : AgreesBelow number? final name c) (moves : Moves c 0 d) :
    AgreesBelow number? final name d :=
  fun what _ e further some => below what _ e (moves.trans further) (by omega)

theorem follows_number (within : Within name final c) (ahead : c.ahead = digit :: rest)
    (isDigit : digit.isDigit = true) (stack : List Frame) :
    Follows number? final name c (.operand stack) (Ends .atom stack) (number number? c) := by
  have lexemes := Cursor.lexemes_number ahead isDigit
  rw [number, Cursor.readNumber_eq]
  cases converted : number? (String.ofList (Lexeme.longestNumber c.ahead)) with
  | none =>
    rw [settled_error_bind]
    refine within.follows_malformed ?_
    rw [lexemes, Situation.run, Situation.take, Situation.takeOperand, converted]
  | some value =>
    rw [settled_ok_bind]
    refine follows_result rfl ?_
    rw [Leads, lexemes, Situation.run, Situation.take, Situation.takeOperand, converted]

theorem follows_identifier (below : AgreesBelow number? final name c)
    (ahead : c.ahead = letter :: rest) (alphabetic : letter.isAlpha = true) (stack : List Frame) :
    Follows number? final name c (.operand stack) (Ends .atom stack)
      (identifier (run number?) c) := by
  have lexemes := Cursor.lexemes_name ahead alphabetic
  have named := moves_name ahead alphabetic
  rw [identifier]
  generalize c.ahead.takeWhile Char.isAlphanum = text at lexemes named
  have leads : Leads number? final c (.operand stack) (c.skip text.length)
      (.named (String.ofList text) stack) := by
    rw [Leads, lexemes, Situation.run]
    rfl
  refine Follows.of_leads leads ?_
  rcases accept_cases (exactly '(') (c.skip text.length) with
    ⟨next, others, _, opening, isOpening, same⟩ | ⟨absent, same⟩
  · obtain rfl := eq_of_exactly isOpening
    have moved := named.trans
      ((moves_skipBlanks _).trans (moves_advance opening (Cursor.isBlank_of_skipBlanks opening)))
    rw [same, settled_ok_bind]
    refine Follows.of_leads (leads_take opening (by decide) rfl) ?_
    exact (below _ _ _ moved (by omega) stack _ .noArgument).imp fun _ _ _ same => same
  · rw [same, settled_ok_bind]
    refine follows_result rfl ?_
    rw [Leads, Situation.run_named _ _ _ _ (fun _ _ => not_mark_of_absent absent),
      Cursor.lexemes_skipBlanks]

theorem follows_close {inner : Term} (within : Within name final c) (ended : Level.sum.Over c)
    (finished : Term.finishProduct state.1 state.2 = (inner, .group :: stack)) :
    Follows number? final name c (.following state) (Ends .atom stack) (close inner c) := by
  rw [close]
  rcases accept_cases (exactly ')') c with
    ⟨next, rest, _, ahead, isClosing, same⟩ | ⟨absent, same⟩
  · obtain rfl := eq_of_exactly isClosing
    rw [same, settled_ok_bind]
    refine follows_result rfl (leads_take ahead (by decide) ?_)
    rw [take_afterSum ended ahead finished]
    rfl
  · rw [same, settled_ok_bind]
    refine (within.skip _).follows_malformed ?_
    cases ahead : c.skipBlanks.ahead with
    | nil =>
      refine within.refused_finish ahead ?_
      rw [Situation.finish, Term.finish, finished]
      rfl
    | cons next rest =>
      exact refused_afterSum ended ahead finished (takeAfterSum_group (ne_of_absent absent ahead))

theorem agrees_atom (within : Within name final c) (below : AgreesBelow number? final name c) :
    Agrees number? final name .atom c := by
  rintro stack _ ⟨⟩
  have skipped := moves_skipBlanks c
  have kept := within.moves skipped
  have leads : Leads number? final c (.operand stack) c.skipBlanks (.operand stack) :=
    leads_skipBlanks c _
  rw [run_eq]
  change Follows number? final name c (.operand stack) (Ends .atom stack)
    (atom number? (run number?) c)
  rw [atom]
  cases ahead : c.skipBlanks.ahead with
  | nil =>
    rw [Cursor.peek_nil ahead, settled_error_bind]
    exact kept.follows_malformed (within.refused_finish ahead rfl)
  | cons next rest =>
    have blank := Cursor.isBlank_of_skipBlanks ahead
    have advanced := skipped.trans (moves_advance ahead blank)
    simp only [Cursor.peek_cons ahead, Cursor.advance_cons ahead, settled_ok_bind]
    split_ifs with digit letter minus opening
    · exact .of_leads leads (follows_number kept ahead digit stack)
    · exact .of_leads leads (follows_identifier (below.after skipped) ahead letter stack)
    · subst minus
      refine .of_leads (leads_take ahead (by decide) rfl) ?_
      refine (below .atom _ _ advanced (by omega) (.negation :: stack) _ .atom).bind ?_
      rintro operand d _ rfl
      exact follows_result rfl rfl
    · subst opening
      refine .of_leads (leads_take ahead (by decide) rfl) ?_
      refine (below (.operation .sum) _ _ advanced (by omega) (.group :: stack) _
        (.operation trivial)).bind_moved (reads number? (.operation .sum) _ rfl) ?_
      rintro inner d _ ⟨state, rfl, ended, finished⟩ moved
      exact follows_close ((within.moves advanced).moves moved) ended finished
    · refine .of_leads leads (kept.follows_malformed ?_)
      have separates : next.isAlphanum = false := by
        simp [Char.isAlphanum, digit, letter]
      rw [Cursor.lexemes_mark ahead blank separates, Situation.run, Situation.take,
        Situation.takeOperand, if_neg minus, if_neg opening]

/-- An operand of a level is read inside a stack that it finishes something of, or nothing. -/
theorem follows_operand (level : Level) (stack : List Frame)
    (product : level = .sum → Agrees number? final name (.operation .product) c)
    (atom : level = .product → Agrees number? final name .atom c)
    (awaits : level = .sum → AwaitsProduct stack) :
    Follows number? final name c (.operand stack)
      (fun term d t => ∃ state, t = .following state ∧ level.Ready d ∧
        level.finish state = level.settle term stack) (operand (run number?) level c) := by
  cases level with
  | sum =>
    refine (product rfl stack _ (.operation (awaits rfl))).imp ?_
    rintro term d _ ⟨state, rfl, ended, finished⟩
    refine ⟨state, rfl, ended.2, ?_⟩
    simp only [Level.finish] at finished
    rw [finished]
    rfl
  | product =>
    refine (atom rfl stack _ .atom).imp ?_
    rintro term d _ rfl
    exact ⟨_, rfl, trivial, rfl⟩

/-- A pass of the loop over operators takes one with its right operand, or nothing. -/
theorem follows_operator (below : AgreesBelow number? final name c) (ready : level.Ready c)
    (finished : level.finish state = (left, stack)) :
    Follows number? final name c (.following state)
      (fun longer? d t => match longer? with
        | some longer => Begins (.operators level longer) d stack t
        | none => Ends (.operators level left) stack left d t)
      (operator (run number?) level left c) := by
  rw [operator]
  rcases accept_cases level.operator? c with ⟨next, others, op, ahead, found, same⟩ | ⟨absent, same⟩
  · have advanced := (moves_skipBlanks c).trans
      (moves_advance ahead (Cursor.isBlank_of_skipBlanks ahead))
    have symbol := symbol_separates op
    rw [← level.operator_symbol found] at symbol
    rw [same, settled_ok_bind]
    refine .of_leads (leads_take ahead symbol.1 (level.take_operator ready ahead found finished)) ?_
    have right := follows_operand level (level.frame left op :: stack)
      (fun _ => below _ _ _ advanced (by omega)) (fun _ => below _ _ _ advanced (by omega))
      (by rintro rfl; trivial)
    refine right.bind ?_
    rintro right d _ ⟨state, rfl, further, settles⟩
    rw [level.settle_frame] at settles
    exact follows_result (.operators further settles) rfl
  · rw [same, settled_ok_bind]
    exact follows_result ⟨state, rfl, ⟨ready.skipBlanks, absent.skipBlanks⟩, finished⟩
      (leads_skipBlanks _ _)

theorem agrees_operators (below : AgreesBelow number? final name c) (level : Level)
    (left : Term) : Agrees number? final name (.operators level left) c := by
  rintro stack _ (_ | _ | ⟨ready, finished⟩)
  have moves := operator_moves (goes_below number? c) level left
  rw [run_eq]
  refine (follows_operator below ready finished).bind_moved moves ?_
  rintro (_ | longer) d t holds ⟨size, enough, moved⟩
  · exact follows_result holds rfl
  · exact below _ _ _ moved (enough longer rfl).1 stack t holds

theorem agrees_of_operand (below : AgreesBelow number? final name c) {level : Level}
    (product : level = .sum → Agrees number? final name (.operation .product) c)
    (atom : level = .product → Agrees number? final name .atom c) :
    Agrees number? final name (.operation level) c := by
  rintro stack _ (_ | awaits)
  rw [run_eq]
  refine (follows_operand level stack product atom ?_).bind_moved
    (reads_operand level (reads number? _ c rfl) (reads number? _ c rfl)) ?_
  · rintro rfl
    exact AwaitsSum.awaitsProduct awaits
  · rintro left d _ ⟨state, rfl, ready, finished⟩ moved
    rw [level.settle_eq awaits] at finished
    exact agrees_operators (below.after (moved.mono (Nat.zero_le _))) level left stack _
      (.operators ready finished)

theorem agrees_operation (within : Within name final c) (below : AgreesBelow number? final name c)
    (level : Level) : Agrees number? final name (.operation level) c := by
  -- A sum begins with a product at its own cursor.
  have product : Agrees number? final name (.operation .product) c :=
    agrees_of_operand below nofun fun _ => agrees_atom within below
  cases level with
  | product => exact product
  | sum => exact agrees_of_operand below (fun _ => product) nofun

/-- The situation after an argument, or after the parenthesis that closes the call. -/
def AfterArgument (callee : String) (inputs : List Term) (stack : List Frame) :
    Option Term → Cursor → Situation → Prop
  | some input, d, t => Begins (.arguments callee (inputs ++ [input])) d stack t
  | none, _, t => t = .following (Term.finishAtom (.call callee inputs) stack)

/-- A call that has been opened is closed at once or has a first argument. -/
theorem follows_firstArgument (within : Within name final c)
    (below : AgreesBelow number? final name c) (callee : String) (stack : List Frame) :
    Follows number? final name c (.opened callee stack) (AfterArgument callee [] stack)
      (argument (run number?) [] c) := by
  have skipped := moves_skipBlanks c
  have kept := within.moves skipped
  rw [argument]
  cases ahead : c.skipBlanks.ahead with
  | nil =>
    rw [Cursor.peek_nil ahead, settled_error_bind]
    exact kept.follows_malformed (within.refused_finish ahead rfl)
  | cons next rest =>
    simp only [Cursor.peek_cons ahead, Cursor.advance_cons ahead, settled_ok_bind,
      List.isEmpty_nil, if_true]
    split_ifs with closing
    · subst closing
      exact follows_result rfl (leads_take ahead (by decide) rfl)
    · have filled : Absent (exactly ')') c :=
        (absent_cons ahead).mpr (by rw [exactly, if_neg closing])
      have leads : Leads number? final c (.opened callee stack) c.skipBlanks
          (.operand (.call callee [] :: stack)) := by
        rw [Leads, c.lexemes_skipBlanks,
          Situation.run_opened _ _ _ _ fun _ _ => not_mark_of_absent filled]
      refine .of_leads leads ?_
      refine (agrees_operation kept (below.after skipped) .sum (.call callee [] :: stack) _
        (.operation trivial)).bind ?_
      rintro input d _ ⟨state, rfl, ended, finished⟩
      have begins : Begins (.arguments callee [input].reverse) d stack (.following state) :=
        .someArguments ended finished
      exact follows_result begins rfl

/-- After an argument the call is closed, or a comma is followed by another one. -/
theorem follows_nextArgument (within : Within name final c)
    (below : AgreesBelow number? final name c) (ended : Level.sum.Over c)
    (finished : Term.finishProduct state.1 state.2 = (last, .call callee init :: stack)) :
    Follows number? final name c (.following state)
      (AfterArgument callee (last :: init).reverse stack)
      (argument (run number?) (last :: init).reverse c) := by
  have skipped := moves_skipBlanks c
  have kept := within.moves skipped
  have nonempty : ¬(last :: init).reverse.isEmpty = true := by simp
  rw [argument]
  cases ahead : c.skipBlanks.ahead with
  | nil =>
    rw [Cursor.peek_nil ahead, settled_error_bind]
    refine kept.follows_malformed (within.refused_finish ahead ?_)
    rw [Situation.finish, Term.finish, finished]
  | cons next rest =>
    have advanced := skipped.trans (moves_advance ahead (Cursor.isBlank_of_skipBlanks ahead))
    simp only [Cursor.peek_cons ahead, Cursor.advance_cons ahead, settled_ok_bind, if_neg nonempty]
    split_ifs with closing comma
    · subst closing
      refine follows_result rfl (leads_take ahead (by decide) ?_)
      rw [take_afterSum ended ahead finished]
      rfl
    · subst comma
      refine .of_leads (leads_take ahead (by decide) (take_afterSum ended ahead finished)) ?_
      refine (below (.operation .sum) _ _ advanced (by omega)
        (.call callee (last :: init) :: stack) _ (.operation trivial)).bind ?_
      rintro input d _ ⟨state, rfl, ended, finished⟩
      have begins : Begins (.arguments callee ((last :: init).reverse ++ [input])) d stack
          (.following state) := by
        rw [← List.reverse_cons]
        exact .someArguments ended finished
      exact follows_result begins rfl
    · exact kept.follows_malformed
        (refused_afterSum ended ahead finished (takeAfterSum_call closing comma))

theorem follows_argument (within : Within name final c) (below : AgreesBelow number? final name c)
    (begins : Begins (.arguments callee inputs) c stack s) :
    Follows number? final name c s (AfterArgument callee inputs stack)
      (argument (run number?) inputs c) := by
  cases begins with
  | noArgument => exact follows_firstArgument within below callee stack
  | someArguments ended finished => exact follows_nextArgument within below ended finished

theorem agrees_arguments (within : Within name final c) (below : AgreesBelow number? final name c)
    (callee : String) (inputs : List Term) :
    Agrees number? final name (.arguments callee inputs) c := by
  intro stack s begins
  have moves := argument_moves (goes_below number? c) inputs
  rw [run_eq]
  refine (follows_argument within below begins).bind_moved moves ?_
  rintro (_ | input) d t holds ⟨size, some, _, moved⟩
  · exact follows_result holds rfl
  · exact below _ _ _ moved some stack t holds

variable (number?) in
/-- Every call agrees with the automaton. -/
theorem agrees (within : Within name final c) (what : Call) :
    Agrees number? final name what c := by
  generalize length : c.ahead.length = size
  induction size using Nat.strongRecOn generalizing what c with
  | ind size ih =>
    subst length
    have below : AgreesBelow number? final name c := fun what size d moves some => by
      have shorter := moves.length
      exact ih _ (by omega) (within.moves moves) what rfl
    cases what with
    | operation level => exact agrees_operation within below level
    | operators level left => exact agrees_operators below level left
    | atom => exact agrees_atom within below
    | arguments callee inputs => exact agrees_arguments within below callee inputs

end

/-! ### Reading -/

/-- Recursive descent reads every source as reading does. -/
theorem read_eq (number? : String → Option Value) (source name : String) :
    read number? source name = settled (match Term.read number? source with
      | .ok term => .ok term
      | .error refusal => .error (.expression (refusal.toError name))) := by
  have within : Within name (source.toList.length + 1) (.start source name) := ⟨rfl, rfl⟩
  have follows := (reads number? (.operation .sum) (.start source name) rfl).and
    (agrees number? within (.operation .sum) [] _ (.operation trivial))
  have whole : Term.read number? source = (Situation.operand []).run number?
      (source.toList.length + 1) (Cursor.start source name).lexemes :=
    Situation.readOperand_eq_run number? _ _ _
  rw [read, whole]
  generalize run number? (.operation .sum) (.start source name) = attempt at follows
  cases follows with
  | fault reports =>
    obtain ⟨refusal, rfl, refused⟩ := reports
    rw [settled_error_bind, refused]
  | @result r ends =>
    obtain ⟨term, d⟩ := r
    obtain ⟨moved, _, ⟨state, rfl, ended, finished⟩, leads⟩ := ends
    rw [settled_ok_bind, leads]
    cases ahead : d.skipBlanks.ahead with
    | nil =>
      have finish : Term.finish state.1 state.2 = .ok term := by
        rw [Term.finish, show Term.finishProduct state.1 state.2 = _ from finished]
      have atEnd : d.skipBlanks.isAtEnd = true := by rw [Cursor.isAtEnd, ahead, List.isEmpty_nil]
      rw [← d.lexemes_skipBlanks, Cursor.lexemes_nil ahead, Situation.run, Situation.finish, finish]
      exact if_pos atEnd
    | cons next rest =>
      have notAtEnd : ¬d.skipBlanks.isAtEnd = true := by
        rw [Cursor.isAtEnd, ahead, List.isEmpty_cons]
        exact Bool.false_ne_true
      have refused : (Situation.following state).run number? (source.toList.length + 1) d.lexemes =
          .error ⟨.notAnExpression, d.skipBlanks.position⟩ :=
        refused_afterSum ended ahead finished (takeAfterSum_nil next term)
      have named := ((within.moves moved).moves (moves_skipBlanks d)).name_eq
      rw [refused, ← named]
      exact if_neg notAtEnd

end Formula.Descent
