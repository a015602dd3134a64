import Formula.Proofs.Grammar.Soundness

/-! Reading as a pushdown automaton. The automaton takes one lexeme at a time, and where it stands
between two lexemes depends on those before them alone; so what a beginning of a text does to it is
the same whatever comes after. Reading is a run of the automaton. Every situation it can be in
stands for the lexemes passed and has a completion: text that can follow and makes the whole an
expression. -/
namespace Formula.Grammar

/-- Where reading stands between two lexemes: an operand is needed; a name has been read, which is
that of a call if a parenthesis follows; a call has been opened and may be closed at once; or a
product has been read inside a stack. -/
inductive Situation where
  | operand (stack : List Frame)
  | named (name : String) (stack : List Frame)
  | opened (name : String) (stack : List Frame)
  | following (state : Term × List Frame)

namespace Situation

/-- What a lexeme does where an operand is needed. -/
def takeOperand (number? : String → Option Value) (stack : List Frame) :
    Lexeme → Except Malformation Situation
  | .number text =>
    match number? (String.ofList text) with
    | some value => .ok (following (Term.finishAtom (.literal value) stack))
    | none => .error (.invalidNumber (String.ofList text))
  | .name name => .ok (named (String.ofList name) stack)
  | .mark c =>
    if c = '-' then .ok (operand (.negation :: stack))
    else if c = '(' then .ok (operand (.group :: stack))
    else .error .valueExpected

/-- What a character that is no operator does after a sum inside a stack. -/
def takeAfterSum : Char → Term × List Frame → Except Malformation Situation
  | ')', (sum, .group :: stack) => .ok (following (Term.finishAtom sum stack))
  | ')', (sum, .call name arguments :: stack) =>
    .ok (following (Term.finishAtom (.call name (sum :: arguments).reverse) stack))
  | ',', (sum, .call name arguments :: stack) =>
    .ok (operand (.call name (sum :: arguments) :: stack))
  | _, (_, stack) => .error (Term.refuseAfterSum stack)

/-- What a lexeme does after a product inside a stack. -/
def takeFollowing (state : Term × List Frame) : Lexeme → Except Malformation Situation
  | .mark c =>
    match Term.multiplicative? c, Term.additive? c with
    | some op, _ => .ok (operand (.product state.1 op :: state.2))
    | none, some op =>
      let sum := Term.finishProduct state.1 state.2
      .ok (operand (.sum sum.1 op :: sum.2))
    | none, none => takeAfterSum c (Term.finishProduct state.1 state.2)
  | _ => .error (Term.refuseAfterSum (Term.finishProduct state.1 state.2).2)

/-- The situation after a lexeme, if it can be taken. -/
def take (number? : String → Option Value) :
    Situation → Lexeme → Except Malformation Situation
  | operand stack, lexeme => takeOperand number? stack lexeme
  | named name stack, lexeme =>
    if lexeme = .mark '(' then .ok (opened name stack)
    else takeFollowing (Term.finishAtom (.var name) stack) lexeme
  | opened name stack, lexeme =>
    if lexeme = .mark ')' then .ok (following (Term.finishAtom (.call name []) stack))
    else takeOperand number? (.call name [] :: stack) lexeme
  | following state, lexeme => takeFollowing state lexeme

/-- What reading has when no lexeme is left. -/
def finish : Situation → Except Malformation Term
  | operand _ | opened .. => .error .endOfInput
  | named name stack =>
    let state := Term.finishAtom (.var name) stack
    Term.finish state.1 state.2
  | following state => Term.finish state.1 state.2

/-- Takes lexemes until one is refused or none is left; `final` is the position after the source. -/
def run (number? : String → Option Value) (final : Nat) :
    Situation → List LocatedLexeme → Except Refusal Term
  | situation, [] =>
    match situation.finish with
    | .ok expression => .ok expression
    | .error cause => .error ⟨cause, final⟩
  | situation, ⟨lexeme, position⟩ :: rest =>
    match situation.take number? lexeme with
    | .ok next => next.run number? final rest
    | .error cause => .error ⟨cause, position⟩

/-! ### Reading is a run -/

section
variable (number? : String → Option Value) (final : Nat)

theorem run_named (name : String) (stack : List Frame) {rest : List LocatedLexeme}
    (detached : Detached rest) : (named name stack).run number? final rest =
      (following (Term.finishAtom (.var name) stack)).run number? final rest := by
  cases rest with
  | nil => rfl
  | cons located rest =>
    have different : located.lexeme ≠ .mark '(' := by
      rintro same
      exact detached located.position rest (by rw [← same])
    rw [run, run, take, if_neg different]
    rfl

theorem run_opened (name : String) (stack : List Frame) {rest : List LocatedLexeme}
    (filled : ∀ position more, rest ≠ ⟨.mark ')', position⟩ :: more) :
    (opened name stack).run number? final rest =
      (operand (.call name [] :: stack)).run number? final rest := by
  cases rest with
  | nil => rfl
  | cons located rest =>
    have different : located.lexeme ≠ .mark ')' := by
      rintro same
      exact filled located.position rest (by rw [← same])
    rw [run, run, take.eq_3, if_neg different]
    rfl

mutual

theorem readOperand_eq_run (located : List LocatedLexeme) (stack : List Frame) :
    Term.readOperand number? final located stack =
      (operand stack).run number? final located := by
  rw [Term.readOperand.eq_def]
  split
  · rfl
  · next text position rest =>
    rw [run, take, takeOperand]
    cases number? (String.ofList text) with
    | some value => exact readFollowing_eq_run rest _ _
    | none => rfl
  · next name start opening closing rest => exact readFollowing_eq_run rest _ _
  · next name start opening rest filled =>
    have opened := run_opened number? final (String.ofList name) stack
      fun position more same => filled position more same
    rw [readOperand_eq_run rest, ← opened]
    rfl
  · next name position rest closed open_ =>
    have named := run_named number? final (String.ofList name) stack
      fun position more same => open_ position more same
    refine (readFollowing_eq_run rest _ _).trans ?_
    rw [← named]
    rfl
  · next c position rest =>
    rw [run, take, takeOperand]
    split
    · exact readOperand_eq_run rest _
    · split
      · exact readOperand_eq_run rest _
      · rfl
termination_by located.length

theorem readFollowing_eq_run (located : List LocatedLexeme) (product : Term)
    (stack : List Frame) : Term.readFollowing number? final located product stack =
      (following (product, stack)).run number? final located := by
  rw [Term.readFollowing.eq_def]
  split
  · rfl
  · next c position rest =>
    rw [run, take, takeFollowing.eq_def]
    dsimp only
    cases Term.multiplicative? c with
    | some op => exact readOperand_eq_run rest _
    | none =>
      cases Term.additive? c with
      | some op => exact readOperand_eq_run rest _
      | none =>
        generalize Term.finishProduct product stack = finished
        dsimp only
        split
        · exact readFollowing_eq_run rest _ _
        · exact readFollowing_eq_run rest _ _
        · exact readOperand_eq_run rest _
        · next sum stack noGroup noCall noComma =>
          rw [takeAfterSum.eq_4 _ _ _ noGroup noCall noComma]
  · next lexeme position rest noMark =>
    cases lexeme with
    | mark c => exact absurd rfl (noMark c)
    | number | name => rfl
termination_by located.length

end

/-! ### Passing lexemes -/

/-- Taking these lexemes goes over from a situation to another. -/
inductive Passes (number? : String → Option Value) :
    Situation → List Spaced → Situation → Prop where
  | done (situation : Situation) : Passes number? situation [] situation
  | take {s : Spaced} : situation.take number? s.lexeme = .ok next →
      Passes number? next more last → Passes number? situation (s :: more) last

variable {number? final}

/-- A run goes on from where the first lexemes lead. -/
theorem Passes.run_append {start last : Situation} (passes : Passes number? start front last)
    (position : Nat) (rest : List LocatedLexeme) :
    start.run number? final (locate position front ++ rest) = last.run number? final rest := by
  induction passes generalizing position with
  | done => rfl
  | take taken _ ih =>
    rw [locate, List.cons_append, run, taken]
    exact ih _

/-- A run fails at the end of the lexemes or at the first one that is not taken. -/
theorem exists_refused {start : Situation} {spaced : List Spaced}
    (failed : start.run number? final (locate position spaced) = .error ⟨cause, place⟩) :
    (∃ last, Passes number? start spaced last ∧ last.finish = .error cause ∧ place = final) ∨
    ∃ front s back last, spaced = front ++ s :: back ∧ Passes number? start front last ∧
      last.take number? s.lexeme = .error cause ∧
      place = position + (front.flatMap Spaced.text).length + s.blanks.text.length := by
  induction spaced generalizing start position with
  | nil =>
    left
    rw [locate, run] at failed
    split at failed
    · contradiction
    · next finished =>
      cases failed
      exact ⟨start, .done start, finished, rfl⟩
  | cons s more ih =>
    rw [locate, run] at failed
    split at failed
    · next next taken =>
      rcases ih failed with ⟨last, passes, finished, rfl⟩ | refused
      · exact .inl ⟨last, .take taken passes, finished, rfl⟩
      · obtain ⟨front, t, back, last, rfl, passes, refused, rfl⟩ := refused
        refine .inr ⟨s :: front, t, back, last, rfl, .take taken passes, refused, ?_⟩
        simp only [List.flatMap_cons, List.length_append]
        omega
    · next refused =>
      cases failed
      exact .inr ⟨[], s, more, start, rfl, .done start, refused, rfl⟩

end

/-! ### What a situation stands for -/

section
variable {number? : String → Option Value}

/-- The situation is the one after these lexemes. -/
def StandsFor (number? : String → Option Value) : Situation → List Spaced → Prop
  | operand stack, passed => Consumed number? stack passed
  | named name stack, passed => ∃ (before : List Spaced) (blanks : Blanks) (called : Name),
      passed = before ++ [⟨blanks, .name called.text⟩] ∧ name = String.ofList called.text ∧
      Consumed number? stack before
  | opened name stack, passed => ∃ (before : List Spaced) (blanks : Blanks) (called : Name)
      (opening : Blanks),
      passed = before ++ [⟨blanks, .name called.text⟩, ⟨opening, .mark '('⟩] ∧
      name = String.ofList called.text ∧ Consumed number? stack before
  | following state, passed => EndsInProduct number? passed state

theorem standsFor_start : (operand []).StandsFor number? [] :=
  Consumed.start

theorem standsFor_takeOperand (consumed : Consumed number? stack passed)
    (formed : lexeme.WellFormed) (taken : takeOperand number? stack lexeme = .ok next)
    (blanks : Blanks) : next.StandsFor number? (passed ++ [⟨blanks, lexeme⟩]) := by
  cases lexeme with
  | number text =>
    obtain ⟨n, rfl⟩ := formed
    rw [takeOperand] at taken
    split at taken
    · next value converted =>
      cases taken
      exact consumed.finishAtom (.number blanks n) (congrArg (Option.map _) converted)
    · contradiction
  | name text =>
    obtain ⟨called, rfl⟩ := formed
    cases taken
    exact ⟨passed, blanks, called, rfl, rfl, consumed⟩
  | mark c =>
    rw [takeOperand] at taken
    split at taken
    · next minus =>
      cases taken
      subst minus
      exact consumed.negation blanks
    · split at taken
      · next bracket =>
        cases taken
        subst bracket
        exact consumed.group blanks
      · contradiction

theorem standsFor_takeAfterSum (ends : EndsInSum number? passed state)
    (taken : takeAfterSum c state = .ok next) (blanks : Blanks) :
    next.StandsFor number? (passed ++ [⟨blanks, .mark c⟩]) := by
  unfold takeAfterSum at taken
  split at taken
  · cases taken
    exact ends.closeGroup blanks
  · cases taken
    exact ends.closeCall blanks
  · cases taken
    obtain ⟨before, phrase, rfl, below, _, denotes⟩ := ends
    simpa [StandsFor] using below.argument phrase blanks denotes
  · contradiction

theorem standsFor_takeFollowing (ends : EndsInProduct number? passed state)
    (taken : takeFollowing state lexeme = .ok next) (blanks : Blanks) :
    next.StandsFor number? (passed ++ [⟨blanks, lexeme⟩]) := by
  cases lexeme with
  | number | name => contradiction
  | mark c =>
    rw [takeFollowing.eq_1] at taken
    split at taken
    · next op multiplicative =>
      cases taken
      obtain ⟨rfl, level⟩ := multiplicative_symbol multiplicative
      obtain ⟨before, phrase, rfl, below, awaits, denotes⟩ := ends
      simpa [StandsFor] using below.product phrase op blanks awaits level denotes
    · next op _ additive =>
      cases taken
      obtain ⟨rfl, level⟩ := additive_symbol additive
      obtain ⟨before, phrase, rfl, below, awaits, denotes⟩ := ends.finishProduct
      simpa [StandsFor] using below.sum phrase op blanks awaits level denotes
    · exact standsFor_takeAfterSum ends.finishProduct taken blanks

/-- Taking a lexeme adds it to what the situation stands for. -/
theorem StandsFor.take {situation : Situation} (stands : situation.StandsFor number? passed)
    (formed : lexeme.WellFormed) (taken : situation.take number? lexeme = .ok next)
    (blanks : Blanks) : next.StandsFor number? (passed ++ [⟨blanks, lexeme⟩]) := by
  cases situation with
  | operand stack => exact standsFor_takeOperand stands formed taken blanks
  | named name stack =>
    obtain ⟨before, start, called, rfl, rfl, consumed⟩ := stands
    rw [Situation.take] at taken
    split at taken
    · next bracket =>
      cases taken
      subst bracket
      exact ⟨before, start, called, blanks, by simp, rfl, consumed⟩
    · exact standsFor_takeFollowing (consumed.finishAtom (.var start called) rfl) taken blanks
  | opened name stack =>
    obtain ⟨before, start, called, opening, rfl, rfl, consumed⟩ := stands
    rw [Situation.take.eq_3] at taken
    split at taken
    · next bracket =>
      cases taken
      subst bracket
      simpa [StandsFor, Phrase.lexemes] using
        consumed.finishAtom (.call start called opening .noArgument blanks) rfl
    · exact standsFor_takeOperand (consumed.call start called opening) formed taken blanks
  | following state => exact standsFor_takeFollowing stands taken blanks

/-- The situation after some lexemes stands for them. -/
theorem Passes.standsFor {start last : Situation} (passes : Passes number? start front last)
    (formed : ∀ s ∈ front, s.lexeme.WellFormed) (stands : start.StandsFor number? passed) :
    last.StandsFor number? (passed ++ front) := by
  induction passes generalizing passed with
  | done => simpa using stands
  | @take _ _ _ _ s taken _ ih =>
    obtain ⟨first, others⟩ := List.forall_mem_cons.mp formed
    simpa using ih others (stands.take first taken s.blanks)

end

/-! ### Completions -/

section
variable {number? : String → Option Value}

/-- The lexemes passed and white space after them begin an expression. -/
def Viable (number? : String → Option Value) (passed : List Spaced) (blanks : Blanks) : Prop :=
  ∃ (d : Derivation) (more : List Spaced) (suffix : List Char),
    d.sum.lexemes = passed ++ more ∧
    d.text = passed.flatMap Spaced.text ++ (blanks.text ++ suffix) ∧
    (d.term? number?).isSome = true

theorem exists_blanks_nil : ∃ blanks : Blanks, blanks.text = [] :=
  ⟨⟨[], by simp⟩, rfl⟩

theorem Viable.of_snoc {last : Blanks} (nothing : last.text = [])
    (viable : Viable number? (passed ++ [⟨blanks, lexeme⟩]) last) :
    Viable number? passed blanks := by
  obtain ⟨d, more, suffix, lexemes, text, denotes⟩ := viable
  refine ⟨d, ⟨blanks, lexeme⟩ :: more, lexeme.text ++ suffix, by simp [lexemes], ?_, denotes⟩
  simp [text, Spaced.text, nothing]

theorem length_finishAtom (atom : Term) (stack : List Frame) :
    (Term.finishAtom atom stack).2.length ≤ stack.length := by
  fun_induction Term.finishAtom atom stack with
  | case1 atom stack ih => exact Nat.le_succ_of_le ih
  | case2 => exact Nat.le_succ _
  | case3 => exact Nat.le_refl _

theorem length_finishProduct (product : Term) (stack : List Frame) :
    (Term.finishProduct product stack).2.length ≤ stack.length := by
  fun_cases Term.finishProduct product stack with
  | case1 => exact Nat.le_succ _
  | case2 => exact Nat.le_refl _

/-- After a product, all that is open can be closed. -/
theorem viable_of_endsInProduct {passed : List Spaced} {state : Term × List Frame}
    (ends : EndsInProduct number? passed state) (blanks : Blanks) :
    Viable number? passed blanks := by
  obtain ⟨last, nothing⟩ := exists_blanks_nil
  generalize size : state.2.length = n
  induction n using Nat.strongRecOn generalizing passed state blanks with
  | ind n ih =>
    have endsInSum := ends.finishProduct
    have shorter := length_finishProduct state.1 state.2
    generalize Term.finishProduct state.1 state.2 = finished at endsInSum shorter
    obtain ⟨sum, stack⟩ := finished
    -- A closing parenthesis leaves less open.
    have close {atom : Term} {below : List Frame} (fewer : below.length + 1 ≤ state.2.length)
        (closed : EndsInProduct number? (passed ++ [⟨blanks, .mark ')'⟩])
          (Term.finishAtom atom below)) : Viable number? passed blanks := by
      have finished := length_finishAtom atom below
      exact (ih _ (by omega) closed last rfl).of_snoc nothing
    -- Below a sum only a parenthesis can be open, so the other frames do not occur.
    match stack with
    | [] =>
      obtain ⟨before, phrase, rfl, consumed, _, denotes⟩ := endsInSum
      cases consumed
      exact ⟨⟨phrase, blanks⟩, [], [], by simp, by simp [Derivation.text],
        Option.isSome_iff_exists.mpr ⟨sum, denotes⟩⟩
    | .group :: stack => exact close shorter (endsInSum.closeGroup blanks)
    | .call name arguments :: stack => exact close shorter (endsInSum.closeCall blanks)

/-- Where an operand is needed, a variable can follow. -/
theorem viable_of_consumed (consumed : Consumed number? stack passed) (blanks : Blanks) :
    Viable number? passed blanks := by
  have x : Name := ⟨'x', [], by decide, by simp⟩
  have ends := consumed.finishAtom (.var blanks x) rfl
  obtain ⟨last, nothing⟩ := exists_blanks_nil
  exact (viable_of_endsInProduct ends last).of_snoc nothing

/-- What a situation stands for begins an expression. -/
theorem StandsFor.viable {situation : Situation} (stands : situation.StandsFor number? passed)
    (blanks : Blanks) : Viable number? passed blanks := by
  cases situation with
  | operand stack => exact viable_of_consumed stands blanks
  | named name stack =>
    obtain ⟨before, start, called, rfl, rfl, consumed⟩ := stands
    exact viable_of_endsInProduct (consumed.finishAtom (.var start called) rfl) blanks
  | opened name stack =>
    obtain ⟨before, start, called, opening, rfl, rfl, consumed⟩ := stands
    exact viable_of_consumed (consumed.call start called opening) blanks
  | following state => exact viable_of_endsInProduct stands blanks

end

end Situation

end Formula.Grammar
