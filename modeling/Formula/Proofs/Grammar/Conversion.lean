import Formula.Proofs.Grammar.Refusal
import Formula.Proofs.Number.Conversion

/-! Reading under different kinds of numbers. What reading does with the values of literals is to
keep them: without these values it is the same, step by step, for every kind, until a number is met
that one kind converts and another does not. There the one goes on and the other fails. -/
namespace Formula

namespace Tree

mutual

/-- A tree without the values of its literals. -/
def form : Tree ν φ → Tree ν φ
  | literal _ => literal .none
  | negation operand => negation operand.form
  | binary op left right => binary op left.form right.form
  | var symbol => var symbol
  | call symbol arguments => call symbol (formAll arguments)
  | foreign value => foreign value

def formAll : List (Tree ν φ) → List (Tree ν φ)
  | [] => []
  | tree :: trees => tree.form :: formAll trees

end

theorem formAll_eq_map (trees : List (Tree ν φ)) : formAll trees = trees.map form := by
  induction trees with
  | nil => rfl
  | cons tree trees ih => rw [formAll, ih, List.map_cons]

end Tree

namespace Context

theorem defineCall_formAll (context : Context) (name : String) (arguments : List Node) :
    context.defineCall name (Tree.formAll arguments) =
      ((context.defineCall name arguments).1.form, (context.defineCall name arguments).2) := by
  simp only [defineCall, Tree.formAll_eq_map, List.length_map, Tree.form]

mutual

/-- The values of literals have no part in the symbol table. -/
theorem resolve_form (context : Context) (term : Term) :
    context.resolve term.form = ((context.resolve term).1.form, (context.resolve term).2) := by
  cases term with
  | literal | var | foreign => rfl
  | negation operand => simp only [Tree.form, resolve, resolve_form context operand]
  | binary op left right =>
    simp only [Tree.form, resolve, resolve_form context left,
      resolve_form (context.resolve left).2 right]
  | call name arguments =>
    simp only [Tree.form, resolve, resolveAll_formAll context arguments, defineCall_formAll]

theorem resolveAll_formAll (context : Context) (terms : List Term) :
    context.resolveAll (Tree.formAll terms) =
      (Tree.formAll (context.resolveAll terms).1, (context.resolveAll terms).2) := by
  cases terms with
  | nil => rfl
  | cons term terms =>
    simp only [Tree.formAll, resolveAll, resolve_form context term,
      resolveAll_formAll (context.resolve term).2 terms]

end

end Context

def Frame.form : Frame → Frame
  | negation => negation
  | product left op => product left.form op
  | sum left op => sum left.form op
  | group => group
  | call name arguments => call name (arguments.map Tree.form)

namespace Grammar

/-- The conversion that gives the form of what is converted. -/
def forms (number? : String → Option Value) (text : String) : Option Value :=
  (number? text).map fun _ => .none

namespace Situation

def stateForm (state : Term × List Frame) : Term × List Frame :=
  (state.1.form, state.2.map Frame.form)

def form : Situation → Situation
  | operand stack => operand (stack.map Frame.form)
  | named name stack => named name (stack.map Frame.form)
  | opened name stack => opened name (stack.map Frame.form)
  | following state => following (stateForm state)

theorem finishAtom_form (atom : Term) (stack : List Frame) :
    Term.finishAtom atom.form (stack.map Frame.form) = stateForm (Term.finishAtom atom stack) := by
  induction stack generalizing atom with
  | nil => rfl
  | cons frame stack ih =>
    cases frame with
    | negation => exact ih (.negation atom)
    | product | sum | group | call => rfl

theorem finishProduct_form (state : Term × List Frame) :
    Term.finishProduct (stateForm state).1 (stateForm state).2 =
      stateForm (Term.finishProduct state.1 state.2) := by
  obtain ⟨product, _ | ⟨_ | _ | _ | _ | _, stack⟩⟩ := state <;> rfl

theorem refuseAfterSum_form (stack : List Frame) :
    Term.refuseAfterSum (stack.map Frame.form) = Term.refuseAfterSum stack := by
  rcases stack with _ | ⟨_ | _ | _ | _ | _, stack⟩ <;> rfl

theorem finishAfterProduct_form (state : Term × List Frame) :
    Term.finish (stateForm state).1 (stateForm state).2 =
      (Term.finish state.1 state.2).map Tree.form := by
  rw [Term.finish, Term.finish, finishProduct_form]
  obtain ⟨sum, _ | ⟨_ | _ | _ | _ | _, stack⟩⟩ := Term.finishProduct state.1 state.2 <;> rfl

/-- What is left at the end has the form of what would be left. -/
theorem finish_form (situation : Situation) :
    situation.form.finish = situation.finish.map Tree.form := by
  cases situation with
  | operand | opened => rfl
  | named name stack =>
    have state := finishAtom_form (.var name) stack
    rw [form, finish, finish, ← finishAfterProduct_form, ← state]
    rfl
  | following state => exact finishAfterProduct_form state

section
variable (number? : String → Option Value)

theorem takeOperand_form (stack : List Frame) (lexeme : Lexeme) :
    takeOperand (forms number?) (stack.map Frame.form) lexeme =
      (takeOperand number? stack lexeme).map form := by
  cases lexeme with
  | number text =>
    rw [takeOperand, takeOperand, forms]
    cases number? (String.ofList text) with
    | none => rfl
    | some value => exact congrArg (Except.ok ∘ following) (finishAtom_form (.literal value) stack)
  | name => rfl
  | mark c =>
    rw [takeOperand, takeOperand]
    split
    · rfl
    · split <;> rfl

theorem closeCall_form (name : String) (sum : Term) (arguments : List Term) :
    Tree.form (.call name (sum :: arguments).reverse : Term) =
      .call name (sum.form :: arguments.map Tree.form).reverse := by
  rw [Tree.form, Tree.formAll_eq_map, List.map_reverse, List.map_cons]

theorem eq_group_of_form {frame : Frame} (same : frame.form = .group) : frame = .group := by
  cases frame with
  | group => rfl
  | negation | product | sum | call => contradiction

theorem eq_call_of_form {frame : Frame} (same : frame.form = .call name arguments) :
    ∃ given, frame = .call name given := by
  cases frame with
  | call name' given =>
    obtain ⟨rfl, _⟩ := Frame.call.inj same
    exact ⟨given, rfl⟩
  | negation | product | sum | group => contradiction

theorem takeAfterSum_form (c : Char) (state : Term × List Frame) :
    takeAfterSum c (stateForm state) = (takeAfterSum c state).map form := by
  fun_cases takeAfterSum c state with
  | case1 sum stack =>
    exact congrArg (Except.ok ∘ following) (finishAtom_form sum stack)
  | case2 sum name arguments stack =>
    rw [stateForm, List.map_cons, Frame.form, takeAfterSum, ← closeCall_form, finishAtom_form]
    rfl
  | case3 => rfl
  | case4 c sum stack noGroup noCall noComma =>
    have refused : takeAfterSum c (stateForm (sum, stack)) =
        .error (Term.refuseAfterSum (stack.map Frame.form)) := by
      refine takeAfterSum.eq_4 _ _ _ ?_ ?_ ?_
      · intro below close opened
        obtain ⟨frame, rest, rfl, same, _⟩ := List.map_eq_cons_iff.mp opened
        exact noGroup rest close (by rw [eq_group_of_form same])
      · intro name arguments below close opened
        obtain ⟨frame, rest, rfl, same, _⟩ := List.map_eq_cons_iff.mp opened
        obtain ⟨given, rfl⟩ := eq_call_of_form same
        exact noCall name given rest close rfl
      · intro name arguments below comma opened
        obtain ⟨frame, rest, rfl, same, _⟩ := List.map_eq_cons_iff.mp opened
        obtain ⟨given, rfl⟩ := eq_call_of_form same
        exact noComma name given rest comma rfl
    rw [refused, refuseAfterSum_form]
    rfl

theorem takeFollowing_form (state : Term × List Frame) (lexeme : Lexeme) :
    takeFollowing (stateForm state) lexeme = (takeFollowing state lexeme).map form := by
  have finished := finishProduct_form state
  cases lexeme with
  | number | name =>
    refine (congrArg Except.error ?_).trans rfl
    rw [finished]
    exact refuseAfterSum_form _
  | mark c =>
    rw [takeFollowing, takeFollowing]
    cases Term.multiplicative? c with
    | some op => rfl
    | none =>
      cases Term.additive? c with
      | some op => simp only [finished]; rfl
      | none => simp only [finished]; exact takeAfterSum_form c _

/-- Taking a lexeme does the same to the form of a situation. -/
theorem take_form (situation : Situation) (lexeme : Lexeme) :
    situation.form.take (forms number?) lexeme = (situation.take number? lexeme).map form := by
  cases situation with
  | operand stack => exact takeOperand_form number? stack lexeme
  | following state => exact takeFollowing_form state lexeme
  | named name stack =>
    have state := finishAtom_form (.var name) stack
    rw [form, take, take, ← Tree.form, state]
    split
    · rfl
    · exact takeFollowing_form _ lexeme
  | opened name stack =>
    rw [form, take.eq_3, take.eq_3]
    split
    · exact congrArg (Except.ok ∘ following) (finishAtom_form (.call name []) stack)
    · exact takeOperand_form number? (.call name [] :: stack) lexeme

/-- Reading without the values of literals is reading with the forms for values. -/
theorem run_form (final : Nat) (situation : Situation) (located : List LocatedLexeme) :
    situation.form.run (forms number?) final located =
      (situation.run number? final located).map Tree.form := by
  induction located generalizing situation with
  | nil =>
    rw [run, run, finish_form]
    cases situation.finish <;> rfl
  | cons first rest ih =>
    obtain ⟨lexeme, position⟩ := first
    rw [run, run, take_form]
    cases situation.take number? lexeme with
    | ok next => exact ih next
    | error cause => rfl

end

/-! ### Two conversions -/

section
variable {number? other : String → Option Value}

/-- A number that both conversions convert alike or not at all, or the second alone. -/
def Narrows (number? other : String → Option Value) (text : String) : Prop :=
  number? text = other text ∨ number? text = none ∧ (other text).isSome = true

theorem takeOperand_narrows {stack : List Frame} {lexeme : Lexeme}
    (narrows : ∀ text, lexeme = .number text → Narrows number? other (String.ofList text)) :
    takeOperand number? stack lexeme = takeOperand other stack lexeme ∨
      ∃ text next, takeOperand number? stack lexeme = .error (.invalidNumber text) ∧
        takeOperand other stack lexeme = .ok next := by
  cases lexeme with
  | name | mark => exact .inl rfl
  | number text =>
    simp only [takeOperand]
    rcases narrows text rfl with same | ⟨fails, converts⟩
    · exact .inl (by rw [same])
    · obtain ⟨value, converted⟩ := Option.isSome_iff_exists.mp converts
      rw [fails, converted]
      exact .inr ⟨_, _, rfl, rfl⟩

/-- A lexeme is taken alike, or as a number that the second conversion alone converts. -/
theorem take_narrows (situation : Situation) {lexeme : Lexeme}
    (narrows : ∀ text, lexeme = .number text → Narrows number? other (String.ofList text)) :
    situation.take number? lexeme = situation.take other lexeme ∨
      ∃ text next, situation.take number? lexeme = .error (.invalidNumber text) ∧
        situation.take other lexeme = .ok next := by
  cases situation with
  | operand stack => exact takeOperand_narrows narrows
  | named | following => exact .inl rfl
  | opened name stack =>
    rw [take.eq_3, take.eq_3]
    split
    · exact .inl rfl
    · exact takeOperand_narrows narrows

/-- A run fails at one of its lexemes or at the end. -/
theorem position_of_run_error {situation : Situation} {located : List LocatedLexeme}
    (failed : situation.run number? final located = .error refusal)
    (later : ∀ l ∈ located, place < l.position) (inside : place < final) :
    place < refusal.position := by
  induction located generalizing situation with
  | nil =>
    rw [run] at failed
    split at failed
    · contradiction
    · cases failed
      exact inside
  | cons first rest ih =>
    obtain ⟨here, later⟩ := List.forall_mem_cons.mp later
    rw [run] at failed
    split at failed
    · exact ih failed later
    · cases failed
      exact here

/-- Two runs agree, or the first fails at a number before the second fails if it does. -/
theorem run_narrows (situation : Situation) {located : List LocatedLexeme}
    (narrows : ∀ text, (∃ position, ⟨.number text, position⟩ ∈ located) →
      Narrows number? other (String.ofList text))
    (ordered : located.Pairwise fun l m => l.position < m.position)
    (inside : ∀ l ∈ located, l.position < final) :
    situation.run number? final located = situation.run other final located ∨
      ∃ text place, situation.run number? final located = .error ⟨.invalidNumber text, place⟩ ∧
        ∀ refusal, situation.run other final located = .error refusal →
          place < refusal.position := by
  induction located generalizing situation with
  | nil => exact .inl rfl
  | cons first rest ih =>
    obtain ⟨lexeme, position⟩ := first
    obtain ⟨later, ordered⟩ := List.pairwise_cons.mp ordered
    obtain ⟨here, inside⟩ := List.forall_mem_cons.mp inside
    have narrow (text : List Char) (same : lexeme = .number text) :
        Narrows number? other (String.ofList text) :=
      narrows text ⟨position, same ▸ List.mem_cons_self⟩
    rw [run, run]
    rcases take_narrows situation narrow with same | ⟨text, next, fails, goesOn⟩
    · rw [same]
      cases situation.take other lexeme with
      | error cause => exact .inl rfl
      | ok next =>
        exact ih next (fun text ⟨place, member⟩ =>
          narrows text ⟨place, List.mem_cons_of_mem _ member⟩) ordered inside
    · rw [fails, goesOn]
      exact .inr ⟨text, position, rfl,
        fun refusal failed => position_of_run_error failed later here⟩

end

end Situation

/-! ### Sources -/

theorem length_text_pos {s : Spaced} (formed : s.lexeme.WellFormed) :
    s.blanks.text.length < s.text.length := by
  have nonempty := List.length_pos_iff.mpr formed.text_ne_nil
  rw [Spaced.text, List.length_append]
  omega

/-- The lexemes of a text lie inside it. -/
theorem locate_bounds {spaced : List Spaced} (formed : ∀ s ∈ spaced, s.lexeme.WellFormed)
    (position : Nat) : ∀ l ∈ locate position spaced, position ≤ l.position ∧
      l.position < position + (spaced.flatMap Spaced.text).length := by
  induction spaced generalizing position with
  | nil => exact nofun
  | cons s more ih =>
    obtain ⟨first, others⟩ := List.forall_mem_cons.mp formed
    have nonempty := length_text_pos first
    rw [locate, List.flatMap_cons, List.length_append, List.forall_mem_cons]
    refine ⟨by dsimp only; omega, fun l member => ?_⟩
    have bounds := ih others (position + s.text.length) l member
    omega

theorem locate_ordered {spaced : List Spaced} (formed : ∀ s ∈ spaced, s.lexeme.WellFormed)
    (position : Nat) :
    (locate position spaced).Pairwise fun l m => l.position < m.position := by
  induction spaced generalizing position with
  | nil => exact .nil
  | cons s more ih =>
    obtain ⟨first, others⟩ := List.forall_mem_cons.mp formed
    have nonempty := length_text_pos first
    refine .cons (fun l member => ?_) (ih others _)
    have bounds := locate_bounds others (position + s.text.length) l member
    dsimp only
    omega

theorem exists_number_of_mem {spaced : List Spaced} (formed : ∀ s ∈ spaced, s.lexeme.WellFormed)
    (member : ⟨.number text, place⟩ ∈ locate position spaced) :
    ∃ n : Number, n.text = text := by
  induction spaced generalizing position with
  | nil => contradiction
  | cons s more ih =>
    obtain ⟨first, others⟩ := List.forall_mem_cons.mp formed
    rw [locate, List.mem_cons] at member
    rcases member with same | member
    · obtain ⟨lexeme, _⟩ := LocatedLexeme.mk.inj same
      rwa [← lexeme] at first
    · exact ih others member

theorem narrows_forms {number? other : String → Option Value} {text : String}
    (fewer : (number? text).isSome = true → (other text).isSome = true) :
    Situation.Narrows (forms number?) (forms other) text := by
  unfold Situation.Narrows forms
  cases converted : number? text with
  | some value =>
    obtain ⟨again, converts⟩ := Option.isSome_iff_exists.mp (fewer (by rw [converted]; rfl))
    exact .inl (by rw [converts]; rfl)
  | none =>
    cases other text with
    | none => exact .inl rfl
    | some again => exact .inr ⟨rfl, rfl⟩

theorem map_eq_error {f : α → β} {result : Except ε α} {error : ε} :
    result.map f = .error error ↔ result = .error error := by
  cases result <;> simp [Except.map]

/-- Where one conversion converts no number that another does not, sources are read alike except
for the values of literals, or the one fails at a number before the other fails if it does. -/
theorem read_narrows {number? other : String → Option Value}
    (fewer : ∀ n : Number, (number? (String.ofList n.text)).isSome = true →
      (other (String.ofList n.text)).isSome = true) (source : String) :
    (Term.read number? source).map Tree.form = (Term.read other source).map Tree.form ∨
      ∃ text place, Term.read number? source = .error ⟨.invalidNumber text, place⟩ ∧
        ∀ refusal, Term.read other source = .error refusal → place < refusal.position := by
  obtain ⟨spaced, trailing, formed, made, scanned⟩ := exists_spaced source.toList
  have read (conversion : String → Option Value) :
      (Term.read conversion source).map Tree.form =
        (Situation.operand []).run (forms conversion) (source.toList.length + 1)
          (locate 1 spaced) := by
    rw [Term.read, scanned, Situation.readOperand_eq_run]
    exact (Situation.run_form conversion _ (.operand []) _).symm
  have inside : ∀ l ∈ locate 1 spaced, l.position < source.toList.length + 1 := by
    intro l member
    have bounds := locate_bounds formed 1 l member
    rw [← made, List.length_append]
    omega
  have narrow (text : List Char)
      (occurs : ∃ position, ⟨.number text, position⟩ ∈ locate 1 spaced) :
      Situation.Narrows (forms number?) (forms other) (String.ofList text) := by
    obtain ⟨place, member⟩ := occurs
    obtain ⟨n, rfl⟩ := exists_number_of_mem formed member
    exact narrows_forms (fewer n)
  have runs := Situation.run_narrows (.operand []) narrow (locate_ordered formed 1) inside
  rw [← read, ← read] at runs
  rcases runs with same | ⟨text, place, failed, earlier⟩
  · exact .inl same
  · refine .inr ⟨text, place, map_eq_error.mp failed, fun refusal refused => ?_⟩
    exact earlier refusal (map_eq_error.mpr refused)

end Grammar

/-! ### Compiling -/

open Grammar

/-- The first kind reads no number that the second does not. -/
def NumberKind.Narrows (kind other : NumberKind) : Prop :=
  ∀ n : Number, (kind.read? (String.ofList n.text)).isSome = true →
    (other.read? (String.ofList n.text)).isSome = true

theorem NumberKind.narrows_float (kind : NumberKind) : kind.Narrows .float :=
  fun n _ => n.isSome_read?_float

theorem NumberKind.int_narrows (kind : NumberKind) : NumberKind.int.Narrows kind :=
  fun _ convertible => Number.isSome_read?_of_int convertible kind

/-- What compiles under a kind compiles in the same form under one that reads more numbers. -/
theorem compile_narrows {kind other : NumberKind} (narrows : kind.Narrows other)
    (success : Compiled.compile kind source name = .ok compiled) :
    ∃ again, Compiled.compile other source name = .ok again ∧
      again.root.form = compiled.root.form ∧ again.context = compiled.context := by
  obtain ⟨term, accepted, rfl⟩ := compile_eq_ok_iff.mp success
  rcases read_narrows narrows source with same | ⟨_, _, failed, _⟩
  · rw [accepted] at same
    cases converted : Term.read other.read? source with
    | error refusal =>
      rw [converted] at same
      contradiction
    | ok term' =>
      rw [converted] at same
      have forms : term'.form = term.form := (Except.ok.inj same).symm
      have resolved := Context.resolve_form .empty term'
      rw [forms, Context.resolve_form] at resolved
      obtain ⟨root, context⟩ := Prod.mk.inj resolved
      exact ⟨_, compile_eq_ok_iff.mpr ⟨term', converted, rfl⟩, root.symm, context.symm⟩
  · rw [accepted] at failed
    contradiction

/-- The kind of numbers does not change how a source is read. Under two kinds that it compiles
under, the trees are the same but for the values of literals, and so are the symbol tables. What
compiles under any kind compiles with binary64 numbers, and what compiles with integers compiles
under every kind. If a source fails to compile with binary64 numbers, then under every other kind
it fails with the same error, or for a number that stands before the place of that error. -/
theorem compile_kinds (source name : String) :
    (∀ kind other compiled again, Compiled.compile kind source name = .ok compiled →
      Compiled.compile other source name = .ok again →
        again.root.form = compiled.root.form ∧ again.context = compiled.context) ∧
    (∀ kind compiled, Compiled.compile kind source name = .ok compiled →
      ∃ again, Compiled.compile .float source name = .ok again) ∧
    (∀ compiled, Compiled.compile .int source name = .ok compiled →
      ∀ kind, ∃ again, Compiled.compile kind source name = .ok again) ∧
    ∀ error, Compiled.compile .float source name = .error error →
      ∀ kind, Compiled.compile kind source name = .error error ∨
        ∃ text place, Compiled.compile kind source name =
            .error (.malformed (Malformation.invalidNumber text).message (some ⟨place, name⟩) []) ∧
          ∃ position, error.position = some position ∧ place < position := by
  refine ⟨?_, ?_, ?_, ?_⟩
  · intro kind other compiled again first second
    obtain ⟨middle, success, root, context⟩ := compile_narrows kind.narrows_float first
    obtain ⟨middle', success', root', context'⟩ := compile_narrows other.narrows_float second
    obtain rfl : middle = middle' := Except.ok.inj (success.symm.trans success')
    exact ⟨root'.symm.trans root, context'.symm.trans context⟩
  · intro kind compiled success
    obtain ⟨again, converted, _⟩ := compile_narrows kind.narrows_float success
    exact ⟨again, converted⟩
  · intro compiled success kind
    obtain ⟨again, converted, _⟩ := compile_narrows kind.int_narrows success
    exact ⟨again, converted⟩
  · intro error failed kind
    obtain ⟨refusal, refused, rfl⟩ := exists_read_error failed
    have compile {kind : NumberKind} {refusal : Refusal}
        (refused : Term.read kind.read? source = .error refusal) :
        Compiled.compile kind source name = .error (refusal.toError name) := by
      rw [Compiled.compile, refused]
    rcases read_narrows kind.narrows_float source with same | ⟨text, place, failed, earlier⟩
    · rw [refused] at same
      exact .inl (compile (map_eq_error.mp same))
    · have position : (refusal.toError name).position = some (refusal.position : Int) := by
        unfold Refusal.toError
        split <;> rfl
      exact .inr ⟨text, place, compile failed, _, position, Int.ofNat_lt.mpr (earlier _ refused)⟩

/-- The call is not closed; under integers its argument is found out first. -/
theorem compile_kinds_of_unclosedCall :
    Compiled.compile .float "f(1.5" "<expr>" = .error (.endOfInput (some ⟨6, "<expr>"⟩)) ∧
      ∃ text place, Compiled.compile .int "f(1.5" "<expr>" = .error
          (.malformed (Malformation.invalidNumber text).message (some ⟨place, "<expr>"⟩) []) ∧
        place < 6 := by
  have scanned : Lexeme.scan 1 "f(1.5".toList =
      [⟨.name ['f'], 1⟩, ⟨.mark '(', 2⟩, ⟨.number ['1', '.', '5'], 3⟩] := by
    have text : "f(1.5".toList = ['f', '(', '1', '.', '5'] := rfl
    rw [text]
    decide +kernel
  have failed : Compiled.compile .float "f(1.5" "<expr>" =
      .error (.endOfInput (some ⟨6, "<expr>"⟩)) := by
    have converts : (NumberKind.float.read? "1.5").isSome = true := by decide +kernel
    obtain ⟨value, converted⟩ := Option.isSome_iff_exists.mp converts
    have text : String.ofList ['1', '.', '5'] = "1.5" := rfl
    simp only [Compiled.compile, Term.read, scanned, Term.readOperand, text, converted]
    rfl
  have refused : Compiled.compile .int "f(1.5" "<expr>" ≠
      .error (.endOfInput (some ⟨6, "<expr>"⟩)) := by
    rw [Compiled.compile, Term.read, scanned, Situation.readOperand_eq_run]
    intro same
    cases same
  obtain ⟨_, _, _, settled⟩ := compile_kinds "f(1.5" "<expr>"
  rcases settled _ failed .int with same | ⟨text, place, invalid, position, located, earlier⟩
  · exact absurd same refused
  · obtain rfl := Option.some.inj located
    exact ⟨failed, text, place, invalid, earlier⟩

end Formula
