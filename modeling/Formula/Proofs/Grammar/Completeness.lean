import Formula.Proofs.Grammar.Lexing

/-! Reading accepts what the grammar derives. The text of a derivation divides into the lexemes of
the derivation, and reading these, inside any stack of unfinished parts, has the same effect as
having its term at once. -/
namespace Formula.Grammar

/-! ### Lexemes of phrases -/

theorem isWellFormed_symbol (op : BinaryOperator) : (Lexeme.mark op.symbol).WellFormed := by
  cases op <;> exact ⟨rfl, rfl, rfl⟩

theorem Phrase.lexemes_formed (p : Phrase c) : ∀ s ∈ p.lexemes, s.lexeme.WellFormed := by
  have opening : (Lexeme.mark '(').WellFormed := ⟨rfl, rfl, rfl⟩
  have closing : (Lexeme.mark ')').WellFormed := ⟨rfl, rfl, rfl⟩
  have minus : (Lexeme.mark '-').WellFormed := ⟨rfl, rfl, rfl⟩
  have comma : (Lexeme.mark ',').WellFormed := ⟨rfl, rfl, rfl⟩
  induction p with
  | noAddend | noFactor | noArgument | noFurther => simp [Phrase.lexemes]
  | sum _ _ first rest | product _ _ first rest | someArguments _ _ first rest =>
    simpa [Phrase.lexemes] using List.forall_mem_append.mpr ⟨first, rest⟩
  | addend blanks op _ _ _ right rest | factor blanks op _ _ _ right rest =>
    simpa [Phrase.lexemes, isWellFormed_symbol] using List.forall_mem_append.mpr ⟨right, rest⟩
  | further _ _ _ argument rest =>
    simpa [Phrase.lexemes, comma] using List.forall_mem_append.mpr ⟨argument, rest⟩
  | number blanks n => simpa [Phrase.lexemes] using ⟨n, rfl⟩
  | var blanks name => simpa [Phrase.lexemes] using ⟨name, rfl⟩
  | call blanks name _ _ _ ih =>
    have named : (Lexeme.name name.text).WellFormed := ⟨name, rfl⟩
    simpa [Phrase.lexemes, named, opening, closing, or_imp, forall_and] using ih
  | negation _ _ ih => simpa [Phrase.lexemes, minus] using ih
  | group _ _ _ ih => simpa [Phrase.lexemes, opening, closing, or_imp, forall_and] using ih

theorem separated_append {first more : List Spaced} {rest : List Char} :
    Separated (first ++ more) rest ↔
      Separated first (more.flatMap Spaced.text ++ rest) ∧ Separated more rest := by
  induction first with
  | nil => simp [Separated]
  | cons s first ih => simp [Separated, ih, and_assoc]

theorem stops_mark (blanks : Blanks) {c : Char} (separates : c.isAlphanum = false ∧ c ≠ '.')
    (rest : List Char) : Stops (blanks.text ++ c :: rest) := by
  intro d h
  obtain ⟨text, blank⟩ := blanks
  cases text with
  | nil =>
    obtain rfl := Option.some.inj h
    exact separates
  | cons b text =>
    obtain rfl := Option.some.inj h
    exact isAlphanum_of_isBlank (blank b (by simp))

theorem stops_close (closing : Blanks) (rest : List Char) :
    Stops ((Spaced.mk closing (.mark ')')).text ++ rest) := by
  simpa [Spaced.text, Lexeme.text] using stops_mark closing (by decide) rest

theorem symbol_separates (op : BinaryOperator) :
    op.symbol.isAlphanum = false ∧ op.symbol ≠ '.' := by
  cases op <;> decide

/-- Phrases of the category go on after something else, and may be empty. -/
def Category.Extends : Category → Prop
  | addends | factors | further => True
  | sum | product | atom | arguments => False

theorem Phrase.stops (p : Phrase c) (extending : c.Extends) {rest : List Char}
    (stops : Stops rest) : Stops (p.lexemes.flatMap Spaced.text ++ rest) := by
  cases p with
  | noAddend | noFactor | noFurther => exact stops
  | addend blanks op | factor blanks op =>
    simpa [Phrase.lexemes, Spaced.text, Lexeme.text] using
      stops_mark blanks (symbol_separates op) _
  | further blanks =>
    simpa [Phrase.lexemes, Spaced.text, Lexeme.text] using stops_mark blanks (by decide) _
  | _ => contradiction

/-- Words in a phrase have marks or white space between them. -/
theorem Phrase.separated (p : Phrase c) {rest : List Char} (stops : Stops rest) :
    Separated p.lexemes rest := by
  induction p generalizing rest with
  | noAddend | noFactor | noArgument | noFurther => trivial
  | sum _ others first following | product _ others first following
  | someArguments _ others first following =>
    exact separated_append.mpr ⟨first (others.stops trivial stops), following stops⟩
  | addend _ _ _ _ others right following | factor _ _ _ _ others right following =>
    exact ⟨False.elim,
      separated_append.mpr ⟨right (others.stops trivial stops), following stops⟩⟩
  | further _ _ others argument following =>
    exact ⟨False.elim,
      separated_append.mpr ⟨argument (others.stops trivial stops), following stops⟩⟩
  | number | var => exact ⟨fun _ => stops, trivial⟩
  | call _ _ opening _ closing ih =>
    have inner := ih (stops_close closing rest)
    refine ⟨fun _ => ?_, False.elim, separated_append.mpr ⟨by simpa using inner, ?_⟩⟩
    · simpa [Spaced.text, Lexeme.text] using stops_mark opening (by decide) _
    · exact ⟨False.elim, trivial⟩
  | negation _ _ ih => exact ⟨False.elim, ih stops⟩
  | group _ _ closing ih =>
    have inner := ih (stops_close closing rest)
    refine ⟨False.elim, separated_append.mpr ⟨by simpa using inner, ?_⟩⟩
    exact ⟨False.elim, trivial⟩

theorem Blanks.stops (blanks : Blanks) : Stops blanks.text := by
  intro c h
  exact isAlphanum_of_isBlank (blanks.blank c (List.mem_of_head? h))

/-- The derived text divides into the lexemes of its derivation. -/
theorem Derivation.scan_text (d : Derivation) (position : Nat) :
    Lexeme.scan position d.text = locate position d.sum.lexemes := by
  rw [Derivation.text, scan_append d.sum.lexemes_formed (d.sum.separated d.trailing.stops),
    scan_blanks, List.append_nil]

/-! ### The machine -/

/-- The lexemes are these, at some positions. -/
def Spells (located : List LocatedLexeme) (spaced : List Spaced) : Prop :=
  located.map (·.lexeme) = spaced.map (·.lexeme)

theorem Spells.nil (spells : Spells located []) : located = [] :=
  List.map_eq_nil_iff.mp spells

theorem Spells.cons (spells : Spells located (s :: more)) :
    ∃ position others, located = ⟨s.lexeme, position⟩ :: others ∧ Spells others more := by
  obtain ⟨⟨_, position⟩, others, rfl, rfl, same⟩ := List.map_eq_cons_iff.mp spells
  exact ⟨position, others, rfl, same⟩

theorem Spells.append (spells : Spells located (first ++ more)) :
    ∃ left right, located = left ++ right ∧ Spells left first ∧ Spells right more := by
  rw [Spells, List.map_append] at spells
  obtain ⟨left, right, rfl, first, more⟩ := List.map_eq_append_iff.mp spells
  exact ⟨left, right, rfl, first, more⟩

theorem spells_locate (position : Nat) (spaced : List Spaced) :
    Spells (locate position spaced) spaced := by
  induction spaced generalizing position with
  | nil => rfl
  | cons s more ih => exact congrArg _ (ih _)

/-- What follows a name does not make it a call. -/
def Detached (rest : List LocatedLexeme) : Prop :=
  ∀ position more, rest ≠ ⟨.mark '(', position⟩ :: more

theorem detached_mark {c : Char} (different : c ≠ '(') (position : Nat)
    (rest : List LocatedLexeme) : Detached (⟨.mark c, position⟩ :: rest) := by
  rintro _ _ ⟨⟩
  exact different rfl

theorem symbol_ne_open (op : BinaryOperator) : op.symbol ≠ '(' := by
  cases op <;> decide

theorem Phrase.detached (p : Phrase c) (extending : c.Extends) {located rest : List LocatedLexeme}
    (spells : Spells located p.lexemes) (detached : Detached rest) :
    Detached (located ++ rest) := by
  cases p with
  | noAddend | noFactor | noFurther =>
    rw [spells.nil]
    exact detached
  | addend blanks op | factor blanks op =>
    obtain ⟨position, others, rfl, _⟩ := spells.cons
    exact detached_mark (symbol_ne_open op) position _
  | further =>
    obtain ⟨position, others, rfl, _⟩ := spells.cons
    exact detached_mark (by decide) position _
  | _ => contradiction

/-- Nothing on top of the stack waits for an atom. -/
def AwaitsProduct : List Frame → Prop
  | .negation :: _ | .product .. :: _ => False
  | _ => True

/-- Nothing on top of the stack waits for an atom or a product. -/
def AwaitsSum : List Frame → Prop
  | .negation :: _ | .product .. :: _ | .sum .. :: _ => False
  | _ => True

theorem AwaitsSum.awaitsProduct (awaits : AwaitsSum stack) : AwaitsProduct stack := by
  unfold AwaitsProduct
  split
  · exact awaits
  · exact awaits
  · trivial

theorem finishAtom_eq (awaits : AwaitsProduct stack) (atom : Term) :
    Term.finishAtom atom stack = (atom, stack) := by
  rw [Term.finishAtom.eq_3]
  · rintro _ rfl
    exact awaits
  · rintro _ _ _ rfl
    exact awaits

theorem finishProduct_eq (awaits : AwaitsSum stack) (product : Term) :
    Term.finishProduct product stack = (product, stack) := by
  rw [Term.finishProduct.eq_2]
  rintro _ _ _ rfl
  exact awaits

/-- A phrase of the category begins with a lexeme that closes nothing. -/
def Category.Begins : Category → Prop
  | sum | product | atom => True
  | addends | factors | arguments | further => False

theorem Phrase.head (p : Phrase c) (begins : c.Begins) :
    ∃ s more, p.lexemes = s :: more ∧ s.lexeme ≠ .mark ')' := by
  induction p with
  | sum _ rest first _ | product _ rest first _ =>
    obtain ⟨s, more, lexemes, different⟩ := first trivial
    exact ⟨s, more ++ rest.lexemes, by simp [Phrase.lexemes, lexemes], different⟩
  | number | var | call | negation | group => exact ⟨_, _, rfl, by simp⟩
  | _ => contradiction

theorem Phrase.opens (p : Phrase c) (begins : c.Begins) {located : List LocatedLexeme}
    (spells : Spells located p.lexemes) (rest : List LocatedLexeme) (position : Nat)
    (more : List LocatedLexeme) : located ++ rest ≠ ⟨.mark ')', position⟩ :: more := by
  intro same
  obtain ⟨s, lexemes, head, different⟩ := p.head begins
  rw [head] at spells
  obtain ⟨_, _, rfl, _⟩ := spells.cons
  obtain ⟨first, _⟩ := List.cons.inj same
  exact different (congrArg LocatedLexeme.lexeme first)

-- The many proofs below that unfold reading would each wait for its equations; asked for here, they
-- are there when the first of these proofs begins.
section
attribute [local simp] Term.readOperand Term.readFollowing
end

section
variable (number? : String → Option Value) (final : Nat)

/-- Reads what follows a product inside a stack. -/
def follow (rest : List LocatedLexeme) (state : Term × List Frame) : Except Refusal Term :=
  Term.readFollowing number? final rest state.1 state.2

theorem readOperand_number (text : List Char) (position : Nat) (rest : List LocatedLexeme)
    (stack : List Frame) (converted : number? (String.ofList text) = some value) :
    Term.readOperand number? final (⟨.number text, position⟩ :: rest) stack =
      follow number? final rest (Term.finishAtom (.literal value) stack) := by
  rw [Term.readOperand.eq_2, converted]
  rfl

theorem readOperand_var (name : List Char) (position : Nat) (rest : List LocatedLexeme)
    (stack : List Frame) (detached : Detached rest) :
    Term.readOperand number? final (⟨.name name, position⟩ :: rest) stack =
      follow number? final rest (Term.finishAtom (.var (String.ofList name)) stack) := by
  rw [Term.readOperand.eq_5]
  · rfl
  · exact fun _ _ _ same => detached _ _ same
  · exact fun _ _ same => detached _ _ same

theorem readOperand_negation (position : Nat) (rest : List LocatedLexeme)
    (stack : List Frame) :
    Term.readOperand number? final (⟨.mark '-', position⟩ :: rest) stack =
      Term.readOperand number? final rest (.negation :: stack) := by
  rw [Term.readOperand.eq_6, if_pos rfl]

theorem readOperand_group (position : Nat) (rest : List LocatedLexeme) (stack : List Frame) :
    Term.readOperand number? final (⟨.mark '(', position⟩ :: rest) stack =
      Term.readOperand number? final rest (.group :: stack) := by
  rw [Term.readOperand.eq_6, if_neg (by decide), if_pos rfl]

theorem readOperand_emptyCall (name : List Char) (start opening closing : Nat)
    (rest : List LocatedLexeme) (stack : List Frame) :
    Term.readOperand number? final (⟨.name name, start⟩ :: ⟨.mark '(', opening⟩ ::
        ⟨.mark ')', closing⟩ :: rest) stack =
      follow number? final rest (Term.finishAtom (.call (String.ofList name) []) stack) := by
  rw [Term.readOperand.eq_3]
  rfl

theorem readOperand_call (name : List Char) (start opening : Nat) (stack : List Frame)
    {rest : List LocatedLexeme} (filled : ∀ closing more, rest ≠ ⟨.mark ')', closing⟩ :: more) :
    Term.readOperand number? final (⟨.name name, start⟩ :: ⟨.mark '(', opening⟩ :: rest) stack =
      Term.readOperand number? final rest (.call (String.ofList name) [] :: stack) := by
  rw [Term.readOperand.eq_4]
  exact filled

theorem readFollowing_factor (op : BinaryOperator) (multiplicative : op = .mul ∨ op = .div)
    (position : Nat) (rest : List LocatedLexeme) (product : Term) (stack : List Frame) :
    Term.readFollowing number? final (⟨.mark op.symbol, position⟩ :: rest) product stack =
      Term.readOperand number? final rest (.product product op :: stack) := by
  rcases multiplicative with rfl | rfl <;> rw [Term.readFollowing.eq_def] <;> rfl

theorem readFollowing_addend (op : BinaryOperator) (additive : op = .add ∨ op = .sub)
    (position : Nat) (rest : List LocatedLexeme) (product : Term) (stack : List Frame) :
    Term.readFollowing number? final (⟨.mark op.symbol, position⟩ :: rest) product stack =
      Term.readOperand number? final rest (.sum (Term.finishProduct product stack).1 op ::
        (Term.finishProduct product stack).2) := by
  rcases additive with rfl | rfl <;> rw [Term.readFollowing.eq_def] <;> rfl

theorem readFollowing_group (position : Nat) (rest : List LocatedLexeme)
    (finished : Term.finishProduct product pending = (sum, .group :: stack)) :
    Term.readFollowing number? final (⟨.mark ')', position⟩ :: rest) product pending =
      follow number? final rest (Term.finishAtom sum stack) := by
  rw [Term.readFollowing.eq_2 _ _ _ _ _ _ _ _ finished]
  rfl

theorem readFollowing_call (position : Nat) (rest : List LocatedLexeme)
    (finished : Term.finishProduct product pending = (sum, .call name arguments :: stack)) :
    Term.readFollowing number? final (⟨.mark ')', position⟩ :: rest) product pending =
      follow number? final rest
        (Term.finishAtom (.call name (sum :: arguments).reverse) stack) := by
  rw [Term.readFollowing.eq_3 _ _ _ _ _ _ _ _ _ _ finished]
  rfl

theorem readFollowing_comma (position : Nat) (rest : List LocatedLexeme)
    (finished : Term.finishProduct product pending = (sum, .call name arguments :: stack)) :
    Term.readFollowing number? final (⟨.mark ',', position⟩ :: rest) product pending =
      Term.readOperand number? final rest (.call name (sum :: arguments) :: stack) := by
  rw [Term.readFollowing.eq_4 _ _ _ _ _ _ _ _ _ _ finished]
  rfl

/-- Reading a phrase has the effect of having what it means. A sum is left with its last product
pending, since an operator of the higher level may follow. -/
def Reads : {c : Category} → Phrase c → Prop
  | .atom, p => ∀ located rest stack atom, Spells located p.lexemes → Detached rest →
      p.fold (terms number?) = some atom →
      Term.readOperand number? final (located ++ rest) stack =
        follow number? final rest (Term.finishAtom atom stack)
  | .product, p => ∀ located rest stack product, Spells located p.lexemes → Detached rest →
      AwaitsProduct stack → p.fold (terms number?) = some product →
      Term.readOperand number? final (located ++ rest) stack =
        Term.readFollowing number? final rest product stack
  | .factors, p => ∀ located rest stack left product, Spells located p.lexemes →
      Detached rest → p.fold (terms number?) (some left) = some product →
      Term.readFollowing number? final (located ++ rest) left stack =
        Term.readFollowing number? final rest product stack
  | .sum, p => ∀ located rest stack sum, Spells located p.lexemes → Detached rest →
      AwaitsSum stack → p.fold (terms number?) = some sum →
      ∃ product pending, Term.finishProduct product pending = (sum, stack) ∧
        Term.readOperand number? final (located ++ rest) stack =
          Term.readFollowing number? final rest product pending
  | .addends, p => ∀ located rest stack product pending left sum, Spells located p.lexemes →
      Detached rest → Term.finishProduct product pending = (left, stack) →
      p.fold (terms number?) (some left) = some sum →
      ∃ last waiting, Term.finishProduct last waiting = (sum, stack) ∧
        Term.readFollowing number? final (located ++ rest) product pending =
          Term.readFollowing number? final rest last waiting
  | .arguments, p => ∀ located rest stack name start opening closing inputs,
      Spells located p.lexemes → p.fold (terms number?) = inputs.map some →
      Term.readOperand number? final (⟨.name name, start⟩ :: ⟨.mark '(', opening⟩ ::
          (located ++ ⟨.mark ')', closing⟩ :: rest)) stack =
        follow number? final rest
          (Term.finishAtom (.call (String.ofList name) inputs) stack)
  | .further, p => ∀ located rest stack product pending argument name arguments closing inputs,
      Spells located p.lexemes → p.fold (terms number?) = inputs.map some →
      Term.finishProduct product pending = (argument, .call name arguments :: stack) →
      Term.readFollowing number? final (located ++ ⟨.mark ')', closing⟩ :: rest)
          product pending =
        follow number? final rest
          (Term.finishAtom (.call name ((argument :: arguments).reverse ++ inputs)) stack)

theorem addends_none : ∀ p : Phrase .addends, p.fold (terms number?) none = none
  | .noAddend => rfl
  | .addend _ _ _ _ rest => addends_none rest

theorem factors_none : ∀ p : Phrase .factors, p.fold (terms number?) none = none
  | .noFactor => rfl
  | .factor _ _ _ _ rest => factors_none rest

theorem terms_binary_none (op : BinaryOperator) (left : Option Term) :
    (terms number?).binary op left none = none := by
  cases left <;> rfl

theorem mapM_id_eq_some {options : List (Option α)} {values : List α} :
    options.mapM id = some values ↔ options = values.map some := by
  induction options generalizing values with
  | nil => cases values <;> simp
  | cons first others ih =>
    cases values with
    | nil => simp [List.mapM_cons, Option.bind_eq_some_iff]
    | cons value values => simp [List.mapM_cons, Option.bind_eq_some_iff, ih]

/-! ### Phrases

A phrase has its effect if its parts have theirs, one lemma for each way to form a phrase. -/

theorem reads_sum {first : Phrase .product} {others : Phrase .addends}
    (firstReads : Reads number? final first) (othersRead : Reads number? final others) :
    Reads number? final (Phrase.sum first others) := by
  intro located rest stack sum spells detached awaits denotes
  obtain ⟨left, right, rfl, spellsFirst, spellsOthers⟩ := spells.append
  cases meaning : first.fold (terms number?) with
  | none => simp [Phrase.fold, meaning, addends_none] at denotes
  | some product =>
    simp only [Phrase.fold, meaning] at denotes
    have start := firstReads left (right ++ rest) stack product spellsFirst
      (others.detached trivial spellsOthers detached) awaits.awaitsProduct meaning
    obtain ⟨last, pending, finished, more⟩ := othersRead right rest stack product stack product
      sum spellsOthers detached (finishProduct_eq awaits product) denotes
    exact ⟨last, pending, finished, by rw [List.append_assoc, start, more]⟩

theorem reads_noAddend : Reads number? final Phrase.noAddend := by
  intro located rest stack product pending left sum spells detached finished denotes
  obtain rfl := Option.some.inj denotes
  exact ⟨product, pending, finished, by rw [spells.nil]; rfl⟩

theorem reads_addend (blanks : Blanks) (op : BinaryOperator) (additive : op = .add ∨ op = .sub)
    {operand : Phrase .product} {others : Phrase .addends}
    (operandReads : Reads number? final operand) (othersRead : Reads number? final others) :
    Reads number? final (Phrase.addend blanks op additive operand others) := by
  intro located rest stack product pending left sum spells detached finished denotes
  obtain ⟨position, after, rfl, spelled⟩ := spells.cons
  obtain ⟨first, more, rfl, spellsOperand, spellsOthers⟩ := spelled.append
  cases meaning : operand.fold (terms number?) with
  | none => simp [Phrase.fold, meaning, terms_binary_none, addends_none] at denotes
  | some right =>
    simp only [Phrase.fold, meaning] at denotes
    have start := operandReads first (more ++ rest) (.sum left op :: stack) right spellsOperand
      (others.detached trivial spellsOthers detached) trivial meaning
    obtain ⟨last, waiting, finishedOthers, next⟩ := othersRead more rest stack right
      (.sum left op :: stack) (.binary op left right) sum spellsOthers detached rfl denotes
    refine ⟨last, waiting, finishedOthers, ?_⟩
    rw [List.cons_append, readFollowing_addend number? final op additive, finished,
      List.append_assoc, start, next]

theorem reads_product {first : Phrase .atom} {others : Phrase .factors}
    (firstReads : Reads number? final first) (othersRead : Reads number? final others) :
    Reads number? final (Phrase.product first others) := by
  intro located rest stack product spells detached awaits denotes
  obtain ⟨left, right, rfl, spellsFirst, spellsOthers⟩ := spells.append
  cases meaning : first.fold (terms number?) with
  | none => simp [Phrase.fold, meaning, factors_none] at denotes
  | some atom =>
    simp only [Phrase.fold, meaning] at denotes
    have start := firstReads left (right ++ rest) stack atom spellsFirst
      (others.detached trivial spellsOthers detached) meaning
    have next := othersRead right rest stack atom product spellsOthers detached denotes
    rw [List.append_assoc, start, finishAtom_eq awaits, follow, next]

theorem reads_noFactor : Reads number? final Phrase.noFactor := by
  intro located rest stack left product spells detached denotes
  obtain rfl := Option.some.inj denotes
  rw [spells.nil]
  rfl

theorem reads_factor (blanks : Blanks) (op : BinaryOperator)
    (multiplicative : op = .mul ∨ op = .div) {operand : Phrase .atom} {others : Phrase .factors}
    (operandReads : Reads number? final operand) (othersRead : Reads number? final others) :
    Reads number? final (Phrase.factor blanks op multiplicative operand others) := by
  intro located rest stack left product spells detached denotes
  obtain ⟨position, after, rfl, spelled⟩ := spells.cons
  obtain ⟨first, more, rfl, spellsOperand, spellsOthers⟩ := spelled.append
  cases meaning : operand.fold (terms number?) with
  | none => simp [Phrase.fold, meaning, terms_binary_none, factors_none] at denotes
  | some right =>
    simp only [Phrase.fold, meaning] at denotes
    have start := operandReads first (more ++ rest) (.product left op :: stack) right
      spellsOperand (others.detached trivial spellsOthers detached) meaning
    have next := othersRead more rest stack (.binary op left right) product spellsOthers detached
      denotes
    rw [List.cons_append, readFollowing_factor number? final op multiplicative,
      List.append_assoc, start, Term.finishAtom, follow, next]

theorem reads_number (blanks : Blanks) (n : Number) :
    Reads number? final (Phrase.number blanks n) := by
  intro located rest stack atom spells detached denotes
  obtain ⟨position, _, rfl, spelled⟩ := spells.cons
  obtain ⟨value, converted, rfl⟩ := Option.map_eq_some_iff.mp denotes
  rw [spelled.nil, List.singleton_append,
    readOperand_number number? final n.text position rest stack converted]

theorem reads_var (blanks : Blanks) (name : Name) :
    Reads number? final (Phrase.var blanks name) := by
  intro located rest stack atom spells detached denotes
  obtain ⟨position, _, rfl, spelled⟩ := spells.cons
  obtain rfl := Option.some.inj denotes
  rw [spelled.nil, List.singleton_append,
    readOperand_var number? final name.text position rest stack detached]

theorem reads_call (blanks : Blanks) (name : Name) (opening closing : Blanks)
    {arguments : Phrase .arguments} (innerReads : Reads number? final arguments) :
    Reads number? final (Phrase.call blanks name opening arguments closing) := by
  intro located rest stack atom spells detached denotes
  obtain ⟨start, _, rfl, spelled⟩ := spells.cons
  obtain ⟨bracket, _, rfl, spelledInside⟩ := spelled.cons
  obtain ⟨inner, _, rfl, spellsArguments, spelledLast⟩ := spelledInside.append
  obtain ⟨position, _, rfl, spelledEnd⟩ := spelledLast.cons
  obtain ⟨inputs, meaning, rfl⟩ := Option.map_eq_some_iff.mp denotes
  have read := innerReads inner rest stack name.text start bracket position inputs spellsArguments
    (mapM_id_eq_some.mp meaning)
  simpa [spelledEnd.nil] using read

theorem reads_negation (blanks : Blanks) {operand : Phrase .atom}
    (innerReads : Reads number? final operand) :
    Reads number? final (Phrase.negation blanks operand) := by
  intro located rest stack atom spells detached denotes
  obtain ⟨position, after, rfl, spelled⟩ := spells.cons
  obtain ⟨inner, meaning, rfl⟩ := Option.map_eq_some_iff.mp denotes
  have read := innerReads after rest (.negation :: stack) inner spelled detached meaning
  rw [List.cons_append, readOperand_negation, read, Term.finishAtom]

theorem reads_group (blanks closing : Blanks) {inner : Phrase .sum}
    (innerReads : Reads number? final inner) :
    Reads number? final (Phrase.group blanks inner closing) := by
  intro located rest stack atom spells detached denotes
  obtain ⟨position, _, rfl, spelled⟩ := spells.cons
  obtain ⟨body, _, rfl, spellsInner, spelledLast⟩ := spelled.append
  obtain ⟨bracket, _, rfl, spelledEnd⟩ := spelledLast.cons
  obtain ⟨product, pending, finished, read⟩ := innerReads body (⟨.mark ')', bracket⟩ :: rest)
    (.group :: stack) atom spellsInner (detached_mark (by decide) _ _) trivial denotes
  have closed := readFollowing_group number? final bracket rest finished
  rw [spelledEnd.nil, List.cons_append, readOperand_group, List.append_assoc,
    List.singleton_append, read, closed]

theorem reads_noArgument : Reads number? final Phrase.noArgument := by
  intro located rest stack name start opening closing inputs spells denotes
  obtain rfl := List.map_eq_nil_iff.mp denotes.symm
  rw [spells.nil, List.nil_append, readOperand_emptyCall]

theorem reads_someArguments {first : Phrase .sum} {others : Phrase .further}
    (firstReads : Reads number? final first) (othersRead : Reads number? final others) :
    Reads number? final (Phrase.someArguments first others) := by
  intro located rest stack name start opening closing inputs spells denotes
  obtain ⟨left, right, rfl, spellsFirst, spellsOthers⟩ := spells.append
  obtain ⟨input, inputs, rfl, meaning, meanings⟩ := List.map_eq_cons_iff.mp denotes.symm
  obtain ⟨product, pending, finished, read⟩ := firstReads left
    (right ++ ⟨.mark ')', closing⟩ :: rest) (.call (String.ofList name) [] :: stack) input
    spellsFirst (others.detached trivial spellsOthers (detached_mark (by decide) _ _)) trivial
    meaning.symm
  have next := othersRead right rest stack product pending input (String.ofList name) [] closing
    inputs spellsOthers meanings.symm finished
  -- the first argument does not begin with the parenthesis that closes a call
  have filled := first.opens trivial spellsFirst (right ++ ⟨.mark ')', closing⟩ :: rest)
  rw [List.append_assoc, readOperand_call number? final name start opening stack filled, read,
    next]
  rfl

theorem reads_noFurther : Reads number? final Phrase.noFurther := by
  intro located rest stack product pending argument name arguments closing inputs spells
    denotes finished
  obtain rfl := List.map_eq_nil_iff.mp denotes.symm
  rw [spells.nil, List.nil_append, List.append_nil,
    readFollowing_call number? final closing rest finished]

theorem reads_further (blanks : Blanks) {argument : Phrase .sum} {others : Phrase .further}
    (argumentReads : Reads number? final argument) (othersRead : Reads number? final others) :
    Reads number? final (Phrase.further blanks argument others) := by
  intro located rest stack product pending previous name arguments closing inputs spells
    denotes finished
  obtain ⟨position, after, rfl, spelled⟩ := spells.cons
  obtain ⟨first, more, rfl, spellsArgument, spellsOthers⟩ := spelled.append
  obtain ⟨input, inputs, rfl, meaning, meanings⟩ := List.map_eq_cons_iff.mp denotes.symm
  obtain ⟨last, waiting, finishedArgument, read⟩ := argumentReads first
    (more ++ ⟨.mark ')', closing⟩ :: rest) (.call name (previous :: arguments) :: stack) input
    spellsArgument (others.detached trivial spellsOthers (detached_mark (by decide) _ _))
    trivial meaning.symm
  have next := othersRead more rest stack last waiting input name (previous :: arguments) closing
    inputs spellsOthers meanings.symm finishedArgument
  rw [List.cons_append, readFollowing_comma number? final position _ finished,
    List.append_assoc, read, next]
  simp

theorem Phrase.reads (p : Phrase c) : Reads number? final p := by
  induction p with
  | sum _ _ first others => exact reads_sum number? final first others
  | noAddend => exact reads_noAddend number? final
  | addend blanks op additive _ _ operand others =>
    exact reads_addend number? final blanks op additive operand others
  | product _ _ first others => exact reads_product number? final first others
  | noFactor => exact reads_noFactor number? final
  | factor blanks op multiplicative _ _ operand others =>
    exact reads_factor number? final blanks op multiplicative operand others
  | number blanks n => exact reads_number number? final blanks n
  | var blanks name => exact reads_var number? final blanks name
  | call blanks name opening _ closing arguments =>
    exact reads_call number? final blanks name opening closing arguments
  | negation blanks _ operand => exact reads_negation number? final blanks operand
  | group blanks _ closing inner => exact reads_group number? final blanks closing inner
  | noArgument => exact reads_noArgument number? final
  | someArguments _ _ first others => exact reads_someArguments number? final first others
  | noFurther => exact reads_noFurther number? final
  | further blanks _ _ argument others =>
    exact reads_further number? final blanks argument others

/-- Reading gives the term that a derivation of the source denotes. -/
theorem Derivation.read_text (d : Derivation) (denotes : d.term? number? = some term) :
    Term.read number? (String.ofList d.text) = .ok term := by
  have detached : Detached [] := by rintro _ _ ⟨⟩
  obtain ⟨product, pending, finished, read⟩ := d.sum.reads number? (d.text.length + 1)
    (locate 1 d.sum.lexemes) [] [] term (spells_locate 1 _) detached trivial denotes
  rw [List.append_nil] at read
  rw [Term.read, String.toList_ofList, d.scan_text, read, Term.readFollowing.eq_1, Term.finish,
    finished]

end

end Formula.Grammar
