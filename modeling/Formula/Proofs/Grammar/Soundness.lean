import Formula.Proofs.Grammar.Completeness

/-! Whatever reading accepts, the grammar derives. The invariant relates the stack of unfinished
parts to the lexemes read so far: each frame stands for phrases that are finished, with the marks
after them, and the frames below it for everything before these. -/
namespace Formula.Grammar

section
variable (number? : String → Option Value) (final : Nat)

/-- The steps of reading that begin where an operand is needed and go on to a term. -/
inductive OperandStep (term : Term) : List LocatedLexeme → List Frame → Prop where
  | number : number? (String.ofList text) = some value →
      follow number? final rest (Term.finishAtom (.literal value) stack) = .ok term →
      OperandStep term (⟨.number text, position⟩ :: rest) stack
  | emptyCall :
      follow number? final rest (Term.finishAtom (.call (String.ofList name) []) stack) =
        .ok term →
      OperandStep term (⟨.name name, start⟩ :: ⟨.mark '(', opening⟩ ::
        ⟨.mark ')', closing⟩ :: rest) stack
  | call : Term.readOperand number? final rest (.call (String.ofList name) [] :: stack) =
        .ok term →
      OperandStep term (⟨.name name, start⟩ :: ⟨.mark '(', opening⟩ :: rest) stack
  | var : follow number? final rest (Term.finishAtom (.var (String.ofList name)) stack) =
        .ok term →
      OperandStep term (⟨.name name, position⟩ :: rest) stack
  | negation : Term.readOperand number? final rest (.negation :: stack) = .ok term →
      OperandStep term (⟨.mark '-', position⟩ :: rest) stack
  | group : Term.readOperand number? final rest (.group :: stack) = .ok term →
      OperandStep term (⟨.mark '(', position⟩ :: rest) stack

/-- The steps of reading after a sum inside a stack that go on to a term. -/
inductive FollowingStep (term : Term) (product : Term) (pending : List Frame) :
    List LocatedLexeme → Prop where
  | finish : Term.finishProduct product pending = (term, []) →
      FollowingStep term product pending []
  | factor (op : BinaryOperator) : op = .mul ∨ op = .div →
      Term.readOperand number? final rest (.product product op :: pending) = .ok term →
      FollowingStep term product pending (⟨.mark op.symbol, position⟩ :: rest)
  | addend (op : BinaryOperator) : op = .add ∨ op = .sub →
      Term.finishProduct product pending = (sum, stack) →
      Term.readOperand number? final rest (.sum sum op :: stack) = .ok term →
      FollowingStep term product pending (⟨.mark op.symbol, position⟩ :: rest)
  | group : Term.finishProduct product pending = (sum, .group :: stack) →
      follow number? final rest (Term.finishAtom sum stack) = .ok term →
      FollowingStep term product pending (⟨.mark ')', position⟩ :: rest)
  | call : Term.finishProduct product pending = (sum, .call name arguments :: stack) →
      follow number? final rest
        (Term.finishAtom (.call name (sum :: arguments).reverse) stack) = .ok term →
      FollowingStep term product pending (⟨.mark ')', position⟩ :: rest)
  | comma : Term.finishProduct product pending = (sum, .call name arguments :: stack) →
      Term.readOperand number? final rest (.call name (sum :: arguments) :: stack) = .ok term →
      FollowingStep term product pending (⟨.mark ',', position⟩ :: rest)

variable {number? final}

theorem operandStep (read : Term.readOperand number? final located stack = .ok term) :
    OperandStep number? final term located stack := by
  rw [Term.readOperand.eq_def] at read
  split at read
  · contradiction
  · split at read
    · exact .number (by assumption) read
    · contradiction
  · exact .emptyCall read
  · exact .call read
  · exact .var read
  · split at read
    · next minus =>
      subst minus
      exact .negation read
    · split at read
      · next bracket =>
        subst bracket
        exact .group read
      · contradiction

theorem multiplicative_symbol {op : BinaryOperator} (h : Term.multiplicative? c = some op) :
    c = op.symbol ∧ (op = .mul ∨ op = .div) := by
  unfold Term.multiplicative? at h
  split at h
  · cases h
    exact ⟨rfl, .inl rfl⟩
  · cases h
    exact ⟨rfl, .inr rfl⟩
  · contradiction

theorem additive_symbol {op : BinaryOperator} (h : Term.additive? c = some op) :
    c = op.symbol ∧ (op = .add ∨ op = .sub) := by
  unfold Term.additive? at h
  split at h
  · cases h
    exact ⟨rfl, .inl rfl⟩
  · cases h
    exact ⟨rfl, .inr rfl⟩
  · contradiction

theorem finish_ok (h : Term.finish product pending = .ok term) :
    Term.finishProduct product pending = (term, []) := by
  unfold Term.finish at h
  split at h
  · next finished =>
    cases h
    exact finished
  · contradiction
  · contradiction

theorem followingStep (read : Term.readFollowing number? final located product pending = .ok term) :
    FollowingStep number? final term product pending located := by
  rw [Term.readFollowing.eq_def] at read
  split at read
  · split at read
    · next finished =>
      cases read
      exact .finish (finish_ok finished)
    · contradiction
  · split at read
    · next multiplicative =>
      obtain ⟨rfl, level⟩ := multiplicative_symbol multiplicative
      exact .factor _ level read
    · next additive =>
      obtain ⟨rfl, level⟩ := additive_symbol additive
      exact .addend _ level rfl read
    · split at read
      · exact .group (by assumption) read
      · exact .call (by assumption) read
      · exact .comma (by assumption) read
      · contradiction
  · contradiction

end

/-! ### Extending phrases -/

theorem exists_addends_snoc (blanks : Blanks) (op : BinaryOperator)
    (additive : op = .add ∨ op = .sub) (right : Phrase .product) : ∀ p : Phrase .addends,
    ∃ longer : Phrase .addends,
      longer.lexemes = p.lexemes ++ ⟨blanks, .mark op.symbol⟩ :: right.lexemes ∧
      ∀ {α : Type} (A : Algebra α) (left : α),
        longer.fold A left = A.binary op (p.fold A left) (right.fold A)
  | .noAddend => ⟨.addend blanks op additive right .noAddend, by simp [Phrase.lexemes],
      fun _ _ => rfl⟩
  | .addend b o h operand rest => by
    obtain ⟨longer, lexemes, meaning⟩ := exists_addends_snoc blanks op additive right rest
    exact ⟨.addend b o h operand longer, by simp [Phrase.lexemes, lexemes],
      fun A left => meaning A _⟩

theorem exists_sum_snoc (sum : Phrase .sum) (blanks : Blanks) (op : BinaryOperator)
    (additive : op = .add ∨ op = .sub) (right : Phrase .product) : ∃ longer : Phrase .sum,
    longer.lexemes = sum.lexemes ++ ⟨blanks, .mark op.symbol⟩ :: right.lexemes ∧
    ∀ {α : Type} (A : Algebra α), longer.fold A = A.binary op (sum.fold A) (right.fold A) := by
  cases sum with
  | sum first rest =>
    obtain ⟨longer, lexemes, meaning⟩ := exists_addends_snoc blanks op additive right rest
    exact ⟨.sum first longer, by simp [Phrase.lexemes, lexemes], fun A => meaning A _⟩

theorem exists_factors_snoc (blanks : Blanks) (op : BinaryOperator)
    (multiplicative : op = .mul ∨ op = .div) (right : Phrase .atom) : ∀ p : Phrase .factors,
    ∃ longer : Phrase .factors,
      longer.lexemes = p.lexemes ++ ⟨blanks, .mark op.symbol⟩ :: right.lexemes ∧
      ∀ {α : Type} (A : Algebra α) (left : α),
        longer.fold A left = A.binary op (p.fold A left) (right.fold A)
  | .noFactor => ⟨.factor blanks op multiplicative right .noFactor, by simp [Phrase.lexemes],
      fun _ _ => rfl⟩
  | .factor b o h operand rest => by
    obtain ⟨longer, lexemes, meaning⟩ := exists_factors_snoc blanks op multiplicative right rest
    exact ⟨.factor b o h operand longer, by simp [Phrase.lexemes, lexemes],
      fun A left => meaning A _⟩

theorem exists_product_snoc (product : Phrase .product) (blanks : Blanks) (op : BinaryOperator)
    (multiplicative : op = .mul ∨ op = .div) (right : Phrase .atom) :
    ∃ longer : Phrase .product,
      longer.lexemes = product.lexemes ++ ⟨blanks, .mark op.symbol⟩ :: right.lexemes ∧
      ∀ {α : Type} (A : Algebra α),
        longer.fold A = A.binary op (product.fold A) (right.fold A) := by
  cases product with
  | product first rest =>
    obtain ⟨longer, lexemes, meaning⟩ := exists_factors_snoc blanks op multiplicative right rest
    exact ⟨.product first longer, by simp [Phrase.lexemes, lexemes], fun A => meaning A _⟩

/-! ### The invariant -/

/-- The stack stands for the lexemes passed. -/
inductive Consumed (number? : String → Option Value) : List Frame → List Spaced → Prop where
  | start : Consumed number? [] []
  | negation (blanks : Blanks) : Consumed number? stack passed →
      Consumed number? (.negation :: stack) (passed ++ [⟨blanks, .mark '-'⟩])
  | product (phrase : Phrase .product) (op : BinaryOperator) (blanks : Blanks) :
      Consumed number? stack passed → AwaitsProduct stack → op = .mul ∨ op = .div →
      phrase.fold (terms number?) = some left →
      Consumed number? (.product left op :: stack)
        (passed ++ (phrase.lexemes ++ [⟨blanks, .mark op.symbol⟩]))
  | sum (phrase : Phrase .sum) (op : BinaryOperator) (blanks : Blanks) :
      Consumed number? stack passed → AwaitsSum stack → op = .add ∨ op = .sub →
      phrase.fold (terms number?) = some left →
      Consumed number? (.sum left op :: stack)
        (passed ++ (phrase.lexemes ++ [⟨blanks, .mark op.symbol⟩]))
  | group (blanks : Blanks) : Consumed number? stack passed →
      Consumed number? (.group :: stack) (passed ++ [⟨blanks, .mark '('⟩])
  | call (blanks : Blanks) (name : Name) (opening : Blanks) : Consumed number? stack passed →
      Consumed number? (.call (String.ofList name.text) [] :: stack)
        (passed ++ [⟨blanks, .name name.text⟩, ⟨opening, .mark '('⟩])
  | argument (phrase : Phrase .sum) (blanks : Blanks) :
      Consumed number? (.call name arguments :: stack) passed →
      phrase.fold (terms number?) = some argument →
      Consumed number? (.call name (argument :: arguments) :: stack)
        (passed ++ (phrase.lexemes ++ [⟨blanks, .mark ','⟩]))

/-- The lexemes passed end in a product, and the stack stands for those before it. -/
def EndsInProduct (number? : String → Option Value) (passed : List Spaced)
    (state : Term × List Frame) : Prop :=
  ∃ (before : List Spaced) (phrase : Phrase .product), passed = before ++ phrase.lexemes ∧
    Consumed number? state.2 before ∧ AwaitsProduct state.2 ∧
    phrase.fold (terms number?) = some state.1

/-- The lexemes passed end in a sum, and the stack stands for those before it. -/
def EndsInSum (number? : String → Option Value) (passed : List Spaced)
    (state : Term × List Frame) : Prop :=
  ∃ (before : List Spaced) (phrase : Phrase .sum), passed = before ++ phrase.lexemes ∧
    Consumed number? state.2 before ∧ AwaitsSum state.2 ∧
    phrase.fold (terms number?) = some state.1

section
variable {number? : String → Option Value}

theorem Consumed.product_of_atom (consumed : Consumed number? stack passed)
    (awaits : AwaitsProduct stack) (phrase : Phrase .atom)
    (denotes : phrase.fold (terms number?) = some value) :
    EndsInProduct number? (passed ++ phrase.lexemes) (value, stack) :=
  ⟨passed, .product phrase .noFactor, by simp [Phrase.lexemes], consumed, awaits, denotes⟩

theorem Consumed.sum_of_product (consumed : Consumed number? stack passed)
    (awaits : AwaitsSum stack) (phrase : Phrase .product)
    (denotes : phrase.fold (terms number?) = some value) :
    EndsInSum number? (passed ++ phrase.lexemes) (value, stack) :=
  ⟨passed, .sum phrase .noAddend, by simp [Phrase.lexemes], consumed, awaits, denotes⟩

/-- An atom after the lexemes passed completes a product. -/
theorem Consumed.finishAtom (consumed : Consumed number? stack passed) (phrase : Phrase .atom)
    (denotes : phrase.fold (terms number?) = some atom) :
    EndsInProduct number? (passed ++ phrase.lexemes) (Term.finishAtom atom stack) := by
  induction consumed generalizing phrase atom with
  | negation blanks _ ih =>
    have negated : (Phrase.negation blanks phrase).fold (terms number?) =
        some (.negation atom) := congrArg (Option.map Tree.negation) denotes
    simpa [Phrase.lexemes, Term.finishAtom] using ih (.negation blanks phrase) negated
  | product left op blanks below awaits multiplicative meaning =>
    obtain ⟨longer, lexemes, extended⟩ :=
      exists_product_snoc left blanks op multiplicative phrase
    refine ⟨_, longer, by rw [lexemes, List.append_assoc, List.append_assoc]; rfl, below,
      awaits, ?_⟩
    rw [extended, meaning, denotes]
    rfl
  | start => exact Consumed.start.product_of_atom trivial phrase denotes
  | sum left op blanks below awaits additive meaning =>
    exact (below.sum left op blanks awaits additive meaning).product_of_atom trivial phrase
      denotes
  | group blanks below => exact (below.group blanks).product_of_atom trivial phrase denotes
  | call blanks name opening below =>
    exact (below.call blanks name opening).product_of_atom trivial phrase denotes
  | argument argument blanks below meaning =>
    exact (below.argument argument blanks meaning).product_of_atom trivial phrase denotes

/-- A product after the lexemes passed completes a sum. -/
theorem EndsInProduct.finishProduct
    (ends : EndsInProduct number? passed (product, stack)) :
    EndsInSum number? passed (Term.finishProduct product stack) := by
  obtain ⟨before, phrase, rfl, consumed, awaits, denotes⟩ := ends
  cases consumed with
  | negation | product => contradiction
  | sum left op blanks below awaitsSum additive meaning =>
    obtain ⟨longer, lexemes, extended⟩ := exists_sum_snoc left blanks op additive phrase
    refine ⟨_, longer, by rw [lexemes, List.append_assoc, List.append_assoc]; rfl, below,
      awaitsSum, ?_⟩
    rw [extended, meaning, denotes]
    rfl
  | start => exact Consumed.start.sum_of_product trivial phrase denotes
  | group blanks below => exact (below.group blanks).sum_of_product trivial phrase denotes
  | call blanks name opening below =>
    exact (below.call blanks name opening).sum_of_product trivial phrase denotes
  | argument argument blanks below meaning =>
    exact (below.argument argument blanks meaning).sum_of_product trivial phrase denotes

/-- The arguments read so far, with those that follow, are the arguments of one call. -/
theorem exists_arguments (consumed : Consumed number? (.call name arguments :: stack) passed)
    (last : Phrase .sum) (others : Phrase .further)
    (denotes : last.fold (terms number?) = some argument)
    (denoteOthers : others.fold (terms number?) = inputs.map some) :
    ∃ (before : List Spaced) (blanks : Blanks) (called : Name) (opening : Blanks)
      (phrase : Phrase .arguments), Consumed number? stack before ∧
      name = String.ofList called.text ∧
      passed ++ (last.lexemes ++ others.lexemes) =
        before ++ (⟨blanks, .name called.text⟩ :: ⟨opening, .mark '('⟩ :: phrase.lexemes) ∧
      phrase.fold (terms number?) = (arguments.reverse ++ argument :: inputs).map some := by
  induction arguments generalizing passed last others argument inputs with
  | nil =>
    cases consumed with
    | call blanks called opening below =>
      exact ⟨_, blanks, called, opening, .someArguments last others, below, rfl,
        by simp [Phrase.lexemes], by simp [Phrase.fold, denotes, denoteOthers]⟩
  | cons previous arguments ih =>
    cases consumed with
    | argument phrase blanks below meaning =>
      have denoteLonger : (Phrase.further blanks last others).fold (terms number?) =
          (argument :: inputs).map some := by
        simp [Phrase.fold, denotes, denoteOthers]
      obtain ⟨before, start, called, opening, all, outer, named, lexemes, meanings⟩ :=
        ih below phrase (.further blanks last others) meaning denoteLonger
      exact ⟨before, start, called, opening, all, outer, named,
        by simpa [Phrase.lexemes] using lexemes, by simpa using meanings⟩

/-- A call that is closed completes a product. -/
theorem EndsInSum.closeCall
    (ends : EndsInSum number? passed (argument, .call name arguments :: stack))
    (closing : Blanks) :
    EndsInProduct number? (passed ++ [⟨closing, .mark ')'⟩])
      (Term.finishAtom (.call name (argument :: arguments).reverse) stack) := by
  obtain ⟨outside, last, rfl, consumed, _, denotes⟩ := ends
  have noOthers : (Phrase.noFurther).fold (terms number?) = ([] : List Term).map some := rfl
  obtain ⟨before, blanks, called, opening, phrase, outer, rfl, lexemes, meanings⟩ :=
    exists_arguments consumed last .noFurther denotes noOthers
  have denotesCall : (Phrase.call blanks called opening phrase closing).fold (terms number?) =
      some (.call (String.ofList called.text) (argument :: arguments).reverse) := by
    rw [List.reverse_cons]
    exact congrArg (Option.map (Tree.call _)) (mapM_id_eq_some.mpr meanings)
  have ends := outer.finishAtom _ denotesCall
  have same : before ++ (Phrase.call blanks called opening phrase closing).lexemes =
      outside ++ last.lexemes ++ [⟨closing, .mark ')'⟩] := by
    have noFurther : (Phrase.noFurther).lexemes = [] := rfl
    rw [noFurther, List.append_nil] at lexemes
    rw [lexemes]
    simp [Phrase.lexemes]
  rwa [same] at ends

/-- A parenthesis that is closed completes a product. -/
theorem EndsInSum.closeGroup (ends : EndsInSum number? passed (sum, .group :: stack))
    (closing : Blanks) :
    EndsInProduct number? (passed ++ [⟨closing, .mark ')'⟩]) (Term.finishAtom sum stack) := by
  obtain ⟨_, phrase, rfl, consumed, _, denotes⟩ := ends
  cases consumed with
  | group blanks below =>
    simpa [Phrase.lexemes] using below.finishAtom (.group blanks phrase closing) denotes

theorem Spells.uncons (spells : Spells (⟨lexeme, position⟩ :: rest) spaced) :
    ∃ blanks more, spaced = ⟨blanks, lexeme⟩ :: more ∧ Spells rest more := by
  obtain ⟨⟨blanks, _⟩, more, rfl, rfl, same⟩ := List.map_eq_cons_iff.mp (Eq.symm spells)
  exact ⟨blanks, more, rfl, same.symm⟩

/-- These lexemes are those of a sum that denotes the term. -/
def Derives (number? : String → Option Value) (spaced : List Spaced) (term : Term) : Prop :=
  ∃ phrase : Phrase .sum, phrase.lexemes = spaced ∧ phrase.fold (terms number?) = some term

mutual

/-- A term read where an operand is needed has a derivation from all lexemes. -/
theorem derives_of_readOperand (located : List LocatedLexeme)
    (spells : Spells located spaced) (formed : ∀ s ∈ spaced, s.lexeme.WellFormed)
    (consumed : Consumed number? stack passed)
    (success : Term.readOperand number? final located stack = .ok term) :
    Derives number? (passed ++ spaced) term := by
  cases operandStep success with
  | number converted next =>
    obtain ⟨blanks, more, rfl, spelled⟩ := spells.uncons
    obtain ⟨⟨n, rfl⟩, others⟩ := List.forall_mem_cons.mp formed
    have ends := consumed.finishAtom (.number blanks n) (congrArg (Option.map _) converted)
    simpa [Phrase.lexemes] using derives_of_readFollowing _ spelled others ends next
  | emptyCall next =>
    obtain ⟨blanks, _, rfl, spelledOpening⟩ := spells.uncons
    obtain ⟨opening, _, rfl, spelledClosing⟩ := spelledOpening.uncons
    obtain ⟨closing, more, rfl, spelled⟩ := spelledClosing.uncons
    simp only [List.forall_mem_cons] at formed
    obtain ⟨⟨called, rfl⟩, _, _, others⟩ := formed
    have ends := consumed.finishAtom (.call blanks called opening .noArgument closing) rfl
    simpa [Phrase.lexemes] using derives_of_readFollowing _ spelled others ends next
  | call next =>
    obtain ⟨blanks, _, rfl, spelledOpening⟩ := spells.uncons
    obtain ⟨opening, more, rfl, spelled⟩ := spelledOpening.uncons
    simp only [List.forall_mem_cons] at formed
    obtain ⟨⟨called, rfl⟩, _, others⟩ := formed
    simpa using derives_of_readOperand _ spelled others (consumed.call blanks called opening) next
  | var next =>
    obtain ⟨blanks, more, rfl, spelled⟩ := spells.uncons
    obtain ⟨⟨name, rfl⟩, others⟩ := List.forall_mem_cons.mp formed
    have ends := consumed.finishAtom (.var blanks name) rfl
    simpa [Phrase.lexemes] using derives_of_readFollowing _ spelled others ends next
  | negation next =>
    obtain ⟨blanks, more, rfl, spelled⟩ := spells.uncons
    simpa using derives_of_readOperand _ spelled (List.forall_mem_cons.mp formed).2
      (consumed.negation blanks) next
  | group next =>
    obtain ⟨blanks, more, rfl, spelled⟩ := spells.uncons
    simpa using derives_of_readOperand _ spelled (List.forall_mem_cons.mp formed).2
      (consumed.group blanks) next
termination_by located.length

/-- A term read after a product has a derivation from all lexemes. -/
theorem derives_of_readFollowing (located : List LocatedLexeme)
    (spells : Spells located spaced) (formed : ∀ s ∈ spaced, s.lexeme.WellFormed)
    (ends : EndsInProduct number? passed (value, stack))
    (success : Term.readFollowing number? final located value stack = .ok term) :
    Derives number? (passed ++ spaced) term := by
  cases followingStep success with
  | finish finished =>
    have last := ends.finishProduct
    rw [finished] at last
    obtain ⟨before, phrase, rfl, outermost, _, denotes⟩ := last
    cases outermost
    obtain rfl := List.map_eq_nil_iff.mp (Eq.symm spells)
    exact ⟨phrase, by simp, denotes⟩
  | factor op multiplicative next =>
    obtain ⟨blanks, more, rfl, spelled⟩ := spells.uncons
    obtain ⟨before, phrase, rfl, below, awaits, denotes⟩ := ends
    simpa using derives_of_readOperand _ spelled (List.forall_mem_cons.mp formed).2
      (below.product phrase op blanks awaits multiplicative denotes) next
  | addend op additive finished next =>
    obtain ⟨blanks, more, rfl, spelled⟩ := spells.uncons
    have last := ends.finishProduct
    rw [finished] at last
    obtain ⟨before, phrase, rfl, below, awaits, denotes⟩ := last
    simpa using derives_of_readOperand _ spelled (List.forall_mem_cons.mp formed).2
      (below.sum phrase op blanks awaits additive denotes) next
  | group finished next =>
    obtain ⟨closing, more, rfl, spelled⟩ := spells.uncons
    have last := ends.finishProduct
    rw [finished] at last
    simpa using derives_of_readFollowing _ spelled (List.forall_mem_cons.mp formed).2
      (last.closeGroup closing) next
  | call finished next =>
    obtain ⟨closing, more, rfl, spelled⟩ := spells.uncons
    have last := ends.finishProduct
    rw [finished] at last
    simpa using derives_of_readFollowing _ spelled (List.forall_mem_cons.mp formed).2
      (last.closeCall closing) next
  | comma finished next =>
    obtain ⟨blanks, more, rfl, spelled⟩ := spells.uncons
    have last := ends.finishProduct
    rw [finished] at last
    obtain ⟨before, phrase, rfl, below, _, denotes⟩ := last
    simpa using derives_of_readOperand _ spelled (List.forall_mem_cons.mp formed).2
      (below.argument phrase blanks denotes) next
termination_by located.length

end

/-- Whatever is read has a derivation that denotes it. -/
theorem exists_derivation (success : Term.read number? source = .ok term) :
    ∃ d : Derivation, d.text = source.toList ∧ d.term? number? = some term := by
  obtain ⟨spaced, trailing, formed, text, scanned⟩ := exists_spaced source.toList
  rw [Term.read, scanned] at success
  obtain ⟨phrase, rfl, denotes⟩ :=
    derives_of_readOperand _ (spells_locate 1 spaced) formed Consumed.start success
  exact ⟨⟨phrase, trailing⟩, text, denotes⟩

end

end Formula.Grammar
