import Formula.Proofs.Grammar.Exactness

/-! Where the variables of a tree come from. A name in a text is that of a function if a parenthesis
is the next lexeme, and that of a variable otherwise; the variables of the term that a derivation
denotes are these names of its text, from left to right. -/
namespace Formula

namespace Lexeme

/-- The names of variables among lexemes: those that no parenthesis follows. -/
def variableNames : List Lexeme → List String
  | [] => []
  | name _ :: mark '(' :: rest => variableNames rest
  | name text :: rest => String.ofList text :: variableNames rest
  | _ :: rest => variableNames rest

theorem variableNames_mark (c : Char) (rest : List Lexeme) :
    variableNames (mark c :: rest) = variableNames rest := by
  rw [variableNames.eq_4]
  · exact fun _ _ same => nomatch same
  · exact fun _ same => nomatch same

/-- Lexemes can be divided before any that is no opening parenthesis. -/
theorem variableNames_append {first more : List Lexeme} (apart : more.head? ≠ some (mark '(')) :
    variableNames (first ++ more) = variableNames first ++ variableNames more := by
  fun_induction variableNames first with
  | case1 => rfl
  | case2 text rest ih => exact ih
  | case3 text rest noCall ih =>
    have called : ∀ others, rest ++ more ≠ mark '(' :: others := by
      intro others same
      cases rest with
      | nil => exact apart (by rw [← List.nil_append more, same]; rfl)
      | cons lexeme rest => exact noCall rest (by rw [(List.cons.inj same).1])
    rw [List.cons_append, variableNames.eq_3 _ _ called, ih]
    rfl
  | case4 lexeme rest noCall noName ih =>
    rw [List.cons_append, variableNames.eq_4 _ _ _ (fun text => noName text), ih]
    exact fun text others same => nomatch noName text same

end Lexeme

namespace Grammar

/-- The names of variables in a phrase, from left to right. -/
def Phrase.variableNames (p : Phrase c) : List String :=
  Lexeme.variableNames (p.lexemes.map (·.lexeme))

theorem Phrase.head?_lexemes (p : Phrase c) (extending : c.Extends) :
    (p.lexemes.map (·.lexeme)).head? ≠ some (.mark '(') := by
  cases p with
  | noAddend | noFactor | noFurther => exact nofun
  | addend _ op | factor _ op =>
    intro same
    exact symbol_ne_open op (Lexeme.mark.inj (Option.some.inj same))
  | further =>
    intro same
    exact absurd (Lexeme.mark.inj (Option.some.inj same)) (by decide)
  | _ => contradiction

theorem Phrase.variableNames_append (p : Phrase c) (q : Phrase c') (extending : c'.Extends) :
    Lexeme.variableNames ((p.lexemes ++ q.lexemes).map (·.lexeme)) =
      p.variableNames ++ q.variableNames := by
  rw [List.map_append, Lexeme.variableNames_append (q.head?_lexemes extending)]
  rfl

theorem Phrase.variableNames_close (p : Phrase c) (closing : Blanks) :
    Lexeme.variableNames ((p.lexemes ++ [Spaced.mk closing (.mark ')')]).map (·.lexeme)) =
      p.variableNames := by
  have apart : ([.mark ')'] : List Lexeme).head? ≠ some (.mark '(') := by decide
  rw [List.map_append, List.map_singleton, Lexeme.variableNames_append apart]
  exact List.append_nil _

/-- If what is meant is a term, it has these variables; addends and factors have them after those of
what they extend. -/
def Names : (c : Category) → Meaning (Option Term) c → List String → Prop
  | .sum, term?, names | .product, term?, names | .atom, term?, names =>
    ∀ term, term? = some term → term.variableSymbols = names
  | .addends, f, names | .factors, f, names => ∀ left? term, f left? = some term →
    ∃ left, left? = some left ∧ term.variableSymbols = left.variableSymbols ++ names
  | .arguments, terms?, names | .further, terms?, names =>
    ∀ arguments, terms? = arguments.map some → Tree.variableSymbolsAll arguments = names

section
variable {number? : String → Option Value} {symbols : Term → List β}

/-- An operand to the right and what follows it add their symbols. -/
theorem symbols_extend {op : BinaryOperator} {right? : Option Term}
    {rest : Option Term → Option Term}
    (binary : ∀ left right, symbols (.binary op left right) = symbols left ++ symbols right)
    (right : ∀ term, right? = some term → symbols term = ofRight)
    (following : ∀ left? term, rest left? = some term →
      ∃ left, left? = some left ∧ symbols term = symbols left ++ ofRest)
    (left? : Option Term) (term : Term)
    (extended : rest ((terms number?).binary op left? right?) = some term) :
    ∃ left, left? = some left ∧ symbols term = symbols left ++ (ofRight ++ ofRest) := by
  obtain ⟨both, combined, listed⟩ := following _ term extended
  obtain ⟨left, rfl, combined⟩ := Option.bind_eq_some_iff.mp combined
  obtain ⟨second, denotes, rfl⟩ := Option.map_eq_some_iff.mp combined
  refine ⟨left, rfl, ?_⟩
  rw [listed, binary, right second denotes, List.append_assoc]

theorem symbols_cons {symbolsAll : List Term → List β} {first? : Option Term}
    {others : List (Option Term)}
    (cons : ∀ term terms, symbolsAll (term :: terms) = symbols term ++ symbolsAll terms)
    (first : ∀ term, first? = some term → symbols term = ofFirst)
    (rest : ∀ arguments, others = arguments.map some → symbolsAll arguments = ofRest)
    (arguments : List Term) (denotes : first? :: others = arguments.map some) :
    symbolsAll arguments = ofFirst ++ ofRest := by
  cases arguments with
  | nil => contradiction
  | cons term arguments =>
    obtain ⟨same, others⟩ := List.cons.inj denotes
    rw [cons, first term same, rest arguments others]

/-- A phrase means terms with the variables that its text names. -/
theorem Phrase.names (p : Phrase c) : Names c (p.fold (terms number?)) p.variableNames := by
  induction p with
  | sum first rest ihFirst ihRest | product first rest ihFirst ihRest =>
    intro term denotes
    obtain ⟨left, denotes, named⟩ := ihRest _ term denotes
    rw [named, ihFirst left denotes]
    exact (first.variableNames_append rest trivial).symm
  | noAddend | noFactor => exact fun left? term denotes => ⟨term, denotes, (List.append_nil _).symm⟩
  | addend _ op _ right rest ihRight ihRest | factor _ op _ right rest ihRight ihRest =>
    have apart := right.variableNames_append rest trivial
    rw [Names, Phrase.variableNames, Phrase.lexemes, List.map_cons, Lexeme.variableNames_mark,
      apart]
    exact symbols_extend (fun _ _ => rfl) ihRight ihRest
  | number _ n =>
    intro term denotes
    obtain ⟨value, _, rfl⟩ := Option.map_eq_some_iff.mp denotes
    rfl
  | var _ name =>
    rintro _ ⟨⟩
    rfl
  | call _ name _ inner closing ih =>
    intro term denotes
    obtain ⟨arguments, converted, rfl⟩ := Option.map_eq_some_iff.mp denotes
    exact (ih arguments (mapM_id_eq_some.mp converted)).trans
      (inner.variableNames_close closing).symm
  | negation _ operand ih =>
    intro term denotes
    obtain ⟨inner, converted, rfl⟩ := Option.map_eq_some_iff.mp denotes
    exact (ih inner converted).trans (Lexeme.variableNames_mark _ _).symm
  | group _ inner closing ih =>
    intro term denotes
    exact (ih term denotes).trans
      ((Lexeme.variableNames_mark _ _).trans (inner.variableNames_close closing)).symm
  | noArgument | noFurther =>
    intro arguments none
    rw [List.map_eq_nil_iff.mp none.symm]
    rfl
  | someArguments first rest ihFirst ihRest =>
    rw [Names, Phrase.variableNames, Phrase.lexemes, first.variableNames_append rest trivial]
    exact symbols_cons (fun _ _ => rfl) ihFirst ihRest
  | further _ argument rest ihArgument ihRest =>
    rw [Names, Phrase.variableNames, Phrase.lexemes, List.map_cons, Lexeme.variableNames_mark,
      argument.variableNames_append rest trivial]
    exact symbols_cons (fun _ _ => rfl) ihArgument ihRest

end

end Grammar

end Formula
