import Formula.Proofs.Grammar.Completeness

/-! No text has two derivations. Numbers and names are determined by their characters, the lexemes
of a derivation by its text, and a phrase by its lexemes as soon as what comes after it cannot go
on with it. -/
namespace Formula.Grammar

/-! ### Words -/

theorem pointText_injective {f g : Option (List Char)} (same : pointText f = pointText g) :
    f = g := by
  cases f <;> cases g <;> simp_all [pointText]

theorem sign_append_injective {s t : Option Char} {d e : Digits}
    (signed : ∀ c ∈ s, c = '+' ∨ c = '-') (signed' : ∀ c ∈ t, c = '+' ∨ c = '-')
    (same : s.toList ++ d.text = t.toList ++ e.text) : s = t ∧ d = e := by
  have noSign : ∀ {c : Char} {d : Digits} {rest : List Char}, c = '+' ∨ c = '-' →
      d.text ≠ c :: rest := by
    rintro c d rest (rfl | rfl) starts
    · exact absurd (d.digit '+' (by simp [starts])) (by decide)
    · exact absurd (d.digit '-' (by simp [starts])) (by decide)
  cases s with
  | none =>
    cases t with
    | none => exact ⟨rfl, Digits.ext same⟩
    | some c => exact absurd same (noSign (signed' c rfl))
  | some c =>
    cases t with
    | none => exact absurd same.symm (noSign (signed c rfl))
    | some b =>
      obtain ⟨rfl, tail⟩ := List.cons.inj same
      exact ⟨rfl, Digits.ext tail⟩

theorem Exponent.text_injective {e f : Exponent} (same : e.text = f.text) : e = f := by
  obtain ⟨letter, tail⟩ := List.cons.inj same
  obtain ⟨sign, digits⟩ := sign_append_injective e.sign_eq f.sign_eq tail
  exact Exponent.ext letter sign digits

theorem scaleText_injective {e f : Option Exponent} (same : scaleText e = scaleText f) :
    e = f := by
  cases e with
  | none =>
    cases f with
    | none => rfl
    | some f => exact absurd same (List.cons_ne_nil _ _).symm
  | some e =>
    cases f with
    | none => exact absurd same (List.cons_ne_nil _ _)
    | some f => exact congrArg some (Exponent.text_injective same)

theorem Number.text_injective {n m : Number} (same : n.text = m.text) : n = m := by
  have empty : Stops [] := by rintro _ ⟨⟩
  have whole : n.whole.text = m.whole.text := by
    have digits := n.digits_append empty
    rwa [List.append_nil, ← Number.text, same, Number.text, ← List.append_nil (scaleText _),
      m.digits_append empty, eq_comm] at digits
  rw [Number.text, Number.text, whole] at same
  have tail := List.append_cancel_left same
  have point : pointText n.fraction = pointText m.fraction := by
    have places := n.fraction_append empty
    rwa [List.append_nil, tail, ← List.append_nil (scaleText _), m.fraction_append empty,
      eq_comm] at places
  rw [point] at tail
  exact Number.ext (Digits.ext whole) (pointText_injective point)
    (scaleText_injective (List.append_cancel_left tail))

theorem Name.text_injective {n m : Name} (same : n.text = m.text) : n = m := by
  obtain ⟨first, rest⟩ := List.cons.inj same
  exact Name.ext first rest

/-! ### Lexemes -/

/-- Lexemes at the same positions in the same text have the same white space. -/
theorem spaced_unique {first second : List Spaced} {trailing ending : Blanks} {position : Nat}
    (located : locate position first = locate position second)
    (same : first.flatMap Spaced.text ++ trailing.text =
      second.flatMap Spaced.text ++ ending.text) : first = second ∧ trailing = ending := by
  induction first generalizing second position with
  | nil =>
    cases second with
    | nil => exact ⟨rfl, Blanks.ext same⟩
    | cons => contradiction
  | cons s first ih =>
    cases second with
    | nil => contradiction
    | cons t second =>
      obtain ⟨here, later⟩ := List.cons.inj located
      obtain ⟨lexeme, place⟩ := LocatedLexeme.mk.inj here
      have length : s.blanks.text.length = t.blanks.text.length := Nat.add_left_cancel place
      simp only [List.flatMap_cons, Spaced.text, List.append_assoc, lexeme] at same
      obtain ⟨blanks, tail⟩ := List.append_inj same length
      obtain rfl : s = t := Spaced.ext (Blanks.ext blanks) lexeme
      obtain ⟨rfl, rfl⟩ := ih later (List.append_cancel_left tail)
      exact ⟨rfl, rfl⟩

/-! ### Phrases -/

/-- What follows an operand inside a phrase of the category. -/
def Category.operand : Category → Category
  | addends => product
  | factors => atom
  | further => sum
  | c => c

/-- A phrase of the category may go on with this lexeme. -/
def Category.Continues : Category → Lexeme → Prop
  | atom, lexeme => lexeme = .mark '('
  | product, lexeme | factors, lexeme =>
    lexeme = .mark '(' ∨ ∃ op : BinaryOperator, (op = .mul ∨ op = .div) ∧ lexeme = .mark op.symbol
  | sum, lexeme | addends, lexeme =>
    lexeme = .mark '(' ∨ ∃ op : BinaryOperator, lexeme = .mark op.symbol
  | further, lexeme =>
    lexeme = .mark '(' ∨ lexeme = .mark ',' ∨ ∃ op : BinaryOperator, lexeme = .mark op.symbol
  | arguments, lexeme => lexeme ≠ .mark ')'

/-- No phrase of the category goes on with these lexemes. -/
def Ends (c : Category) (rest : List Spaced) : Prop :=
  ∀ s, rest.head? = some s → ¬c.Continues s.lexeme

theorem Ends.operand (ends : Ends c rest) : Ends c.operand rest := by
  intro s next continues
  refine ends s next ?_
  cases c with
  | addends =>
    obtain bracket | ⟨op, _, same⟩ := continues
    · exact .inl bracket
    · exact .inr ⟨op, same⟩
  | factors => exact .inl continues
  | further =>
    obtain bracket | same := continues
    · exact .inl bracket
    · exact .inr (.inr same)
  | sum | product | atom | arguments => exact continues

theorem ends_mark {ch : Char} (stays : ¬c.Continues (.mark ch)) (blanks : Blanks)
    (rest : List Spaced) : Ends c (⟨blanks, .mark ch⟩ :: rest) := by
  rintro _ ⟨⟩
  exact stays

theorem symbol_injective {op other : BinaryOperator} (same : op.symbol = other.symbol) :
    op = other := by
  revert same
  cases op <;> cases other <;> decide

/-- An operand of a phrase ends where the rest of the phrase begins. -/
theorem Phrase.ends (p : Phrase c) (extending : c.Extends) (ends : Ends c rest) :
    Ends c.operand (p.lexemes ++ rest) := by
  cases p with
  | noAddend | noFactor | noFurther => exact ends.operand
  | addend blanks op additive =>
    refine ends_mark ?_ blanks _
    rintro (bracket | ⟨other, multiplicative, same⟩)
    · exact symbol_ne_open op (Lexeme.mark.inj bracket)
    · obtain rfl := symbol_injective (Lexeme.mark.inj same)
      rcases additive with rfl | rfl <;> simp at multiplicative
  | factor blanks op =>
    exact ends_mark (c := .atom) (fun bracket => symbol_ne_open op (Lexeme.mark.inj bracket))
      blanks _
  | further blanks =>
    refine ends_mark ?_ blanks _
    rintro (bracket | ⟨op, same⟩)
    · exact absurd (Lexeme.mark.inj bracket) (by decide)
    · exact absurd (Lexeme.mark.inj same) (by cases op <;> decide)
  | _ => contradiction

theorem ends_close (closing : Blanks) (rest : List Spaced) :
    Ends .sum (⟨closing, .mark ')'⟩ :: rest) := by
  refine ends_mark ?_ closing rest
  rintro (bracket | ⟨op, same⟩)
  · exact absurd (Lexeme.mark.inj bracket) (by decide)
  · exact absurd (Lexeme.mark.inj same) (by cases op <;> decide)

theorem Ends.further (ends : Ends .arguments rest) : Ends .further rest := by
  intro s next continues
  refine ends s next fun same => ?_
  rw [same] at continues
  rcases continues with bracket | comma | ⟨op, symbol⟩
  · exact absurd (Lexeme.mark.inj bracket) (by decide)
  · exact absurd (Lexeme.mark.inj comma) (by decide)
  · exact absurd (Lexeme.mark.inj symbol) (by cases op <;> decide)

/-- No other phrase of the category has the lexemes of this one and ends where it ends. -/
def Phrase.Determined (p : Phrase c) : Prop :=
  ∀ (q : Phrase c) (rest more : List Spaced), Ends c rest → Ends c more →
    p.lexemes ++ rest = q.lexemes ++ more → p = q ∧ rest = more

/-- An operand and what goes on after it are determined together. -/
theorem Phrase.Determined.followed {first : Phrase c.operand} {others : Phrase c}
    (following : others.Determined) (leading : first.Determined) (extending : c.Extends)
    {first' : Phrase c.operand} {others' : Phrase c} (ends : Ends c rest) (ends' : Ends c more)
    (same : first.lexemes ++ (others.lexemes ++ rest) =
      first'.lexemes ++ (others'.lexemes ++ more)) :
    first = first' ∧ others = others' ∧ rest = more := by
  obtain ⟨rfl, tail⟩ := leading first' _ _ (others.ends extending ends)
    (others'.ends extending ends') same
  obtain ⟨rfl, rfl⟩ := following others' _ _ ends ends' tail
  exact ⟨rfl, rfl, rfl⟩

/-! A phrase is determined if its parts are, one lemma for each way to form a phrase. -/

theorem Phrase.determined_sum {first : Phrase .product} {others : Phrase .addends}
    (leading : first.Determined) (following : others.Determined) :
    (Phrase.sum first others).Determined := by
  intro q rest more ends ends' same
  cases q with
  | sum first' others' =>
    simp only [Phrase.lexemes, List.append_assoc] at same
    obtain ⟨rfl, rfl, rfl⟩ := following.followed leading trivial ends ends' same
    exact ⟨rfl, rfl⟩

theorem Phrase.determined_product {first : Phrase .atom} {others : Phrase .factors}
    (leading : first.Determined) (following : others.Determined) :
    (Phrase.product first others).Determined := by
  intro q rest more ends ends' same
  cases q with
  | product first' others' =>
    simp only [Phrase.lexemes, List.append_assoc] at same
    obtain ⟨rfl, rfl, rfl⟩ := following.followed leading trivial ends ends' same
    exact ⟨rfl, rfl⟩

theorem Phrase.determined_noAddend : Phrase.noAddend.Determined := by
  intro q rest more ends ends' same
  cases q with
  | noAddend => exact ⟨rfl, same⟩
  | addend blanks op =>
    cases same
    exact absurd (.inr ⟨op, rfl⟩) (ends _ rfl)

theorem Phrase.determined_addend (blanks : Blanks) (op : BinaryOperator)
    (additive : op = .add ∨ op = .sub) {right : Phrase .product} {others : Phrase .addends}
    (leading : right.Determined) (following : others.Determined) :
    (Phrase.addend blanks op additive right others).Determined := by
  intro q rest more ends ends' same
  cases q with
  | noAddend =>
    cases same
    exact absurd (.inr ⟨op, rfl⟩) (ends' _ rfl)
  | addend blanks' op' additive' right' others' =>
    simp only [Phrase.lexemes, List.cons_append, List.append_assoc, List.cons.injEq,
      Spaced.mk.injEq, Lexeme.mark.injEq] at same
    obtain ⟨⟨rfl, symbol⟩, tail⟩ := same
    obtain rfl := symbol_injective symbol
    obtain ⟨rfl, rfl, rfl⟩ := following.followed leading trivial ends ends' tail
    exact ⟨rfl, rfl⟩

theorem Phrase.determined_noFactor : Phrase.noFactor.Determined := by
  intro q rest more ends ends' same
  cases q with
  | noFactor => exact ⟨rfl, same⟩
  | factor blanks op multiplicative =>
    cases same
    exact absurd (.inr ⟨op, multiplicative, rfl⟩) (ends _ rfl)

theorem Phrase.determined_factor (blanks : Blanks) (op : BinaryOperator)
    (multiplicative : op = .mul ∨ op = .div) {right : Phrase .atom} {others : Phrase .factors}
    (leading : right.Determined) (following : others.Determined) :
    (Phrase.factor blanks op multiplicative right others).Determined := by
  intro q rest more ends ends' same
  cases q with
  | noFactor =>
    cases same
    exact absurd (.inr ⟨op, multiplicative, rfl⟩) (ends' _ rfl)
  | factor blanks' op' multiplicative' right' others' =>
    simp only [Phrase.lexemes, List.cons_append, List.append_assoc, List.cons.injEq,
      Spaced.mk.injEq, Lexeme.mark.injEq] at same
    obtain ⟨⟨rfl, symbol⟩, tail⟩ := same
    obtain rfl := symbol_injective symbol
    obtain ⟨rfl, rfl, rfl⟩ := following.followed leading trivial ends ends' tail
    exact ⟨rfl, rfl⟩

theorem Phrase.determined_number (blanks : Blanks) (n : Number) :
    (Phrase.number blanks n).Determined := by
  intro q rest more ends ends' same
  cases q with
  | number blanks' m =>
    simp only [Phrase.lexemes, List.cons_append, List.nil_append, List.cons.injEq,
      Spaced.mk.injEq, Lexeme.number.injEq] at same
    obtain ⟨⟨rfl, text⟩, tail⟩ := same
    obtain rfl := Number.text_injective text
    exact ⟨rfl, tail⟩
  | var | call | negation | group => simp [Phrase.lexemes] at same

theorem Phrase.determined_var (blanks : Blanks) (name : Name) :
    (Phrase.var blanks name).Determined := by
  intro q rest more ends ends' same
  cases q with
  | var blanks' other =>
    simp only [Phrase.lexemes, List.cons_append, List.nil_append, List.cons.injEq,
      Spaced.mk.injEq, Lexeme.name.injEq] at same
    obtain ⟨⟨rfl, text⟩, tail⟩ := same
    obtain rfl := Name.text_injective text
    exact ⟨rfl, tail⟩
  | call =>
    simp only [Phrase.lexemes, List.cons_append, List.nil_append, List.cons.injEq] at same
    obtain ⟨_, rfl⟩ := same
    exact absurd rfl (ends _ rfl)
  | number | negation | group => simp [Phrase.lexemes] at same

theorem Phrase.determined_call (blanks : Blanks) (name : Name) (opening closing : Blanks)
    {arguments : Phrase .arguments} (within : arguments.Determined) :
    (Phrase.call blanks name opening arguments closing).Determined := by
  intro q rest more ends ends' same
  cases q with
  | call blanks' other opening' arguments' closing' =>
    simp only [Phrase.lexemes, List.cons_append, List.append_assoc, List.nil_append,
      List.cons.injEq, Spaced.mk.injEq, Lexeme.name.injEq, and_true] at same
    obtain ⟨⟨rfl, text⟩, rfl, inside⟩ := same
    obtain rfl := Name.text_injective text
    obtain ⟨rfl, tail⟩ := within arguments' _ _
      (ends_mark (c := .arguments) (fun continues => continues rfl) closing _)
      (ends_mark (c := .arguments) (fun continues => continues rfl) closing' _) inside
    cases tail
    exact ⟨rfl, rfl⟩
  | var =>
    simp only [Phrase.lexemes, List.cons_append, List.nil_append, List.cons.injEq] at same
    obtain ⟨_, rfl⟩ := same
    exact absurd rfl (ends' _ rfl)
  | number | negation | group => simp [Phrase.lexemes] at same

theorem Phrase.determined_negation (blanks : Blanks) {operand : Phrase .atom}
    (within : operand.Determined) : (Phrase.negation blanks operand).Determined := by
  intro q rest more ends ends' same
  cases q with
  | negation blanks' operand' =>
    simp only [Phrase.lexemes, List.cons_append, List.cons.injEq, Spaced.mk.injEq,
      and_true] at same
    obtain ⟨rfl, tail⟩ := same
    obtain ⟨rfl, rfl⟩ := within operand' _ _ ends ends' tail
    exact ⟨rfl, rfl⟩
  | number | var | call | group => simp [Phrase.lexemes] at same

theorem Phrase.determined_group (blanks closing : Blanks) {inner : Phrase .sum}
    (within : inner.Determined) : (Phrase.group blanks inner closing).Determined := by
  intro q rest more ends ends' same
  cases q with
  | group blanks' inner' closing' =>
    simp only [Phrase.lexemes, List.cons_append, List.append_assoc, List.nil_append,
      List.cons.injEq, Spaced.mk.injEq, and_true] at same
    obtain ⟨rfl, inside⟩ := same
    obtain ⟨rfl, tail⟩ := within inner' _ _ (ends_close closing _) (ends_close closing' _) inside
    cases tail
    exact ⟨rfl, rfl⟩
  | number | var | call | negation => simp [Phrase.lexemes] at same

theorem Phrase.determined_noArgument : Phrase.noArgument.Determined := by
  intro q rest more ends ends' same
  cases q with
  | noArgument => exact ⟨rfl, same⟩
  | someArguments first =>
    obtain ⟨s, tail, lexemes, different⟩ := first.head trivial
    cases same
    exact absurd different (ends s (by simp [Phrase.lexemes, lexemes]))

theorem Phrase.determined_someArguments {first : Phrase .sum} {others : Phrase .further}
    (leading : first.Determined) (following : others.Determined) :
    (Phrase.someArguments first others).Determined := by
  intro q rest more ends ends' same
  cases q with
  | noArgument =>
    obtain ⟨s, tail, lexemes, different⟩ := first.head trivial
    cases same
    exact absurd different (ends' s (by simp [Phrase.lexemes, lexemes]))
  | someArguments first' others' =>
    simp only [Phrase.lexemes, List.append_assoc] at same
    obtain ⟨rfl, rfl, rfl⟩ :=
      following.followed leading trivial ends.further ends'.further same
    exact ⟨rfl, rfl⟩

theorem Phrase.determined_noFurther : Phrase.noFurther.Determined := by
  intro q rest more ends ends' same
  cases q with
  | noFurther => exact ⟨rfl, same⟩
  | further =>
    cases same
    exact absurd (.inr (.inl rfl)) (ends _ rfl)

theorem Phrase.determined_further (blanks : Blanks) {argument : Phrase .sum}
    {others : Phrase .further} (leading : argument.Determined) (following : others.Determined) :
    (Phrase.further blanks argument others).Determined := by
  intro q rest more ends ends' same
  cases q with
  | noFurther =>
    cases same
    exact absurd (.inr (.inl rfl)) (ends' _ rfl)
  | further blanks' argument' others' =>
    simp only [Phrase.lexemes, List.cons_append, List.append_assoc, List.cons.injEq,
      Spaced.mk.injEq, and_true] at same
    obtain ⟨rfl, tail⟩ := same
    obtain ⟨rfl, rfl, rfl⟩ := following.followed leading trivial ends ends' tail
    exact ⟨rfl, rfl⟩

theorem Phrase.determined (p : Phrase c) : p.Determined := by
  induction p with
  | sum _ _ first others => exact determined_sum first others
  | product _ _ first others => exact determined_product first others
  | noAddend => exact determined_noAddend
  | addend blanks op additive _ _ right others =>
    exact determined_addend blanks op additive right others
  | noFactor => exact determined_noFactor
  | factor blanks op multiplicative _ _ right others =>
    exact determined_factor blanks op multiplicative right others
  | number blanks n => exact determined_number blanks n
  | var blanks name => exact determined_var blanks name
  | call blanks name opening _ closing arguments =>
    exact determined_call blanks name opening closing arguments
  | negation blanks _ operand => exact determined_negation blanks operand
  | group blanks _ closing inner => exact determined_group blanks closing inner
  | noArgument => exact determined_noArgument
  | someArguments _ _ first others => exact determined_someArguments first others
  | noFurther => exact determined_noFurther
  | further blanks _ _ argument others => exact determined_further blanks argument others

/-- The derivation of a text is unique. -/
theorem Derivation.unique {d e : Derivation} (same : d.text = e.text) : d = e := by
  have located : locate 1 d.sum.lexemes = locate 1 e.sum.lexemes := by
    rw [← d.scan_text, same, e.scan_text]
  obtain ⟨lexemes, trailing⟩ := spaced_unique located same
  have empty : Ends .sum [] := by rintro _ ⟨⟩
  obtain ⟨sum, _⟩ := d.sum.determined e.sum [] [] empty empty (congrArg (· ++ []) lexemes)
  exact Derivation.ext sum trailing

end Formula.Grammar
