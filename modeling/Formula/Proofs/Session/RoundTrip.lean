import Formula.Proofs.Session.Exactness
import Formula.Proofs.Value.Printing

/-! Numbers as expressions. The text of an integer or a fraction is an expression of its kind: a
natural number, with a sign that negates it, and perhaps divided by another one. It evaluates to
the number it was written for. The text of a decimal that was read from a literal is again one
literal, with the same digits and the same exponent. -/
namespace Formula
open Grammar

/-! ### Texts -/

namespace Grammar

/-- The number that has the digits of a natural number and no more. -/
def Number.ofNat (n : Nat) : Number :=
  ⟨.ofNat n, none, none, nofun⟩

theorem Number.text_ofNat (n : Nat) : (ofNat n).text = Nat.toDigits 10 n :=
  List.append_nil _

/-- The digits of an integer, which are negated if it is negative. -/
def Phrase.signed (n : Int) : Phrase .atom :=
  if n < 0 then .negation .nothing (.number .nothing (.ofNat n.natAbs))
  else .number .nothing (.ofNat n.natAbs)

/-- An integer over a natural number, unless that is one. -/
def Derivation.ratio (n : Int) (d : Nat) : Derivation :=
  ⟨.sum (.product (.signed n) (if d = 1 then .noFactor
    else .factor .nothing .div (.inr rfl) (.number .nothing (.ofNat d)) .noFactor)) .noAddend,
    .nothing⟩

def Derivation.literal (n : Number) : Derivation :=
  ⟨.sum (.product (.number .nothing n) .noFactor) .noAddend, .nothing⟩

theorem Phrase.text_signed (n : Int) :
    (signed n).lexemes.flatMap Spaced.text = (toString n).toList := by
  have digits := Number.text_ofNat n.natAbs
  rw [toList_toString_int, signed]
  by_cases negative : n < 0
  · rw [if_pos negative, decide_eq_true negative]
    simp [lexemes, Spaced.text, Lexeme.text, Blanks.nothing, digits, Digits.ofNat]
  · rw [if_neg negative, decide_eq_false negative]
    simp [lexemes, Spaced.text, Lexeme.text, Blanks.nothing, digits, Digits.ofNat]

theorem Derivation.text_ratio (n : Int) (d : Nat) : (ratio n d).text = (toString n).toList ++
    if d = 1 then [] else '/' :: (toString (d : Int)).toList := by
  have denominator : (toString (d : Int)).toList = (Number.ofNat d).text := by
    rw [toList_toString_int, decide_eq_false (by omega), Number.text_ofNat]
    rfl
  rw [text, ratio, denominator]
  simp only [Phrase.lexemes, List.append_nil, List.flatMap_append, Phrase.text_signed]
  split
  · simp [Phrase.lexemes, Blanks.nothing]
  · simp [Phrase.lexemes, Spaced.text, Lexeme.text, Blanks.nothing, BinaryOperator.symbol]

theorem Derivation.text_literal (n : Number) : (literal n).text = n.text := by
  simp [text, literal, Phrase.lexemes, Spaced.text, Lexeme.text, Blanks.nothing]

end Grammar

/-! ### Trees -/

namespace Tree
variable {ν φ : Type}

/-- An integer whose magnitude is a literal. -/
def signed (number : Int → Value) (n : Int) : Tree ν φ :=
  if n < 0 then .negation (.literal (number n.natAbs)) else .literal (number n.natAbs)

/-- An integer over a natural number, unless that is one. -/
def ratio (number : Int → Value) (n : Int) (d : Nat) : Tree ν φ :=
  if d = 1 then signed number n else .binary .div (signed number n) (.literal (number d))

end Tree

theorem Context.resolve_ratio (context : Context) (number : Int → Value) (n : Int) (d : Nat) :
    context.resolve (.ratio number n d) = (.ratio number n d, context) := by
  rw [Tree.ratio, Tree.ratio, Tree.signed, Tree.signed]
  split <;> split <;> rfl

/-- What a kind makes of the digits of natural numbers within the digit limit. -/
def NumberKind.ReadsDigits (kind : NumberKind) (number : Int → Value) : Prop :=
  ∀ n : Nat, Text.digitCount n ≤ digitLimit →
    kind.read? (String.ofList (Number.ofNat n).text) = some (number n)

theorem readInt?_ofNat {n : Nat} (limited : Text.digitCount n ≤ digitLimit) :
    readInt? (String.ofList (Number.ofNat n).text) = some n :=
  (Number.ofNat n).readInt?_eq_some.mpr
    ⟨⟨rfl, rfl⟩, limited, congrArg Int.ofNat (Numeral.natOfDigits_toDigits n)⟩

theorem NumberKind.readsDigits_int : NumberKind.int.ReadsDigits .int := by
  intro n limited
  rw [NumberKind.read?, readInt?_ofNat limited]
  rfl

theorem NumberKind.readsDigits_fraction : NumberKind.fraction.ReadsDigits fun n => .fraction n := by
  intro n limited
  obtain ⟨bounded, rational⟩ := Number.rational_of_readInt? (readInt?_ofNat limited)
  rw [NumberKind.read?, Number.read?_fraction, if_pos bounded, rational]
  rfl

theorem term?_number {number? : String → Option Value} {n : Number}
    (converted : number? (String.ofList n.text) = some v) (blanks : Blanks) :
    (Phrase.number blanks n).fold (terms number?) = some (.literal v) := by
  change (number? (String.ofList n.text)).map Tree.literal = _
  rw [converted]
  rfl

theorem term?_signed {kind : NumberKind} (reads : kind.ReadsDigits number)
    (limited : Text.digitCount n.natAbs ≤ digitLimit) :
    (Phrase.signed n).fold (terms kind.read?) = some (.signed number n) := by
  have magnitude := term?_number (reads n.natAbs limited) .nothing
  rw [Phrase.signed, Tree.signed]
  split
  · exact congrArg (Option.map Tree.negation) magnitude
  · exact magnitude

theorem term?_ratio {kind : NumberKind} (reads : kind.ReadsDigits number)
    (numerator : Text.digitCount n.natAbs ≤ digitLimit)
    (denominator : d = 1 ∨ Text.digitCount d ≤ digitLimit) :
    (Derivation.ratio n d).term? kind.read? = some (.ratio number n d) := by
  have first := term?_signed reads numerator
  rw [Derivation.term?, Derivation.ratio, Tree.ratio]
  simp only [Phrase.fold]
  rw [first]
  split
  · rfl
  · next several =>
    have second := term?_number (reads d (denominator.resolve_left several)) .nothing
    exact congrArg (Option.map (Tree.binary .div (.signed number n))) second

/-- The text of a quotient of integers is compiled to their quotient. -/
theorem compile_ratio {kind : NumberKind} (reads : kind.ReadsDigits number)
    (numerator : Text.digitCount n.natAbs ≤ digitLimit)
    (denominator : d = 1 ∨ Text.digitCount d ≤ digitLimit)
    (text : (Derivation.ratio n d).text = written.toList) (name : String) :
    Compiled.compile kind written name = .ok ⟨written, .ratio number n d, .empty⟩ := by
  rw [compile_of_term? (term?_ratio reads numerator denominator) text name,
    Context.resolve_ratio]

theorem compile_literal {kind : NumberKind} {n : Number}
    (converted : kind.read? (String.ofList n.text) = some v) (text : n.text = written.toList)
    (name : String) :
    Compiled.compile kind written name = .ok ⟨written, .literal v, .empty⟩ := by
  have denotes : (Derivation.literal n).term? kind.read? = some (.literal v) :=
    term?_number converted .nothing
  exact compile_of_term? denotes ((Derivation.text_literal n).trans text) name

/-! ### Values -/

section
variable (host : Host κ σ) (policy : DivisionPolicy) (s : Session κ σ) {number : Int → Value}

theorem evaluate_signed (negates : ∀ n, (number n).negate = .ok (number (-n))) (n : Int) :
    (Node.evaluate host policy (.signed number n)).run s = (.ok (number n), s) := by
  rw [Tree.signed]
  split
  · next negative =>
    have magnitude : -(n.natAbs : Int) = n := by omega
    rw [Node.evaluate_negation]
    change ((number n.natAbs).negate, s) = _
    rw [negates, magnitude]
  · next natural =>
    have magnitude : (n.natAbs : Int) = n := by omega
    rw [magnitude]
    rfl

theorem negate_fraction (n : Int) :
    (Value.fraction n).negate = .ok (.fraction ((-n : Int) : Rat)) := by
  rw [Int.cast_neg]
  rfl

/-- The quotient that a fraction is written as evaluates to it. -/
theorem evaluate_ratio (q : Rat) :
    (Node.evaluate host policy (.ratio (fun n => .fraction n) q.num q.den)).run s =
      (.ok (.fraction q), s) := by
  have numerator := evaluate_signed host policy s negate_fraction q.num
  rw [Tree.ratio]
  split
  · next one => rw [numerator, Rat.coe_int_num_of_den_eq_one one]
  · have nonzero : ((q.den : Int) : Rat).num ≠ 0 := by
      rw [Rat.num_intCast]
      exact Int.natCast_ne_zero.mpr q.den_nz
    have quotient : Value.apply .div (.fraction q.num) (.fraction (q.den : Int)) =
        .ok (.fraction (q.num / (q.den : Int))) := if_neg nonzero
    have divided : Value.combine policy .div (.fraction q.num) (.fraction (q.den : Int)) =
        .ok (.fraction q) := by
      unfold Value.combine Value.divide
      rw [if_pos rfl, quotient, Int.cast_natCast, Rat.num_div_den]
      cases policy <;> rfl
    have denominator : (Node.evaluate host policy (.literal (.fraction (q.den : Int)))).run s =
        (.ok (.fraction (q.den : Int)), s) := rfl
    rw [Node.evaluate_binary_of_ok host policy .div numerator denominator, divided]

end

namespace Decimal

/-- A literal is read as a finite decimal without sign, in the form that it can be held in. -/
theorem exists_held {n : Number}
    (converted : NumberKind.decimal.read? (String.ofList n.text) = some (.decimal d)) :
    ∃ coefficient exponent, d = .finite false coefficient exponent ∧
      held? false coefficient exponent = some d := by
  obtain ⟨e, read, same⟩ := Option.map_eq_some_iff.mp converted
  obtain rfl := Value.decimal.inj same
  rw [n.read?_decimal] at read
  refine ⟨_, _, ?_, read⟩
  unfold held? at read
  obtain ⟨_, made⟩ := Option.ite_none_right_eq_some.mp read
  exact (Option.some.inj made).symm

/-- The text of what can be held is a number, and is read as the same decimal again. -/
theorem exists_number_of_held (held : held? false coefficient exponent = some d)
    (form : d = .finite false coefficient exponent) : ∃ n : Number, n.text = d.text.toList ∧
      NumberKind.decimal.read? (String.ofList n.text) = some (.decimal d) := by
  obtain ⟨n, text, spells⟩ := exists_number coefficient exponent
  refine ⟨n, ?_, ?_⟩
  · rw [text, toList_text, form]
    rfl
  · rw [NumberKind.read?, n.read?_decimal, spells.digits, spells.power, held]
    rfl

end Decimal

/-- The text of an integer compiles to that integer, and the text of a fraction to the quotient of
its numerator by its denominator; both evaluate to what they are the text of. The text of a
decimal that some literal is read as is a single literal, which is read as the same decimal. -/
theorem compile_text (host : Host κ σ) (state : σ) (policy : DivisionPolicy) (name : String) :
    (∀ (n : Int) written, (Value.int n).text? = some written →
      let compiled : Compiled := ⟨written, .signed .int n, .empty⟩
      Compiled.compile .int written name = .ok compiled ∧
        ((Session.start compiled policy state).evaluate host).1 = .ok (.int n)) ∧
    (∀ (q : Rat) written, (Value.fraction q).text? = some written →
      let compiled : Compiled := ⟨written, .ratio (fun n => .fraction n) q.num q.den, .empty⟩
      Compiled.compile .fraction written name = .ok compiled ∧
        ((Session.start compiled policy state).evaluate host).1 = .ok (.fraction q)) ∧
    ∀ (n : Number) (d : Decimal),
      NumberKind.decimal.read? (String.ofList n.text) = some (.decimal d) →
      Lexeme.scan 1 d.text.toList = [⟨.number d.text.toList, 1⟩] ∧
        Compiled.compile .decimal d.text name = .ok ⟨d.text, .literal (.decimal d), .empty⟩ := by
  refine ⟨fun n written shown => ?_, fun q written shown => ?_, fun n d converted => ?_⟩
  · obtain ⟨limited, rfl⟩ := Value.intText?_eq_some.mp shown
    have text : (Derivation.ratio n 1).text = (toString n).toList := by
      rw [Derivation.text_ratio, if_pos rfl, List.append_nil]
    refine ⟨compile_ratio NumberKind.readsDigits_int limited (.inl rfl) text name, ?_⟩
    exact congrArg Prod.fst (evaluate_signed host policy _ (fun _ => rfl) n)
  · have text := (Derivation.text_ratio q.num q.den).trans
      (Value.toList_of_fractionText? shown).symm
    obtain ⟨numerator, whole, parts⟩ := Value.fractionText?_eq_some.mp shown
    have limited := (Value.intText?_eq_some.mp whole).1
    have denominator : q.den = 1 ∨ Text.digitCount q.den ≤ digitLimit :=
      parts.imp And.left fun ⟨_, _, shown, _⟩ => (Value.intText?_eq_some.mp shown).1
    refine ⟨compile_ratio NumberKind.readsDigits_fraction limited denominator text name, ?_⟩
    exact congrArg Prod.fst (evaluate_ratio host policy _ q)
  · obtain ⟨coefficient, exponent, form, held⟩ := Decimal.exists_held converted
    obtain ⟨m, text, again⟩ := Decimal.exists_number_of_held held form
    refine ⟨?_, compile_literal again text name⟩
    have scanned := (Derivation.literal m).scan_text 1
    rw [Derivation.text_literal] at scanned
    rw [← text, scanned]
    rfl

/-- A negative integer, a negative fraction, and the zero of the literal `0.00e-5`, whose text is in
another notation. -/
theorem compile_text_of_zero :
    let host := Callback.host Callback.shown
    let negative : Compiled := ⟨"-7", .negation (.literal (.int 7)), .empty⟩
    let quotient : Compiled := ⟨"-3/4", .binary .div (.negation (.literal (.fraction 3)))
      (.literal (.fraction 4)), .empty⟩
    let q : Rat := ⟨-3, 4, by decide, by decide⟩
    let zero : Decimal := .finite false 0 (-7)
    ((Value.int (-7)).text? = some "-7" ∧ Compiled.compile .int "-7" "<expr>" = .ok negative ∧
      ((Session.start negative .checked .empty).evaluate host).1 = .ok (.int (-7))) ∧
    ((Value.fraction q).text? = some "-3/4" ∧
      Compiled.compile .fraction "-3/4" "<expr>" = .ok quotient ∧
      ((Session.start quotient .checked .empty).evaluate host).1 = .ok (.fraction q)) ∧
    NumberKind.decimal.read? "0.00e-5" = some (.decimal zero) ∧ zero.text = "0E-7" ∧
      Compiled.compile .decimal "0E-7" "<expr>" =
        .ok ⟨"0E-7", .literal (.decimal zero), .empty⟩ := by
  intro host negative quotient q zero
  have readsBack := compile_text host Record.empty .checked "<expr>"
  have integer : (Value.int (-7)).text? = some "-7" := by rfl
  have fraction : (Value.fraction q).text? = some "-3/4" := by
    have numerator : Value.intText? (-3) = some "-3" := by rfl
    have denominator : Value.intText? 4 = some "4" := by rfl
    exact Value.fractionText?_eq_some.mpr
      ⟨_, numerator, .inr ⟨by decide, _, denominator, by decide⟩⟩
  let literal : Number := ⟨⟨['0'], List.cons_ne_nil _ _, List.forall_mem_singleton.mpr rfl⟩,
    some ['0', '0'], some ⟨'e', some '-', ⟨['5'], List.cons_ne_nil _ _,
      List.forall_mem_singleton.mpr rfl⟩, .inl rfl, by simp⟩, by simp⟩
  have converted : NumberKind.decimal.read? (String.ofList literal.text) =
      some (.decimal zero) := by
    rw [NumberKind.read?, literal.read?_decimal]
    rfl
  have written : zero.text = "0E-7" := rfl
  refine ⟨⟨integer, readsBack.1 _ _ integer⟩, ⟨fraction, readsBack.2.1 _ _ fraction⟩, converted,
    written, ?_⟩
  exact written ▸ (readsBack.2.2 literal zero converted).2

end Formula
