import Formula.Proofs.Grammar.Refusal

/-! White space between lexemes. Put in where no number and no name runs on, it leaves the lexemes
of a text what they are and moves those after it along. Reading does not depend on where lexemes
stand, save for the position of an error, and so all that changes is that position. -/
namespace Formula

/-! ### Positions -/

/-- The position of a character after `width` characters are put in before the one at `point`. -/
def shiftFrom (point width position : Nat) : Nat :=
  if position < point then position else position + width

def LocatedLexeme.relocate (move : Nat → Nat) (located : LocatedLexeme) : LocatedLexeme :=
  ⟨located.lexeme, move located.position⟩

def Refusal.relocate (move : Nat → Nat) (refusal : Refusal) : Refusal :=
  ⟨refusal.cause, move refusal.position⟩

/-- The lexeme is a word with characters on both sides of a point, which is given as the position of
the character after it. -/
def LocatedLexeme.Spans (point : Nat) (located : LocatedLexeme) : Prop :=
  located.lexeme.IsWord ∧ located.position < point ∧
    point < located.position + located.lexeme.text.length

namespace Grammar

/-- Positions decide nothing but where a text is refused. -/
theorem Situation.run_relocate (number? : String → Option Value) (final : Nat) (move : Nat → Nat)
    (situation : Situation) (located : List LocatedLexeme) :
    situation.run number? (move final) (located.map (·.relocate move)) =
      (situation.run number? final located).mapError (·.relocate move) := by
  induction located generalizing situation with
  | nil =>
    rw [List.map_nil, run, run]
    cases situation.finish <;> rfl
  | cons first located ih =>
    rw [List.map_cons, run, run, LocatedLexeme.relocate]
    dsimp only
    cases situation.take number? first.lexeme with
    | ok next => exact ih next
    | error cause => rfl

theorem locate_shift (spaced : List Spaced) (width : Nat) (behind : point ≤ position) :
    locate (position + width) spaced =
      (locate position spaced).map (·.relocate (shiftFrom point width)) := by
  induction spaced generalizing position with
  | nil => rfl
  | cons s more ih =>
    have others := ih (Nat.le_add_right_of_le behind : point ≤ position + s.text.length)
    have here : shiftFrom point width (position + s.blanks.text.length) =
        position + width + s.blanks.text.length := by
      rw [shiftFrom, if_neg (by omega), Nat.add_right_comm]
    have along : position + width + s.text.length = position + s.text.length + width := by
      omega
    simp only [locate, List.map_cons, LocatedLexeme.relocate, here, along, others]

/-- A text further back has its lexemes further back. -/
theorem scan_shift (text : List Char) (position width : Nat) :
    Lexeme.scan (position + width) text =
      (Lexeme.scan position text).map (·.relocate (shiftFrom position width)) := by
  obtain ⟨spaced, _, _, _, scanned⟩ := exists_spaced text
  rw [scanned, scanned, locate_shift spaced width (Nat.le_refl position)]

/-! ### Lexemes before white space -/

section
variable {front back rest : List Char} {b : Char}

theorem digits_insert (blank : Text.isBlank b = true)
    (absent : Lexeme.digits (front ++ back) = []) : Lexeme.digits (front ++ b :: rest) = [] := by
  have noDigit := isDigit_of_isAlphanum (isAlphanum_of_isBlank blank).1
  cases front with
  | nil => simp [Lexeme.digits, noDigit]
  | cons c front =>
    rw [List.cons_append, Lexeme.digits, List.takeWhile_cons] at absent ⊢
    by_cases digit : c.isDigit = true
    · rw [if_pos digit] at absent
      contradiction
    · rw [if_neg digit]

/-- White space gives no exponent to a number that has none. -/
theorem exponent_insert (blank : Text.isBlank b = true)
    (absent : Lexeme.exponent (front ++ back) = []) :
    Lexeme.exponent (front ++ b :: rest) = [] := by
  match front with
  | [] => exact (stops_of_isBlank blank rest).exponent_eq_nil
  | [letter] =>
    have noDigit := isDigit_of_isAlphanum (isAlphanum_of_isBlank blank).1
    have noSign : ¬(b = '+' ∨ b = '-') := by
      rintro (rfl | rfl) <;> revert blank <;> decide
    simp [Lexeme.exponent, noDigit, noSign]
  | letter :: sign :: front =>
    simp only [List.cons_append, Lexeme.exponent] at absent ⊢
    by_cases marked : letter = 'e' ∨ letter = 'E'
    · rw [if_pos marked] at absent ⊢
      by_cases digit : sign.isDigit = true
      · rw [if_pos digit] at absent
        contradiction
      · rw [if_neg digit] at absent ⊢
        refine if_neg ?_
        rintro ⟨signed, present⟩
        have noDigits : Lexeme.digits (front ++ back) = [] := by
          by_contra digits
          rw [if_pos ⟨signed, digits⟩] at absent
          contradiction
        exact present (digits_insert blank noDigits)
    · rw [if_neg marked]

/-- The first lexeme of a text is its first one too when white space is put in after it. -/
theorem first_insert {lexeme : Lexeme} {c : Char} {tail : List Char} (formed : lexeme.WellFormed)
    (text : lexeme.text = c :: tail)
    (taken : (Lexeme.first c (tail ++ (front ++ back))).1 = lexeme) (blanks : Blanks) :
    (Lexeme.first c (tail ++ (front ++ (blanks.text ++ back)))).1 = lexeme := by
  cases blank : blanks.text with
  | nil => exact taken
  | cons b others =>
    have isBlank : Text.isBlank b = true := blanks.blank b (by simp [blank])
    cases front with
    | nil =>
      exact congrArg Prod.fst
        (first_append formed (fun _ => stops_of_isBlank isBlank _) text).2
    | cons d front =>
      exact first_congr text taken rfl fun _ => exponent_insert isBlank

/-- The first lexeme of a text lies before a point that it does not span. -/
theorem exists_first_of_not_spans {c : Char} (blank : Text.isBlank c = false)
    (apart : ¬LocatedLexeme.Spans (position + (c :: front).length)
      ⟨(Lexeme.first c (front ++ back)).1, position⟩) :
    ∃ lexeme tail after, lexeme.WellFormed ∧ lexeme.text = c :: tail ∧ front = tail ++ after ∧
      (Lexeme.first c (tail ++ (after ++ back))).1 = lexeme := by
  obtain ⟨formed, made, length⟩ := first_formed blank (front ++ back)
  have within : (Lexeme.first c (front ++ back)).2 ≤ front.length := by
    cases first : (Lexeme.first c (front ++ back)).1 with
    | mark d =>
      rw [first, Lexeme.text, List.length_singleton] at length
      omega
    | number text | name text =>
      by_contra beyond
      rw [first] at apart length
      refine apart ⟨trivial, ?_, ?_⟩ <;> dsimp only <;> rw [List.length_cons] <;> omega
  obtain ⟨d, tail, text⟩ : ∃ d tail, (Lexeme.first c (front ++ back)).1.text = d :: tail :=
    List.exists_cons_of_length_pos (by omega)
  rw [text, List.cons_append, List.cons.injEq] at made
  obtain ⟨rfl, made⟩ := made
  rw [text, List.length_cons, Nat.add_comm, Nat.add_left_cancel_iff] at length
  have inFront : tail <+: front := List.prefix_of_prefix_length_le ⟨_, made⟩
    (List.prefix_append front back) (length ▸ within)
  obtain ⟨after, rfl⟩ := inFront
  exact ⟨_, tail, after, formed, text, rfl, by rw [List.append_assoc]⟩

end

/-- White space put in between two lexemes moves those after it along. -/
theorem scan_insert (blanks : Blanks) (front back : List Char)
    (placed : point = position + front.length)
    (apart : ∀ located ∈ Lexeme.scan position (front ++ back), ¬located.Spans point) :
    Lexeme.scan position (front ++ (blanks.text ++ back)) =
      (Lexeme.scan position (front ++ back)).map
        (·.relocate (shiftFrom point blanks.text.length)) := by
  generalize size : front.length = n
  induction n using Nat.strongRecOn generalizing front position with
  | ind n ih =>
    subst size
    cases front with
    | nil =>
      obtain rfl : point = position := placed
      rw [List.nil_append, List.nil_append, scan_blanks_append, scan_shift]
    | cons c front =>
      cases blank : Text.isBlank c with
      | true =>
        rw [List.cons_append, Lexeme.scan_blank _ _ blank] at apart ⊢
        rw [List.cons_append, Lexeme.scan_blank _ _ blank]
        rw [List.length_cons] at placed
        exact ih front.length (Nat.lt_succ_self _) front (by omega) apart rfl
      | false =>
        have own : ¬LocatedLexeme.Spans point
            ⟨(Lexeme.first c (front ++ back)).1, position⟩ := by
          rw [List.cons_append, Lexeme.scan_first _ _ blank] at apart
          exact apart _ List.mem_cons_self
        obtain ⟨lexeme, tail, after, formed, text, rfl, taken⟩ :=
          exists_first_of_not_spans blank (placed ▸ own)
        have parts (rest : List Char) :
            c :: (tail ++ after) ++ rest = lexeme.text ++ (after ++ rest) := by
          rw [text, List.cons_append, List.cons_append, List.append_assoc]
        have stays : shiftFrom point blanks.text.length position = position :=
          if_pos (by rw [placed, List.length_cons]; omega)
        have length := congrArg List.length (parts [])
        simp only [List.append_nil, List.length_append] at length
        rw [parts, scan_of_first formed text taken, List.forall_mem_cons] at apart
        have shorter : after.length < (c :: (tail ++ after)).length := by
          rw [length]
          exact Nat.lt_add_of_pos_left (List.length_pos_iff.mpr formed.text_ne_nil)
        have others := ih after.length shorter after (by omega) apart.2 rfl
        rw [parts, parts, scan_of_first formed text taken,
          scan_of_first formed text (first_insert formed text taken blanks), others,
          List.map_cons, LocatedLexeme.relocate, stays]

end Grammar

/-- Reading a text with white space put in. -/
theorem Term.read_insert (number? : String → Option Value) (blanks : Grammar.Blanks)
    (front back : List Char)
    (apart : ∀ located ∈ Lexeme.scan 1 (front ++ back), ¬located.Spans (1 + front.length)) :
    Term.read number? (String.ofList (front ++ (blanks.text ++ back))) =
      (Term.read number? (String.ofList (front ++ back))).mapError
        (·.relocate (shiftFrom (1 + front.length) blanks.text.length)) := by
  have final : (front ++ (blanks.text ++ back)).length + 1 =
      shiftFrom (1 + front.length) blanks.text.length ((front ++ back).length + 1) := by
    simp only [List.length_append]
    rw [shiftFrom, if_neg (by omega)]
    omega
  rw [Term.read, Term.read, String.toList_ofList, String.toList_ofList,
    Grammar.scan_insert blanks front back rfl apart, final,
    Grammar.Situation.readOperand_eq_run, Grammar.Situation.readOperand_eq_run,
    Grammar.Situation.run_relocate]

/-- A text is refused at a character or right after its end. -/
theorem Term.place_of_read_error {number? : String → Option Value}
    (failed : Term.read number? source = .error ⟨cause, place⟩) :
    1 ≤ place ∧ place ≤ source.length + 1 := by
  rw [← String.length_toList]
  rcases Grammar.exists_refusal failed with ⟨rfl, _⟩ | ⟨⟨refused⟩⟩
  · exact ⟨Nat.le_add_left _ _, Nat.le_refl _⟩
  · exact ⟨refused.place_le.1, Nat.le_succ_of_le refused.place_le.2⟩

/-- The character at a position is found again where the position goes. -/
theorem getElem?_shiftFrom (front middle back : List Char) (positive : 1 ≤ position) :
    (front ++ (middle ++ back))[shiftFrom (1 + front.length) middle.length position - 1]? =
      (front ++ back)[position - 1]? := by
  unfold shiftFrom
  split
  · rw [List.getElem?_append_left (by omega), List.getElem?_append_left (by omega)]
  · rw [List.getElem?_append_right (by omega), List.getElem?_append_right (by omega),
      List.getElem?_append_right (by omega)]
    congr 1
    omega

/-- White space put into a source, anywhere but between two characters of one number or one name,
does not change what the source is compiled to. A source that is refused stays refused for the same
cause and at the same character, or at the end, whose position is moved along if it is behind the
place where the white space is put in. -/
theorem compile_insert_blanks (kind : NumberKind) (blanks : Grammar.Blanks)
    (front back : List Char) (name : String)
    (apart : ∀ located ∈ Lexeme.scan 1 (front ++ back), ¬located.Spans (1 + front.length)) :
    let source := String.ofList (front ++ back)
    let spaced := String.ofList (front ++ (blanks.text ++ back))
    match Compiled.compile kind source name with
    | .ok compiled => Compiled.compile kind spaced name = .ok { compiled with source := spaced }
    | .error error => ∃ cause position, 1 ≤ position ∧ position ≤ source.length + 1 ∧
        error = (⟨cause, position⟩ : Refusal).toError name ∧
        let moved := if position ≤ front.length then position else position + blanks.text.length
        Compiled.compile kind spaced name = .error ((⟨cause, moved⟩ : Refusal).toError name) ∧
        spaced.toList[moved - 1]? = source.toList[position - 1]? := by
  intro source spaced
  have read := Term.read_insert kind.read? blanks front back apart
  change Term.read kind.read? spaced = (Term.read kind.read? source).mapError _ at read
  rw [Compiled.compile, Compiled.compile, read]
  cases outcome : Term.read kind.read? source with
  | ok term => rfl
  | error refusal =>
    obtain ⟨cause, position⟩ := refusal
    obtain ⟨positive, bound⟩ := Term.place_of_read_error outcome
    have moved : shiftFrom (1 + front.length) blanks.text.length position =
        if position ≤ front.length then position else position + blanks.text.length := by
      rw [shiftFrom, Nat.add_comm]
      simp only [Nat.lt_succ_iff]
    have same := getElem?_shiftFrom front blanks.text back positive
    rw [moved] at same
    refine ⟨cause, position, positive, bound, rfl, ?_, ?_⟩
    · rw [← moved]
      rfl
    · rw [String.toList_ofList, String.toList_ofList]
      exact same

/-- The sign after a name is no part of an exponent. -/
theorem compile_insert_blanks_of_sign :
    (∀ located ∈ Lexeme.scan 1 "(x1e+2 y".toList, ¬located.Spans 5) ∧
      Compiled.compile .int "(x1e+2 y" "<expr>" =
        .error (.malformed "closing parenthesis expected" (some ⟨8, "<expr>"⟩) []) ∧
      Compiled.compile .int "(x1e \t+2 y" "<expr>" =
        .error (.malformed "closing parenthesis expected" (some ⟨10, "<expr>"⟩) []) := by
  have scanned : Lexeme.scan 1 "(x1e+2 y".toList =
      [⟨.mark '(', 1⟩, ⟨.name ['x', '1', 'e'], 2⟩, ⟨.mark '+', 5⟩, ⟨.number ['2'], 6⟩,
        ⟨.name ['y'], 8⟩] := by
    have text : "(x1e+2 y".toList = ['(', 'x', '1', 'e', '+', '2', ' ', 'y'] := rfl
    rw [text]
    decide +kernel
  have apart : ∀ located ∈ Lexeme.scan 1 "(x1e+2 y".toList, ¬located.Spans 5 := by
    rw [scanned]
    simp [LocatedLexeme.Spans, Lexeme.IsWord, Lexeme.text]
  have failed : Compiled.compile .int "(x1e+2 y" "<expr>" =
      .error (.malformed "closing parenthesis expected" (some ⟨8, "<expr>"⟩) []) := by
    rw [Compiled.compile, Term.read, scanned, Grammar.Situation.readOperand_eq_run]
    rfl
  have blank : ∀ c ∈ [' ', '\t'], Text.isBlank c = true :=
    List.forall_mem_cons.mpr ⟨rfl, List.forall_mem_singleton.mpr rfl⟩
  have inserted := compile_insert_blanks .int ⟨_, blank⟩ "(x1e".toList "+2 y".toList "<expr>" apart
  have source : String.ofList ("(x1e".toList ++ "+2 y".toList) = "(x1e+2 y" := by
    decide +kernel
  dsimp only at inserted
  rw [source, failed] at inserted
  obtain ⟨cause, position, _, _, same, moved, _⟩ := inserted
  have inside : cause ≠ .endOfInput := by
    rintro rfl
    rw [Refusal.toError] at same
    cases same
  rw [Refusal.toError_of_ne inside] at same moved
  simp only [ExpressionError.malformed.injEq, Option.some.injEq, SourceLocation.mk.injEq] at same
  obtain ⟨message, ⟨place, _⟩, _⟩ := same
  obtain rfl : position = 8 := by omega
  rw [← message] at moved
  exact ⟨apart, failed, moved⟩

end Formula
