import Formula.Proofs.Grammar.Automaton
import Formula.Proofs.Grammar.Exactness
import Formula.Proofs.Grammar.Lookahead

/-! Where a text is refused. A text is refused at its end, or at the first lexeme that the automaton
does not take. What is before that place begins an expression, since every situation has a
completion; and what is before it with the first character of the lexeme begins none, since that
character settles how the text before it divides and which kind of lexeme comes next. -/
namespace Formula.Grammar

namespace Situation

/-! ### Kinds of lexemes -/

/-- Two numbers, two names, or one mark. -/
inductive SameKind : Lexeme → Lexeme → Prop where
  | number (text other : List Char) : SameKind (.number text) (.number other)
  | name (text other : List Char) : SameKind (.name text) (.name other)
  | mark (c : Char) : SameKind (.mark c) (.mark c)

/-- The first character of a lexeme settles its kind. -/
theorem sameKind_first {lexeme : Lexeme} {c : Char} {tail : List Char}
    (formed : lexeme.WellFormed) (text : lexeme.text = c :: tail) (rest : List Char) :
    SameKind lexeme (Lexeme.first c rest).1 := by
  cases lexeme with
  | number digits =>
    obtain ⟨n, rfl⟩ := formed
    have digit : c.isDigit = true := by
      obtain ⟨d, more, same⟩ := List.exists_cons_of_ne_nil n.whole.nonempty
      simp only [Lexeme.text, Number.text, same, List.cons_append, List.cons.injEq] at text
      obtain ⟨rfl, -⟩ := text
      exact n.whole.digit d (by simp [same])
    rw [Lexeme.first, if_pos digit]
    exact .number _ _
  | name letters =>
    obtain ⟨n, rfl⟩ := formed
    obtain ⟨rfl, rfl⟩ := List.cons.inj text
    have noDigit := isDigit_of_isAlpha n.letter
    rw [Lexeme.first, if_neg (by simp [noDigit]), if_pos n.letter]
    exact .name _ _
  | mark d =>
    obtain ⟨rfl, rfl⟩ := List.cons.inj text
    obtain ⟨_, noDigit, noLetter⟩ := formed
    rw [Lexeme.first, if_neg (by simp [noDigit]), if_neg (by simp [noLetter])]
    exact .mark _

section
variable {number? : String → Option Value}

/-- Except for what a number converts to, only the kind of a lexeme decides whether it is taken. -/
theorem refused_of_sameKind {situation : Situation} (same : SameKind lexeme other)
    (refused : situation.take number? lexeme = .error cause)
    (numeric : ∀ text, cause ≠ .invalidNumber text) :
    ∃ cause, situation.take number? other = .error cause := by
  cases same with
  | mark => exact ⟨cause, refused⟩
  | name text other =>
    cases situation with
    | operand | opened => contradiction
    | named | following => exact ⟨_, rfl⟩
  | number text other =>
    have converted (stack : List Frame)
        (refused : takeOperand number? stack (.number text) = .error cause) : False := by
      rw [takeOperand] at refused
      split at refused
      · contradiction
      · cases refused
        exact numeric _ rfl
    cases situation with
    | operand | opened => exact (converted _ refused).elim
    | named | following => exact ⟨_, rfl⟩

theorem refuseAfterSum_ne_endOfInput (stack : List Frame) :
    Term.refuseAfterSum stack ≠ .endOfInput := by
  fun_cases Term.refuseAfterSum stack <;> simp

theorem takeOperand_ne_endOfInput (stack : List Frame) (lexeme : Lexeme) :
    takeOperand number? stack lexeme ≠ .error .endOfInput := by
  fun_cases takeOperand number? stack lexeme <;> simp_all

theorem takeFollowing_ne_endOfInput (state : Term × List Frame) (lexeme : Lexeme) :
    takeFollowing state lexeme ≠ .error .endOfInput := by
  fun_cases takeFollowing state lexeme with
  | case1 | case2 => simp
  | case3 c =>
    fun_cases takeAfterSum c (Term.finishProduct state.1 state.2) <;>
      simp [refuseAfterSum_ne_endOfInput]
  | case4 => simp [refuseAfterSum_ne_endOfInput]

/-- No lexeme is refused for being the end. -/
theorem take_ne_endOfInput (situation : Situation) (lexeme : Lexeme) :
    situation.take number? lexeme ≠ .error .endOfInput := by
  fun_cases situation.take number? lexeme with
  | case2 | case4 => simp
  | case1 | case5 => exact takeOperand_ne_endOfInput _ _
  | case3 | case6 => exact takeFollowing_ne_endOfInput _ _

end

end Situation

/-! ### Texts that are refused -/

open Situation

theorem locate_append (position : Nat) (first more : List Spaced) :
    locate position (first ++ more) = locate position first ++
      locate (position + (first.flatMap Spaced.text).length) more := by
  induction first generalizing position with
  | nil => rfl
  | cons s first ih =>
    simp only [List.cons_append, locate, ih, List.flatMap_cons, List.length_append, Nat.add_assoc]

/-- The character at a position is an exponent mark right after a number. -/
def MarksExponent (text : List Char) (position : Nat) : Prop :=
  (∃ c ∈ text[position - 1]?, c = 'e' ∨ c = 'E') ∧
  ∃ digits start, ⟨.number digits, start⟩ ∈ Lexeme.scan 1 text ∧ start + digits.length = position

/-- A text is refused at a place because of its lexeme there. -/
structure RefusedAt (number? : String → Option Value) (text : List Char) (cause : Malformation)
    (place : Nat) where
  front : List Spaced
  blanks : Blanks
  lexeme : Lexeme
  back : List Spaced
  trailing : Blanks
  last : Situation
  formed : ∀ s ∈ front ++ ⟨blanks, lexeme⟩ :: back, s.lexeme.WellFormed
  made : text = front.flatMap Spaced.text ++ (blanks.text ++ (lexeme.text ++
    (back.flatMap Spaced.text ++ trailing.text)))
  scanned : Lexeme.scan 1 text = locate 1 (front ++ ⟨blanks, lexeme⟩ :: back)
  passes : Passes number? (operand []) front last
  refused : last.take number? lexeme = .error cause
  placed : place = 1 + (front.flatMap Spaced.text).length + blanks.text.length

/-- A text is refused at its end or because of a lexeme. -/
theorem exists_refusal (failed : Term.read number? source = .error ⟨cause, place⟩) :
    (place = source.toList.length + 1 ∧ ∃ spaced trailing,
      source.toList = spaced.flatMap Spaced.text ++ trailing.text ∧
      Viable number? spaced trailing) ∨
    Nonempty (RefusedAt number? source.toList cause place) := by
  obtain ⟨spaced, trailing, formed, made, scanned⟩ := exists_spaced source.toList
  rw [Term.read, scanned, readOperand_eq_run] at failed
  rcases exists_refused failed with ⟨last, passes, _, rfl⟩ | inside
  · have stands := passes.standsFor formed standsFor_start
    exact .inl ⟨rfl, spaced, trailing, made.symm, stands.viable trailing⟩
  · obtain ⟨front, s, back, last, rfl, passes, refused, rfl⟩ := inside
    refine .inr ⟨⟨front, s.blanks, s.lexeme, back, trailing, last, formed, ?_, scanned 1, passes,
      refused, rfl⟩⟩
    rw [← made]
    simp [Spaced.text]

/-- Between two lexemes no number meets an exponent mark. -/
theorem numbersUnmarked_of_separated {spaced : List Spaced}
    (formed : ∀ s ∈ spaced, s.lexeme.WellFormed) (separated : Separated spaced beyond)
    (last : ∀ init s, spaced = init ++ [s] → s.lexeme.IsNumber → Unmarked rest) :
    NumbersUnmarked spaced rest := by
  induction spaced with
  | nil => trivial
  | cons s more ih =>
    have others := (List.forall_mem_cons.mp formed).2
    refine ⟨fun numeric => ?_, ih others separated.2 fun init t same =>
      last (s :: init) t (by rw [same]; rfl)⟩
    cases more with
    | nil => exact last [] s rfl numeric
    | cons t more =>
      obtain ⟨c, tail, text⟩ : ∃ c tail, t.text = c :: tail :=
        List.exists_cons_of_ne_nil (List.append_ne_nil_of_right_ne_nil _
          (others t List.mem_cons_self).text_ne_nil)
      have word : s.lexeme.IsWord := by
        cases same : s.lexeme <;> simp_all [Lexeme.IsNumber, Lexeme.IsWord]
      have unmarked := (separated.1 word).unmarked
      rw [List.flatMap_cons, text] at unmarked ⊢
      exact fun d head => unmarked d head

namespace RefusedAt

section
variable {number? : String → Option Value} (r : RefusedAt number? text cause place)
include r

theorem formed_lexeme : r.lexeme.WellFormed :=
  (List.forall_mem_append.mp r.formed).2 _ List.mem_cons_self

theorem place_le : 1 ≤ place ∧ place ≤ text.length := by
  have present : 0 < r.lexeme.text.length :=
    List.length_pos_iff.mpr r.formed_lexeme.text_ne_nil
  have length := congrArg List.length r.made
  have placed := r.placed
  simp only [List.length_append] at length
  constructor <;> omega

theorem made_before : text = (r.front.flatMap Spaced.text ++ r.blanks.text) ++
    (r.lexeme.text ++ (r.back.flatMap Spaced.text ++ r.trailing.text)) := by
  rw [List.append_assoc]
  exact r.made

theorem length_before :
    (r.front.flatMap Spaced.text ++ r.blanks.text).length = place - 1 := by
  have placed := r.placed
  rw [List.length_append]
  omega

/-- What is before the place is what the lexemes before it are made of, and white space. -/
theorem take_before : text.take (place - 1) =
    r.front.flatMap Spaced.text ++ r.blanks.text := by
  conv_lhs => rw [r.made_before, ← r.length_before]
  exact List.take_left

/-- The lexeme that is refused begins with the character at the place. -/
theorem exists_character : ∃ c tail, r.lexeme.text = c :: tail ∧ text[place - 1]? = some c ∧
    text.take place = r.front.flatMap Spaced.text ++ r.blanks.text ++ [c] := by
  obtain ⟨c, tail, first⟩ := List.exists_cons_of_ne_nil r.formed_lexeme.text_ne_nil
  have character : text[place - 1]? = some c := by
    have whole := congrArg (·[place - 1]?) r.made_before
    rw [← r.length_before] at whole ⊢
    simpa [first] using whole
  refine ⟨c, tail, first, character, ?_⟩
  have upTo : text.take (place - 1 + 1) = text.take (place - 1) ++ text[place - 1]?.toList :=
    List.take_add_one
  rw [Nat.sub_add_cancel r.place_le.1, r.take_before, character] at upTo
  exact upTo

theorem formed_front : ∀ s ∈ r.front, s.lexeme.WellFormed :=
  (List.forall_mem_append.mp r.formed).1

theorem viable : Viable number? r.front r.blanks :=
  (r.passes.standsFor r.formed_front standsFor_start).viable r.blanks

/-- A number that ends at the place is one of the lexemes of the text. -/
theorem number_mem_scan {init : List Spaced} {blanks : Blanks} {digits : List Char}
    (front : r.front = init ++ [⟨blanks, .number digits⟩]) (close : r.blanks.text = []) :
    ∃ start, ⟨.number digits, start⟩ ∈ Lexeme.scan 1 text ∧ start + digits.length = place := by
  have placed := r.placed
  have scanned := r.scanned
  simp only [front, List.append_assoc, List.singleton_append] at scanned
  refine ⟨1 + (init.flatMap Spaced.text).length + blanks.text.length, ?_, ?_⟩
  · rw [scanned, locate_append, locate]
    simp
  · simp only [front, close, List.flatMap_append, List.flatMap_singleton, Spaced.text,
      Lexeme.text, List.length_append, List.length_nil] at placed
    omega

theorem numbersUnmarked (unmarked : ¬MarksExponent text place) :
    NumbersUnmarked r.front (r.blanks.text ++ (r.lexeme.text ++ rest)) := by
  obtain ⟨c, tail, first, character, _⟩ := r.exists_character
  obtain ⟨d, more, _, lexemes, _⟩ := r.viable
  have separated := d.sum.separated d.trailing.stops
  rw [lexemes] at separated
  refine numbersUnmarked_of_separated r.formed_front (separated_append.mp separated).1 ?_
  rintro init ⟨blanks, lexeme⟩ front numeric
  cases before : r.blanks.text with
  | nil =>
    intro other head
    rw [first] at head
    obtain rfl := Option.some.inj head
    cases lexeme with
    | name | mark => exact numeric.elim
    | number digits =>
      have number := r.number_mem_scan front before
      rw [← not_or]
      exact fun mark => unmarked ⟨⟨c, character, mark⟩, digits, number⟩
  | cons b others => exact (stops_of_isBlank (r.blanks.blank b (by simp [before])) _).unmarked

/-- The text up to the character at the place is refused whatever follows. -/
theorem stays_refused (numeric : ∀ text, cause ≠ .invalidNumber text)
    (unmarked : ¬MarksExponent text place) (suffix : List Char) :
    ∃ refusal, Term.read number? (String.ofList (text.take place ++ suffix)) = .error refusal := by
  obtain ⟨c, tail, first, _, upTo⟩ := r.exists_character
  have scanned := (congrArg (Lexeme.scan 1) r.made).symm.trans r.scanned
  rw [locate_append] at scanned
  have same : (r.blanks.text ++ c :: suffix).head? = (r.blanks.text ++ (r.lexeme.text ++
      (r.back.flatMap Spaced.text ++ r.trailing.text))).head? := by
    rw [first]
    simp only [List.head?_append, List.cons_append, List.head?_cons]
  have divided := scan_congr r.formed_front scanned same (r.numbersUnmarked unmarked)
  have blank := isBlank_of_formed r.formed_lexeme first
  rw [scan_blanks_append, Lexeme.scan_first _ _ blank] at divided
  obtain ⟨refusal, refused⟩ :=
    refused_of_sameKind (sameKind_first r.formed_lexeme first suffix) r.refused numeric
  have text : text.take place ++ suffix =
      r.front.flatMap Spaced.text ++ (r.blanks.text ++ c :: suffix) := by
    simp [upTo]
  rw [Term.read, String.toList_ofList, text, divided, readOperand_eq_run, r.passes.run_append,
    run, refused]
  exact ⟨_, rfl⟩

end

end RefusedAt

end Formula.Grammar

namespace Formula
open Grammar

/-- The text compiles. -/
def Compiles (kind : NumberKind) (name : String) (text : List Char) : Prop :=
  ∃ compiled, Compiled.compile kind (String.ofList text) name = .ok compiled

theorem exists_compiles (viable : Situation.Viable kind.read? passed blanks) (name : String) :
    ∃ suffix, Compiles kind name (passed.flatMap Spaced.text ++ blanks.text ++ suffix) := by
  obtain ⟨d, _, suffix, _, text, denotes⟩ := viable
  obtain ⟨term, denotes⟩ := Option.isSome_iff_exists.mp denotes
  refine ⟨suffix, _, compile_of_term? denotes ?_ name⟩
  rw [String.toList_ofList, text, List.append_assoc]

theorem not_compiles (refused : Term.read kind.read? (String.ofList text) = .error refusal)
    (name : String) : ¬Compiles kind name text := by
  rintro ⟨compiled, success⟩
  rw [Compiled.compile, refused] at success
  contradiction

theorem Refusal.toError_message (refusal : Refusal) (name : String) :
    (refusal.toError name).message = refusal.cause.message := by
  unfold Refusal.toError
  split
  · next isEnd => rw [isEnd]; rfl
  · rfl

theorem Refusal.toError_of_ne {refusal : Refusal} (inside : refusal.cause ≠ .endOfInput)
    (name : String) : refusal.toError name =
      .malformed refusal.cause.message (some ⟨refusal.position, name⟩) [] := by
  unfold Refusal.toError
  split
  · contradiction
  · rfl

theorem exists_read_error (failed : Compiled.compile kind source name = .error error) :
    ∃ refusal, Term.read kind.read? source = .error refusal ∧ refusal.toError name = error := by
  unfold Compiled.compile at failed
  split at failed
  · next refusal refused => exact ⟨refusal, refused, Except.error.inj failed⟩
  · contradiction

/-- A source that does not compile is refused at a position that is exact. It lies in the source or
right after it, where alone the end is unexpected, and then the source begins one that compiles.
Unless a number is refused for its text, what is before the position begins a source that compiles,
and what is before it with the character at it begins none, except that this character may be an
exponent mark right after a number. -/
theorem compile_refusal_exact (failed : Compiled.compile kind source name = .error error) :
    ∃ position : Nat, 1 ≤ position ∧ position ≤ source.length + 1 ∧
      (error = .endOfInput (some ⟨position, name⟩) ∧ position = source.length + 1 ∧
          (∃ suffix, suffix ≠ [] ∧ Compiles kind name (source.toList ++ suffix)) ∨
        ∃ message, error = .malformed message (some ⟨position, name⟩) []) ∧
      ((∀ text, error.message ≠ (Malformation.invalidNumber text).message) →
        (∃ suffix, Compiles kind name (source.toList.take (position - 1) ++ suffix)) ∧
        (position ≤ source.length → ¬MarksExponent source.toList position →
          ∀ suffix, ¬Compiles kind name (source.toList.take position ++ suffix))) := by
  obtain ⟨⟨cause, place⟩, refused, rfl⟩ := exists_read_error failed
  rw [Refusal.toError_message, ← String.length_toList]
  rcases exists_refusal refused with ⟨rfl, spaced, trailing, made, viable⟩ | ⟨⟨r⟩⟩
  · obtain ⟨suffix, extended⟩ := exists_compiles viable name
    rw [← made] at extended
    have proper : suffix ≠ [] := by
      rintro rfl
      rw [← String.ofList_toList (s := source)] at refused
      exact not_compiles refused name (by simpa using extended)
    refine ⟨_, Nat.le_add_left _ _, Nat.le_refl _, ?_, fun _ => ⟨⟨suffix, ?_⟩, by omega⟩⟩
    · by_cases isEnd : cause = .endOfInput
      · subst isEnd
        exact .inl ⟨rfl, rfl, suffix, proper, extended⟩
      · exact .inr ⟨_, Refusal.toError_of_ne isEnd name⟩
    · rwa [Nat.add_sub_cancel, List.take_length]
  · have inside : cause ≠ .endOfInput := by
      rintro rfl
      exact Situation.take_ne_endOfInput _ _ r.refused
    obtain ⟨positive, bound⟩ := r.place_le
    refine ⟨place, positive, by omega, .inr ⟨_, Refusal.toError_of_ne inside name⟩, ?_⟩
    intro message
    have numeric : ∀ text, cause ≠ .invalidNumber text := by
      rintro text rfl
      exact message text rfl
    refine ⟨?_, fun _ unmarked suffix => ?_⟩
    · rw [r.take_before]
      exact exists_compiles r.viable name
    · obtain ⟨refusal, again⟩ := r.stays_refused numeric unmarked suffix
      exact not_compiles again name

/-- The letter is no exponent mark, because there is white space between the number and it. -/
theorem compile_refusal_exact_of_missingComma :
    Compiled.compile .int "f(1 e)" "<expr>" =
        .error (.malformed "comma expected" (some ⟨5, "<expr>"⟩) []) ∧
      (∃ suffix, Compiles .int "<expr>" ("f(1 ".toList ++ suffix)) ∧
      ∀ suffix, ¬Compiles .int "<expr>" ("f(1 e".toList ++ suffix) := by
  have scanned : Lexeme.scan 1 "f(1 e)".toList =
      [⟨.name ['f'], 1⟩, ⟨.mark '(', 2⟩, ⟨.number ['1'], 3⟩, ⟨.name ['e'], 5⟩,
        ⟨.mark ')', 6⟩] := by
    have text : "f(1 e)".toList = ['f', '(', '1', ' ', 'e', ')'] := rfl
    rw [text]
    decide +kernel
  have failed : Compiled.compile .int "f(1 e)" "<expr>" =
      .error (.malformed "comma expected" (some ⟨5, "<expr>"⟩) []) := by
    rw [Compiled.compile, Term.read, scanned, Situation.readOperand_eq_run]
    rfl
  obtain ⟨position, _, _, place, settled⟩ := compile_refusal_exact failed
  have fifth : position = 5 := by
    rcases place with ⟨isEnd, _⟩ | ⟨_, same⟩
    · contradiction
    · simp only [ExpressionError.malformed.injEq, Option.some.injEq,
        SourceLocation.mk.injEq] at same
      omega
  subst fifth
  have message (text : String) : "comma expected" ≠ "invalid number literal '" ++ text ++ "'" := by
    intro same
    have first := congrArg (·.toList.head?) same
    simp at first
  have unmarked : ¬MarksExponent "f(1 e)".toList 5 := by
    rintro ⟨_, digits, start, member, close⟩
    rw [scanned] at member
    simp only [List.mem_cons, LocatedLexeme.mk.injEq, reduceCtorEq, Lexeme.number.injEq,
      false_and, false_or, or_false, List.not_mem_nil] at member
    obtain ⟨rfl, rfl⟩ := member
    exact absurd close (by decide)
  obtain ⟨begins, stays⟩ := settled message
  exact ⟨failed, begins, stays (by decide) unmarked⟩

end Formula
