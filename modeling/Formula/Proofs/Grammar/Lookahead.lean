import Formula.Proofs.Grammar.Lexing

/-! What decides how far a lexeme extends. It is the one character after it, save that after a
number an exponent mark leaves it to the text beyond. So where no number is followed by such a
mark, the lexemes at the start of a text stay what they are when all is replaced after the first
character that follows them. -/
namespace Formula.Lexeme

def IsNumber : Lexeme → Prop
  | number _ => True
  | name _ | mark _ => False

end Formula.Lexeme

namespace Formula.Grammar

/-- The text does not begin with an exponent mark. -/
def Unmarked (rest : List Char) : Prop :=
  ∀ c, rest.head? = some c → c ≠ 'e' ∧ c ≠ 'E'

theorem Stops.unmarked (stops : Stops rest) : Unmarked rest := by
  intro c head
  have separates := (stops c head).1
  constructor <;> rintro rfl <;> revert separates <;> decide

theorem stops_of_isBlank {c : Char} (blank : Text.isBlank c = true) (rest : List Char) :
    Stops (c :: rest) := by
  rintro _ ⟨⟩
  exact isAlphanum_of_isBlank blank

section
variable {body rest other : List Char}

theorem takeWhile_congr {p : Char → Bool} (taken : (body ++ rest).takeWhile p = body)
    (same : other.head? = rest.head?) : (body ++ other).takeWhile p = body := by
  have inside : ∀ c ∈ body, p c = true := by
    rw [← taken]
    exact List.all_eq_true.mp List.all_takeWhile
  refine takeWhile_append_of_head inside fun c head => ?_
  rw [List.takeWhile_append_of_pos inside, List.append_right_eq_self] at taken
  obtain ⟨more, rfl⟩ := List.head?_eq_some_iff.mp (same.symm.trans head)
  rw [List.takeWhile_cons] at taken
  split at taken
  · contradiction
  · next outside => simpa using outside

theorem fraction_congr (taken : Lexeme.fraction (body ++ rest) = body)
    (same : other.head? = rest.head?) : Lexeme.fraction (body ++ other) = body := by
  cases body with
  | nil =>
    rw [List.nil_append] at taken ⊢
    unfold Lexeme.fraction at taken ⊢
    split
    · obtain ⟨more, rfl⟩ := List.head?_eq_some_iff.mp same.symm
      contradiction
    · rfl
  | cons point places =>
    rw [List.cons_append, Lexeme.fraction.eq_def] at taken
    split at taken
    · next digits cons =>
      obtain ⟨rfl, rfl⟩ := List.cons.inj cons
      rw [List.cons_append, Lexeme.fraction, Lexeme.digits,
        takeWhile_congr (List.cons.inj taken).2 same]
    · contradiction

theorem exponent_eq_nil_of_unmarked (unmarked : Unmarked rest) : Lexeme.exponent rest = [] := by
  unfold Lexeme.exponent
  split
  · next letter sign _ =>
    have different := unmarked letter rfl
    rw [if_neg (by simpa using different)]
  · rfl

theorem exponent_congr (taken : Lexeme.exponent (body ++ rest) = body)
    (same : other.head? = rest.head?)
    (absent : Lexeme.exponent rest = [] → Lexeme.exponent other = []) :
    Lexeme.exponent (body ++ other) = body := by
  match body with
  | [] => exact absent taken
  | [letter] =>
    obtain ⟨part, scale⟩ := exists_exponent ([letter] ++ rest)
    rw [taken] at scale
    cases part with
    | none => contradiction
    | some e =>
      have noDigits := (List.cons.inj scale).2
      exact absurd (List.append_eq_nil_iff.mp noDigits).2 e.digits.nonempty
  | letter :: sign :: digits =>
    have whole : Lexeme.digits (digits ++ rest) = digits := by
      simp only [List.cons_append, Lexeme.exponent] at taken
      split_ifs at taken <;> first | contradiction | simpa using taken
    have wholeOther : Lexeme.digits (digits ++ other) = digits := takeWhile_congr whole same
    simp only [List.cons_append, Lexeme.exponent, whole, wholeOther] at taken ⊢
    exact taken

theorem longestNumber_append {whole point scale : List Char}
    (digits : Lexeme.digits (whole ++ (point ++ (scale ++ rest))) = whole)
    (fraction : Lexeme.fraction (point ++ (scale ++ rest)) = point)
    (exponent : Lexeme.exponent (scale ++ rest) = scale) :
    Lexeme.longestNumber (whole ++ (point ++ (scale ++ rest))) = whole ++ (point ++ scale) := by
  simp only [Lexeme.longestNumber, digits, List.drop_left, fraction, exponent, List.append_assoc]

/-- The parts of a number that is read are what is read for each of them. -/
theorem exists_parts (taken : Lexeme.longestNumber (body ++ rest) = body) :
    ∃ whole point scale, body = whole ++ (point ++ scale) ∧
      Lexeme.digits (whole ++ (point ++ (scale ++ rest))) = whole ∧
      Lexeme.fraction (point ++ (scale ++ rest)) = point ∧
      Lexeme.exponent (scale ++ rest) = scale := by
  generalize text : body ++ rest = source at taken
  obtain ⟨whole, digits⟩ : ∃ whole, Lexeme.digits source = whole := ⟨_, rfl⟩
  obtain ⟨point, fraction⟩ : ∃ point, Lexeme.fraction (source.drop whole.length) = point :=
    ⟨_, rfl⟩
  obtain ⟨scale, exponent⟩ : ∃ scale,
    Lexeme.exponent ((source.drop whole.length).drop point.length) = scale := ⟨_, rfl⟩
  simp only [Lexeme.longestNumber, digits, fraction, exponent, List.append_assoc] at taken
  have parts : source = whole ++ (point ++ (scale ++ rest)) := by
    rw [← text, ← taken, List.append_assoc, List.append_assoc]
  rw [parts, List.drop_left] at fraction exponent
  rw [List.drop_left] at exponent
  rw [parts] at digits
  exact ⟨whole, point, scale, taken.symm, digits, fraction, exponent⟩

theorem longestNumber_congr (taken : Lexeme.longestNumber (body ++ rest) = body)
    (same : other.head? = rest.head?)
    (absent : Lexeme.exponent rest = [] → Lexeme.exponent other = []) :
    Lexeme.longestNumber (body ++ other) = body := by
  obtain ⟨whole, point, scale, rfl, digits, fraction, exponent⟩ := exists_parts taken
  have afterPoint : (scale ++ other).head? = (scale ++ rest).head? := by
    simp only [List.head?_append, same]
  have afterWhole : (point ++ (scale ++ other)).head? = (point ++ (scale ++ rest)).head? := by
    simp only [List.head?_append, same]
  rw [List.append_assoc, List.append_assoc]
  exact longestNumber_append (takeWhile_congr digits afterWhole)
    (fraction_congr fraction afterPoint) (exponent_congr exponent same absent)

/-! ### Lexemes -/

/-- The first lexeme of a text is its first one too when all is replaced after the character that
follows it, unless this adds an exponent to a number. -/
theorem first_congr {lexeme : Lexeme} {c : Char} {tail : List Char}
    (text : lexeme.text = c :: tail) (taken : (Lexeme.first c (tail ++ rest)).1 = lexeme)
    (same : other.head? = rest.head?)
    (absent : lexeme.IsNumber → Lexeme.exponent rest = [] → Lexeme.exponent other = []) :
    (Lexeme.first c (tail ++ other)).1 = lexeme := by
  by_cases digit : c.isDigit = true
  · simp only [Lexeme.first, if_pos digit] at taken ⊢
    subst taken
    rw [Lexeme.text, ← List.cons_append] at text
    rw [← List.cons_append, ← List.cons_append, text,
      longestNumber_congr text same (absent trivial)]
  · by_cases letter : c.isAlpha = true
    · simp only [Lexeme.first, if_neg digit, if_pos letter] at taken ⊢
      subst taken
      have letters := (List.cons.inj text).2
      rw [letters, takeWhile_congr letters same]
    · simp only [Lexeme.first, if_neg digit, if_neg letter] at taken ⊢
      exact taken

/-- No number of the lexemes is followed by an exponent mark. -/
def NumbersUnmarked : List Spaced → List Char → Prop
  | [], _ => True
  | s :: more, rest =>
    (s.lexeme.IsNumber → Unmarked (more.flatMap Spaced.text ++ rest)) ∧ NumbersUnmarked more rest

theorem isBlank_of_formed {lexeme : Lexeme} {c : Char} {tail : List Char}
    (formed : lexeme.WellFormed) (text : lexeme.text = c :: tail) : Text.isBlank c = false := by
  have stops : lexeme.IsWord → Stops [] := fun _ => by simp [Stops]
  exact (first_append formed stops text).1

theorem scan_of_first {lexeme : Lexeme} {c : Char} {tail : List Char}
    (formed : lexeme.WellFormed) (text : lexeme.text = c :: tail)
    (taken : (Lexeme.first c (tail ++ rest)).1 = lexeme) (position : Nat) :
    Lexeme.scan position (lexeme.text ++ rest) =
      ⟨lexeme, position⟩ :: Lexeme.scan (position + lexeme.text.length) rest := by
  have blank := isBlank_of_formed formed text
  have extent := (first_formed blank (tail ++ rest)).2.2
  rw [taken, text, List.length_cons, Nat.add_comm, Nat.add_left_cancel_iff] at extent
  rw [text, List.cons_append, Lexeme.scan_first _ _ blank, taken, ← extent, List.drop_left,
    List.length_cons, Nat.add_assoc, Nat.add_comm 1]

theorem scan_congr {spaced : List Spaced} (formed : ∀ s ∈ spaced, s.lexeme.WellFormed)
    (scanned : Lexeme.scan position (spaced.flatMap Spaced.text ++ rest) =
      locate position spaced ++ beyond)
    (same : other.head? = rest.head?) (unmarked : NumbersUnmarked spaced rest) :
    Lexeme.scan position (spaced.flatMap Spaced.text ++ other) = locate position spaced ++
      Lexeme.scan (position + (spaced.flatMap Spaced.text).length) other := by
  induction spaced generalizing position with
  | nil => rfl
  | cons s more ih =>
    obtain ⟨own, others⟩ := List.forall_mem_cons.mp formed
    obtain ⟨c, tail, text⟩ := List.exists_cons_of_ne_nil own.text_ne_nil
    have heads : (more.flatMap Spaced.text ++ other).head? =
        (more.flatMap Spaced.text ++ rest).head? := by
      simp only [List.head?_append, same]
    have taken : (Lexeme.first c (tail ++ (more.flatMap Spaced.text ++ rest))).1 = s.lexeme := by
      rw [List.flatMap_cons, Spaced.text, List.append_assoc, List.append_assoc,
        scan_blanks_append, text, List.cons_append,
        Lexeme.scan_first _ _ (isBlank_of_formed own text)] at scanned
      exact congrArg LocatedLexeme.lexeme (List.cons.inj scanned).1
    have takenOther := first_congr text taken heads fun numeric _ =>
      exponent_eq_nil_of_unmarked fun d head => unmarked.1 numeric d (heads ▸ head)
    simp only [List.flatMap_cons, Spaced.text, List.append_assoc, scan_blanks_append,
      scan_of_first own text taken, scan_of_first own text takenOther, locate,
      List.cons_append, List.length_append, Nat.add_assoc] at scanned ih ⊢
    rw [ih others (List.cons.inj scanned).2 unmarked.2]
    simp only [Nat.add_assoc]

end

end Formula.Grammar
