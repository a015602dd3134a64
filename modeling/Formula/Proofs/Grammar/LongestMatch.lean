import Formula.Proofs.Grammar.Completeness
import Formula.Proofs.Source.Cursor

/-! Numbers are read as far as they go. What is read where a digit is next is the longest text there
that the grammar has as a number: an exponent mark or a sign is taken only with digits that follow
it. A cursor can read a number step by step, looking at most two characters past the one that is
next, and takes the same text; looking ahead never fails, even where the source ends in the middle
of what is looked at. -/
namespace Formula.Grammar

theorem isAlphanum_of_isDigit {c : Char} (digit : c.isDigit = true) : c.isAlphanum = true := by
  rw [Char.isAlphanum, digit, Bool.or_true]

theorem isAlphanum_of_isAlpha {c : Char} (letter : c.isAlpha = true) : c.isAlphanum = true := by
  rw [Char.isAlphanum, letter, Bool.true_or]

/-! ### The longest number -/

/-- A number begins with the digit that is next. -/
theorem exists_longestNumber_cons {d : Char} (digit : d.isDigit = true) (rest : List Char) :
    ∃ more, Lexeme.longestNumber (d :: rest) = d :: more := by
  simp only [Lexeme.longestNumber, Lexeme.digits, List.takeWhile_cons_of_pos digit,
    List.cons_append]
  exact ⟨_, rfl⟩

theorem length_le_takeWhile {p : α → Bool} {body : List α} (inside : ∀ c ∈ body, p c = true)
    (rest : List α) : body.length ≤ ((body ++ rest).takeWhile p).length := by
  rw [List.takeWhile_append_of_pos inside, List.length_append]
  exact Nat.le_add_right _ _

theorem length_point_le {places : List Char} (digit : ∀ c ∈ places, c.isDigit = true)
    (rest : List Char) : places.length + 1 ≤ (Lexeme.fraction ('.' :: (places ++ rest))).length :=
  Nat.succ_le_succ (length_le_takeWhile digit rest)

theorem Exponent.length_text_le (e : Exponent) (rest : List Char) :
    e.text.length ≤ (Lexeme.exponent (e.text ++ rest)).length := by
  obtain ⟨letter, sign, ⟨digits, nonempty, digit⟩, marks, signs⟩ := e
  obtain ⟨d, others, rfl⟩ := List.exists_cons_of_ne_nil nonempty
  obtain ⟨first, inside⟩ := List.forall_mem_cons.mp digit
  have longer := length_le_takeWhile inside rest
  cases sign with
  | none =>
    simpa [Exponent.text, Lexeme.exponent, marks, first, Lexeme.digits] using longer
  | some sign =>
    have signed := signs sign rfl
    have noDigit : sign.isDigit = false := by
      rcases signed with rfl | rfl <;> rfl
    simpa [Exponent.text, Lexeme.exponent, marks, signed, noDigit, first, Lexeme.digits]
      using longer

theorem Exponent.head_text (e : Exponent) (rest : List Char) :
    ∀ c, (e.text ++ rest).head? = some c → c.isDigit = false ∧ c ≠ '.' := by
  rintro c found
  obtain rfl := Option.some.inj found
  rcases e.letter_eq with mark | mark <;> rw [mark] <;> decide

/-- The first digits of a number are read to their end if no digit comes after them. -/
theorem longestNumber_digits_append (whole : Digits) (tail : List Char)
    (boundary : ∀ c, tail.head? = some c → c.isDigit = false) :
    Lexeme.longestNumber (whole.text ++ tail) = whole.text ++ (Lexeme.fraction tail ++
      Lexeme.exponent (tail.drop (Lexeme.fraction tail).length)) := by
  have digits : Lexeme.digits (whole.text ++ tail) = whole.text :=
    takeWhile_append_of_head whole.digit boundary
  simp only [Lexeme.longestNumber, digits, List.drop_left, List.append_assoc]

/-- No number at the start of a text is longer than the one that is read. -/
theorem Number.length_text_le (m : Number) (rest : List Char) :
    m.text.length ≤ (Lexeme.longestNumber (m.text ++ rest)).length := by
  obtain ⟨whole, fraction, exponent, digit⟩ := m
  simp only [Number.text, List.append_assoc]
  -- A part is read to its end if another part follows; the last one is read that far or farther.
  cases exponent with
  | some e =>
    have mark := e.head_text rest
    have scale := e.length_text_le rest
    cases fraction with
    | some places =>
      have point : Lexeme.fraction ('.' :: (places ++ (e.text ++ rest))) = '.' :: places :=
        congrArg ('.' :: ·)
          (takeWhile_append_of_head (digit places rfl) fun c found => (mark c found).1)
      have read := longestNumber_digits_append whole ('.' :: (places ++ (e.text ++ rest)))
        (by rintro _ ⟨⟩; rfl)
      simp only [pointText, scaleText, List.cons_append, read, point, List.length_cons,
        List.drop_succ_cons, List.drop_left, List.length_append]
      omega
    | none =>
      have point : Lexeme.fraction (e.text ++ rest) = [] := by
        unfold Lexeme.fraction
        split
        · next _ first => exact absurd rfl (mark '.' (by rw [first]; rfl)).2
        · rfl
      have read := longestNumber_digits_append whole _ fun c found => (mark c found).1
      simp only [pointText, scaleText, List.nil_append, read, point, List.length_nil,
        List.drop_zero, List.length_append]
      omega
  | none =>
    cases fraction with
    | some places =>
      have point := length_point_le (digit places rfl) rest
      have read := longestNumber_digits_append whole ('.' :: (places ++ rest))
        (by rintro _ ⟨⟩; rfl)
      simp only [pointText, scaleText, List.nil_append, List.append_nil, List.cons_append, read,
        List.length_cons, List.length_append]
      omega
    | none =>
      have digits := length_le_takeWhile whole.digit rest
      simp only [pointText, scaleText, List.nil_append, List.length_append, List.length_nil,
        Lexeme.longestNumber, Lexeme.digits] at digits ⊢
      omega

/-- A number is the longest one at the start of a text. -/
structure Number.Longest (n : Number) (text : List Char) : Prop where
  begins : n.text <+: text
  longest : ∀ m : Number, m.text <+: text → m.text.length ≤ n.text.length

theorem exists_longest {text : List Char} {c : Char} (next : text.head? = some c)
    (digit : c.isDigit = true) :
    ∃ n : Number, n.text = Lexeme.longestNumber text ∧ n.Longest text := by
  obtain ⟨rest, rfl⟩ := List.head?_eq_some_iff.mp next
  obtain ⟨n, same⟩ := exists_number digit rest
  refine ⟨n, same, same ▸ isPrefix_longestNumber _, ?_⟩
  rintro m ⟨others, text⟩
  rw [same, ← text]
  exact m.length_text_le others

theorem eq_append_of_notMem {first rest before tail : List α} (absent : c ∉ first)
    (text : first ++ rest = before ++ c :: tail) : ∃ more, rest = more ++ c :: tail := by
  rcases List.append_eq_append_iff.mp text with ⟨more, _, rest⟩ | ⟨more, inside, others⟩
  · exact ⟨more, rest⟩
  · cases more with
    | nil => exact ⟨[], others.symm⟩
    | cons d more =>
      obtain ⟨rfl, -⟩ := List.cons.inj others
      exact absurd (by simp [inside]) absent

/-- What is no digit stands in an exponent before its digits. -/
theorem Exponent.completed (e : Exponent) (noDigit : c.isDigit = false)
    (text : e.text = before ++ c :: tail) :
    c :: tail = e.text ∨ c ∈ e.sign ∧ tail = e.digits.text := by
  have outside (before : List Char) : e.digits.text ≠ before ++ c :: tail := fun digits => by
    have digit := e.digits.digit c (by simp [digits])
    simp [digit] at noDigit
  cases before with
  | nil => exact .inl text.symm
  | cons d before =>
    have others := (List.cons.inj text).2
    cases sign : e.sign with
    | none =>
      rw [sign] at others
      exact absurd others (outside before)
    | some s =>
      rw [sign] at others
      cases before with
      | nil =>
        obtain ⟨rfl, digits⟩ := List.cons.inj others
        exact .inr ⟨rfl, digits.symm⟩
      | cons d before => exact absurd (List.cons.inj others).2 (outside before)

/-- Every exponent mark of a number begins an exponent, and every sign has digits after it. -/
theorem Number.completed (n : Number) (text : n.text = before ++ c :: tail) :
    (c = 'e' ∨ c = 'E' → ∃ e : Exponent, c :: tail = e.text) ∧
    (c = '+' ∨ c = '-' → ∃ digits : Digits, tail = digits.text) := by
  by_cases inside : c.isDigit = false ∧ c ≠ '.'
  · obtain ⟨noDigit, noPoint⟩ := inside
    have notWhole : c ∉ n.whole.text := fun member => by
      simp [n.whole.digit c member] at noDigit
    have notPoint : c ∉ pointText n.fraction := by
      cases fraction : n.fraction with
      | none => exact List.not_mem_nil
      | some places =>
        rintro (_ | ⟨_, member⟩)
        · exact noPoint rfl
        · simp [n.fraction_digit places fraction c member] at noDigit
    obtain ⟨_, afterWhole⟩ := eq_append_of_notMem notWhole text
    obtain ⟨_, scale⟩ := eq_append_of_notMem notPoint afterWhole
    cases exponent : n.exponent with
    | none => simp [exponent, scaleText] at scale
    | some e =>
      rw [exponent] at scale
      have marks : c = 'e' ∨ c = 'E' → c ∉ e.sign := fun mark signed => by
        rcases mark with rfl | rfl <;> rcases e.sign_eq _ signed with sign | sign <;> contradiction
      rcases e.completed noDigit scale with whole | ⟨signed, digits⟩
      · refine ⟨fun _ => ⟨e, whole⟩, fun sign => ?_⟩
        have mark := e.letter_eq
        rw [← (List.cons.inj whole).1] at mark
        rcases sign with rfl | rfl <;> simp at mark
      · exact ⟨fun mark => absurd signed (marks mark), fun _ => ⟨e.digits, digits⟩⟩
  · constructor <;> rintro (rfl | rfl) <;> simp at inside

end Formula.Grammar

namespace Formula.Cursor
open Grammar

/-! ### Reading from a cursor -/

/-- The digits ahead, and the cursor behind them. -/
def takeDigits (c : Cursor) : List Char × Cursor :=
  let text := c.ahead.takeWhile Char.isDigit
  (text, c.skip text.length)

/-- A point and the digits after it, if a point is next. -/
def takePoint (c : Cursor) : Except Fault (List Char × Cursor) :=
  if c.isAt "." then do
    let (point, c) ← c.advance
    let (places, c) := c.takeDigits
    pure (point :: places, c)
  else pure ([], c)

/-- An exponent mark, a sign if there is one, and digits. The mark is taken only if a digit comes
after it, or a sign and a digit. -/
def takeScale (c : Cursor) : Except Fault (List Char × Cursor) :=
  if c.isAt "e" || c.isAt "E" then do
    let next ← c.peekAt 1
    let beyond ← c.peekAt 2
    if next.any Char.isDigit then
      let (mark, c) ← c.advance
      let (digits, c) := c.takeDigits
      pure (mark :: digits, c)
    else if (next = some '+' ∨ next = some '-') ∧ beyond.any Char.isDigit then
      let (mark, c) ← c.advance
      let (sign, c) ← c.advance
      let (digits, c) := c.takeDigits
      pure (mark :: sign :: digits, c)
    else pure ([], c)
  else pure ([], c)

/-- The number ahead, as a text, and the cursor behind it. -/
def takeNumber (c : Cursor) : Except Fault (List Char × Cursor) := do
  let (whole, c) := c.takeDigits
  let (point, c) ← c.takePoint
  let (scale, c) ← c.takeScale
  pure (whole ++ point ++ scale, c)

/-- The fault of a source that is malformed where the cursor stands. -/
def malformed (c : Cursor) (cause : Malformation) : Fault :=
  .expression (Refusal.toError ⟨cause, c.position⟩ c.name)

/-- The value of the number ahead, as `number?` converts it, and the cursor behind it. -/
def readNumber (number? : String → Option Value) (c : Cursor) : Except Fault (Value × Cursor) := do
  let (text, behind) ← c.takeNumber
  match number? (String.ofList text) with
  | some value => pure (value, behind)
  | none => throw (c.malformed (.invalidNumber (String.ofList text)))

/-! ### What is read -/

section
variable {c : Cursor}

theorem isAt_toString (c : Cursor) (d : Char) :
    c.isAt d.toString = true ↔ c.ahead.head? = some d := by
  cases ahead : c.ahead with
  | nil => simp only [isAt, ahead, List.head?_nil, reduceCtorEq, Bool.false_eq_true]
  | cons next rest =>
    simp only [isAt, ahead, List.head?_cons, Option.some.injEq, beq_iff_eq]
    constructor
    · intro same
      simpa [Char.toString] using (congrArg String.toList same).symm
    · rintro rfl
      rfl

theorem takeDigits_eq (c : Cursor) :
    c.takeDigits = (Lexeme.digits c.ahead, c.skip (Lexeme.digits c.ahead).length) :=
  rfl

theorem takePoint_eq (c : Cursor) :
    c.takePoint = .ok (Lexeme.fraction c.ahead, c.skip (Lexeme.fraction c.ahead).length) := by
  by_cases point : c.isAt "." = true
  · obtain ⟨rest, ahead⟩ := List.head?_eq_some_iff.mp ((c.isAt_toString '.').mp point)
    have behind : (c.skip 1).ahead = rest := by simp [skip, ahead]
    rw [takePoint, if_pos point, advance_cons ahead]
    simp only [bind, Except.bind, takeDigits_eq, behind, skip_skip, pure, Except.pure, ahead,
      Lexeme.fraction, List.length_cons, Nat.add_comm 1]
  · have none : Lexeme.fraction c.ahead = [] := by
      unfold Lexeme.fraction
      split
      · next rest ahead => exact absurd ((c.isAt_toString '.').mpr (by rw [ahead]; rfl)) point
      · rfl
    rw [takePoint, if_neg point, none, List.length_nil, skip_zero]
    rfl

theorem isAt_mark (c : Cursor) : (c.isAt "e" || c.isAt "E") = true ↔
    ∃ mark rest, c.ahead = mark :: rest ∧ (mark = 'e' ∨ mark = 'E') := by
  have small := c.isAt_toString 'e'
  have capital := c.isAt_toString 'E'
  change c.isAt "e" = true ↔ _ at small
  change c.isAt "E" = true ↔ _ at capital
  rw [Bool.or_eq_true, small, capital, List.head?_eq_some_iff, List.head?_eq_some_iff]
  constructor
  · rintro (⟨rest, ahead⟩ | ⟨rest, ahead⟩)
    · exact ⟨'e', rest, ahead, .inl rfl⟩
    · exact ⟨'E', rest, ahead, .inr rfl⟩
  · rintro ⟨mark, rest, ahead, rfl | rfl⟩
    · exact .inl ⟨rest, ahead⟩
    · exact .inr ⟨rest, ahead⟩

theorem digits_ne_nil_iff (text : List Char) :
    Lexeme.digits text ≠ [] ↔ text.head?.any Char.isDigit = true := by
  cases text with
  | nil => simp [Lexeme.digits]
  | cons c rest => simp [Lexeme.digits, List.takeWhile_cons]

theorem takeScale_eq (c : Cursor) :
    c.takeScale = .ok (Lexeme.exponent c.ahead, c.skip (Lexeme.exponent c.ahead).length) := by
  by_cases marked : (c.isAt "e" || c.isAt "E") = true
  · obtain ⟨mark, rest, ahead, letter⟩ := c.isAt_mark.mp marked
    have next : c.peekAt 1 = .ok rest.head? := by
      rw [List.head?_eq_getElem?, ← List.getElem?_cons_succ (a := mark), ← ahead]
      exact c.peekAt_natCast 1
    have beyond : c.peekAt 2 = .ok rest.tail.head? := by
      rw [List.head?_eq_getElem?, List.getElem?_tail, ← List.getElem?_cons_succ (a := mark),
        ← ahead]
      exact c.peekAt_natCast 2
    rw [takeScale, if_pos marked, next, beyond, advance_cons ahead, ahead]
    simp only [bind, Except.bind, pure, Except.pure, takeDigits_eq, ahead_skip, skip_skip]
    cases rest with
    | nil => simp [Lexeme.exponent]
    | cons sign rest =>
      have behind : (c.skip 1).ahead = sign :: rest := by rw [ahead_skip, ahead]; rfl
      have second : (c.skip 1).advance = .ok (sign, c.skip 2) := by
        rw [advance_cons behind, skip_skip]
      have after : c.ahead.drop 1 = sign :: rest := by rw [ahead]; rfl
      have afterSign : c.ahead.drop 2 = rest := by rw [ahead]; rfl
      simp only [Lexeme.exponent, if_pos letter, List.head?_cons, Option.any_some, List.tail_cons,
        Option.some.injEq, second, after, afterSign, ahead_skip, skip_skip, digits_ne_nil_iff]
      by_cases digit : sign.isDigit = true
      · have digits : Lexeme.digits (sign :: rest) = sign :: Lexeme.digits rest :=
          List.takeWhile_cons_of_pos digit
        simp only [if_pos digit, digits, List.length_cons, Nat.add_comm 1]
      · by_cases signed : (sign = '+' ∨ sign = '-') ∧ rest.head?.any Char.isDigit = true
        · simp only [if_neg digit, if_pos signed, List.length_cons, Nat.add_comm 2]
        · simp only [if_neg digit, if_neg signed, List.length_nil, skip_zero]
  · have none : Lexeme.exponent c.ahead = [] := by
      unfold Lexeme.exponent
      split
      · next letter sign rest ahead =>
        rw [if_neg fun mark => marked (c.isAt_mark.mpr ⟨letter, _, ahead, mark⟩)]
      · rfl
    rw [takeScale, if_neg marked, none, List.length_nil, skip_zero]
    rfl

/-- The text that is taken is the longest number. -/
theorem takeNumber_eq (c : Cursor) : c.takeNumber =
    .ok (Lexeme.longestNumber c.ahead, c.skip (Lexeme.longestNumber c.ahead).length) := by
  simp only [takeNumber, takeDigits_eq, takePoint_eq, takeScale_eq, bind, Except.bind, pure,
    Except.pure, skip_skip, ahead_skip, List.drop_drop, Lexeme.longestNumber, List.length_append]

theorem readNumber_eq (number? : String → Option Value) (c : Cursor) :
    c.readNumber number? = match number? (String.ofList (Lexeme.longestNumber c.ahead)) with
      | some value => .ok (value, c.skip (Lexeme.longestNumber c.ahead).length)
      | none => .error (c.malformed
          (.invalidNumber (String.ofList (Lexeme.longestNumber c.ahead)))) := by
  rw [readNumber, takeNumber_eq]
  simp only [bind, Except.bind]
  cases number? (String.ofList (Lexeme.longestNumber c.ahead)) <;> rfl

/-! ### Lexemes ahead -/

/-- The lexemes ahead of a cursor, at their positions. -/
def lexemes (c : Cursor) : List LocatedLexeme :=
  Lexeme.scan c.position c.ahead

/-- The first lexeme begins where the cursor stands, and the others come after it. -/
theorem lexemes_first (ahead : c.ahead = d :: rest) (blank : Text.isBlank d = false) :
    c.lexemes = ⟨(Lexeme.first d rest).1, c.position⟩ ::
      (c.skip (Lexeme.first d rest).1.text.length).lexemes := by
  obtain ⟨_, text, length⟩ := first_formed blank rest
  have within : (Lexeme.first d rest).1.text.length ≤ c.ahead.length := by
    rw [ahead, ← text, List.length_append]
    exact Nat.le_add_right _ _
  rw [lexemes, lexemes, c.position_skip within, ahead_skip, ahead, Lexeme.scan_first _ _ blank,
    length, Nat.add_comm 1 (Lexeme.first d rest).2, List.drop_succ_cons, Nat.add_assoc,
    Nat.add_comm 1]

theorem lexemes_number (ahead : c.ahead = d :: rest) (digit : d.isDigit = true) :
    c.lexemes = ⟨.number (Lexeme.longestNumber c.ahead), c.position⟩ ::
      (c.skip (Lexeme.longestNumber c.ahead).length).lexemes := by
  have blank := isBlank_of_isAlphanum (isAlphanum_of_isDigit digit)
  have first : (Lexeme.first d rest).1 = .number (Lexeme.longestNumber c.ahead) := by
    rw [ahead, Lexeme.first, if_pos digit]
  rw [lexemes_first ahead blank, first]
  rfl

end

/-- Where a digit is next, a number is read: the longest one there, in which every exponent mark and
every sign has the digits that it needs. Exactly its text is converted; the cursor then stands right
behind it, or the text is reported as no number at the position of its first character. The end of
the source is never reported. Reading an expression takes the same number. -/
theorem readNumber_longest (number? : String → Option Value) (c : Cursor) {d : Char}
    (next : c.ahead.head? = some d) (digit : d.isDigit = true) :
    ∃ n : Number, Lexeme.longestNumber c.ahead = n.text ∧ n.Longest c.ahead ∧
      (∀ before mark tail, n.text = before ++ mark :: tail →
        (mark = 'e' ∨ mark = 'E' → ∃ e : Exponent, mark :: tail = e.text) ∧
        (mark = '+' ∨ mark = '-' → ∃ digits : Digits, tail = digits.text)) ∧
      (c.readNumber number? = match number? (String.ofList n.text) with
        | some value => .ok (value, c.skip n.text.length)
        | none => .error (.expression (.malformed
            ("invalid number literal '" ++ String.ofList n.text ++ "'") (some c.location) []))) ∧
      (∀ location, c.readNumber number? ≠ .error (.expression (.endOfInput location))) ∧
      ∀ final stack, Term.readOperand number? final c.lexemes stack =
        match number? (String.ofList n.text) with
        | some value => follow number? final (c.skip n.text.length).lexemes
            (Term.finishAtom (.literal value) stack)
        | none => .error ⟨.invalidNumber (String.ofList n.text), c.position⟩ := by
  obtain ⟨n, text, longest⟩ := exists_longest next digit
  obtain ⟨rest, ahead⟩ := List.head?_eq_some_iff.mp next
  have read := c.readNumber_eq number?
  rw [← text] at read
  refine ⟨n, text.symm, longest, fun _ _ _ => n.completed, read, ?_, ?_⟩
  · intro location
    rw [read]
    cases number? (String.ofList n.text) with
    | some value => exact nofun
    | none =>
      intro same
      cases same
  · intro final stack
    rw [lexemes_number ahead digit, ← text]
    cases converted : number? (String.ofList n.text) with
    | some value => exact readOperand_number number? final _ _ _ stack converted
    | none => rw [Term.readOperand.eq_2, converted]

/-- The source ends after the sign, so neither it nor the mark before it is taken, and what is left
is no integer. -/
theorem readNumber_longest_of_openExponent :
    ((start "2*1.5e+" "<expr>").skip 2).ahead.head? = some '1' ∧ '1'.isDigit = true ∧
      ((start "2*1.5e+" "<expr>").skip 2).readNumber NumberKind.int.read? =
        .error (.expression (.malformed "invalid number literal '1.5'"
          (some ⟨3, "<expr>"⟩) [])) := by
  obtain ⟨n, text, _, _, read, _⟩ := readNumber_longest NumberKind.int.read?
    ((start "2*1.5e+" "<expr>").skip 2) (d := '1') rfl rfl
  have longest : Lexeme.longestNumber ((start "2*1.5e+" "<expr>").skip 2).ahead =
      ['1', '.', '5'] := by
    decide
  have refused : NumberKind.int.read? (String.ofList ['1', '.', '5']) = none := by
    decide
  rw [← text, longest, refused] at read
  exact ⟨rfl, rfl, read⟩

end Formula.Cursor
