import Formula.Proofs.Grammar.Phrase

/-! Division into lexemes against the grammar's own numbers and names. Numbers and names are read
as far as they go, so a text made of lexemes divides into these lexemes if none of its words runs
on into the text after it; and every text is made of the lexemes it divides into, with white space
between them. -/
namespace Formula.Lexeme
open Grammar

/-- The text of the lexeme is what its kind requires. -/
def WellFormed : Lexeme → Prop
  | number text => ∃ n : Number, n.text = text
  | name text => ∃ n : Name, n.text = text
  | mark c => Text.isBlank c = false ∧ c.isDigit = false ∧ c.isAlpha = false

def IsWord : Lexeme → Prop
  | number _ | name _ => True
  | mark _ => False

theorem WellFormed.text_ne_nil {lexeme : Lexeme} (formed : lexeme.WellFormed) :
    lexeme.text ≠ [] := by
  cases lexeme with
  | number text =>
    obtain ⟨n, rfl⟩ := formed
    simp [text, Number.text, n.whole.nonempty]
  | name text =>
    obtain ⟨n, rfl⟩ := formed
    simp [text, Name.text]
  | mark c => simp [text]

end Formula.Lexeme

namespace Formula.Grammar

/-- No word before this text runs on into it. -/
def Stops (rest : List Char) : Prop :=
  ∀ c, rest.head? = some c → c.isAlphanum = false ∧ c ≠ '.'

/-- No word of the lexemes runs on into what follows it. -/
def Separated : List Spaced → List Char → Prop
  | [], _ => True
  | s :: more, rest =>
    (s.lexeme.IsWord → Stops (more.flatMap Spaced.text ++ rest)) ∧ Separated more rest

/-- The lexemes at their positions, where the white space of the first starts at a position. -/
def locate (position : Nat) : List Spaced → List LocatedLexeme
  | [] => []
  | s :: more =>
    ⟨s.lexeme, position + s.blanks.text.length⟩ :: locate (position + s.text.length) more

/-! ### Characters -/

theorem isAlpha_iff {c : Char} : c.isAlpha = true ↔
    (65 ≤ c.toNat ∧ c.toNat ≤ 90) ∨ (97 ≤ c.toNat ∧ c.toNat ≤ 122) := by
  unfold Char.isAlpha Char.isUpper Char.isLower
  simp only [Bool.or_eq_true, Bool.and_eq_true, decide_eq_true_eq, UInt32.le_iff_toNat_le,
    ge_iff_le]
  rfl

theorem isDigit_iff {c : Char} : c.isDigit = true ↔ 48 ≤ c.toNat ∧ c.toNat ≤ 57 := by
  simpa using Char.isDigit_iff_toNat

theorem isAlphanum_of_isBlank {c : Char} (blank : Text.isBlank c = true) :
    c.isAlphanum = false ∧ c ≠ '.' := by
  simp only [Text.isBlank, Bool.or_eq_true, Bool.and_eq_true, decide_eq_true_eq,
    beq_iff_eq] at blank
  constructor
  · rw [Bool.eq_false_iff]
    intro alphanumeric
    rw [Char.isAlphanum, Bool.or_eq_true, isAlpha_iff, isDigit_iff] at alphanumeric
    omega
  · rintro rfl
    revert blank
    decide

theorem isBlank_of_isAlphanum {c : Char} (word : c.isAlphanum = true) :
    Text.isBlank c = false := by
  rw [Bool.eq_false_iff]
  intro blank
  simp [(isAlphanum_of_isBlank blank).1] at word

theorem isDigit_of_isAlphanum {c : Char} (h : c.isAlphanum = false) : c.isDigit = false := by
  simp only [Char.isAlphanum, Bool.or_eq_false_iff] at h
  exact h.2

theorem isAlpha_of_isAlphanum {c : Char} (h : c.isAlphanum = false) : c.isAlpha = false := by
  simp only [Char.isAlphanum, Bool.or_eq_false_iff] at h
  exact h.1

theorem isDigit_of_isAlpha {c : Char} (letter : c.isAlpha = true) : c.isDigit = false := by
  rw [Bool.eq_false_iff]
  intro digit
  rw [isAlpha_iff] at letter
  rw [isDigit_iff] at digit
  omega

theorem takeWhile_append_of_head {p : α → Bool} {body rest : List α}
    (inside : ∀ c ∈ body, p c = true) (boundary : ∀ c, rest.head? = some c → p c = false) :
    (body ++ rest).takeWhile p = body := by
  rw [List.takeWhile_append_of_pos inside]
  cases rest with
  | nil => simp
  | cons c rest => simp [boundary c rfl]

namespace Stops

theorem head_isDigit {rest : List Char} (stops : Stops rest) :
    ∀ c, rest.head? = some c → c.isDigit = false :=
  fun c h => isDigit_of_isAlphanum (stops c h).1

theorem exponent_eq_nil {rest : List Char} (stops : Stops rest) : Lexeme.exponent rest = [] := by
  match rest with
  | [] => rfl
  | [c] => rfl
  | c :: sign :: rest =>
    have noLetter := isAlpha_of_isAlphanum (stops c rfl).1
    have different : ¬(c = 'e' ∨ c = 'E') := by
      rintro (rfl | rfl) <;> revert noLetter <;> decide
    simp only [Lexeme.exponent, if_neg different]

end Stops

/-! ### Numbers -/

theorem head_pointText (fraction : Option (List Char)) :
    ∀ c, (pointText fraction).head? = some c → c = '.' := by
  intro c h
  cases fraction with
  | none => contradiction
  | some places => exact (Option.some.inj h).symm

theorem head_scaleText (exponent : Option Exponent) :
    ∀ c, (scaleText exponent).head? = some c → c = 'e' ∨ c = 'E' := by
  intro c h
  cases exponent with
  | none => contradiction
  | some e =>
    obtain rfl := Option.some.inj h
    exact e.letter_eq

/-- What is next after the parts of a number is next after all of them if these are empty. -/
theorem head_append {first rest : List Char} {P : Char → Prop}
    (inFirst : ∀ c, first.head? = some c → P c) (inRest : ∀ c, rest.head? = some c → P c) :
    ∀ c, (first ++ rest).head? = some c → P c := by
  intro c h
  cases first with
  | nil => exact inRest c h
  | cons d first => exact inFirst c h

theorem Exponent.exponent_text_append (e : Exponent) (stops : Stops rest) :
    Lexeme.exponent (e.text ++ rest) = e.text := by
  have whole := takeWhile_append_of_head e.digits.digit stops.head_isDigit
  obtain ⟨letter, sign, ⟨digits, nonempty, digit⟩, letter_eq, sign_eq⟩ := e
  cases sign with
  | none =>
    cases digits with
    | nil => exact absurd rfl nonempty
    | cons d digits =>
      have first : d.isDigit = true := digit d (by simp)
      simp only [List.cons_append, List.takeWhile_cons, first, if_true, List.cons.injEq,
        true_and] at whole
      simp only [Exponent.text, Option.toList_none, List.nil_append, List.cons_append,
        Lexeme.exponent, if_pos letter_eq, first, if_true, Lexeme.digits, whole]
  | some sign =>
    have signed := sign_eq sign rfl
    have noDigit : sign.isDigit = false := by
      rcases signed with rfl | rfl <;> decide
    simp only [Exponent.text, Option.toList_some, List.cons_append, List.nil_append,
      Lexeme.exponent, if_pos letter_eq, noDigit, Bool.false_eq_true, if_false, Lexeme.digits,
      whole, if_pos (And.intro signed nonempty)]

theorem head_scale_append (exponent : Option Exponent) (stops : Stops rest) :
    ∀ c, (scaleText exponent ++ rest).head? = some c → c.isDigit = false ∧ c ≠ '.' :=
  head_append
    (fun c h => by rcases head_scaleText exponent c h with rfl | rfl <;> decide)
    (fun c h => ⟨stops.head_isDigit c h, (stops c h).2⟩)

theorem Number.digits_append (n : Number) (stops : Stops rest) :
    Lexeme.digits (n.whole.text ++ (pointText n.fraction ++ (scaleText n.exponent ++ rest))) =
      n.whole.text :=
  takeWhile_append_of_head n.whole.digit
    (head_append (fun c h => by rw [head_pointText n.fraction c h]; decide)
      (fun c h => (head_scale_append n.exponent stops c h).1))

theorem Number.fraction_append (n : Number) (stops : Stops rest) :
    Lexeme.fraction (pointText n.fraction ++ (scaleText n.exponent ++ rest)) =
      pointText n.fraction := by
  obtain ⟨whole, fraction, exponent, digit⟩ := n
  have letters := head_scale_append exponent stops
  cases fraction with
  | none =>
    cases after : scaleText exponent ++ rest with
    | nil => rfl
    | cons c tail =>
      rw [after] at letters
      rw [pointText, List.nil_append, Lexeme.fraction.eq_2]
      intro _ same
      exact (letters c rfl).2 (List.cons.inj same).1
  | some places =>
    have inside := takeWhile_append_of_head (digit places rfl) (fun c h => (letters c h).1)
    simp only [pointText, List.cons_append, Lexeme.fraction, Lexeme.digits, inside]

/-- The longest number at the start of a text is the number that the text goes on from. -/
theorem Number.longestNumber_text_append (n : Number) (stops : Stops rest) :
    Lexeme.longestNumber (n.text ++ rest) = n.text := by
  have scale : Lexeme.exponent (scaleText n.exponent ++ rest) = scaleText n.exponent := by
    cases n.exponent with
    | none => exact stops.exponent_eq_nil
    | some e => exact e.exponent_text_append stops
  simp only [Lexeme.longestNumber, Number.text, List.append_assoc, n.digits_append stops,
    List.drop_left, n.fraction_append stops, scale]

/-! ### Lexemes -/

/-- A lexeme is the first one of a text that begins with it, if it is no word that runs on. -/
theorem first_append {lexeme : Lexeme} {c : Char} {tail rest : List Char}
    (formed : lexeme.WellFormed) (stops : lexeme.IsWord → Stops rest)
    (text : lexeme.text = c :: tail) :
    Text.isBlank c = false ∧ Lexeme.first c (tail ++ rest) = (lexeme, tail.length) := by
  cases lexeme with
  | number digits =>
    obtain ⟨n, rfl⟩ := formed
    have whole := n.whole.nonempty
    have digit : c.isDigit = true := by
      obtain ⟨d, more, same⟩ := List.exists_cons_of_ne_nil whole
      simp only [Lexeme.text, Number.text, same, List.cons_append, List.cons.injEq] at text
      obtain ⟨rfl, -⟩ := text
      exact n.whole.digit d (by simp [same])
    have longest := n.longestNumber_text_append (stops trivial)
    simp only [Lexeme.text] at text
    refine ⟨?_, ?_⟩
    · rw [Bool.eq_false_iff]
      intro blank
      simp [isDigit_of_isAlphanum (isAlphanum_of_isBlank blank).1] at digit
    · rw [text] at longest
      simp only [Lexeme.first, if_pos digit, ← List.cons_append, longest, text,
        List.length_cons, Nat.add_sub_cancel]
  | name letters =>
    obtain ⟨n, rfl⟩ := formed
    simp only [Lexeme.text, Name.text, List.cons.injEq] at text
    obtain ⟨rfl, rfl⟩ := text
    have letter := n.letter
    have noDigit := isDigit_of_isAlpha letter
    refine ⟨?_, ?_⟩
    · rw [Bool.eq_false_iff]
      intro blank
      simp [isAlpha_of_isAlphanum (isAlphanum_of_isBlank blank).1] at letter
    · have longest := takeWhile_append_of_head n.alphanumeric
        (fun c h => (stops trivial c h).1)
      simp [Lexeme.first, noDigit, letter, longest, Name.text]
  | mark d =>
    simp only [Lexeme.text, List.cons.injEq] at text
    obtain ⟨rfl, rfl⟩ := text
    obtain ⟨blank, noDigit, noLetter⟩ := formed
    exact ⟨blank, by simp [Lexeme.first, noDigit, noLetter]⟩

theorem scan_blanks_append (blanks : Blanks) (position : Nat) (rest : List Char) :
    Lexeme.scan position (blanks.text ++ rest) =
      Lexeme.scan (position + blanks.text.length) rest := by
  obtain ⟨text, blank⟩ := blanks
  induction text generalizing position with
  | nil => rfl
  | cons c text ih =>
    have next := ih (position + 1) (fun c h => blank c (by simp [h]))
    rw [List.cons_append, Lexeme.scan_blank _ _ (blank c (by simp)), next, List.length_cons,
      Nat.add_right_comm, Nat.add_assoc]

theorem scan_blanks (blanks : Blanks) (position : Nat) :
    Lexeme.scan position blanks.text = [] := by
  have whole := scan_blanks_append blanks position []
  rw [List.append_nil] at whole
  rw [whole, Lexeme.scan_nil]

theorem scan_lexeme_append {lexeme : Lexeme} (formed : lexeme.WellFormed) {rest : List Char}
    (stops : lexeme.IsWord → Stops rest) (position : Nat) :
    Lexeme.scan position (lexeme.text ++ rest) =
      ⟨lexeme, position⟩ :: Lexeme.scan (position + lexeme.text.length) rest := by
  obtain ⟨c, tail, text⟩ := List.exists_cons_of_ne_nil formed.text_ne_nil
  obtain ⟨blank, first⟩ := first_append formed stops text
  rw [text, List.cons_append, Lexeme.scan_first _ _ blank, first, List.drop_left,
    List.length_cons, Nat.add_assoc, Nat.add_comm 1]

/-- Division into lexemes gives back the lexemes that a text is made of. -/
theorem scan_append {spaced : List Spaced} {rest : List Char}
    (formed : ∀ s ∈ spaced, s.lexeme.WellFormed) (separated : Separated spaced rest)
    (position : Nat) :
    Lexeme.scan position (spaced.flatMap Spaced.text ++ rest) = locate position spaced ++
      Lexeme.scan (position + (spaced.flatMap Spaced.text).length) rest := by
  induction spaced generalizing position with
  | nil => rfl
  | cons s more ih =>
    obtain ⟨stops, separated⟩ := separated
    have first := scan_lexeme_append (formed s (by simp)) stops
      (position + s.blanks.text.length)
    have others := ih (fun s h => formed s (by simp [h])) separated (position + s.text.length)
    simp only [List.flatMap_cons, Spaced.text, List.append_assoc, scan_blanks_append, first,
      locate, List.cons_append, List.length_append] at others ⊢
    rw [Nat.add_assoc position, others]
    simp only [Nat.add_assoc]

/-! ### Division of any text -/

theorem digit_of_mem_digits {text : List Char} : ∀ c ∈ Lexeme.digits text, c.isDigit = true :=
  List.all_eq_true.mp List.all_takeWhile

theorem isPrefix_fraction (text : List Char) : Lexeme.fraction text <+: text := by
  unfold Lexeme.fraction
  split
  · exact List.cons_prefix_cons.mpr ⟨rfl, List.takeWhile_prefix _⟩
  · exact List.nil_prefix

theorem isPrefix_exponent (text : List Char) : Lexeme.exponent text <+: text := by
  unfold Lexeme.exponent
  split
  · next letter sign rest =>
    have longest : letter :: sign :: Lexeme.digits rest <+: letter :: sign :: rest :=
      List.cons_prefix_cons.mpr
        ⟨rfl, List.cons_prefix_cons.mpr ⟨rfl, List.takeWhile_prefix _⟩⟩
    split
    · split
      · exact longest
      · split
        · exact longest
        · exact List.nil_prefix
    · exact List.nil_prefix
  · exact List.nil_prefix

theorem isPrefix_longestNumber (text : List Char) : Lexeme.longestNumber text <+: text := by
  have whole : Lexeme.digits text ++ text.drop (Lexeme.digits text).length = text :=
    List.prefix_iff_eq_append.mp (List.takeWhile_prefix _)
  simp only [Lexeme.longestNumber, List.append_assoc]
  generalize text.drop (Lexeme.digits text).length = rest at whole ⊢
  have point := List.prefix_iff_eq_append.mp (isPrefix_fraction rest)
  generalize rest.drop (Lexeme.fraction rest).length = tail at point ⊢
  have scale := isPrefix_exponent tail
  rw [← List.prefix_append_right_inj (Lexeme.fraction rest), point,
    ← List.prefix_append_right_inj (Lexeme.digits text), whole] at scale
  exact scale

theorem exists_fraction (text : List Char) : ∃ fraction : Option (List Char),
    (∀ places ∈ fraction, ∀ c ∈ places, c.isDigit = true) ∧
      pointText fraction = Lexeme.fraction text := by
  unfold Lexeme.fraction
  split
  · next rest =>
    exact ⟨some (Lexeme.digits rest), by rintro _ ⟨⟩; exact digit_of_mem_digits, rfl⟩
  · exact ⟨none, by rintro _ ⟨⟩, rfl⟩

theorem exists_exponent (text : List Char) : ∃ exponent : Option Exponent,
    scaleText exponent = Lexeme.exponent text := by
  unfold Lexeme.exponent
  split
  · next letter sign rest =>
    by_cases marked : letter = 'e' ∨ letter = 'E'
    · rw [if_pos marked]
      by_cases digit : sign.isDigit = true
      · have all : ∀ c ∈ sign :: Lexeme.digits rest, c.isDigit = true := by
          rintro c (_ | ⟨_, member⟩)
          · exact digit
          · exact digit_of_mem_digits c member
        exact ⟨some ⟨letter, none, ⟨_, List.cons_ne_nil _ _, all⟩, marked, by rintro _ ⟨⟩⟩,
          by rw [if_pos digit]; rfl⟩
      · rw [if_neg digit]
        by_cases signed : (sign = '+' ∨ sign = '-') ∧ Lexeme.digits rest ≠ []
        · exact ⟨some ⟨letter, some sign, ⟨_, signed.2, digit_of_mem_digits⟩, marked,
            by rintro _ ⟨⟩; exact signed.1⟩, by rw [if_pos signed]; rfl⟩
        · exact ⟨none, by rw [if_neg signed]; rfl⟩
    · exact ⟨none, by rw [if_neg marked]; rfl⟩
  · exact ⟨none, rfl⟩

/-- What is read as a number is a number of the grammar. -/
theorem exists_number {c : Char} (digit : c.isDigit = true) (rest : List Char) :
    ∃ n : Number, n.text = Lexeme.longestNumber (c :: rest) := by
  have present : Lexeme.digits (c :: rest) ≠ [] := by simp [Lexeme.digits, digit]
  obtain ⟨fraction, places, point⟩ :=
    exists_fraction ((c :: rest).drop (Lexeme.digits (c :: rest)).length)
  obtain ⟨exponent, scale⟩ := exists_exponent
    (((c :: rest).drop (Lexeme.digits (c :: rest)).length).drop
      (Lexeme.fraction ((c :: rest).drop (Lexeme.digits (c :: rest)).length)).length)
  refine ⟨⟨⟨_, present, digit_of_mem_digits⟩, fraction, exponent, places⟩, ?_⟩
  simp only [Number.text, Lexeme.longestNumber, point, scale, List.append_assoc]

theorem first_formed {c : Char} (blank : Text.isBlank c = false) (rest : List Char) :
    (Lexeme.first c rest).1.WellFormed ∧
      (Lexeme.first c rest).1.text ++ rest.drop (Lexeme.first c rest).2 = c :: rest ∧
      (Lexeme.first c rest).1.text.length = 1 + (Lexeme.first c rest).2 := by
  by_cases digit : c.isDigit = true
  · obtain ⟨n, number⟩ := exists_number digit rest
    have extent := List.prefix_iff_eq_append.mp (isPrefix_longestNumber (c :: rest))
    have present : Lexeme.longestNumber (c :: rest) ≠ [] := by
      simp [Lexeme.longestNumber, Lexeme.digits, digit]
    obtain ⟨d, tail, text⟩ := List.exists_cons_of_ne_nil present
    simp only [Lexeme.first, if_pos digit, Lexeme.text, Lexeme.WellFormed]
    rw [text] at extent number ⊢
    exact ⟨⟨n, number⟩, by simpa using extent, by simp [Nat.add_comm]⟩
  · by_cases letter : c.isAlpha = true
    · have extent := List.prefix_iff_eq_append.mp
        (List.takeWhile_prefix (l := rest) Char.isAlphanum)
      simp only [Lexeme.first, if_neg digit, if_pos letter, Lexeme.text, Lexeme.WellFormed]
      refine ⟨⟨⟨c, _, letter, List.all_eq_true.mp List.all_takeWhile⟩, rfl⟩, ?_, ?_⟩
      · simpa using extent
      · simp [Nat.add_comm]
    · have mark : Lexeme.first c rest = (.mark c, 0) := by
        simp [Lexeme.first, digit, letter]
      simp only [mark, Lexeme.WellFormed, Lexeme.text]
      exact ⟨⟨blank, by simpa using digit, by simpa using letter⟩, rfl, rfl⟩

/-- A text is made of lexemes with white space before them and behind the last one, and is divided
into these. -/
def IsSpaced (text : List Char) : Prop :=
  ∃ (spaced : List Spaced) (trailing : Blanks),
    (∀ s ∈ spaced, s.lexeme.WellFormed) ∧ spaced.flatMap Spaced.text ++ trailing.text = text ∧
      ∀ position, Lexeme.scan position text = locate position spaced

section
variable {c : Char} {rest : List Char}

theorem isSpaced_nil : IsSpaced [] :=
  ⟨[], ⟨[], by simp⟩, by simp, rfl, fun position => Lexeme.scan_nil position⟩

theorem IsSpaced.blank (behind : IsSpaced rest) (blank : Text.isBlank c = true) :
    IsSpaced (c :: rest) := by
  obtain ⟨spaced, trailing, formed, made, scanned⟩ := behind
  cases spaced with
  | nil =>
    refine ⟨[], ⟨c :: trailing.text, ?_⟩, formed, by simpa using made, fun position => ?_⟩
    · exact List.forall_mem_cons.mpr ⟨blank, trailing.blank⟩
    · rw [Lexeme.scan_blank _ _ blank, scanned]
      rfl
  | cons s more =>
    obtain ⟨⟨blanks, allBlank⟩, lexeme⟩ := s
    obtain ⟨first, others⟩ := List.forall_mem_cons.mp formed
    refine ⟨⟨⟨c :: blanks, List.forall_mem_cons.mpr ⟨blank, allBlank⟩⟩, lexeme⟩ :: more, trailing,
      List.forall_mem_cons.mpr ⟨first, others⟩, by simpa [Spaced.text] using made, ?_⟩
    intro position
    have begins : position + 1 + blanks.length = position + (blanks.length + 1) := by omega
    have ends : position + 1 + (blanks.length + lexeme.text.length) =
        position + (blanks.length + 1 + lexeme.text.length) := by
      omega
    rw [Lexeme.scan_blank _ _ blank, scanned]
    simp only [locate, Spaced.text, List.length_append, List.length_cons, begins, ends]

theorem IsSpaced.first (behind : IsSpaced (rest.drop (Lexeme.first c rest).2))
    (blank : Text.isBlank c = false) : IsSpaced (c :: rest) := by
  obtain ⟨formed, made, length⟩ := first_formed blank rest
  obtain ⟨spaced, trailing, others, restMade, scanned⟩ := behind
  refine ⟨⟨⟨[], by simp⟩, (Lexeme.first c rest).1⟩ :: spaced, trailing,
    List.forall_mem_cons.mpr ⟨formed, others⟩, ?_, fun position => ?_⟩
  · simp only [List.flatMap_cons, Spaced.text, List.nil_append, List.append_assoc, restMade, made]
  · rw [Lexeme.scan_first _ _ blank, scanned]
    simp only [locate, List.length_nil, Nat.add_zero, Spaced.text, List.nil_append, length,
      Nat.add_assoc]

end

/-- Every text is made of the lexemes it divides into and white space. -/
theorem exists_spaced (text : List Char) : ∃ (spaced : List Spaced) (trailing : Blanks),
    (∀ s ∈ spaced, s.lexeme.WellFormed) ∧ spaced.flatMap Spaced.text ++ trailing.text = text ∧
      ∀ position, Lexeme.scan position text = locate position spaced := by
  change IsSpaced text
  generalize length : text.length = size
  induction size using Nat.strongRecOn generalizing text with
  | ind size ih =>
    subst length
    cases text with
    | nil => exact isSpaced_nil
    | cons c rest =>
      cases blank : Text.isBlank c with
      | true => exact (ih rest.length (by simp) rest rfl).blank blank
      | false =>
        refine (ih _ ?_ _ rfl).first blank
        rw [List.length_drop, List.length_cons]
        omega

end Formula.Grammar
