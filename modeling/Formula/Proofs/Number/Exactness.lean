import Formula.Proofs.Grammar.Lexing
import Mathlib.Tactic.FieldSimp
import Mathlib.Tactic.NormNum
import Mathlib.Tactic.Ring

/-! The rational numbers that the numbers of the grammar denote. A number is read as the fraction
that it denotes, and as an integer if it is digits alone; nothing else keeps it from being read than
the limit on digits. -/
namespace Formula.Grammar

/-- The number of an exponent part. -/
def Exponent.value (e : Exponent) : Int :=
  if e.sign = some '-' then -(Numeral.natOfDigits e.digits.text : Int)
  else Numeral.natOfDigits e.digits.text

namespace Number

/-- The digits after the point. -/
def places (n : Number) : List Char :=
  n.fraction.getD []

/-- The power of ten that a number is multiplied by. -/
def power (n : Number) : Int :=
  (n.exponent.map Exponent.value).getD 0

/-- The rational number that a number denotes. -/
def rational (n : Number) : Rat :=
  (Numeral.natOfDigits n.whole.text + Numeral.natOfDigits n.places / 10 ^ n.places.length) *
    10 ^ n.power

/-- No group of digits is beyond the limit. -/
def Limited (n : Number) : Prop :=
  n.whole.text.length ≤ digitLimit ∧ n.places.length ≤ digitLimit ∧
    ∀ e ∈ n.exponent, e.digits.text.length ≤ digitLimit

end Number

/-! ### Characters -/

/-- A character that numbers are written with. -/
def isNumeral (c : Char) : Bool :=
  c.isDigit || c == '.' || c == 'e' || c == 'E' || c == '+' || c == '-'

theorem isNumeral_of_isDigit {c : Char} (digit : c.isDigit = true) : isNumeral c = true := by
  simp [isNumeral, digit]

theorem Exponent.isNumeral_text (e : Exponent) : ∀ c ∈ e.text, isNumeral c = true := by
  intro c member
  rw [Exponent.text, List.mem_cons, List.mem_append] at member
  rcases member with rfl | member | member
  · rcases e.letter_eq with letter | letter <;> rw [letter] <;> rfl
  · rcases e.sign_eq c (Option.mem_toList.mp member) with rfl | rfl <;> rfl
  · exact isNumeral_of_isDigit (e.digits.digit c member)

theorem Number.isNumeral_text (n : Number) : ∀ c ∈ n.text, isNumeral c = true := by
  intro c member
  rw [Number.text, List.mem_append, List.mem_append] at member
  rcases member with member | member | member
  · exact isNumeral_of_isDigit (n.whole.digit c member)
  · cases fraction : n.fraction with
    | none => simp [fraction, pointText] at member
    | some places =>
      rw [fraction, pointText, List.mem_cons] at member
      rcases member with rfl | member
      · rfl
      · exact isNumeral_of_isDigit (n.fraction_digit places fraction c member)
  · cases exponent : n.exponent with
    | none => simp [exponent, scaleText] at member
    | some e =>
      rw [exponent] at member
      exact e.isNumeral_text c member

/-- Numbers are written in ASCII without white space or underscores. -/
theorem numeral_char {c : Char} (numeral : isNumeral c = true) :
    c.toNat < 0x7F ∧ Text.isBlank c = false ∧ Text.isAsciiBlank c = false ∧ c ≠ '_' := by
  have visible : 43 ≤ c.toNat ∧ c.toNat ≤ 57 ∨ c.toNat = 69 ∨ c.toNat = 101 := by
    simp only [isNumeral, Bool.or_eq_true, beq_iff_eq] at numeral
    rcases numeral with ((((digit | rfl) | rfl) | rfl) | rfl) | rfl
    · rw [isDigit_iff] at digit
      omega
    all_goals decide
  refine ⟨by omega, ?_, ?_, ?_⟩
  · simp only [Text.isBlank, Bool.or_eq_false_iff, Bool.and_eq_false_iff, decide_eq_false_iff_not,
      beq_eq_false_iff_ne]
    omega
  · simp only [Text.isAsciiBlank, Bool.or_eq_false_iff, Bool.and_eq_false_iff,
      decide_eq_false_iff_not, beq_eq_false_iff_ne]
    omega
  · rintro rfl
    revert visible
    decide

theorem isBlank_of_isNumeral {c : Char} (numeral : isNumeral c = true) : Text.isBlank c = false :=
  (numeral_char numeral).2.1

theorem isBlank_of_any {text : List Char} (none : text.any Text.isBlank = false) :
    ∀ c ∈ text, Text.isBlank c = false :=
  fun c member => Bool.eq_false_iff.mpr (List.any_eq_false.mp none c member)

theorem trimBoth_eq_self {p : Char → Bool} {text : List Char} (solid : ∀ c ∈ text, p c = false) :
    Text.trimBoth p text = text := by
  have kept : ∀ l : List Char, (∀ c ∈ l, p c = false) → l.dropWhile p = l := by
    intro l solid
    cases l with
    | nil => rfl
    | cons c l => exact List.dropWhile_cons_of_neg (by simp [solid c List.mem_cons_self])
  have reversed : ∀ c ∈ text.reverse, p c = false :=
    fun c member => solid c (List.mem_reverse.mp member)
  rw [Text.trimBoth, kept text solid, kept text.reverse reversed, List.reverse_reverse]

theorem asciiNumeral_eq_self {text : List Char} (ascii : ∀ c ∈ text, c.toNat < 0x7F) :
    Text.asciiNumeral text = text := by
  unfold Text.asciiNumeral
  conv_rhs => rw [← List.map_id text]
  refine List.map_congr_left fun c member => ?_
  exact if_pos (ascii c member)

theorem takeSign_eq_self {text : List Char}
    (unsigned : ∀ c, text.head? = some c → c.isDigit = true) :
    Numeral.takeSign text = (false, text) := by
  unfold Numeral.takeSign
  split
  · exact absurd (unsigned '-' rfl) (by decide)
  · exact absurd (unsigned '+' rfl) (by decide)
  · rfl

theorem Digits.head (digits : Digits) (rest : List Char) :
    ∀ c, (digits.text ++ rest).head? = some c → c.isDigit = true := by
  intro c head
  obtain ⟨first, tail, text⟩ := List.exists_cons_of_ne_nil digits.nonempty
  rw [text] at head
  cases head
  exact digits.digit _ (by rw [text]; exact List.mem_cons_self)

/-! ### Fractions -/

/-- A group of digits ends before anything that goes on with no digit or underscore. -/
theorem takeGroupAfter_append {digits rest : List Char} (afterDigit : Bool)
    (inside : ∀ c ∈ digits, c.isDigit = true)
    (boundary : ∀ c, rest.head? = some c → c.isDigit = false ∧ c ≠ '_') :
    Fraction.takeGroupAfter afterDigit (digits ++ rest) = (digits, rest) := by
  induction digits generalizing afterDigit with
  | nil =>
    cases rest with
    | nil => rfl
    | cons c rest =>
      obtain ⟨noDigit, noSeparator⟩ := boundary c rfl
      rw [List.nil_append, Fraction.takeGroupAfter]
      · simp [noDigit]
      · exact fun _ _ same _ => noSeparator same
  | cons c digits ih =>
    have digit := inside c List.mem_cons_self
    rw [List.cons_append, Fraction.takeGroupAfter]
    · simp [digit, ih true fun c member => inside c (List.mem_cons_of_mem _ member)]
    · rintro _ _ rfl _
      exact absurd digit (by decide)

theorem takeGroup_append {digits rest : List Char} (inside : ∀ c ∈ digits, c.isDigit = true)
    (boundary : ∀ c, rest.head? = some c → c.isDigit = false ∧ c ≠ '_') :
    Fraction.takeGroup (digits ++ rest) = (digits, rest) :=
  takeGroupAfter_append false inside boundary

theorem takeGroup_self {digits : List Char} (inside : ∀ c ∈ digits, c.isDigit = true) :
    Fraction.takeGroup digits = (digits, []) := by
  have boundary : ∀ c, ([] : List Char).head? = some c → c.isDigit = false ∧ c ≠ '_' :=
    fun _ head => by contradiction
  have group := takeGroup_append inside boundary
  rwa [List.append_nil] at group

theorem groupValue?_eq (digits : List Char) :
    Fraction.groupValue? digits =
      if digits.length ≤ digitLimit then some (Numeral.natOfDigits digits) else none := by
  unfold Fraction.groupValue?
  by_cases limited : digits.length ≤ digitLimit
  · rw [if_neg (Nat.not_lt.mpr limited), if_pos limited]
  · rw [if_pos (Nat.lt_of_not_le limited), if_neg limited]

theorem Exponent.takeSign_text (e : Exponent) :
    Numeral.takeSign (e.sign.toList ++ e.digits.text) =
      (decide (e.sign = some '-'), e.digits.text) := by
  cases sign : e.sign with
  | none =>
    have unsigned := takeSign_eq_self (e.digits.head [])
    rwa [List.append_nil] at unsigned
  | some c => rcases e.sign_eq c sign with rfl | rfl <;> rfl

theorem Exponent.exponent?_text (e : Exponent) :
    Fraction.exponent? e.text =
      if e.digits.text.length ≤ digitLimit then some e.value else none := by
  have nonempty : (e.digits.text.isEmpty || !([] : List Char).isEmpty) = false := by
    simpa using e.digits.nonempty
  simp only [Fraction.exponent?, Exponent.text, if_pos e.letter_eq, e.takeSign_text,
    takeGroup_self e.digits.digit, nonempty, groupValue?_eq, Bool.false_eq_true, if_false,
    Exponent.value, decide_eq_true_eq]
  by_cases limited : e.digits.text.length ≤ digitLimit
  · simp only [if_pos limited]
    split <;> rfl
  · simp only [if_neg limited]
    split <;> rfl

theorem exponent?_scaleText (exponent : Option Exponent) :
    Fraction.exponent? (scaleText exponent) =
      if ∀ e ∈ exponent, e.digits.text.length ≤ digitLimit then
        some ((exponent.map Exponent.value).getD 0)
      else none := by
  cases exponent with
  | none => rfl
  | some e => simp [scaleText, e.exponent?_text]

instance (n : Number) : Decidable n.Limited :=
  inferInstanceAs (Decidable (_ ∧ _ ∧ _))

/-- The fraction of the parts is the rational number. -/
theorem mkRat_scaled (whole fraction places : Nat) (power : Int) :
    mkRat (whole * 10 ^ places + fraction) (10 ^ places) *
      (if power < 0 then mkRat 1 (10 ^ (-power).toNat) else (10 ^ power.toNat : Nat)) =
    (whole + fraction / 10 ^ places : Rat) * 10 ^ power := by
  have coefficient : mkRat (whole * 10 ^ places + fraction) (10 ^ places) =
      (whole + fraction / 10 ^ places : Rat) := by
    rw [Rat.mkRat_eq_div]
    push_cast
    field_simp
  have scale : (if power < 0 then mkRat 1 (10 ^ (-power).toNat) else (10 ^ power.toNat : Nat)) =
      (10 : Rat) ^ power := by
    split
    · next negative =>
      obtain ⟨n, rfl⟩ := Int.exists_eq_neg_ofNat (Int.le_of_lt negative)
      rw [Rat.mkRat_eq_div, Int.neg_neg, Int.toNat_natCast, zpow_neg, zpow_natCast]
      push_cast
      exact one_div _
    · next nonnegative =>
      obtain ⟨n, rfl⟩ := Int.eq_ofNat_of_zero_le (Int.not_lt.mp nonnegative)
      simp
  rw [coefficient, scale]

/-- The fraction of the parts of a number. -/
def ofParts? (whole places scale : List Char) : Option Rat := do
  let n ← Fraction.groupValue? whole
  let f ← Fraction.groupValue? places
  let e ← Fraction.exponent? scale
  some (mkRat (n * 10 ^ places.length + f) (10 ^ places.length) *
    (if e < 0 then mkRat 1 (10 ^ (-e).toNat) else (10 ^ e.toNat : Nat)))

theorem Number.ofParts?_eq (n : Number) :
    ofParts? n.whole.text n.places (scaleText n.exponent) =
      if n.Limited then some n.rational else none := by
  simp only [ofParts?, groupValue?_eq, exponent?_scaleText]
  by_cases whole : n.whole.text.length ≤ digitLimit
  · by_cases places : n.places.length ≤ digitLimit
    · by_cases scale : ∀ e ∈ n.exponent, e.digits.text.length ≤ digitLimit
      · rw [if_pos whole, if_pos places, if_pos scale, if_pos ⟨whole, places, scale⟩]
        exact congrArg some (mkRat_scaled _ _ _ _)
      · have unlimited : ¬n.Limited := fun limited => scale limited.2.2
        rw [if_pos whole, if_pos places, if_neg scale, if_neg unlimited]
        rfl
    · have unlimited : ¬n.Limited := fun limited => places limited.2.1
      rw [if_pos whole, if_neg places, if_neg unlimited]
      rfl
  · have unlimited : ¬n.Limited := fun limited => whole limited.1
    rw [if_neg whole, if_neg unlimited]
    rfl

theorem Number.magnitude?_text (n : Number) :
    Fraction.magnitude? n.text = ofParts? n.whole.text n.places (scaleText n.exponent) := by
  have scale : ∀ c, (scaleText n.exponent).head? = some c → c.isDigit = false ∧ c ≠ '_' :=
    fun c h => by rcases head_scaleText n.exponent c h with rfl | rfl <;> decide
  have point : ∀ c, (pointText n.fraction).head? = some c → c.isDigit = false ∧ c ≠ '_' :=
    fun c h => by rw [head_pointText n.fraction c h]; decide
  have group : Fraction.takeGroup n.text =
      (n.whole.text, pointText n.fraction ++ scaleText n.exponent) :=
    takeGroup_append n.whole.digit (head_append point scale)
  have nonempty : n.whole.text.isEmpty = false := by
    simpa using n.whole.nonempty
  -- The reader asks for a slash and for a point next, so each form of the rest is a case.
  rw [Fraction.magnitude?, group, Number.places]
  cases fraction : n.fraction with
  | some places =>
    have inside := takeGroup_append (n.fraction_digit places fraction) scale
    simp [pointText, inside, nonempty, ofParts?]
  | none =>
    cases exponent : n.exponent with
    | none => simp [pointText, scaleText, nonempty, ofParts?]
    | some e =>
      rcases e.letter_eq with letter | letter <;>
        simp [pointText, scaleText, Exponent.text, letter, nonempty, ofParts?]

/-- A number is read as the fraction that it denotes. -/
theorem Number.read?_fraction (n : Number) :
    Fraction.read? (String.ofList n.text) = if n.Limited then some n.rational else none := by
  have trimmed : Text.trimBoth Text.isBlank n.text = n.text :=
    trimBoth_eq_self fun c member => (numeral_char (n.isNumeral_text c member)).2.1
  have ascii : Text.asciiNumeral n.text = n.text :=
    asciiNumeral_eq_self fun c member => (numeral_char (n.isNumeral_text c member)).1
  have unsigned : Numeral.takeSign n.text = (false, n.text) := takeSign_eq_self (n.whole.head _)
  rw [Fraction.read?, String.toList_ofList, trimmed, ascii, unsigned]
  simp only [Bool.false_eq_true, if_false, n.magnitude?_text, n.ofParts?_eq]
  exact congrFun Option.map_id _

/-! ### Integers -/

theorem dropSeparators?_eq_self {text : List Char} (afterDigit : Bool)
    (solid : ∀ c ∈ text, c ≠ '_') : Numeral.dropSeparators? afterDigit text = some text := by
  induction text generalizing afterDigit with
  | nil => rfl
  | cons c text ih =>
    have different := solid c List.mem_cons_self
    rw [Numeral.dropSeparators?]
    · simp [different, ih _ fun c member => solid c (List.mem_cons_of_mem _ member)]
    · exact fun _ _ same _ => different same

/-- A number of digits alone has neither a point nor an exponent part. -/
theorem Number.digits_iff (n : Number) :
    (∀ c ∈ n.text, c.isDigit = true) ↔ n.fraction = none ∧ n.exponent = none := by
  constructor
  · intro digit
    rw [Number.text, List.forall_mem_append, List.forall_mem_append] at digit
    obtain ⟨_, point, scale⟩ := digit
    constructor
    · cases fraction : n.fraction with
      | none => rfl
      | some places =>
        rw [fraction] at point
        exact absurd (point '.' List.mem_cons_self) (by decide)
    · cases exponent : n.exponent with
      | none => rfl
      | some e =>
        rw [exponent] at scale
        have letter := scale e.letter List.mem_cons_self
        rcases e.letter_eq with same | same <;> rw [same] at letter <;> contradiction
  · rintro ⟨noPoint, noScale⟩ c member
    simp only [Number.text, noPoint, noScale, pointText, scaleText, List.append_nil] at member
    exact n.whole.digit c member

/-- A number is read as an integer if it is digits alone, as the number of these digits. -/
theorem Number.readInt?_eq_some (n : Number) : readInt? (String.ofList n.text) = some k ↔
    (n.fraction = none ∧ n.exponent = none) ∧ n.whole.text.length ≤ digitLimit ∧
      (Numeral.natOfDigits n.whole.text : Int) = k := by
  have ascii : Text.asciiNumeral n.text = n.text :=
    asciiNumeral_eq_self fun c member => (numeral_char (n.isNumeral_text c member)).1
  have trimmed : Text.trimBoth Text.isAsciiBlank n.text = n.text :=
    trimBoth_eq_self fun c member => (numeral_char (n.isNumeral_text c member)).2.2.1
  have unsigned : Numeral.takeSign n.text = (false, n.text) := takeSign_eq_self (n.whole.head _)
  have solid : Numeral.dropSeparators? false n.text = some n.text :=
    dropSeparators?_eq_self false fun c member => (numeral_char (n.isNumeral_text c member)).2.2.2
  have nonempty : n.text ≠ [] := by simp [Number.text, n.whole.nonempty]
  have whole : n.fraction = none ∧ n.exponent = none → n.text = n.whole.text := by
    rintro ⟨noPoint, noScale⟩
    simp [Number.text, noPoint, noScale, pointText, scaleText]
  simp only [readInt?, String.toList_ofList, ascii, trimmed, unsigned, solid, Numeral.intOfDigits?,
    Bool.false_eq_true, if_false, Option.ite_none_left_eq_some, Bool.or_eq_true, not_or,
    Option.some.injEq, Nat.not_lt, List.isEmpty_iff, nonempty, not_false_eq_true, true_and,
    Bool.not_eq_true', Bool.not_eq_false, List.all_eq_true, n.digits_iff]
  constructor
  · rintro ⟨limited, digits, rfl⟩
    rw [List.filter_eq_self.mpr (n.digits_iff.mpr digits), whole digits] at limited
    exact ⟨digits, limited, by rw [whole digits]⟩
  · rintro ⟨digits, limited, rfl⟩
    rw [List.filter_eq_self.mpr (n.digits_iff.mpr digits), whole digits]
    exact ⟨limited, digits, rfl⟩

/-- A number that is read as an integer denotes that integer. -/
theorem Number.rational_of_readInt? {n : Number} (read : readInt? (String.ofList n.text) = some k) :
    n.Limited ∧ n.rational = k := by
  obtain ⟨⟨noPoint, noScale⟩, limited, rfl⟩ := n.readInt?_eq_some.mp read
  constructor
  · exact ⟨limited, by simp [Number.places, noPoint], by simp [noScale]⟩
  · simp [Number.rational, Number.places, Number.power, noPoint, noScale, Numeral.natOfDigits]

/-! ### Values -/

theorem Number.eq_of_read?_fraction {n : Number}
    (converted : NumberKind.fraction.read? (String.ofList n.text) = some v) :
    v = .fraction n.rational := by
  obtain ⟨q, read, rfl⟩ := Option.map_eq_some_iff.mp converted
  rw [n.read?_fraction] at read
  obtain ⟨_, same⟩ := Option.ite_none_right_eq_some.mp read
  rw [Option.some.inj same]

theorem Number.exists_of_read?_int {n : Number}
    (converted : NumberKind.int.read? (String.ofList n.text) = some v) :
    ∃ k : Int, v = .int k ∧ n.rational = k := by
  obtain ⟨k, read, rfl⟩ := Option.map_eq_some_iff.mp converted
  exact ⟨k, rfl, (Number.rational_of_readInt? read).2⟩

/-- Every number that is read as an integer is read as a fraction. -/
theorem Number.isSome_read?_fraction {n : Number}
    (convertible : (NumberKind.int.read? (String.ofList n.text)).isSome = true) :
    (NumberKind.fraction.read? (String.ofList n.text)).isSome = true := by
  simp only [NumberKind.read?, Option.isSome_map] at convertible ⊢
  obtain ⟨k, read⟩ := Option.isSome_iff_exists.mp convertible
  rw [n.read?_fraction, if_pos (Number.rational_of_readInt? read).1]
  rfl

end Formula.Grammar
