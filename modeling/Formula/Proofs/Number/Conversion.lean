import Formula.Proofs.Number.Exactness

/-! Which numbers of the grammar the four kinds read. Every number is read as a binary64 number,
whatever its size. What is read as an integer is digits alone, no more of them than the limit, and
such a number is read by every kind. -/
namespace Formula.Grammar

/-! ### Numerals -/

theorem takeDigits_append {digits rest : List Char} (inside : ∀ c ∈ digits, c.isDigit = true)
    (boundary : ∀ c, rest.head? = some c → c.isDigit = false) :
    Numeral.takeDigits (digits ++ rest) = (digits, rest) := by
  have whole := takeWhile_append_of_head inside boundary
  have remaining := List.takeWhile_append_dropWhile (p := Char.isDigit) (l := digits ++ rest)
  rw [whole, List.append_cancel_left_eq] at remaining
  rw [Numeral.takeDigits, List.span_eq_takeWhile_dropWhile, whole, remaining]

theorem Digits.all_isDigit (digits : Digits) : digits.text.all Char.isDigit = true :=
  List.all_eq_true.mpr digits.digit

theorem Digits.isEmpty_text (digits : Digits) : digits.text.isEmpty = false := by
  simpa using digits.nonempty

theorem Exponent.numeral_exponent?_text (e : Exponent) :
    Numeral.exponent? e.text = some e.value := by
  simp only [Numeral.exponent?, Exponent.text, if_pos e.letter_eq, Numeral.intOfDigits?,
    e.takeSign_text, e.digits.isEmpty_text, e.digits.all_isDigit, Bool.not_true, Bool.or_self,
    Bool.false_eq_true, if_false, Exponent.value, decide_eq_true_eq]

theorem numeral_exponent?_scaleText (exponent : Option Exponent) :
    Numeral.exponent? (scaleText exponent) = some ((exponent.map Exponent.value).getD 0) := by
  cases exponent with
  | none => rfl
  | some e => exact e.numeral_exponent?_text

/-- The numeral of a number has its digits and its power of ten. -/
theorem Number.ofText?_text (n : Number) :
    Numeral.ofText? n.text = some ⟨n.whole.text, n.places, n.power⟩ := by
  have scale : ∀ c, (scaleText n.exponent).head? = some c → c.isDigit = false :=
    fun c h => by rcases head_scaleText n.exponent c h with rfl | rfl <;> decide
  have point : ∀ c, (pointText n.fraction).head? = some c → c.isDigit = false :=
    fun c h => by rw [head_pointText n.fraction c h]; decide
  have whole : Numeral.takeDigits n.text =
      (n.whole.text, pointText n.fraction ++ scaleText n.exponent) :=
    takeDigits_append n.whole.digit (head_append point scale)
  have exponent := numeral_exponent?_scaleText n.exponent
  rw [Numeral.ofText?, whole, Number.places, Number.power]
  cases fraction : n.fraction with
  | some places =>
    have inside := takeDigits_append (n.fraction_digit places fraction) scale
    simp [pointText, inside, n.whole.isEmpty_text, exponent]
  | none =>
    have noPoint : ∀ rest, scaleText n.exponent ≠ '.' :: rest := by
      intro rest same
      rcases head_scaleText n.exponent '.' (by rw [same]; rfl) with h | h <;>
        exact absurd h (by decide)
    simp [pointText, n.whole.isEmpty_text, exponent]

/-! ### Kinds -/

/-- A number begins with a digit, and so it is no word. -/
theorem Number.exists_text (n : Number) : ∃ c rest, n.text = c :: rest ∧ c.isDigit = true := by
  obtain ⟨c, rest, text⟩ := List.exists_cons_of_ne_nil n.whole.nonempty
  exact ⟨c, rest ++ (pointText n.fraction ++ scaleText n.exponent), by rw [Number.text, text]; rfl,
    n.whole.digit c (by rw [text]; exact List.mem_cons_self)⟩

theorem toLower_of_isDigit {c : Char} (digit : c.isDigit = true) : c.toLower = c := by
  have small : ¬(c.val ≥ 'A'.val ∧ c.val ≤ 'Z'.val) := by
    rintro ⟨letter, _⟩
    have beyond : 65 ≤ c.toNat := letter
    rw [isDigit_iff] at digit
    omega
  exact dif_neg small

theorem Number.asciiNumeral_text (n : Number) : Text.asciiNumeral n.text = n.text :=
  asciiNumeral_eq_self fun c member => (numeral_char (n.isNumeral_text c member)).1

theorem Number.dropSeparators?_text (n : Number) :
    Numeral.dropSeparators? false n.text = some n.text :=
  dropSeparators?_eq_self false fun c member => (numeral_char (n.isNumeral_text c member)).2.2.2

/-- Every number is read as a binary64 number, whatever its size. -/
theorem Number.isSome_read?_float (n : Number) :
    (NumberKind.float.read? (String.ofList n.text)).isSome = true := by
  have trimmed : Text.trimBoth Text.isAsciiBlank n.text = n.text :=
    trimBoth_eq_self fun c member => (numeral_char (n.isNumeral_text c member)).2.2.1
  have unsigned : Numeral.takeSign n.text = (false, n.text) := takeSign_eq_self (n.whole.head _)
  obtain ⟨c, rest, text, digit⟩ := n.exists_text
  have noWord : ∀ letter word, letter.isDigit = false →
      String.ofList (n.text.map Char.toLower) ≠ String.ofList (letter :: word) := by
    intro letter word other same
    rw [String.ofList_inj, text, List.map_cons, toLower_of_isDigit digit, List.cons.injEq] at same
    rw [same.1, other] at digit
    contradiction
  have notInf := noWord 'i' ['n', 'f'] (by decide)
  have notInfinity := noWord 'i' ['n', 'f', 'i', 'n', 'i', 't', 'y'] (by decide)
  have notNan := noWord 'n' ['a', 'n'] (by decide)
  simp only [NumberKind.read?, Option.isSome_map, Binary64.read?, String.toList_ofList,
    n.asciiNumeral_text, trimmed, unsigned, n.dropSeparators?_text, Option.bind_some,
    n.ofText?_text]
  rw [if_neg (not_or.mpr ⟨notInf, notInfinity⟩), if_neg notNan]
  rfl

/-! ### Decimals -/

/-- The number with the letter of its exponent in lower case. -/
def Exponent.lower (e : Exponent) : Exponent :=
  { e with letter := 'e', letter_eq := .inl rfl }

def Number.lower (n : Number) : Number :=
  { n with exponent := n.exponent.map Exponent.lower }

theorem map_toLower_eq_self {text : List Char} (small : ∀ c ∈ text, c.toLower = c) :
    text.map Char.toLower = text := by
  conv_rhs => rw [← List.map_id text]
  exact List.map_congr_left small

theorem Exponent.map_toLower_text (e : Exponent) : e.text.map Char.toLower = e.lower.text := by
  have letter : e.letter.toLower = 'e' := by
    rcases e.letter_eq with same | same <;> rw [same] <;> decide
  have sign : e.sign.toList.map Char.toLower = e.sign.toList := by
    apply map_toLower_eq_self
    intro c member
    rcases e.sign_eq c (Option.mem_toList.mp member) with rfl | rfl <;> decide
  have digits := map_toLower_eq_self fun c member => toLower_of_isDigit (e.digits.digit c member)
  rw [text, List.map_cons, List.map_append, letter, sign, digits]
  rfl

theorem Number.map_toLower_text (n : Number) : n.text.map Char.toLower = n.lower.text := by
  have whole := map_toLower_eq_self fun c member => toLower_of_isDigit (n.whole.digit c member)
  have point : (pointText n.fraction).map Char.toLower = pointText n.fraction := by
    cases fraction : n.fraction with
    | none => rfl
    | some places =>
      have inside := map_toLower_eq_self fun c member =>
        toLower_of_isDigit (n.fraction_digit places fraction c member)
      rw [pointText, List.map_cons, inside]
      rfl
  have scale : (scaleText n.exponent).map Char.toLower = scaleText n.lower.exponent := by
    rw [lower]
    cases n.exponent with
    | none => rfl
    | some e => exact e.map_toLower_text
  rw [text, List.map_append, List.map_append, whole, point, scale]
  rfl

theorem Number.power_lower (n : Number) : n.lower.power = n.power := by
  rw [power, power, lower]
  cases n.exponent <;> rfl

/-- A number is read as a decimal number with its digits and its power of ten, if that can be
held. -/
theorem Number.read?_decimal (n : Number) : Decimal.read? (String.ofList n.text) =
    Decimal.held? false (Numeral.natOfDigits (n.whole.text ++ n.places))
      (n.power - n.places.length) := by
  have trimmed : Text.trimBoth Text.isBlank n.text = n.text :=
    trimBoth_eq_self fun c member => (numeral_char (n.isNumeral_text c member)).2.1
  have kept : n.text.filter (· != '_') = n.text := by
    refine List.filter_eq_self.mpr fun c member => ?_
    simpa using (numeral_char (n.isNumeral_text c member)).2.2.2
  have unsigned : Numeral.takeSign n.text = (false, n.text) := takeSign_eq_self (n.whole.head _)
  have numeral : Numeral.ofText? n.lower.text = some ⟨n.whole.text, n.places, n.power⟩ := by
    rw [n.lower.ofText?_text, n.power_lower]
    rfl
  obtain ⟨c, rest, first, digit⟩ := n.lower.exists_text
  have noLetter : ∀ letter : Char, letter.isDigit = false → c ≠ letter := by
    rintro letter other rfl
    rw [other] at digit
    contradiction
  simp only [Decimal.read?, String.toList_ofList, trimmed, kept, n.asciiNumeral_text, unsigned,
    n.map_toLower_text]
  rw [first] at numeral ⊢
  split
  · next same => exact absurd (List.cons.inj same).1 (noLetter 'i' (by decide))
  · next same => exact absurd (List.cons.inj same).1 (noLetter 'i' (by decide))
  · next same => exact absurd (List.cons.inj same).1 (noLetter 'n' (by decide))
  · next same => exact absurd (List.cons.inj same).1 (noLetter 's' (by decide))
  · rw [numeral]
    rfl

/-! ### Digits alone -/

/-- Digits denote a number below the power of ten of their count. -/
theorem ofDigitChars_lt {digits : List Char} (inside : ∀ c ∈ digits, c.isDigit = true)
    (initial : Nat) :
    Nat.ofDigitChars 10 digits initial < (initial + 1) * 10 ^ digits.length := by
  induction digits generalizing initial with
  | nil => simp [Nat.ofDigitChars]
  | cons c digits ih =>
    have digit := isDigit_iff.mp (inside c List.mem_cons_self)
    have small : c.toNat - '0'.toNat < 10 := by
      have zero : '0'.toNat = 48 := rfl
      omega
    have rest := ih (fun c member => inside c (List.mem_cons_of_mem _ member))
      (10 * initial + (c.toNat - '0'.toNat))
    rw [Nat.ofDigitChars_cons]
    calc _ < (10 * initial + (c.toNat - '0'.toNat) + 1) * 10 ^ digits.length := rest
      _ ≤ ((initial + 1) * 10) * 10 ^ digits.length := Nat.mul_le_mul_right _ (by omega)
      _ = (initial + 1) * 10 ^ (c :: digits).length := by
        rw [List.length_cons, Nat.pow_succ', Nat.mul_assoc]

theorem digitCount_natOfDigits_le {digits : List Char} (nonempty : digits ≠ [])
    (inside : ∀ c ∈ digits, c.isDigit = true) :
    Text.digitCount (Numeral.natOfDigits digits) ≤ digits.length := by
  have bound := ofDigitChars_lt inside 0
  rw [Nat.zero_add, Nat.one_mul] at bound
  exact (Nat.length_toDigits_le_iff (by decide) (List.length_pos_iff.mpr nonempty)).mpr bound

/-- Digits within the limit are read as a decimal number. -/
theorem Number.isSome_read?_decimal {n : Number} (alone : n.fraction = none ∧ n.exponent = none)
    (limited : n.whole.text.length ≤ digitLimit) :
    (NumberKind.decimal.read? (String.ofList n.text)).isSome = true := by
  have count := digitCount_natOfDigits_le n.whole.nonempty n.whole.digit
  have small : digitLimit = 4300 := rfl
  have places : n.places = [] := by rw [places, alone.1]; rfl
  have power : n.power = 0 := by rw [power, alone.2]; rfl
  rw [NumberKind.read?, Option.isSome_map, n.read?_decimal, places, power, List.append_nil,
    Decimal.held?, if_pos]
  · rfl
  · rw [Decimal.leastHeld, Decimal.greatestHeld, List.length_nil]
    split <;> omega

/-- A number that is read as an integer is read by every kind. -/
theorem Number.isSome_read?_of_int {n : Number}
    (convertible : (NumberKind.int.read? (String.ofList n.text)).isSome = true)
    (kind : NumberKind) : (kind.read? (String.ofList n.text)).isSome = true := by
  cases kind with
  | float => exact n.isSome_read?_float
  | int => exact convertible
  | fraction => exact isSome_read?_fraction convertible
  | decimal =>
    rw [NumberKind.read?, Option.isSome_map] at convertible
    obtain ⟨k, read⟩ := Option.isSome_iff_exists.mp convertible
    obtain ⟨alone, limited, _⟩ := n.readInt?_eq_some.mp read
    exact isSome_read?_decimal alone limited

end Formula.Grammar
