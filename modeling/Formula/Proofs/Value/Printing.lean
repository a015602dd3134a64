import Formula.Proofs.Number.Conversion
import Formula.Proofs.Value.ZeroDivision

/-! The texts that numbers are written as. The text of an integer or of a fraction tells the number,
and the text of a decimal tells its form as well: the digits of the coefficient and the place of the
point. No number is written with a line break. -/
namespace Formula
open Grammar

/-- A text is divided in one way before the first character of some kind. -/
theorem append_inj_of_head {p : α → Bool} {body body' rest rest' : List α}
    (inside : ∀ c ∈ body, p c = true) (inside' : ∀ c ∈ body', p c = true)
    (boundary : ∀ c, rest.head? = some c → p c = false)
    (boundary' : ∀ c, rest'.head? = some c → p c = false)
    (same : body ++ rest = body' ++ rest') : body = body' ∧ rest = rest' := by
  have bodies : body = body' := by
    rw [← takeWhile_append_of_head inside boundary, same,
      takeWhile_append_of_head inside' boundary']
  subst bodies
  exact ⟨rfl, List.append_cancel_left same⟩

/-! ### Integers -/

theorem Numeral.natOfDigits_toDigits (n : Nat) : natOfDigits (Nat.toDigits 10 n) = n :=
  Nat.ofDigitChars_toDigits (by decide) (by decide)

theorem isDigit_of_mem_toDigits {n : Nat} : ∀ c ∈ Nat.toDigits 10 n, c.isDigit = true :=
  fun _ => Nat.isDigit_of_mem_toDigits (by decide) (by decide)

theorem toDigits_inj {m n : Nat} (same : Nat.toDigits 10 m = Nat.toDigits 10 n) : m = n := by
  rw [← Numeral.natOfDigits_toDigits m, same, Numeral.natOfDigits_toDigits]

/-- The digits of a natural number. -/
def Grammar.Digits.ofNat (n : Nat) : Digits :=
  ⟨Nat.toDigits 10 n, Nat.toDigits_ne_nil, isDigit_of_mem_toDigits⟩

/-- What begins with a digit has no sign. -/
theorem Grammar.Digits.sign_append_inj {digits digits' : Digits} {negative negative' : Bool}
    {rest rest' : List Char}
    (same : (if negative then ['-'] else []) ++ (digits.text ++ rest) =
      (if negative' then ['-'] else []) ++ (digits'.text ++ rest')) :
    negative = negative' ∧ digits.text ++ rest = digits'.text ++ rest' := by
  have unsigned : ∀ (digits : Digits) rest other, digits.text ++ rest ≠ '-' :: other := by
    intro digits rest other same
    have digit := digits.head rest '-' (by rw [same]; rfl)
    contradiction
  cases negative <;> cases negative'
  · exact ⟨rfl, same⟩
  · exact absurd same (unsigned _ _ _)
  · exact absurd same.symm (unsigned _ _ _)
  · exact ⟨rfl, (List.cons.inj same).2⟩

theorem toList_toString_int (n : Int) : (toString n).toList =
    (if decide (n < 0) then ['-'] else []) ++ (Digits.ofNat n.natAbs).text := by
  change n.repr.toList = _
  rw [Int.repr_eq_if]
  by_cases negative : n < 0
  · have magnitude : (-n).toNat = n.natAbs := by omega
    rw [if_neg (by omega), decide_eq_true negative, String.toList_append, Nat.toList_repr,
      magnitude]
    rfl
  · have magnitude : n.toNat = n.natAbs := by omega
    rw [if_pos (by omega), decide_eq_false negative, Nat.toList_repr, magnitude]
    rfl

theorem toString_int_inj {m n : Int} (same : (toString m).toList = (toString n).toList) :
    m = n := by
  rw [toList_toString_int, toList_toString_int, ← List.append_nil (Digits.ofNat _).text,
    ← List.append_nil (Digits.ofNat n.natAbs).text] at same
  obtain ⟨signs, digits⟩ := Digits.sign_append_inj same
  have magnitudes : m.natAbs = n.natAbs := toDigits_inj (List.append_cancel_right digits)
  rw [decide_eq_decide] at signs
  omega

theorem isNumeral_toString_int (n : Int) : ∀ c ∈ (toString n).toList, isNumeral c = true := by
  intro c member
  rw [toList_toString_int, List.mem_append] at member
  rcases member with sign | digit
  · split at sign
    · rw [List.mem_singleton.mp sign]
      rfl
    · contradiction
  · exact isNumeral_of_isDigit ((Digits.ofNat n.natAbs).digit c digit)

theorem digitLimit_lt_digitCount {n : Nat} :
    digitLimit < Text.digitCount n ↔ 10 ^ digitLimit ≤ n := by
  rw [← Nat.not_le, Text.digitCount, Nat.length_toDigits_le_iff (by decide) (by decide), Nat.not_lt]

namespace Value

/-- An integer has no text if it has more digits than the limit. -/
theorem intText?_eq_none {n : Int} : intText? n = .none ↔ 10 ^ digitLimit ≤ n.natAbs := by
  rw [intText?, ← digitLimit_lt_digitCount]
  split <;> simp_all

theorem intText?_eq_some {n : Int} {written : String} : intText? n = some written ↔
    Text.digitCount n.natAbs ≤ digitLimit ∧ written = toString n := by
  rw [intText?, Option.ite_none_left_eq_some, Nat.not_lt, Option.some.injEq, eq_comm (b := written)]

/-! ### Fractions -/

/-- The text of a fraction is that of its numerator, followed by that of its denominator unless it
is one. -/
theorem fractionText?_eq_some {q : Rat} {written : String} :
    fractionText? q = some written ↔ ∃ numerator, intText? q.num = some numerator ∧
      (q.den = 1 ∧ written = numerator ∨ q.den ≠ 1 ∧
        ∃ denominator, intText? q.den = some denominator ∧
          written = numerator ++ "/" ++ denominator) := by
  unfold fractionText?
  cases intText? q.num with
  | none => simp
  | some numerator =>
    by_cases one : q.den = 1
    · simp [one, eq_comm]
    · cases intText? q.den <;> simp [one, eq_comm]

theorem toList_of_fractionText? {q : Rat} {written : String}
    (shown : fractionText? q = some written) : written.toList = (toString q.num).toList ++
      if q.den = 1 then [] else '/' :: (toString (q.den : Int)).toList := by
  obtain ⟨numerator, whole, one | ⟨several, denominator, parts, rfl⟩⟩ :=
    fractionText?_eq_some.mp shown
  · obtain ⟨one, rfl⟩ := one
    obtain ⟨_, rfl⟩ := intText?_eq_some.mp whole
    rw [if_pos one, List.append_nil]
  · obtain ⟨_, rfl⟩ := intText?_eq_some.mp whole
    obtain ⟨_, rfl⟩ := intText?_eq_some.mp parts
    rw [if_neg several, String.toList_append, String.toList_append, List.append_assoc]
    rfl

/-- A value without a text cannot be quoted either. -/
theorem quoted?_of_text? {value : Value} (textless : value.text? = .none) :
    value.quoted? = .none := by
  cases value with
  | fraction q =>
    simp only [text?, fractionText?, Option.bind_eq_bind, Option.bind_eq_none_iff]
      at textless
    simp only [quoted?, quotedFraction?, Option.bind_eq_bind, Option.bind_eq_none_iff]
    intro numerator shown denominator isShown
    have rest := textless numerator shown
    rw [isShown] at rest
    split at rest <;> contradiction
  | text | decimal => contradiction
  | shown type texts =>
    obtain rfl := Option.map_eq_none_iff.mp textless
    rfl
  | _ => exact textless

/-- A text stands for one fraction. -/
theorem fractionText?_inj {q r : Rat} {written : String} (left : fractionText? q = some written)
    (right : fractionText? r = some written) : q = r := by
  have solid (n : Int) : ∀ c ∈ (toString n).toList, (c != '/') = true := by
    intro c member
    have numeral := isNumeral_toString_int n c member
    rw [bne_iff_ne]
    rintro rfl
    contradiction
  have boundary (d : Nat) : ∀ c,
      (if d = 1 then [] else '/' :: (toString (d : Int)).toList).head? = some c →
        (c != '/') = false := by
    intro c head
    split at head
    · contradiction
    · cases head
      rfl
  have same := (toList_of_fractionText? left).symm.trans (toList_of_fractionText? right)
  obtain ⟨numerators, denominators⟩ :=
    append_inj_of_head (solid _) (solid _) (boundary _) (boundary _) same
  refine Rat.ext (toString_int_inj numerators) ?_
  by_cases one : q.den = 1 <;> by_cases other : r.den = 1
  · rw [one, other]
  · rw [if_pos one, if_neg other] at denominators
    contradiction
  · rw [if_neg one, if_pos other] at denominators
    contradiction
  · rw [if_neg one, if_neg other] at denominators
    exact Int.ofNat_inj.mp (toString_int_inj (List.cons.inj denominators).2)

end Value
/-! ### Decimals -/

namespace Grammar

/-- The first digits of some. -/
def Digits.take (digits : Digits) (count : Nat) (some : 0 < count) : Digits :=
  ⟨digits.text.take count, by simpa using ⟨Nat.ne_of_gt some, digits.nonempty⟩,
    fun c member => digits.digit c (List.mem_of_mem_take member)⟩

/-- The number with these digits around the point, which is left out if none follow it. -/
def Number.around (whole : Digits) (places : List Char) (inside : ∀ c ∈ places, c.isDigit = true)
    (exponent : Option Exponent) : Number :=
  ⟨whole, if places.isEmpty then none else some places, exponent, by
    intro digits among
    split at among
    · contradiction
    · cases among
      exact inside⟩

section
variable {whole : Digits} {places : List Char} {inside : ∀ c ∈ places, c.isDigit = true}
  {exponent : Option Exponent}

theorem Number.places_around : (around whole places inside exponent).places = places := by
  cases places <;> rfl

theorem Number.text_around : (around whole places inside exponent).text =
    whole.text ++ ((if places.isEmpty then [] else '.' :: places) ++ scaleText exponent) := by
  cases places <;> rfl

end

end Grammar

namespace Decimal

/-- The exponent part that an integer is written as. -/
def scale (exponent : Int) : Exponent :=
  ⟨'E', some (if exponent < 0 then '-' else '+'), .ofNat exponent.natAbs, .inr rfl, by
    rintro _ ⟨⟩
    split
    · exact .inr rfl
    · exact .inl rfl⟩

theorem value_scale (exponent : Int) : (scale exponent).value = exponent := by
  have digits : Numeral.natOfDigits (scale exponent).digits.text = exponent.natAbs :=
    Numeral.natOfDigits_toDigits _
  rw [Exponent.value, digits]
  by_cases negative : exponent < 0
  · have sign : (scale exponent).sign = some '-' := congrArg some (if_pos negative)
    rw [if_pos sign]
    omega
  · have sign : (scale exponent).sign = some '+' := congrArg some (if_neg negative)
    rw [sign, if_neg (by decide)]
    omega

/-- A number of the grammar has this coefficient and this exponent. -/
structure Spells (n : Number) (coefficient : Nat) (exponent : Int) : Prop where
  digits : Numeral.natOfDigits (n.whole.text ++ n.places) = coefficient
  power : n.power - n.places.length = exponent

/-- A number whose digits stand behind the point and some zeros. -/
def small (n zeros : Nat) : Number :=
  .around (.ofNat 0) (List.replicate zeros '0' ++ Nat.toDigits 10 n)
    (by
      intro c member
      rcases List.mem_append.mp member with zero | digit
      · rw [List.eq_of_mem_replicate zero]
        rfl
      · exact isDigit_of_mem_toDigits c digit)
    none

theorem text_small (n zeros : Nat) : (small n zeros).text =
    '0' :: '.' :: (List.replicate zeros '0' ++ Nat.toDigits 10 n) := by
  have nonempty : (List.replicate zeros '0' ++ Nat.toDigits 10 n).isEmpty = false := by
    simp [Nat.toDigits_ne_nil]
  rw [small, Number.text_around, nonempty]
  exact congrArg _ (List.append_nil _)

theorem spells_small (n zeros : Nat) :
    Spells (small n zeros) n (-(zeros + (Nat.toDigits 10 n).length : Nat)) := by
  constructor
  · rw [small, Number.places_around]
    change Nat.ofDigitChars 10 (List.replicate (zeros + 1) '0' ++ Nat.toDigits 10 n) 0 = n
    rw [Nat.ofDigitChars_append, Nat.ofDigitChars_replicate_zero, Nat.mul_zero]
    exact Numeral.natOfDigits_toDigits n
  · rw [small, Number.places_around, List.length_append, List.length_replicate]
    exact Int.zero_sub _

/-- A number whose digits are divided by the point. -/
def divided (n : Nat) (count : Nat) (some : 0 < count) (exponent : Option Exponent) : Number :=
  .around ((Digits.ofNat n).take count some) ((Nat.toDigits 10 n).drop count)
    (fun c member => isDigit_of_mem_toDigits c (List.mem_of_mem_drop member)) exponent

theorem text_divided (n count : Nat) (some : 0 < count) (exponent : Option Exponent) :
    (divided n count some exponent).text = (Nat.toDigits 10 n).take count ++
      ((if ((Nat.toDigits 10 n).drop count).isEmpty then []
        else '.' :: (Nat.toDigits 10 n).drop count) ++ scaleText exponent) :=
  Number.text_around

theorem spells_divided (n count : Nat) (some : 0 < count) (exponent : Option Exponent) :
    Spells (divided n count some exponent) n
      ((exponent.map Exponent.value).getD 0 - ((Nat.toDigits 10 n).length - count : Nat)) := by
  constructor
  · rw [divided, Number.places_around]
    exact (congrArg _ (List.take_append_drop _ _)).trans (Numeral.natOfDigits_toDigits n)
  · rw [divided, Number.places_around, List.length_drop]
    rfl

/-- The magnitude of a finite decimal is written as a number with its digits and its exponent. -/
theorem exists_number (coefficient : Nat) (exponent : Int) :
    ∃ n : Number, n.text = magnitudeText coefficient exponent ∧ Spells n coefficient exponent := by
  have positive : 0 < (Nat.toDigits 10 coefficient).length := Nat.length_toDigits_pos
  fun_cases magnitudeText coefficient exponent with
  | case1 digits point positional fractional =>
    refine ⟨small coefficient (-point).toNat, text_small _ _, ?_⟩
    have places : -((-point).toNat + digits.length : Nat) = exponent := by omega
    exact places ▸ spells_small coefficient (-point).toNat
  | case2 digits point positional integral integer =>
    refine ⟨divided coefficient digits.length positive none, ?_, ?_⟩
    · simp [text_divided, scaleText, digits]
    · simpa [integer, digits] using spells_divided coefficient digits.length positive none
  | case3 digits point positional integral negative =>
    have inside : 0 < point.toNat := by omega
    have later : (digits.drop point.toNat).isEmpty = false := by
      rw [List.isEmpty_eq_false_iff, ← List.length_pos_iff, List.length_drop]
      omega
    refine ⟨divided coefficient point.toNat inside none, ?_, ?_⟩
    · rw [text_divided, later]
      exact congrArg _ (List.append_nil _)
    · have places : (0 : Int) - (digits.length - point.toNat : Nat) = exponent := by omega
      exact places ▸ spells_divided coefficient point.toNat inside none
  | case4 digits point scientific fraction =>
    refine ⟨divided coefficient 1 Nat.one_pos (some (scale (point - 1))), ?_, ?_⟩
    · rw [text_divided, ← List.append_assoc]
      rfl
    · have places : point - 1 - (digits.length - 1 : Nat) = exponent := by
        have leading : point = exponent + digits.length := rfl
        change 0 < digits.length at positive
        omega
      have spells := spells_divided coefficient 1 Nat.one_pos (some (scale (point - 1)))
      rw [Option.map_some, value_scale] at spells
      exact places ▸ spells

theorem magnitudeText_inj {c d : Nat} {e f : Int} (same : magnitudeText c e = magnitudeText d f) :
    c = d ∧ e = f := by
  obtain ⟨n, text, spells⟩ := exists_number c e
  obtain ⟨m, text', spells'⟩ := exists_number d f
  have numeral := n.ofText?_text
  rw [text, same, ← text', m.ofText?_text, Option.some.injEq, Numeral.mk.injEq] at numeral
  obtain ⟨whole, places, power⟩ := numeral
  rw [← spells.digits, ← spells.power, ← spells'.digits, ← spells'.power, whole, places, power]
  exact ⟨rfl, rfl⟩

theorem magnitudeText_ne {letter : Char} (noDigit : letter.isDigit = false) (c : Nat) (e : Int)
    (rest : List Char) : magnitudeText c e ≠ letter :: rest := by
  intro same
  obtain ⟨n, text, _⟩ := exists_number c e
  obtain ⟨first, others, starts, digit⟩ := n.exists_text
  rw [← text, starts] at same
  rw [(List.cons.inj same).1, noDigit] at digit
  contradiction

/-- The text after the sign. -/
def unsignedText : Decimal → List Char
  | finite _ coefficient exponent => magnitudeText coefficient exponent
  | infinity _ => ['I', 'n', 'f', 'i', 'n', 'i', 't', 'y']
  | nan _ signaling payload => (if signaling then ['s', 'N', 'a', 'N'] else ['N', 'a', 'N']) ++
    if payload = 0 then [] else Nat.toDigits 10 payload

theorem toList_text (x : Decimal) :
    x.text.toList = (if x.isNegative then ['-'] else []) ++ x.unsignedText := by
  have sign : (if x.isNegative then "-" else "").toList = if x.isNegative then ['-'] else [] :=
    apply_ite String.toList _ _ _
  cases x with
  | finite negative coefficient exponent =>
    rw [text, String.toList_append, sign, String.toList_ofList, unsignedText]
  | infinity negative =>
    rw [text, String.toList_append, sign]
    rfl
  | nan negative signaling payload =>
    have digits : (if payload = 0 then "" else toString payload).toList =
        if payload = 0 then [] else Nat.toDigits 10 payload := by
      rw [apply_ite String.toList, Nat.toString_eq_repr, Nat.toList_repr]
      rfl
    rw [text, String.toList_append, String.toList_append, sign, digits, List.append_assoc,
      apply_ite String.toList]
    rfl

theorem unsignedText_ne (x : Decimal) (rest : List Char) : x.unsignedText ≠ '-' :: rest := by
  cases x with
  | finite => exact magnitudeText_ne rfl _ _ rest
  | infinity => exact fun same => absurd (List.cons.inj same).1 (by decide)
  | nan _ signaling =>
    cases signaling <;> exact fun same => absurd (List.cons.inj same).1 (by decide)

theorem unsignedText_inj {x y : Decimal} (signs : x.isNegative = y.isNegative)
    (same : x.unsignedText = y.unsignedText) : x = y := by
  cases x with
  | finite negative c e =>
    cases y with
    | finite negative' d f =>
      obtain rfl : negative = negative' := signs
      obtain ⟨rfl, rfl⟩ := magnitudeText_inj same
      rfl
    | infinity => exact absurd same (magnitudeText_ne rfl c e _)
    | nan _ signaling => cases signaling <;> exact absurd same (magnitudeText_ne rfl c e _)
  | infinity negative =>
    cases y with
    | finite _ d f => exact absurd same.symm (magnitudeText_ne rfl d f _)
    | infinity negative' => exact congrArg infinity signs
    | nan _ signaling => cases signaling <;> exact absurd (List.cons.inj same).1 (by decide)
  | nan negative signaling payload =>
    cases y with
    | finite _ d f =>
      cases signaling <;> exact absurd same.symm (magnitudeText_ne rfl d f _)
    | infinity => cases signaling <;> exact absurd (List.cons.inj same).1 (by decide)
    | nan negative' signaling' payload' =>
      obtain rfl : negative = negative' := signs
      obtain rfl : signaling = signaling' := by
        cases signaling <;> cases signaling' <;>
          first | rfl | exact absurd (List.cons.inj same).1 (by decide)
      have read (n : Nat) :
          Numeral.natOfDigits (if n = 0 then [] else Nat.toDigits 10 n) = n := by
        split
        · next none => exact none.symm
        · exact Numeral.natOfDigits_toDigits n
      have payloads := congrArg Numeral.natOfDigits (List.append_cancel_left same)
      rw [read, read] at payloads
      rw [payloads]

/-- The text of a decimal tells its sign, its digits and its exponent. -/
theorem text_injective : Function.Injective text := by
  intro x y same
  have lists := congrArg String.toList same
  rw [toList_text, toList_text] at lists
  cases left : x.isNegative <;> cases right : y.isNegative <;> rw [left, right] at lists
  · exact unsignedText_inj (left.trans right.symm) lists
  · exact absurd lists (x.unsignedText_ne _)
  · exact absurd lists.symm (y.unsignedText_ne _)
  · exact unsignedText_inj (left.trans right.symm) (List.cons.inj lists).2

/-- The text of a decimal has no white space. -/
theorem isBlank_text (x : Decimal) : ∀ c ∈ x.text.toList, Text.isBlank c = false := by
  have unsigned : ∀ c ∈ x.unsignedText, Text.isBlank c = false := by
    cases x with
    | finite _ coefficient exponent =>
      obtain ⟨n, text, _⟩ := exists_number coefficient exponent
      exact fun c member => isBlank_of_isNumeral (n.isNumeral_text c (text ▸ member))
    | infinity => exact isBlank_of_any rfl
    | nan _ signaling payload =>
      refine List.forall_mem_append.mpr ⟨by cases signaling <;> exact isBlank_of_any rfl, ?_⟩
      split
      · exact nofun
      · exact fun c digit =>
          isBlank_of_isNumeral (isNumeral_of_isDigit (isDigit_of_mem_toDigits c digit))
  rw [toList_text, List.forall_mem_append]
  exact ⟨by split <;> exact isBlank_of_any rfl, unsigned⟩

end Decimal

/-! ### Binary64 numbers -/

namespace Binary64

theorem isNumeral_exponentText (width : Nat) (exponent : Int) :
    ∀ c ∈ exponentText width exponent, isNumeral c = true := by
  intro c member
  simp only [exponentText, List.mem_cons, List.mem_append] at member
  rcases member with rfl | rfl | zero | digit
  · rfl
  · split <;> rfl
  · rw [List.eq_of_mem_replicate zero]
    rfl
  · exact isNumeral_of_isDigit (isDigit_of_mem_toDigits c digit)

theorem isNumeral_digitsText (style : Style) {digits : List Char}
    (inside : ∀ c ∈ digits, isNumeral c = true) (point : Int) :
    ∀ c ∈ digitsText style digits point, isNumeral c = true := by
  have zeros (count : Nat) : ∀ c ∈ List.replicate count '0', isNumeral c = true :=
    fun c zero => by rw [List.eq_of_mem_replicate zero]; rfl
  have scale := isNumeral_exponentText style.exponentDigits (point - 1)
  fun_cases digitsText style digits point with
  | case1 =>
    simp only [List.forall_mem_cons, List.forall_mem_append]
    exact ⟨rfl, rfl, zeros _, inside⟩
  | case2 =>
    simp only [List.forall_mem_cons, List.forall_mem_append]
    exact ⟨inside, zeros _, rfl, rfl, List.forall_mem_nil _⟩
  | case3 =>
    simp only [List.forall_mem_cons, List.forall_mem_append]
    exact ⟨fun c member => inside c (List.mem_of_mem_take member), rfl,
      fun c member => inside c (List.mem_of_mem_drop member)⟩
  | case4 => exact List.forall_mem_nil _
  | case5 => exact List.forall_mem_cons.mpr ⟨(List.forall_mem_cons.mp inside).1, scale⟩
  | case6 =>
    simp only [List.forall_mem_cons, List.forall_mem_append] at inside ⊢
    exact ⟨inside.1, rfl, inside.2, scale⟩

/-- The text of a finite number consists of the characters that numbers are written with. -/
theorem isNumeral_text (negative : Bool) (significand exponent : Nat) :
    ∀ c ∈ (text plainStyle (.finite negative significand exponent)).toList, isNumeral c = true := by
  have sign : ∀ c ∈ (if negative then ['-'] else []), isNumeral c = true := by
    cases negative
    · exact nofun
    · exact List.forall_mem_singleton.mpr rfl
  rw [text]
  split
  · rw [String.toList_ofList, List.forall_mem_append]
    refine ⟨sign, ?_⟩
    simp only [List.forall_mem_cons]
    exact ⟨rfl, rfl, rfl, List.forall_mem_nil _⟩
  · rw [String.toList_ofList, List.forall_mem_append]
    refine ⟨sign, isNumeral_digitsText _ (fun c digit => ?_) _⟩
    exact isNumeral_of_isDigit (isDigit_of_mem_toDigits c digit)

theorem isBlank_text (x : Binary64) :
    ∀ c ∈ (x.text plainStyle).toList, Text.isBlank c = false := by
  cases x with
  | nan => exact isBlank_of_any rfl
  | infinity negative =>
    cases negative <;> exact isBlank_of_any rfl
  | finite negative significand exponent =>
    exact fun c member =>
      isBlank_of_isNumeral (isNumeral_text negative significand exponent c member)

end Binary64

/-! ### Values -/

namespace Value

/-- A number is written without white space. -/
theorem isBlank_text {v : Value} (own : v.kind? = some kind) {written : String}
    (shown : v.text? = some written) : ∀ c ∈ written.toList, Text.isBlank c = false := by
  have integer (n : Int) : ∀ c ∈ (toString n).toList, Text.isBlank c = false :=
    fun c member => isBlank_of_isNumeral (isNumeral_toString_int n c member)
  cases v with
  | int n =>
    rw [(intText?_eq_some.mp shown).2]
    exact integer n
  | float x =>
    cases shown
    exact x.isBlank_text
  | decimal d =>
    cases shown
    exact d.isBlank_text
  | fraction q =>
    rw [toList_of_fractionText? shown, List.forall_mem_append]
    refine ⟨integer q.num, ?_⟩
    split
    · exact nofun
    · exact List.forall_mem_cons.mpr ⟨rfl, integer q.den⟩
  | none | bool | text | list | tuple | mapping | shown => contradiction

/-- Numbers of one kind, other than binary64 numbers, are told by their texts. -/
theorem text?_inj {v w : Value} (left : v.kind? = some kind) (right : w.kind? = some kind)
    (noFloat : kind ≠ .float) {written : String} (shown : v.text? = some written)
    (shown' : w.text? = some written) : v = w := by
  cases v with
  | int m =>
    cases w with
    | int n =>
      have same := (intText?_eq_some.mp shown).2.symm.trans (intText?_eq_some.mp shown').2
      rw [toString_int_inj (congrArg String.toList same)]
    | _ => exact nomatch left.trans right.symm
  | decimal d =>
    cases w with
    | decimal e => rw [Decimal.text_injective (Option.some.inj (shown.trans shown'.symm))]
    | _ => exact nomatch left.trans right.symm
  | fraction q =>
    cases w with
    | fraction r => rw [fractionText?_inj shown shown']
    | _ => exact nomatch left.trans right.symm
  | float => exact absurd (Option.some.inj left).symm noFloat
  | none | bool | text | list | tuple | mapping | shown => contradiction

end Value

end Formula
