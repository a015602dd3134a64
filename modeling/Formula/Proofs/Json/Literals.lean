import Formula.Proofs.Json.Reading
import Formula.Proofs.Value.Printing

/-! Literals of texts and of integers. What is written for a text or an integer consists of ASCII
characters, and the text or the integer is read from it: a letter behind a backslash, one code unit
or the two of a surrogate pair give back their character, and digits their number, wherever a number
does not go on behind them. -/
namespace Formula

namespace Text

theorem hexDigit_mod (n : Nat) : hexDigit (n % 16) = hexDigit n := by
  simp [hexDigit]

theorem hexDigits_four (n : Nat) : hexDigits 4 n =
    [hexDigit (n / 16 / 16 / 16), hexDigit (n / 16 / 16), hexDigit (n / 16), hexDigit n] :=
  rfl

end Text

namespace Json
open Text

theorem hexValue?_hexDigit (n : Nat) : hexValue? (hexDigit n) = some (n % 16) := by
  have every : ∀ k < 16, hexValue? (hexDigit k) = some k := by decide
  rw [← hexDigit_mod, every _ (Nat.mod_lt n (by decide))]

/-- A code unit is read from its digits. -/
theorem takeUnit?_hexDigits {unit : Nat} (small : unit < 0x10000) (rest : List Char) :
    takeUnit? (hexDigits 4 unit ++ rest) = some (unit, rest) := by
  have digits : ((unit / 16 / 16 / 16 % 16 * 16 + unit / 16 / 16 % 16) * 16 + unit / 16 % 16) * 16 +
      unit % 16 = unit := by omega
  rw [hexDigits_four]
  simp [takeUnit?, hexValue?_hexDigit, digits]

theorem takeEscapedUnits?_single {c : Char} (small : c.toNat < 0x10000) (rest : List Char) :
    takeEscapedUnits? (hexDigits 4 c.toNat ++ rest) = some (c, rest) := by
  have scalar : c.toNat < 0xD800 ∨ 0xDFFF < c.toNat ∧ c.toNat < 0x110000 := c.valid
  rw [takeEscapedUnits?, takeUnit?_hexDigits small]
  simp only [Option.bind_eq_bind, Option.bind_some]
  rw [if_neg (by omega), if_neg (by omega), Char.ofNat_toNat]

/-- Two code units that are surrogates are read as one character. -/
theorem takeEscapedUnits?_pair {high low : Nat} (isHigh : 0xD800 ≤ high ∧ high < 0xDC00)
    (isLow : 0xDC00 ≤ low ∧ low < 0xE000) (rest : List Char) :
    takeEscapedUnits? (hexDigits 4 high ++ (unitEscape low ++ rest)) =
      some (Char.ofNat (0x10000 + (high - 0xD800) * 0x400 + (low - 0xDC00)), rest) := by
  rw [takeEscapedUnits?, takeUnit?_hexDigits (by omega)]
  simp only [Option.bind_eq_bind, Option.bind_some, unitEscape, List.cons_append]
  rw [if_pos isHigh, takeUnit?_hexDigits (by omega)]
  simp only [Option.bind_some]
  rw [if_pos isLow]

/-- A character beyond the first plane, from its offset there. -/
theorem ofNat_surrogates {c : Char} (large : 0x10000 ≤ c.toNat) :
    Char.ofNat (0x10000 + (0xD800 + (c.toNat - 0x10000) / 0x400 - 0xD800) * 0x400 +
      (0xDC00 + (c.toNat - 0x10000) % 0x400 - 0xDC00)) = c := by
  have whole : 0x10000 + (0xD800 + (c.toNat - 0x10000) / 0x400 - 0xD800) * 0x400 +
      (0xDC00 + (c.toNat - 0x10000) % 0x400 - 0xDC00) = c.toNat := by omega
  rw [whole, Char.ofNat_toNat]

/-- A literal goes on behind a character that was read. -/
def withChar (c : Char) (taken : Option (List Char × List Char)) : Option (List Char × List Char) :=
  taken.map fun taken => (c :: taken.1, taken.2)

section
variable {c letter : Char} {fuel : Nat} {more source : List Char}

theorem takeLiteral?_units (units : takeEscapedUnits? source = some (c, more)) :
    takeLiteral? (fuel + 1) ('\\' :: 'u' :: source) = withChar c (takeLiteral? fuel more) := by
  rw [takeLiteral?, units, withChar, Option.map_eq_bind]
  rfl

theorem takeLiteral?_letter (escaped : escape? letter = some c) :
    takeLiteral? (fuel + 1) ('\\' :: letter :: more) = withChar c (takeLiteral? fuel more) := by
  have other : letter ≠ 'u' := by
    rintro rfl
    contradiction
  rw [takeLiteral?, escaped, withChar, Option.map_eq_bind]
  · rfl
  · exact other

theorem takeLiteral?_plain (noQuote : c ≠ '"') (noEscape : c ≠ '\\') (shown : ¬c < ' ') :
    takeLiteral? (fuel + 1) (c :: more) = withChar c (takeLiteral? fuel more) := by
  rw [takeLiteral?, if_neg (not_or.mpr ⟨noEscape, shown⟩), withChar, Option.map_eq_bind]
  · rfl
  all_goals grind

/-- One character of a literal is read from what is written for it. -/
theorem takeLiteral?_escapedChar :
    takeLiteral? (fuel + 1) (escapedChar c ++ more) = withChar c (takeLiteral? fuel more) := by
  unfold escapedChar
  -- The characters with a letter of their own come first.
  iterate 7
    split
    · next same =>
      subst same
      exact takeLiteral?_letter rfl
  split
  · next shown => exact takeLiteral?_plain ‹_› ‹_› (Char.not_lt.mpr shown.1)
  · split
    · next small => exact takeLiteral?_units (takeEscapedUnits?_single small more)
    · next large =>
      have scalar : c.toNat < 0xD800 ∨ 0xDFFF < c.toNat ∧ c.toNat < 0x110000 := c.valid
      have high : 0xD800 ≤ 0xD800 + (c.toNat - 0x10000) / 0x400 ∧
          0xD800 + (c.toNat - 0x10000) / 0x400 < 0xDC00 := by omega
      have low : 0xDC00 ≤ 0xDC00 + (c.toNat - 0x10000) % 0x400 ∧
          0xDC00 + (c.toNat - 0x10000) % 0x400 < 0xE000 := by omega
      have pair := takeEscapedUnits?_pair high low more
      rw [ofNat_surrogates (Nat.le_of_not_lt large)] at pair
      rw [List.append_assoc]
      exact takeLiteral?_units pair

theorem length_escapedChar (c : Char) : 1 ≤ (escapedChar c).length := by
  unfold escapedChar
  repeat' split
  all_goals simp [unitEscape]

/-- A text is read from its literal. -/
theorem takeLiteral?_flatMap (rest : List Char) {chars : List Char}
    (enough : (chars.flatMap escapedChar).length < fuel) :
    takeLiteral? fuel (chars.flatMap escapedChar ++ '"' :: rest) = some (chars, rest) := by
  induction chars generalizing fuel with
  | nil =>
    obtain ⟨fuel, rfl⟩ := Nat.exists_eq_succ_of_ne_zero (Nat.ne_zero_of_lt enough)
    rfl
  | cons c chars ih =>
    obtain ⟨fuel, rfl⟩ := Nat.exists_eq_succ_of_ne_zero (Nat.ne_zero_of_lt enough)
    have taken := length_escapedChar c
    rw [List.flatMap_cons, List.length_append] at enough
    rw [List.flatMap_cons, List.append_assoc, takeLiteral?_escapedChar, ih (by omega)]
    rfl

end

/-! ### Integers -/

/-- A number does not go on here. -/
def Stops (rest : List Char) : Prop :=
  ∀ c, rest.head? = some c → c.isDigit = false ∧ c ≠ '.' ∧ c ≠ 'e' ∧ c ≠ 'E'

section
variable {rest : List Char}

theorem Stops.takeFraction (stops : Stops rest) : takeFraction rest = ([], rest) := by
  unfold Json.takeFraction
  split
  · next after => exact absurd rfl (stops '.' rfl).2.1
  · rfl

theorem Stops.takeExponent (stops : Stops rest) : takeExponent rest = (none, rest) := by
  cases rest with
  | nil => rfl
  | cons c rest =>
    obtain ⟨_, _, small, capital⟩ := stops c rfl
    rw [Json.takeExponent, if_neg (not_or.mpr ⟨small, capital⟩)]

/-- Of the digits of a number only those of zero begin with a zero. -/
theorem toDigits_eq_zero_cons {n : Nat} {digits : List Char}
    (same : Nat.toDigits 10 n = '0' :: digits) : digits = [] := by
  by_contra more
  have inside : ∀ c ∈ digits, c.isDigit = true := fun c member =>
    isDigit_of_mem_toDigits c (same ▸ List.mem_cons_of_mem _ member)
  have value : Numeral.natOfDigits digits = n := by
    rw [← Numeral.natOfDigits_toDigits n, same]
    rfl
  have count := Grammar.digitCount_natOfDigits_le more inside
  rw [value, Text.digitCount, same, List.length_cons] at count
  omega

theorem takeIntegerDigits?_toDigits (n : Nat) (stops : Stops rest) :
    takeIntegerDigits? (Nat.toDigits 10 n ++ rest) = some (Nat.toDigits 10 n, rest) := by
  have whole := Grammar.takeDigits_append (isDigit_of_mem_toDigits (n := n))
    fun c head => (stops c head).1
  unfold takeIntegerDigits?
  split
  · next after zero =>
    -- A zero ends the number, and none of its digits follow.
    cases digits : Nat.toDigits 10 n with
    | nil => exact absurd digits Nat.toDigits_ne_nil
    | cons first more =>
      rw [digits, List.cons_append] at zero
      obtain ⟨rfl, rfl⟩ := List.cons.inj zero
      rw [toDigits_eq_zero_cons digits]
      rfl
  · simp [whole]

theorem takeNumber_toDigits (negative : Bool) {n : Nat} (stops : Stops rest)
    (short : (Nat.toDigits 10 n).length ≤ digitLimit) :
    takeNumber negative (Nat.toDigits 10 n ++ rest) =
      .ok (int (if negative then -n else n), rest) := by
  rw [takeNumber, takeIntegerDigits?_toDigits n stops]
  simp only [stops.takeFraction, stops.takeExponent, Numeral.natOfDigits_toDigits]
  simp [Nat.not_lt.mpr short]

/-- A text that does not begin as a word does has nothing after the word. -/
theorem afterWord?_of_head {word : String} {source : List Char} {c : Char} (first : Char)
    (head : word.toList.head? = some first) (other : first ≠ c) :
    afterWord? word (c :: source) = none := by
  refine if_neg fun found => other ?_
  obtain ⟨after, same⟩ := List.isPrefixOf_iff_prefix.mp found
  obtain ⟨letters, spelled⟩ := List.head?_eq_some_iff.mp head
  rw [spelled] at same
  exact (List.cons.inj same).1

section
variable {c : Char} {source : List Char} (digit : c.isDigit = true)
include digit

theorem ne_of_isDigit (letter : Char) (noDigit : letter.isDigit = false) : letter ≠ c := by
  rintro rfl
  exact Bool.false_ne_true (noDigit.symm.trans digit)

theorem takeScalar_digit : takeScalar (c :: source) = takeNumber false (c :: source) := by
  have other := ne_of_isDigit digit
  rw [takeScalar, afterWord?_of_head 'n' rfl (other _ rfl),
    afterWord?_of_head 't' rfl (other _ rfl),
    afterWord?_of_head 'f' rfl (other _ rfl),
    afterWord?_of_head 'N' rfl (other _ rfl),
    afterWord?_of_head 'I' rfl (other _ rfl),
    afterWord?_of_head '-' rfl (other _ rfl)]
  exact fun magnitude same => other _ rfl (List.cons.inj same).1.symm

theorem takeScalar_minus : takeScalar ('-' :: c :: source) = takeNumber true (c :: source) := by
  have infinite : afterWord? "-Infinity" ('-' :: c :: source) = none := by
    refine if_neg fun found => ne_of_isDigit digit 'I' rfl ?_
    obtain ⟨after, same⟩ := List.isPrefixOf_iff_prefix.mp found
    exact (List.cons.inj (List.cons.inj same).2).1
  rw [takeScalar, infinite, afterWord?_of_head 'n' rfl (by decide),
    afterWord?_of_head 't' rfl (by decide),
    afterWord?_of_head 'f' rfl (by decide),
    afterWord?_of_head 'N' rfl (by decide),
    afterWord?_of_head 'I' rfl (by decide)]

end

theorem exists_digit_cons (n : Nat) :
    ∃ first more, Nat.toDigits 10 n = first :: more ∧ first.isDigit = true := by
  obtain ⟨first, more, digits⟩ :=
    List.exists_cons_of_ne_nil (Nat.toDigits_ne_nil (b := 10) (n := n))
  exact ⟨first, more, digits, isDigit_of_mem_toDigits first (digits ▸ List.mem_cons_self)⟩

theorem intLiteral?_eq_some {n : Int} {written : List Char} : intLiteral? n = some written ↔
    (Nat.toDigits 10 n.natAbs).length ≤ digitLimit ∧
      written = if n < 0 then '-' :: Nat.toDigits 10 n.natAbs else Nat.toDigits 10 n.natAbs := by
  rw [intLiteral?, Option.ite_none_left_eq_some, Nat.not_lt, Option.some.injEq, @eq_comm _ written]

/-- An integer is read from its literal. -/
theorem takeScalar_intLiteral {n : Int} {written : List Char}
    (literal : intLiteral? n = some written) (stops : Stops rest) :
    takeScalar (written ++ rest) = .ok (int n, rest) := by
  obtain ⟨short, rfl⟩ := intLiteral?_eq_some.mp literal
  have number (negative : Bool) := takeNumber_toDigits negative stops short
  obtain ⟨first, more, digits, digit⟩ := exists_digit_cons n.natAbs
  split
  · next negative =>
    have value : -(n.natAbs : Int) = n := by omega
    rw [digits] at number ⊢
    rw [List.cons_append, List.cons_append, takeScalar_minus digit, ← List.cons_append,
      number true, if_pos rfl, value]
  · next positive =>
    have value : (n.natAbs : Int) = n := by omega
    rw [digits] at number ⊢
    rw [List.cons_append, takeScalar_digit digit, ← List.cons_append, number false,
      if_neg Bool.false_ne_true, value]

end

section
variable {n : Int} {written : List Char}

theorem isSpace_of_isDigit {c : Char} (digit : c.isDigit = true) : isSpace c = false := by
  rw [Bool.eq_false_iff]
  intro space
  simp only [isSpace, Bool.or_eq_true, beq_iff_eq] at space
  rcases space with ((rfl | rfl) | rfl) | rfl <;> contradiction

/-- What is written for an integer begins with a minus or with a digit. -/
theorem exists_head_intLiteral {n : Int} (literal : intLiteral? n = some written) :
    ∃ c more, written = c :: more ∧ (c = '-' ∨ c.isDigit = true) := by
  obtain ⟨-, rfl⟩ := intLiteral?_eq_some.mp literal
  split
  · exact ⟨_, _, rfl, .inl rfl⟩
  · obtain ⟨first, more, digits, digit⟩ := exists_digit_cons n.natAbs
    exact ⟨first, more, digits, .inr digit⟩

end

/-! ### Characters -/

/-- All characters are ASCII characters. -/
def Ascii (text : List Char) : Prop :=
  ∀ c ∈ text, c.toNat < 128

instance (text : List Char) : Decidable (Ascii text) :=
  List.decidableBAll _ text

theorem ascii_append {text more : List Char} : Ascii (text ++ more) ↔ Ascii text ∧ Ascii more :=
  List.forall_mem_append

theorem ascii_cons {c : Char} {text : List Char} :
    Ascii (c :: text) ↔ c.toNat < 128 ∧ Ascii text :=
  List.forall_mem_cons

theorem ascii_hexDigits (width n : Nat) : Ascii (hexDigits width n) := by
  have digit : ∀ k < 16, (hexDigit k).toNat < 128 := by decide
  induction width generalizing n with
  | zero => exact List.forall_mem_nil _
  | succ width ih =>
    refine ascii_append.mpr ⟨ih _, List.forall_mem_singleton.mpr ?_⟩
    rw [← hexDigit_mod]
    exact digit _ (Nat.mod_lt n (by decide))

theorem ascii_unitEscape (unit : Nat) : Ascii (unitEscape unit) :=
  ascii_cons.mpr ⟨by decide, ascii_cons.mpr ⟨by decide, ascii_hexDigits 4 unit⟩⟩

theorem ascii_escapedChar (c : Char) : Ascii (escapedChar c) := by
  unfold escapedChar
  iterate 7
    split
    · decide
  split
  · next shown =>
    refine List.forall_mem_singleton.mpr ?_
    have bound : c.toNat ≤ '~'.toNat := shown.2
    exact Nat.lt_of_le_of_lt bound (by decide)
  · split
    · exact ascii_unitEscape _
    · exact ascii_append.mpr ⟨ascii_unitEscape _, ascii_unitEscape _⟩

theorem ascii_textLiteral (s : String) : Ascii (textLiteral s) := by
  refine ascii_cons.mpr ⟨by decide, ascii_append.mpr ⟨?_, by decide⟩⟩
  intro c member
  obtain ⟨shown, _, among⟩ := List.mem_flatMap.mp member
  exact ascii_escapedChar shown c among

theorem ascii_of_isDigit {c : Char} (digit : c.isDigit = true) : c.toNat < 128 := by
  have bound := (Grammar.isDigit_iff.mp digit).2
  omega

theorem ascii_of_isSpace {c : Char} (space : isSpace c = true) : c.toNat < 128 := by
  simp only [isSpace, Bool.or_eq_true, beq_iff_eq] at space
  rcases space with ((rfl | rfl) | rfl) | rfl <;> decide

theorem ascii_intLiteral {n : Int} (literal : intLiteral? n = some written) : Ascii written := by
  obtain ⟨-, rfl⟩ := intLiteral?_eq_some.mp literal
  have digits : Ascii (Nat.toDigits 10 n.natAbs) :=
    fun c member => ascii_of_isDigit (isDigit_of_mem_toDigits c member)
  split
  · exact ascii_cons.mpr ⟨by decide, digits⟩
  · exact digits

end Json

end Formula
