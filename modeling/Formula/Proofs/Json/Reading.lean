import Formula.Config.Document
import Formula.Proofs.Number.Conversion

/-! What reading JSON can come to. A text is read, or it is malformed, or an integer in it has more
digits than the limit; then the text has these digits in a row. Every value that is read has a
text, since its integers are within the limit. -/
namespace Formula.Json

/-- The text has this many digits in a row, and they are beyond the limit. -/
def HasLongRun (digits : Nat) (source : List Char) : Prop :=
  digitLimit < digits ∧
    ∃ run, run <:+: source ∧ run.length = digits ∧ ∀ c ∈ run, c.isDigit = true

theorem HasLongRun.of_suffix (long : HasLongRun digits rest) (suffix : rest <:+ source) :
    HasLongRun digits source := by
  obtain ⟨limit, run, inside, length, digit⟩ := long
  exact ⟨limit, run, inside.trans suffix.isInfix, length, digit⟩

/-- What is read at the start of a text has a property, and the rest is what follows it. An integer
is refused for its digits only if they are there. -/
def Takes (source : List Char) (P : α → Prop) : Except Refusal (α × List Char) → Prop
  | .ok (a, rest) => P a ∧ rest <:+ source
  | .error .malformed => True
  | .error (.integerTooLong digits) => HasLongRun digits source

section
variable {source rest : List Char} {P : α → Prop} {outcome : Except Refusal (α × List Char)}

theorem Takes.of_suffix (takes : Takes rest P outcome) (suffix : rest <:+ source) :
    Takes source P outcome := by
  match outcome with
  | .ok (a, after) => exact ⟨takes.1, takes.2.trans suffix⟩
  | .error .malformed => trivial
  | .error (.integerTooLong digits) => exact HasLongRun.of_suffix takes suffix

theorem takes_bind {next : α × List Char → Except Refusal (β × List Char)} {Q : β → Prop}
    (first : Takes source P outcome)
    (second : ∀ a rest, P a → rest <:+ source → Takes rest Q (next (a, rest))) :
    Takes source Q (outcome >>= next) := by
  match outcome with
  | .ok (a, rest) => exact (second a rest first.1 first.2).of_suffix first.2
  | .error .malformed => trivial
  | .error (.integerTooLong digits) => exact first

end

theorem skipSpace_suffix (source : List Char) : skipSpace source <:+ source :=
  List.dropWhile_suffix _

/-! ### Text literals -/

theorem takeUnit?_suffix (taken : takeUnit? source = some (unit, rest)) : rest <:+ source := by
  unfold takeUnit? at taken
  split at taken
  · next a b c d after =>
    simp only [Option.bind_eq_bind, Option.bind_eq_some_iff, Option.some.injEq,
      Prod.mk.injEq] at taken
    obtain ⟨_, _, _, _, _, _, _, _, _, rfl⟩ := taken
    exact List.suffix_append [a, b, c, d] after
  · contradiction

theorem takeEscapedUnits?_suffix (taken : takeEscapedUnits? source = some (c, rest)) :
    rest <:+ source := by
  unfold takeEscapedUnits? at taken
  obtain ⟨⟨high, after⟩, unit, taken⟩ := Option.bind_eq_some_iff.mp taken
  refine List.IsSuffix.trans ?_ (takeUnit?_suffix unit)
  dsimp only at taken
  split at taken
  · split at taken
    · next further =>
      obtain ⟨⟨low, last⟩, second, taken⟩ := Option.bind_eq_some_iff.mp taken
      dsimp only at taken
      split at taken
      · obtain ⟨_, rfl⟩ := Prod.mk.inj (Option.some.inj taken)
        exact (takeUnit?_suffix second).trans (List.suffix_append ['\\', 'u'] further)
      · obtain ⟨_, rfl⟩ := Prod.mk.inj (Option.some.inj taken)
        exact List.suffix_refl _
    · obtain ⟨_, rfl⟩ := Prod.mk.inj (Option.some.inj taken)
      exact List.suffix_refl _
  · split at taken <;>
    · obtain ⟨_, rfl⟩ := Prod.mk.inj (Option.some.inj taken)
      exact List.suffix_refl _

theorem takeLiteral?_suffix (taken : takeLiteral? fuel source = some (chars, rest)) :
    rest <:+ source := by
  fun_induction takeLiteral? fuel source generalizing chars rest with
  | case1 | case2 => contradiction
  | case3 fuel after =>
    cases taken
    exact List.suffix_cons _ _
  | case4 fuel after ih =>
    obtain ⟨⟨c, middle⟩, units, taken⟩ := Option.bind_eq_some_iff.mp taken
    obtain ⟨⟨others, final⟩, literal, taken⟩ := Option.bind_eq_some_iff.mp taken
    obtain ⟨_, rfl⟩ := Prod.mk.inj (Option.some.inj taken)
    exact ((ih middle literal).trans (takeEscapedUnits?_suffix units)).trans
      (List.suffix_append ['\\', 'u'] after)
  | case5 fuel letter after _ ih =>
    obtain ⟨c, _, taken⟩ := Option.bind_eq_some_iff.mp taken
    obtain ⟨⟨others, final⟩, literal, taken⟩ := Option.bind_eq_some_iff.mp taken
    obtain ⟨_, rfl⟩ := Prod.mk.inj (Option.some.inj taken)
    exact (ih literal).trans (List.suffix_append ['\\', letter] after)
  | case6 => contradiction
  | case7 fuel c after _ _ _ _ ih =>
    obtain ⟨⟨others, final⟩, literal, taken⟩ := Option.bind_eq_some_iff.mp taken
    obtain ⟨_, rfl⟩ := Prod.mk.inj (Option.some.inj taken)
    exact (ih literal).trans (List.suffix_cons c after)

/-! ### Numbers -/

theorem takeDigits_eq (source : List Char) :
    source = (Numeral.takeDigits source).1 ++ (Numeral.takeDigits source).2 ∧
      ∀ c ∈ (Numeral.takeDigits source).1, c.isDigit = true := by
  rw [Numeral.takeDigits, List.span_eq_takeWhile_dropWhile]
  exact ⟨(List.takeWhile_append_dropWhile).symm, Grammar.digit_of_mem_digits⟩

theorem takeDigits_suffix (source : List Char) : (Numeral.takeDigits source).2 <:+ source :=
  ⟨_, (takeDigits_eq source).1.symm⟩

theorem takeIntegerDigits?_eq (taken : takeIntegerDigits? source = some (whole, rest)) :
    source = whole ++ rest ∧ whole ≠ [] ∧ ∀ c ∈ whole, c.isDigit = true := by
  unfold takeIntegerDigits? at taken
  split at taken
  · obtain ⟨rfl, rfl⟩ := Prod.mk.inj (Option.some.inj taken)
    exact ⟨rfl, List.cons_ne_nil _ _, List.forall_mem_singleton.mpr rfl⟩
  · obtain ⟨parts, digits⟩ := takeDigits_eq source
    dsimp only at taken
    split at taken
    · contradiction
    · next present =>
      obtain ⟨rfl, rfl⟩ := Prod.mk.inj (Option.some.inj taken)
      exact ⟨parts, by simpa using present, digits⟩

theorem takeFraction_suffix (source : List Char) : (takeFraction source).2 <:+ source := by
  unfold takeFraction
  split
  · next rest =>
    dsimp only
    split
    · exact List.suffix_refl _
    · exact (takeDigits_suffix rest).trans (List.suffix_cons _ _)
  · exact List.suffix_refl _

theorem takeSign_suffix (source : List Char) : (Numeral.takeSign source).2 <:+ source := by
  unfold Numeral.takeSign
  split
  · exact List.suffix_cons _ _
  · exact List.suffix_cons _ _
  · exact List.suffix_refl _

theorem takeExponent_suffix (source : List Char) : (takeExponent source).2 <:+ source := by
  unfold takeExponent
  split
  · next c rest =>
    split
    · dsimp only
      split
      · exact List.suffix_refl _
      · exact ((takeDigits_suffix _).trans (takeSign_suffix rest)).trans (List.suffix_cons c rest)
    · exact List.suffix_refl _
  · exact List.suffix_refl _

/-- A value with a quoted text, and so one whose integers are within the limit. -/
def Quotable (json : Json) : Prop :=
  json.toValue.quoted?.isSome = true

theorem quotable_int {n : Int} {digits : List Char} (nonempty : digits ≠ [])
    (inside : ∀ c ∈ digits, c.isDigit = true) (limited : digits.length ≤ digitLimit)
    (magnitude : n.natAbs = Numeral.natOfDigits digits) : Quotable (int n) := by
  have count := Grammar.digitCount_natOfDigits_le nonempty inside
  have within : ¬digitLimit < Text.digitCount n.natAbs := by
    rw [magnitude]
    omega
  rw [Quotable, toValue, Value.quoted?, Value.intText?, if_neg within]
  rfl

theorem takes_takeNumber (negative : Bool) (source : List Char) :
    Takes source Quotable (takeNumber negative source) := by
  unfold takeNumber
  split
  · trivial
  · next whole rest digits =>
    obtain ⟨rfl, nonempty, inside⟩ := takeIntegerDigits?_eq digits
    have after : (takeExponent (takeFraction rest).2).2 <:+ whole ++ rest :=
      ((takeExponent_suffix _).trans (takeFraction_suffix rest)).trans
        (List.suffix_append whole rest)
    dsimp only
    split
    · split
      · next beyond => exact ⟨beyond, whole, ⟨[], rest, rfl⟩, rfl, inside⟩
      · next within =>
        refine ⟨quotable_int nonempty inside (Nat.le_of_not_lt within) ?_, after⟩
        split
        · exact Int.natAbs_neg _
        · rfl
    · exact ⟨rfl, after⟩

theorem afterWord?_suffix (found : afterWord? word source = some rest) : rest <:+ source := by
  unfold afterWord? at found
  obtain ⟨_, same⟩ := Option.ite_none_right_eq_some.mp found
  exact Option.some.inj same ▸ List.drop_suffix _ _

theorem takes_takeScalar (source : List Char) : Takes source Quotable (takeScalar source) := by
  unfold takeScalar
  split
  iterate 6 exact ⟨rfl, afterWord?_suffix (by assumption)⟩
  split
  · exact (takes_takeNumber true _).of_suffix (List.suffix_cons _ _)
  · exact takes_takeNumber false source

/-! ### Values -/

theorem quotable_array {items : List Json} (quotable : ∀ item ∈ items, Quotable item) :
    Quotable (array items) := by
  have parts : (Value.quotedAll? (toValues items)).isSome = true := by
    induction items with
    | nil => rfl
    | cons item items ih =>
      obtain ⟨first, others⟩ := List.forall_mem_cons.mp quotable
      obtain ⟨quoted, isQuoted⟩ := Option.isSome_iff_exists.mp first
      obtain ⟨rest, areQuoted⟩ := Option.isSome_iff_exists.mp (ih others)
      rw [toValues, Value.quotedAll?, isQuoted, areQuoted]
      rfl
  obtain ⟨quoted, isQuoted⟩ := Option.isSome_iff_exists.mp parts
  rw [Quotable, toValue, Value.quoted?, isQuoted]
  rfl

theorem quotable_object {fields : List (String × Json)}
    (quotable : ∀ field ∈ fields, Quotable field.2) : Quotable (object fields) := by
  have parts : (Value.quotedEntries? (toEntries fields)).isSome = true := by
    induction fields with
    | nil => rfl
    | cons field fields ih =>
      obtain ⟨first, others⟩ := List.forall_mem_cons.mp quotable
      obtain ⟨quoted, isQuoted⟩ := Option.isSome_iff_exists.mp first
      obtain ⟨rest, areQuoted⟩ := Option.isSome_iff_exists.mp (ih others)
      rw [toEntries, Value.quotedEntries?, Value.quoted?, isQuoted, areQuoted]
      rfl
  obtain ⟨quoted, isQuoted⟩ := Option.isSome_iff_exists.mp parts
  rw [Quotable, toValue, Value.quoted?, isQuoted]
  rfl

theorem forall_insertField {fields : List (String × Json)}
    (kept : ∀ field ∈ fields, Quotable field.2) (quotable : Quotable content) (name : String) :
    ∀ field ∈ insertField fields name content, Quotable field.2 := by
  unfold insertField
  split
  · intro field member
    obtain ⟨old, earlier, rfl⟩ := List.mem_map.mp member
    split
    · exact quotable
    · exact kept old earlier
  · exact List.forall_mem_append.mpr ⟨kept, List.forall_mem_singleton.mpr quotable⟩

theorem quotable_ofFields {fields : List (String × Json)}
    (quotable : ∀ field ∈ fields, Quotable field.2) : Quotable (ofFields fields) := by
  have folded : ∀ kept : List (String × Json), (∀ field ∈ kept, Quotable field.2) →
      ∀ field ∈ fields.foldl (fun kept field => insertField kept field.1 field.2) kept,
        Quotable field.2 := by
    induction fields with
    | nil => exact fun kept all => all
    | cons field fields ih =>
      obtain ⟨first, others⟩ := List.forall_mem_cons.mp quotable
      exact fun kept all => ih others _ (forall_insertField all first field.1)
  exact quotable_object (folded [] nofun)

mutual

/-- A value that is read is quotable, and only digits in a row are refused for their number. -/
theorem takes_takeValue (fuel : Nat) (source : List Char) :
    Takes source Quotable (takeValue fuel source) := by
  unfold takeValue
  split
  · trivial
  · next fuel rest =>
    cases literal : takeLiteral? fuel rest with
    | some taken =>
      exact ⟨rfl, (takeLiteral?_suffix literal).trans (List.suffix_cons _ _)⟩
    | none => trivial
  · next fuel rest =>
    have opened : skipSpace rest <:+ '[' :: rest :=
      (skipSpace_suffix rest).trans (List.suffix_cons _ _)
    split
    · next after space =>
      rw [space] at opened
      exact ⟨rfl, (List.suffix_cons _ _).trans opened⟩
    · refine (takes_bind (takes_takeItems fuel (skipSpace rest)) ?_).of_suffix opened
      exact fun items after quotable _ => ⟨quotable_array quotable, List.suffix_refl _⟩
  · next fuel rest =>
    have opened : skipSpace rest <:+ '\x7b' :: rest :=
      (skipSpace_suffix rest).trans (List.suffix_cons _ _)
    split
    · next after space =>
      rw [space] at opened
      exact ⟨rfl, (List.suffix_cons _ _).trans opened⟩
    · refine (takes_bind (takes_takeFields fuel (skipSpace rest)) ?_).of_suffix opened
      exact fun fields after quotable _ => ⟨quotable_ofFields quotable, List.suffix_refl _⟩
  · exact takes_takeScalar source

theorem takes_takeItems (fuel : Nat) (source : List Char) :
    Takes source (fun items => ∀ item ∈ items, Quotable item) (takeItems fuel source) := by
  unfold takeItems
  split
  · trivial
  · next fuel =>
    refine takes_bind (takes_takeValue fuel source) fun item after quotable _ => ?_
    have behind := skipSpace_suffix after
    dsimp only
    split
    · next rest comma =>
      rw [comma] at behind
      have further : skipSpace rest <:+ after :=
        ((skipSpace_suffix rest).trans (List.suffix_cons _ _)).trans behind
      refine (takes_bind (takes_takeItems fuel (skipSpace rest)) ?_).of_suffix further
      exact fun items final all _ =>
        ⟨List.forall_mem_cons.mpr ⟨quotable, all⟩, List.suffix_refl _⟩
    · next final close =>
      rw [close] at behind
      exact ⟨List.forall_mem_singleton.mpr quotable, (List.suffix_cons _ _).trans behind⟩
    · trivial

theorem takes_takeFields (fuel : Nat) (source : List Char) :
    Takes source (fun fields => ∀ field ∈ fields, Quotable field.2) (takeFields fuel source) := by
  unfold takeFields
  split
  · trivial
  · next fuel start =>
    split
    · trivial
    · next chars afterName literal =>
      have named := (takeLiteral?_suffix literal).trans (List.suffix_cons '"' start)
      have colon := skipSpace_suffix afterName
      split
      · next rest isColon =>
        rw [isColon] at colon
        have content : skipSpace rest <:+ '"' :: start :=
          (((skipSpace_suffix rest).trans (List.suffix_cons _ _)).trans colon).trans named
        refine (takes_bind (takes_takeValue fuel (skipSpace rest)) ?_).of_suffix content
        intro value after quotable _
        have behind := skipSpace_suffix after
        dsimp only
        split
        · next rest comma =>
          rw [comma] at behind
          have further : skipSpace rest <:+ after :=
            ((skipSpace_suffix rest).trans (List.suffix_cons _ _)).trans behind
          refine (takes_bind (takes_takeFields fuel (skipSpace rest)) ?_).of_suffix further
          exact fun fields final all _ =>
            ⟨List.forall_mem_cons.mpr ⟨quotable, all⟩, List.suffix_refl _⟩
        · next final close =>
          rw [close] at behind
          exact ⟨List.forall_mem_singleton.mpr quotable, (List.suffix_cons _ _).trans behind⟩
        · trivial
      · trivial
  · trivial

end

/-- What a text comes to: a value that is quotable, or a refusal, for the digits of an integer only
if the text has them in a row, beyond the limit. -/
theorem read_cases (source : String) :
    (∃ json, read source = .ok json ∧ Quotable json) ∨ read source = .error .malformed ∨
      ∃ digits, read source = .error (.integerTooLong digits) ∧
        HasLongRun digits source.toList := by
  have takes := takes_takeValue (source.toList.length + 1) (skipSpace source.toList)
  cases taken : takeValue (source.toList.length + 1) (skipSpace source.toList) with
  | ok value =>
    rw [taken] at takes
    have rest : read source =
        if (skipSpace value.2).isEmpty then .ok value.1 else .error .malformed := by
      rw [read, taken]
      rfl
    rw [rest]
    split
    · exact .inl ⟨value.1, rfl, takes.1⟩
    · exact .inr (.inl rfl)
  | error refusal =>
    rw [taken] at takes
    have refused : read source = .error refusal := by
      rw [read, taken]
      rfl
    cases refusal with
    | malformed => exact .inr (.inl refused)
    | integerTooLong digits =>
      exact .inr (.inr ⟨digits, refused, takes.of_suffix (skipSpace_suffix _)⟩)

end Formula.Json
