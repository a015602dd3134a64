import Formula.Proofs.Json.Literals
import Formula.Proofs.Json.Writing

/-! Reading what was written. A value without numbers in binary64 is read from the text that it is
written as, whatever sets its parts apart, as long as that is white space. Its text consists of
ASCII characters; it has none exactly if an integer in it is beyond the digit limit. -/
namespace Formula.Json

/-! ### Layouts -/

/-- What sets parts apart is white space. -/
def Layout.Blank : Layout → Prop
  | .oneLine => True
  | .indented unit => ∀ c ∈ unit, isSpace c = true

theorem Layout.blank_blanks (width : Nat) : (Layout.blanks width).Blank := by
  intro c member
  rw [List.eq_of_mem_replicate member]
  rfl

section
variable {layout : Layout} {depth : Nat}

theorem Layout.Blank.lead (blank : layout.Blank) (depth : Nat) :
    ∀ c ∈ layout.lead depth, isSpace c = true := by
  cases layout with
  | oneLine => exact List.forall_mem_nil _
  | indented unit =>
    refine List.forall_mem_cons.mpr ⟨rfl, fun c member => ?_⟩
    obtain ⟨copy, among, inside⟩ := List.mem_flatten.mp member
    exact blank c (List.eq_of_mem_replicate among ▸ inside)

theorem Layout.Blank.separator (blank : layout.Blank) (depth : Nat) :
    ∃ gap, layout.separator depth = ',' :: gap ∧ ∀ c ∈ gap, isSpace c = true := by
  cases layout with
  | oneLine => exact ⟨[' '], rfl, List.forall_mem_singleton.mpr rfl⟩
  | indented unit => exact ⟨_, rfl, blank.lead depth⟩

end

theorem skipSpace_append {gap : List Char} (blank : ∀ c ∈ gap, isSpace c = true)
    (rest : List Char) : skipSpace (gap ++ rest) = skipSpace rest :=
  List.dropWhile_append_of_pos blank

theorem skipSpace_cons {c : Char} (solid : isSpace c = false) (rest : List Char) :
    skipSpace (c :: rest) = c :: rest :=
  List.dropWhile_cons_of_neg (by simp [solid])

theorem stops_of_isSpace {c : Char} (space : isSpace c = true) :
    c.isDigit = false ∧ c ≠ '.' ∧ c ≠ 'e' ∧ c ≠ 'E' := by
  simp only [isSpace, Bool.or_eq_true, beq_iff_eq] at space
  rcases space with ((rfl | rfl) | rfl) | rfl <;> decide

theorem stops_of_blank {gap : List Char} (blank : ∀ c ∈ gap, isSpace c = true) : Stops gap :=
  fun c head => stops_of_isSpace (blank c (List.mem_of_head? head))

theorem stops_append {gap : List Char} {c : Char} (blank : ∀ c ∈ gap, isSpace c = true)
    (stops : c.isDigit = false ∧ c ≠ '.' ∧ c ≠ 'e' ∧ c ≠ 'E') (rest : List Char) :
    Stops (gap ++ c :: rest) := by
  cases gap with
  | nil =>
    rintro _ ⟨⟩
    exact stops
  | cons space gap =>
    rintro _ ⟨⟩
    exact stops_of_isSpace (blank space List.mem_cons_self)

/-! ### Values -/

/-- A value that is written without loss: no number in it is in binary64, and no object has two
fields of one name. -/
inductive Exact : Json → Prop
  | null : Exact null
  | bool (b : Bool) : Exact (bool b)
  | int (n : Int) : Exact (int n)
  | text (s : String) : Exact (text s)
  | array {items : List Json} (each : ∀ item ∈ items, Exact item) : Exact (array items)
  | object {fields : List (String × Json)} (names : (fields.map (·.1)).Nodup)
      (each : ∀ field ∈ fields, Exact field.2) : Exact (object fields)

/-- With names that differ, fields are an object as they are. -/
theorem ofFields_eq_object {fields : List (String × Json)} (names : (fields.map (·.1)).Nodup) :
    ofFields fields = object fields := by
  have kept : ∀ earlier : List (String × Json), ((earlier ++ fields).map (·.1)).Nodup →
      fields.foldl (fun kept field => insertField kept field.1 field.2) earlier =
        earlier ++ fields := by
    clear names
    induction fields with
    | nil => simp
    | cons field fields ih =>
      intro earlier names
      have absent : earlier.any (·.1 == field.1) = false := by
        rw [List.map_append, List.map_cons, List.nodup_append] at names
        refine List.any_eq_false.mpr fun other member same => ?_
        exact names.2.2 _ (List.mem_map_of_mem member) _ List.mem_cons_self (eq_of_beq same)
      rw [List.foldl_cons, insertField, absent, if_neg Bool.false_ne_true, ih]
      · simp
      · simpa using names
  exact congrArg object (kept [] names)

section
variable {layout : Layout} {depth : Nat} {written : List Char}

theorem chars?_array_eq_some {item : Json} {items : List Json} :
    (array (item :: items)).chars? layout depth = some written ↔
      ∃ first others, item.chars? layout (depth + 1) = some first ∧
        itemChars? layout (depth + 1) items = some others ∧
        written = '[' ::
          (layout.lead (depth + 1) ++ first ++ others ++ layout.lead depth ++ [']']) := by
  simp only [chars?, Option.bind_eq_bind, Option.bind_eq_some_iff, Option.some.injEq,
    exists_and_left, @eq_comm _ written]

theorem chars?_object_eq_some {name : String} {json : Json} {fields : List (String × Json)} :
    (object ((name, json) :: fields)).chars? layout depth = some written ↔
      ∃ first others, json.chars? layout (depth + 1) = some first ∧
        fieldChars? layout (depth + 1) fields = some others ∧
        written = '\x7b' :: (layout.lead (depth + 1) ++ textLiteral name ++ [':', ' '] ++ first ++
          others ++ layout.lead depth ++ ['\x7d']) := by
  simp only [chars?, Option.bind_eq_bind, Option.bind_eq_some_iff, Option.some.injEq,
    exists_and_left, @eq_comm _ written]

theorem itemChars?_eq_some {item : Json} {items : List Json} :
    itemChars? layout depth (item :: items) = some written ↔
      ∃ first others, item.chars? layout depth = some first ∧
        itemChars? layout depth items = some others ∧
        written = layout.separator depth ++ first ++ others := by
  simp only [itemChars?, Option.bind_eq_bind, Option.bind_eq_some_iff, Option.some.injEq,
    exists_and_left, @eq_comm _ written]

theorem fieldChars?_eq_some {name : String} {json : Json} {fields : List (String × Json)} :
    fieldChars? layout depth ((name, json) :: fields) = some written ↔
      ∃ first others, json.chars? layout depth = some first ∧
        fieldChars? layout depth fields = some others ∧
        written = layout.separator depth ++ textLiteral name ++ [':', ' '] ++ first ++ others := by
  simp only [fieldChars?, Option.bind_eq_bind, Option.bind_eq_some_iff, Option.some.injEq,
    exists_and_left, @eq_comm _ written]

end

section
variable {layout : Layout} {depth fuel : Nat} {json item : Json} {written rest after : List Char}

/-- What is written for a value begins with a character that is no space and closes no array. -/
theorem exists_head (exact : json.Exact) (isWritten : json.chars? layout depth = some written) :
    ∃ c more, written = c :: more ∧ isSpace c = false ∧ c ≠ ']' := by
  cases exact with
  | null => exact ⟨_, _, (Option.some.inj isWritten).symm, rfl, by decide⟩
  | bool b => cases b <;> exact ⟨_, _, (Option.some.inj isWritten).symm, rfl, by decide⟩
  | int n =>
    obtain ⟨c, more, rfl, rfl | digit⟩ := exists_head_intLiteral isWritten
    · exact ⟨_, _, rfl, rfl, by decide⟩
    · exact ⟨_, _, rfl, isSpace_of_isDigit digit, (ne_of_isDigit digit _ rfl).symm⟩
  | text s => exact ⟨_, _, (Option.some.inj isWritten).symm, rfl, by decide⟩
  | @array items each =>
    cases items with
    | nil => exact ⟨_, _, (Option.some.inj isWritten).symm, rfl, by decide⟩
    | cons item items =>
      obtain ⟨_, _, -, -, rfl⟩ := chars?_array_eq_some.mp isWritten
      exact ⟨_, _, rfl, rfl, by decide⟩
  | @object fields names each =>
    cases fields with
    | nil => exact ⟨_, _, (Option.some.inj isWritten).symm, rfl, by decide⟩
    | cons field fields =>
      obtain ⟨_, _, -, -, rfl⟩ := chars?_object_eq_some.mp isWritten
      exact ⟨_, _, rfl, rfl, by decide⟩

/-! ### Steps of the reader -/

theorem takeValue_scalar {c : Char} (noText : c ≠ '"') (noArray : c ≠ '[') (noObject : c ≠ '\x7b') :
    takeValue (fuel + 1) (c :: rest) = takeScalar (c :: rest) := by
  rw [takeValue]
  all_goals grind

theorem takeValue_array {c : Char} {more : List Char} {items : List Json}
    (opened : skipSpace written = c :: more) (some : c ≠ ']')
    (taken : takeItems fuel (c :: more) = .ok (items, rest)) :
    takeValue (fuel + 1) ('[' :: written) = .ok (array items, rest) := by
  rw [takeValue, opened]
  split
  · next same => exact absurd (List.cons.inj same).1 some
  · rw [taken]
    rfl

theorem takeValue_object {more : List Char} {fields : List (String × Json)}
    (opened : skipSpace written = '"' :: more)
    (taken : takeFields fuel ('"' :: more) = .ok (fields, rest)) :
    takeValue (fuel + 1) ('\x7b' :: written) = .ok (ofFields fields, rest) := by
  rw [takeValue, opened]
  change (takeFields fuel ('"' :: more) >>= _) = _
  rw [taken]
  rfl

theorem takeItems_next (first : takeValue fuel written = .ok (item, after))
    (comma : skipSpace after = ',' :: rest) :
    takeItems (fuel + 1) written =
      takeItems fuel (skipSpace rest) >>= fun taken => .ok (item :: taken.1, taken.2) := by
  rw [takeItems, first]
  dsimp only [bind, Except.bind]
  rw [comma]
  rfl

theorem takeItems_last (first : takeValue fuel written = .ok (item, after))
    (close : skipSpace after = ']' :: rest) :
    takeItems (fuel + 1) written = .ok ([item], rest) := by
  rw [takeItems, first]
  dsimp only [bind, Except.bind]
  rw [close]
  rfl

section
variable {name : List Char} {content : List Char}
  (literal : takeLiteral? fuel written = some (name, content))
  (first : takeValue fuel (skipSpace rest) = .ok (json, after))
include literal first

theorem takeFields_next (colon : skipSpace content = ':' :: rest) {further : List Char}
    (comma : skipSpace after = ',' :: further) :
    takeFields (fuel + 1) ('"' :: written) =
      takeFields fuel (skipSpace further) >>= fun taken =>
        .ok ((String.ofList name, json) :: taken.1, taken.2) := by
  rw [takeFields, literal]
  dsimp only
  rw [colon]
  change (takeValue fuel (skipSpace rest) >>= _) = _
  rw [first]
  dsimp only [bind, Except.bind]
  rw [comma]
  rfl

theorem takeFields_last (colon : skipSpace content = ':' :: rest) {final : List Char}
    (close : skipSpace after = '\x7d' :: final) :
    takeFields (fuel + 1) ('"' :: written) = .ok ([(String.ofList name, json)], final) := by
  rw [takeFields, literal]
  dsimp only
  rw [colon]
  change (takeValue fuel (skipSpace rest) >>= _) = _
  rw [first]
  dsimp only [bind, Except.bind]
  rw [close]
  rfl

end

/-! ### The parts of arrays and objects -/

/-- A value is read from what is written for it, wherever a number does not go on behind it. -/
def ReadsBack (layout : Layout) (json : Json) : Prop :=
  ∀ depth written fuel rest, json.chars? layout depth = some written → written.length ≤ fuel →
    Stops rest → takeValue fuel (written ++ rest) = .ok (json, rest)

theorem skipSpace_written (exact : json.Exact) (isWritten : json.chars? layout depth = some written)
    (rest : List Char) : skipSpace (written ++ rest) = written ++ rest := by
  obtain ⟨c, more, rfl, solid, -⟩ := exists_head exact isWritten
  exact skipSpace_cons solid _

theorem stops_comma (rest : List Char) : Stops (',' :: rest) :=
  stops_append (List.forall_mem_nil _) (by decide) rest

theorem textLiteral_append (s : String) (rest : List Char) :
    textLiteral s ++ rest = '"' :: (s.toList.flatMap escapedChar ++ '"' :: rest) := by
  simp [textLiteral]

theorem takeLiteral?_textLiteral {s : String} (enough : (textLiteral s).length ≤ fuel + 1) :
    takeLiteral? fuel (s.toList.flatMap escapedChar ++ '"' :: rest) = some (s.toList, rest) := by
  refine takeLiteral?_flatMap rest ?_
  simp only [textLiteral, List.length_cons, List.length_append, List.length_nil] at enough
  omega

/-- The value of a field is read behind a blank. -/
theorem takeValue_content (fuel : Nat) (exact : json.Exact) (reads : ReadsBack layout json)
    (isWritten : json.chars? layout depth = some written) (enough : written.length ≤ fuel)
    (stops : Stops rest) :
    takeValue fuel (skipSpace (' ' :: (written ++ rest))) = .ok (json, rest) := by
  rw [show skipSpace (' ' :: (written ++ rest)) = skipSpace (written ++ rest) from rfl,
    skipSpace_written exact isWritten, reads depth written fuel rest isWritten enough stops]

section
variable {close more : List Char} (blank : layout.Blank)
  (closing : ∀ c ∈ close, isSpace c = true)
include blank closing

theorem takeItems_written {items : List Json} (exact : ∀ other ∈ items, other.Exact)
    (reads : ∀ other ∈ item :: items, ReadsBack layout other)
    (first : item.chars? layout depth = some written)
    (others : itemChars? layout depth items = some more)
    (rest : List Char) (enough : written.length + more.length < fuel) :
    takeItems fuel (written ++ (more ++ (close ++ ']' :: rest))) = .ok (item :: items, rest) := by
  induction items generalizing item written more fuel with
  | nil =>
    obtain rfl := Option.some.inj others
    obtain ⟨fuel, rfl⟩ := Nat.exists_eq_succ_of_ne_zero (Nat.ne_zero_of_lt enough)
    have stops := stops_append closing (c := ']') (by decide) rest
    refine takeItems_last (reads item List.mem_cons_self depth written fuel _ first ?_ stops) ?_
    · exact Nat.le_of_lt_succ enough
    · rw [List.nil_append, skipSpace_append closing, skipSpace_cons rfl]
  | cons next items ih =>
    obtain ⟨exactNext, exactOthers⟩ := List.forall_mem_cons.mp exact
    obtain ⟨readsItem, readsOthers⟩ := List.forall_mem_cons.mp reads
    obtain ⟨second, further, isSecond, areFurther, rfl⟩ := itemChars?_eq_some.mp others
    obtain ⟨gap, separator, blankGap⟩ := blank.separator depth
    obtain ⟨fuel, rfl⟩ := Nat.exists_eq_succ_of_ne_zero (Nat.ne_zero_of_lt enough)
    simp only [separator, List.length_append, List.length_cons] at enough
    have shape : layout.separator depth ++ second ++ further ++ (close ++ ']' :: rest) =
        ',' :: (gap ++ (second ++ (further ++ (close ++ ']' :: rest)))) := by
      simp [separator]
    rw [shape, takeItems_next (readsItem depth written fuel _ first (by omega) (stops_comma _))
      (skipSpace_cons rfl _), skipSpace_append blankGap, skipSpace_written exactNext isSecond,
      ih exactOthers readsOthers isSecond areFurther (by omega)]
    rfl

theorem takeFields_written {name : String} {fields : List (String × Json)} (exact : json.Exact)
    (exacts : ∀ field ∈ fields, field.2.Exact) (reads : ReadsBack layout json)
    (readsAll : ∀ field ∈ fields, ReadsBack layout field.2)
    (first : json.chars? layout depth = some written)
    (others : fieldChars? layout depth fields = some more)
    (rest : List Char) (enough : (textLiteral name).length + written.length + more.length < fuel) :
    takeFields fuel (textLiteral name ++ (':' :: ' ' :: (written ++
      (more ++ (close ++ '\x7d' :: rest))))) = .ok ((name, json) :: fields, rest) := by
  induction fields generalizing name json written more fuel with
  | nil =>
    obtain rfl := Option.some.inj others
    obtain ⟨fuel, rfl⟩ := Nat.exists_eq_succ_of_ne_zero (Nat.ne_zero_of_lt enough)
    have content := takeValue_content fuel exact reads first (by omega)
      (stops_append closing (c := '\x7d') (by decide) rest)
    have brace : skipSpace (close ++ '\x7d' :: rest) = '\x7d' :: rest := by
      rw [skipSpace_append closing, skipSpace_cons rfl]
    rw [List.nil_append, textLiteral_append, takeFields_last
      (takeLiteral?_textLiteral (by omega)) content (skipSpace_cons rfl _) brace,
      String.ofList_toList]
  | cons next fields ih =>
    obtain ⟨second, value⟩ := next
    obtain ⟨exactNext, exactOthers⟩ := List.forall_mem_cons.mp exacts
    obtain ⟨readsNext, readsOthers⟩ := List.forall_mem_cons.mp readsAll
    obtain ⟨text, further, isText, areFurther, rfl⟩ := fieldChars?_eq_some.mp others
    obtain ⟨gap, separator, blankGap⟩ := blank.separator depth
    obtain ⟨fuel, rfl⟩ := Nat.exists_eq_succ_of_ne_zero (Nat.ne_zero_of_lt enough)
    simp only [separator, List.length_append, List.length_cons] at enough
    have shape : layout.separator depth ++ textLiteral second ++ [':', ' '] ++ text ++ further ++
        (close ++ '\x7d' :: rest) =
          ',' :: (gap ++ (textLiteral second ++ (':' :: ' ' :: (text ++ (further ++
            (close ++ '\x7d' :: rest)))))) := by
      simp [separator]
    have content := takeValue_content fuel exact reads first (by omega)
      (stops_comma (gap ++ (textLiteral second ++ (':' :: ' ' :: (text ++ (further ++
        (close ++ '\x7d' :: rest)))))))
    have name : ∀ rest, skipSpace (textLiteral second ++ rest) = textLiteral second ++ rest :=
      fun _ => skipSpace_cons rfl _
    rw [shape, textLiteral_append, takeFields_next (takeLiteral?_textLiteral (by omega)) content
      (skipSpace_cons rfl _) (skipSpace_cons rfl _), skipSpace_append blankGap, name,
      ih exactNext exactOthers readsNext readsOthers isText areFurther (by omega),
      String.ofList_toList]
    rfl

end

/-! ### Values -/

theorem readsBack_null : ReadsBack layout .null := by
  intro depth written fuel rest isWritten enough _
  obtain rfl := Option.some.inj isWritten
  obtain ⟨fuel, rfl⟩ := Nat.exists_eq_succ_of_ne_zero (Nat.ne_zero_of_lt enough)
  exact takeValue_scalar (by decide) (by decide) (by decide)

theorem readsBack_bool (b : Bool) : ReadsBack layout (.bool b) := by
  intro depth written fuel rest isWritten enough _
  cases b <;>
  · obtain rfl := Option.some.inj isWritten
    obtain ⟨fuel, rfl⟩ := Nat.exists_eq_succ_of_ne_zero (Nat.ne_zero_of_lt enough)
    exact takeValue_scalar (by decide) (by decide) (by decide)

theorem readsBack_int (n : Int) : ReadsBack layout (.int n) := by
  intro depth written fuel rest isWritten enough stops
  obtain ⟨c, more, rfl, digit⟩ := exists_head_intLiteral isWritten
  obtain ⟨fuel, rfl⟩ := Nat.exists_eq_succ_of_ne_zero (Nat.ne_zero_of_lt enough)
  rw [← takeScalar_intLiteral isWritten stops]
  rcases digit with rfl | digit
  · exact takeValue_scalar (by decide) (by decide) (by decide)
  · have other := ne_of_isDigit digit
    exact takeValue_scalar (other _ rfl).symm (other _ rfl).symm (other _ rfl).symm

theorem readsBack_text (s : String) : ReadsBack layout (.text s) := by
  intro depth written fuel rest isWritten enough _
  obtain rfl := Option.some.inj isWritten
  obtain ⟨fuel, rfl⟩ := Nat.exists_eq_succ_of_ne_zero (Nat.ne_zero_of_lt enough)
  rw [textLiteral_append, takeValue, takeLiteral?_textLiteral enough]
  simp

section
variable (blank : layout.Blank)
include blank

theorem readsBack_array {items : List Json} (exacts : ∀ item ∈ items, item.Exact)
    (readsAll : ∀ item ∈ items, ReadsBack layout item) : ReadsBack layout (.array items) := by
  intro depth written fuel rest isWritten enough _
  cases items with
  | nil =>
    obtain rfl := Option.some.inj isWritten
    obtain ⟨fuel, rfl⟩ := Nat.exists_eq_succ_of_ne_zero (Nat.ne_zero_of_lt enough)
    rfl
  | cons item items =>
    obtain ⟨first, others, isFirst, areOthers, rfl⟩ := chars?_array_eq_some.mp isWritten
    obtain ⟨fuel, rfl⟩ := Nat.exists_eq_succ_of_ne_zero (Nat.ne_zero_of_lt enough)
    simp only [List.length_append, List.length_cons, List.length_nil] at enough
    obtain ⟨exactItem, exactOthers⟩ := List.forall_mem_cons.mp exacts
    obtain ⟨c, more, head, -, some⟩ := exists_head exactItem isFirst
    have taken := takeItems_written blank (blank.lead depth) exactOthers readsAll isFirst areOthers
      rest (show first.length + others.length < fuel by omega)
    have opened : skipSpace (layout.lead (depth + 1) ++ (first ++ (others ++ (layout.lead depth ++
        ']' :: rest)))) = first ++ (others ++ (layout.lead depth ++ ']' :: rest)) := by
      rw [skipSpace_append (blank.lead _), skipSpace_written exactItem isFirst]
    rw [head, List.cons_append] at taken opened
    have shape := takeValue_array opened some taken
    simpa [head] using shape

theorem readsBack_object {fields : List (String × Json)} (names : (fields.map (·.1)).Nodup)
    (exacts : ∀ field ∈ fields, field.2.Exact)
    (readsAll : ∀ field ∈ fields, ReadsBack layout field.2) :
    ReadsBack layout (.object fields) := by
  intro depth written fuel rest isWritten enough _
  cases fields with
  | nil =>
    obtain rfl := Option.some.inj isWritten
    obtain ⟨fuel, rfl⟩ := Nat.exists_eq_succ_of_ne_zero (Nat.ne_zero_of_lt enough)
    rfl
  | cons field fields =>
    obtain ⟨name, json⟩ := field
    obtain ⟨first, others, isFirst, areOthers, rfl⟩ := chars?_object_eq_some.mp isWritten
    obtain ⟨fuel, rfl⟩ := Nat.exists_eq_succ_of_ne_zero (Nat.ne_zero_of_lt enough)
    simp only [List.length_append, List.length_cons, List.length_nil] at enough
    obtain ⟨exactFirst, exactOthers⟩ := List.forall_mem_cons.mp exacts
    obtain ⟨readsFirst, readsOthers⟩ := List.forall_mem_cons.mp readsAll
    have taken := takeFields_written blank (blank.lead depth) exactFirst exactOthers readsFirst
      readsOthers isFirst areOthers rest
      (show (textLiteral name).length + first.length + others.length < fuel by omega)
    have opened : skipSpace (layout.lead (depth + 1) ++ (textLiteral name ++ (':' :: ' ' ::
        (first ++ (others ++ (layout.lead depth ++ '\x7d' :: rest)))))) =
          textLiteral name ++ (':' :: ' ' :: (first ++ (others ++ (layout.lead depth ++
            '\x7d' :: rest)))) := by
      rw [skipSpace_append (blank.lead _)]
      exact skipSpace_cons rfl _
    have whole := takeValue_object opened taken
    rw [ofFields_eq_object names] at whole
    simpa using whole

/-- Every value without numbers in binary64 is read from what is written for it. -/
theorem readsBack (exact : json.Exact) : ReadsBack layout json := by
  induction exact with
  | null => exact readsBack_null
  | bool b => exact readsBack_bool b
  | int n => exact readsBack_int n
  | text s => exact readsBack_text s
  | array each ih => exact readsBack_array blank each ih
  | object names each ih => exact readsBack_object blank names each ih

end

/-- A value is read from its text, also with white space behind it. -/
theorem read_render?_append {text : String} (blank : layout.Blank) (exact : json.Exact)
    (written : json.render? layout = some text) (blanks : List Char)
    (trailing : ∀ c ∈ blanks, isSpace c = true) :
    read (text ++ String.ofList blanks) = .ok json := by
  obtain ⟨chars, isWritten, rfl⟩ := Option.map_eq_some_iff.mp written
  have taken := readsBack blank exact 0 chars ((chars ++ blanks).length + 1) blanks isWritten
    (by simp; omega) (stops_of_blank trailing)
  have space : skipSpace blanks = [] := by simpa [skipSpace] using skipSpace_append trailing []
  rw [read]
  simp only [String.toList_append, String.toList_ofList]
  rw [skipSpace_written exact isWritten, taken]
  change (if (skipSpace blanks).isEmpty then _ else _) = _
  rw [space]
  rfl

theorem read_render? {text : String} (blank : layout.Blank) (exact : json.Exact)
    (written : json.render? layout = some text) : read text = .ok json := by
  simpa using read_render?_append blank exact written [] (List.forall_mem_nil _)

/-! ### ASCII characters -/

section
variable (blank : layout.Blank)
include blank

theorem Layout.Blank.ascii_lead (depth : Nat) : Ascii (layout.lead depth) :=
  fun c member => ascii_of_isSpace (blank.lead depth c member)

theorem Layout.Blank.ascii_separator (depth : Nat) : Ascii (layout.separator depth) := by
  obtain ⟨gap, separator, space⟩ := blank.separator depth
  rw [separator]
  exact ascii_cons.mpr ⟨by decide, fun c member => ascii_of_isSpace (space c member)⟩

theorem ascii_itemChars {items : List Json}
    (each : ∀ item ∈ items, ∀ depth written, item.chars? layout depth = some written →
      Ascii written) (areWritten : itemChars? layout depth items = some written) :
    Ascii written := by
  induction items generalizing written with
  | nil =>
    obtain rfl := Option.some.inj areWritten
    exact List.forall_mem_nil _
  | cons item items ih =>
    obtain ⟨asciiFirst, asciiOthers⟩ := List.forall_mem_cons.mp each
    obtain ⟨first, others, isFirst, areOthers, rfl⟩ := itemChars?_eq_some.mp areWritten
    have parts := asciiFirst depth first isFirst
    have further := ih asciiOthers areOthers
    have gap := blank.ascii_separator depth
    simp only [ascii_append] at *
    exact ⟨⟨gap, parts⟩, further⟩

theorem ascii_fieldChars {fields : List (String × Json)}
    (each : ∀ field ∈ fields, ∀ depth written, field.2.chars? layout depth = some written →
      Ascii written) (areWritten : fieldChars? layout depth fields = some written) :
    Ascii written := by
  induction fields generalizing written with
  | nil =>
    obtain rfl := Option.some.inj areWritten
    exact List.forall_mem_nil _
  | cons field fields ih =>
    obtain ⟨asciiFirst, asciiOthers⟩ := List.forall_mem_cons.mp each
    obtain ⟨first, others, isFirst, areOthers, rfl⟩ := fieldChars?_eq_some.mp areWritten
    have parts := asciiFirst depth first isFirst
    have further := ih asciiOthers areOthers
    have gap := blank.ascii_separator depth
    have name := ascii_textLiteral field.1
    simp only [ascii_append] at *
    exact ⟨⟨⟨⟨gap, name⟩, by decide⟩, parts⟩, further⟩

/-- What is written for a value without numbers in binary64 consists of ASCII characters. -/
theorem ascii_chars (exact : json.Exact) (isWritten : json.chars? layout depth = some written) :
    Ascii written := by
  induction exact generalizing depth written with
  | null =>
    obtain rfl := Option.some.inj isWritten
    decide
  | bool b =>
    cases b <;>
    · obtain rfl := Option.some.inj isWritten
      decide
  | int n => exact ascii_intLiteral isWritten
  | text s =>
    obtain rfl := Option.some.inj isWritten
    exact ascii_textLiteral s
  | @array items each ih =>
    cases items with
    | nil =>
      obtain rfl := Option.some.inj isWritten
      decide
    | cons item items =>
      obtain ⟨first, others, isFirst, areOthers, rfl⟩ := chars?_array_eq_some.mp isWritten
      obtain ⟨firstAscii, othersAscii⟩ := List.forall_mem_cons.mp ih
      have parts := firstAscii isFirst
      have further :=
        ascii_itemChars blank (fun item member _ _ => othersAscii item member) areOthers
      have gap := blank.ascii_lead depth
      have lead := blank.ascii_lead (depth + 1)
      simp only [ascii_append, ascii_cons] at *
      exact ⟨by decide, ⟨⟨⟨lead, parts⟩, further⟩, gap⟩, by decide, List.forall_mem_nil _⟩
  | @object fields names each ih =>
    cases fields with
    | nil =>
      obtain rfl := Option.some.inj isWritten
      decide
    | cons field fields =>
      obtain ⟨first, others, isFirst, areOthers, rfl⟩ := chars?_object_eq_some.mp isWritten
      obtain ⟨firstAscii, othersAscii⟩ := List.forall_mem_cons.mp ih
      have parts := firstAscii isFirst
      have further :=
        ascii_fieldChars blank (fun field member _ _ => othersAscii field member) areOthers
      have gap := blank.ascii_lead depth
      have lead := blank.ascii_lead (depth + 1)
      have name := ascii_textLiteral field.1
      simp only [ascii_append, ascii_cons] at *
      exact ⟨by decide, ⟨⟨⟨⟨⟨lead, name⟩, by decide⟩, parts⟩, further⟩, gap⟩, by decide,
        List.forall_mem_nil _⟩

theorem ascii_render? {text : String} (exact : json.Exact)
    (written : json.render? layout = some text) : Ascii text.toList := by
  obtain ⟨chars, isWritten, rfl⟩ := Option.map_eq_some_iff.mp written
  rw [String.toList_ofList]
  exact ascii_chars blank exact isWritten

end

/-! ### Integers beyond the limit -/

/-- The integer is part of the value. -/
inductive HasInteger (n : Int) : Json → Prop
  | int : HasInteger n (int n)
  | item {items : List Json} {part : Json} (member : part ∈ items) (inside : HasInteger n part) :
      HasInteger n (array items)
  | field {fields : List (String × Json)} {part : String × Json} (member : part ∈ fields)
      (inside : HasInteger n part.2) : HasInteger n (object fields)

theorem hasInteger_int {n m : Int} : HasInteger n (int m) ↔ n = m := by
  constructor
  · rintro ⟨⟩
    rfl
  · rintro rfl
    exact .int

theorem not_hasInteger_text (n : Int) (s : String) : ¬HasInteger n (text s) :=
  nofun

theorem hasInteger_object {n : Int} {fields : List (String × Json)} :
    HasInteger n (object fields) ↔ ∃ field ∈ fields, HasInteger n field.2 := by
  constructor
  · rintro (_ | _ | ⟨member, inside⟩)
    exact ⟨_, member, inside⟩
  · rintro ⟨field, member, inside⟩
    exact .field member inside

theorem exists_chars_of_mem_items {items : List Json}
    (areWritten : itemChars? layout depth items = some written) :
    ∀ item ∈ items, ∃ part, item.chars? layout depth = some part := by
  induction items generalizing written with
  | nil => exact List.forall_mem_nil _
  | cons item items ih =>
    obtain ⟨first, others, isFirst, areOthers, -⟩ := itemChars?_eq_some.mp areWritten
    exact List.forall_mem_cons.mpr ⟨⟨first, isFirst⟩, ih areOthers⟩

theorem exists_chars_of_mem_fields {fields : List (String × Json)}
    (areWritten : fieldChars? layout depth fields = some written) :
    ∀ field ∈ fields, ∃ part, field.2.chars? layout depth = some part := by
  induction fields generalizing written with
  | nil => exact List.forall_mem_nil _
  | cons field fields ih =>
    obtain ⟨first, others, isFirst, areOthers, -⟩ := fieldChars?_eq_some.mp areWritten
    exact List.forall_mem_cons.mpr ⟨⟨first, isFirst⟩, ih areOthers⟩

/-- The integers of a value that is written are within the limit. -/
theorem HasInteger.short {n : Int} (inside : HasInteger n json)
    (isWritten : json.chars? layout depth = some written) : n.natAbs < 10 ^ digitLimit := by
  induction inside generalizing depth written with
  | int =>
    have within := (Option.ite_none_left_eq_some.mp isWritten).1
    exact Nat.not_le.mp (mt digitLimit_lt_digitCount.mpr within)
  | @item items part member inside ih =>
    cases items with
    | nil => contradiction
    | cons first items =>
      obtain ⟨_, _, isFirst, areOthers, -⟩ := chars?_array_eq_some.mp isWritten
      have each := List.forall_mem_cons.mpr ⟨⟨_, isFirst⟩, exists_chars_of_mem_items areOthers⟩
      obtain ⟨_, isPart⟩ := each part member
      exact ih isPart
  | @field fields part member inside ih =>
    cases fields with
    | nil => contradiction
    | cons first fields =>
      obtain ⟨_, _, isFirst, areOthers, -⟩ := chars?_object_eq_some.mp isWritten
      have each := List.forall_mem_cons.mpr ⟨⟨_, isFirst⟩, exists_chars_of_mem_fields areOthers⟩
      obtain ⟨_, isPart⟩ := each part member
      exact ih isPart

theorem writable_of_short (exact : json.Exact)
    (short : ∀ n, HasInteger n json → n.natAbs < 10 ^ digitLimit) : json.Writable := by
  induction exact with
  | null => exact writable_null
  | bool b => exact writable_bool b
  | int n => exact writable_int (short n .int)
  | text s => exact writable_text s
  | array each ih =>
    exact writable_array fun item member =>
      ih item member fun n inside => short n (.item member inside)
  | object names each ih =>
    exact writable_object fun field member =>
      ih field member fun n inside => short n (.field member inside)

/-- A value cannot be written exactly if an integer in it is beyond the limit. -/
theorem render?_eq_none (exact : json.Exact) : json.render? layout = none ↔
    ∃ n, HasInteger n json ∧ 10 ^ digitLimit ≤ n.natAbs := by
  constructor
  · intro unwritten
    by_contra every
    have short : ∀ n, HasInteger n json → n.natAbs < 10 ^ digitLimit :=
      fun n inside => Nat.not_le.mp fun long => every ⟨n, inside, long⟩
    obtain ⟨text, written⟩ := (writable_of_short exact short).render layout
    cases unwritten.symm.trans written
  · rintro ⟨n, inside, long⟩
    refine Option.map_eq_none_iff.mpr (Option.eq_none_iff_forall_ne_some.mpr fun written same => ?_)
    exact absurd (inside.short same) (Nat.not_lt.mpr long)

end

end Formula.Json
