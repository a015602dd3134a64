import Formula.Proofs.Json.RoundTrip
import Formula.StructuredError

/-! Errors as JSON. What an error tells as data can be read from its text, which tells the kind, the
message, the location and the details of the error. There is a text unless the error has no kind, or
its position or an integer among its details is beyond the digit limit. -/
namespace Formula
open Json

namespace Payload

/-- The details are texts and integers with names that differ. -/
structure Plain (payload : Payload) : Prop where
  names : (payload.details.map (·.1)).Nodup
  values : ∀ field ∈ payload.details, (∃ s, field.2 = .text s) ∨ ∃ n, field.2 = .int n

/-- The position and the integers among the details have no more digits than the limit. -/
structure Short (payload : Payload) : Prop where
  position : ∀ location, payload.location = some location →
    location.position.natAbs < 10 ^ digitLimit
  details : ∀ name n, (name, .int n) ∈ payload.details → n.natAbs < 10 ^ digitLimit

/-- A field that is there only if it has a value. -/
def optionalField (name : String) : Option Json → List (String × Json)
  | some json => [(name, json)]
  | none => []

def detailsJson? (payload : Payload) : Option Json :=
  if payload.details.isEmpty then none else some (.object payload.details)

theorem toJson_eq (payload : Payload) : payload.toJson =
    .object ([("kind", .text payload.kind), ("message", .text payload.message)] ++
      optionalField "location" (payload.location.map SourceLocation.toJson) ++
      optionalField "details" payload.detailsJson?) := by
  unfold toJson detailsJson?
  cases payload.location <;> cases payload.details <;> rfl

variable {payload other : Payload} {n : Int}

theorem plain_of_nil (none : payload.details = []) : payload.Plain := by
  refine ⟨?_, ?_⟩ <;> simp [none]

theorem plain_of_variableDetails
    (same : payload.details = ExpressionError.variableDetails name) : payload.Plain := by
  refine ⟨?_, ?_⟩ <;> simp [same, ExpressionError.variableDetails]

theorem plain_of_functionDetails
    (same : payload.details = ExpressionError.functionDetails name arity) : payload.Plain := by
  refine ⟨?_, ?_⟩ <;> simp [same, ExpressionError.functionDetails]

/-! ### Reading -/

theorem exact_location (location : SourceLocation) : location.toJson.Exact := by
  refine .object (by simp) ?_
  exact List.forall_mem_cons.mpr ⟨.text _, List.forall_mem_singleton.mpr (.int _)⟩

theorem Plain.exact_details (plain : payload.Plain) : (Json.object payload.details).Exact := by
  refine .object plain.names fun field member => ?_
  rcases plain.values field member with ⟨s, same⟩ | ⟨n, same⟩
  · exact same ▸ .text s
  · exact same ▸ .int n

theorem Plain.exact (plain : payload.Plain) : payload.toJson.Exact := by
  rw [toJson_eq]
  refine .object ?_ ?_
  · cases payload.location <;> cases payload.detailsJson? <;> simp [optionalField]
  · simp only [List.forall_mem_append, List.forall_mem_cons]
    refine ⟨⟨⟨.text _, .text _, List.forall_mem_nil _⟩, ?_⟩, ?_⟩
    · cases payload.location with
      | none => exact List.forall_mem_nil _
      | some location => exact List.forall_mem_singleton.mpr (exact_location location)
    · unfold detailsJson?
      split
      · exact List.forall_mem_nil _
      · exact List.forall_mem_singleton.mpr plain.exact_details

/-! ### Parts -/

theorem location_injective : Function.Injective SourceLocation.toJson := by
  rintro ⟨position, source⟩ ⟨position', source'⟩ same
  simp only [SourceLocation.toJson, Json.object.injEq, List.cons.injEq, Prod.mk.injEq,
    Json.text.injEq, Json.int.injEq] at same
  grind

theorem details_of_detailsJson? (same : payload.detailsJson? = other.detailsJson?) :
    payload.details = other.details := by
  unfold detailsJson? at same
  cases empty : payload.details <;> cases empty' : other.details <;> simp_all

theorem optionalField_append_inj {name other : String} {a b c d : Option Json}
    (differ : name ≠ other)
    (same : optionalField name a ++ optionalField other b =
      optionalField name c ++ optionalField other d) : a = c ∧ b = d := by
  cases a <;> cases b <;> cases c <;> cases d <;> simp_all [optionalField]

/-- The JSON object tells all that an error tells as data. -/
theorem toJson_injective : Function.Injective toJson := by
  intro payload other same
  simp only [toJson_eq, Json.object.injEq, List.cons_append, List.nil_append,
    List.cons.injEq, Prod.mk.injEq, Json.text.injEq, true_and] at same
  obtain ⟨kind, message, optional⟩ := same
  obtain ⟨places, details⟩ := optionalField_append_inj (by decide) optional
  have location := Option.map_injective location_injective places
  have details := details_of_detailsJson? details
  cases payload
  cases other
  simp_all

/-! ### Integers -/

theorem hasInteger_location {location : SourceLocation} :
    HasInteger n location.toJson ↔ location.position = n := by
  simp [SourceLocation.toJson, hasInteger_object, hasInteger_int, not_hasInteger_text, eq_comm]

theorem Plain.hasInteger_details (plain : payload.Plain) :
    (∃ value, payload.detailsJson? = some value ∧ HasInteger n value) ↔
      ∃ name, (name, .int n) ∈ payload.details := by
  constructor
  · rintro ⟨value, same, inside⟩
    obtain ⟨-, same⟩ := Option.ite_none_left_eq_some.mp same
    obtain rfl := Option.some.inj same
    obtain ⟨⟨name, value⟩, member, inside⟩ := hasInteger_object.mp inside
    rcases plain.values _ member with ⟨s, rfl⟩ | ⟨m, rfl⟩
    · exact absurd inside (not_hasInteger_text n s)
    · rw [hasInteger_int.mp inside]
      exact ⟨name, member⟩
  · rintro ⟨name, member⟩
    have some : payload.details.isEmpty ≠ true := fun empty => by simp_all
    exact ⟨_, if_neg some, .field member .int⟩

theorem hasInteger_optionalField {name : String} {json : Option Json} :
    (∃ field ∈ optionalField name json, HasInteger n field.2) ↔
      ∃ value, json = some value ∧ HasInteger n value := by
  cases json <;> simp [optionalField]

/-- The integers in the object are the position and those of the details. -/
theorem Plain.hasInteger_toJson (plain : payload.Plain) : HasInteger n payload.toJson ↔
    (∃ location, payload.location = some location ∧ location.position = n) ∨
      ∃ name, (name, .int n) ∈ payload.details := by
  rw [toJson_eq, hasInteger_object]
  simp only [List.mem_append, or_and_right, exists_or, hasInteger_optionalField,
    plain.hasInteger_details, Option.map_eq_some_iff]
  simp [not_hasInteger_text, hasInteger_location]

theorem Plain.short_iff (plain : payload.Plain) :
    payload.Short ↔ ∀ n, HasInteger n payload.toJson → n.natAbs < 10 ^ digitLimit := by
  constructor
  · intro short n inside
    rcases plain.hasInteger_toJson.mp inside with ⟨location, found, rfl⟩ | ⟨name, member⟩
    · exact short.position location found
    · exact short.details name n member
  · intro short
    refine ⟨fun location found => ?_, fun name n member => ?_⟩
    · exact short _ (plain.hasInteger_toJson.mpr (.inl ⟨location, found, rfl⟩))
    · exact short n (plain.hasInteger_toJson.mpr (.inr ⟨name, member⟩))

theorem Plain.writable (plain : payload.Plain) (short : payload.Short) : payload.toJson.Writable :=
  writable_of_short plain.exact (plain.short_iff.mp short)

/-- There is a text exactly if all integers are within the limit. -/
theorem Plain.exists_render?_iff (plain : payload.Plain) {layout : Layout} :
    (∃ text, payload.toJson.render? layout = some text) ↔ payload.Short := by
  rw [← Option.isSome_iff_exists, Option.isSome_iff_ne_none, Ne, render?_eq_none plain.exact,
    plain.short_iff]
  simp only [not_exists, not_and, Nat.not_le]

end Payload

namespace StructuredError

theorem blank_defaultLayout : ExpressionError.defaultLayout.Blank :=
  Layout.blank_blanks 2

theorem payload_eq_ok {error : StructuredError} {payload : Payload} :
    error.payload = .ok payload ↔ error.kind = .ok payload.kind ∧ error.message = payload.message ∧
      error.location = payload.location ∧ error.details = payload.details := by
  obtain ⟨kind, message, location, details⟩ := payload
  unfold StructuredError.payload
  cases error.kind with
  | error fault => simp [bind, Except.bind]
  | ok kind => simp [bind, Except.bind]

variable {error other : StructuredError} {layout : Layout} {text : String}

/-- The text of an error is that of what it tells as data. -/
theorem jsonText_eq_ok : error.jsonText layout = .ok text ↔
    ∃ payload, error.payload = .ok payload ∧ payload.toJson.render? layout = some text := by
  unfold jsonText
  cases error.payload with
  | error fault => simp [bind, Except.bind]
  | ok payload =>
    cases written : payload.toJson.render? layout <;>
      simp [bind, Except.bind, withinDigits, written]

theorem jsonText_of_long {payload : Payload} (told : error.payload = .ok payload)
    (long : payload.toJson.render? layout = none) :
    error.jsonText layout = .error (.value .tooManyDigits) := by
  rw [jsonText, told]
  change withinDigits (payload.toJson.render? layout) = _
  rw [long]
  rfl

/-- The details of an error are texts and integers with names that differ. -/
structure Plain (error : StructuredError) : Prop where
  names : (error.details.map (·.1)).Nodup
  values : ∀ field ∈ error.details, (∃ s, field.2 = .text s) ∨ ∃ n, field.2 = .int n

theorem Plain.payload {payload : Payload} (plain : error.Plain)
    (told : error.payload = .ok payload) : payload.Plain := by
  obtain ⟨-, -, -, same⟩ := payload_eq_ok.mp told
  exact ⟨same ▸ plain.names, same ▸ plain.values⟩

/-- An error with details that are texts and integers has a JSON text exactly if it has a kind and
its position and these integers are within the digit limit. The text consists of ASCII characters,
what the error tells as data is read from it, and errors with the same text have the same kind,
message, location and details. -/
theorem jsonText_exact (blank : layout.Blank) (plain : error.Plain) :
    ((∃ text, error.jsonText layout = .ok text) ↔
      (∃ kind, error.kind = .ok kind) ∧
        (∀ location, error.location = some location →
          location.position.natAbs < 10 ^ digitLimit) ∧
        ∀ name n, (name, .int n) ∈ error.details → n.natAbs < 10 ^ digitLimit) ∧
    ∀ text, error.jsonText layout = .ok text →
      (∀ c ∈ text.toList, c.toNat < 128) ∧
      (∃ payload, error.payload = .ok payload ∧ Json.read text = .ok payload.toJson) ∧
      ∀ other : StructuredError, other.Plain → other.jsonText layout = .ok text →
        other.kind = error.kind ∧ other.message = error.message ∧
          other.location = error.location ∧ other.details = error.details := by
  refine ⟨⟨?_, ?_⟩, fun text written => ?_⟩
  · rintro ⟨text, written⟩
    obtain ⟨payload, told, rendered⟩ := jsonText_eq_ok.mp written
    have short := (plain.payload told).exists_render?_iff.mp ⟨text, rendered⟩
    obtain ⟨kind, -, location, details⟩ := payload_eq_ok.mp told
    exact ⟨⟨_, kind⟩, location ▸ short.position, details ▸ short.details⟩
  · rintro ⟨⟨kind, known⟩, position, details⟩
    let payload : Payload := ⟨kind, error.message, error.location, error.details⟩
    have told : error.payload = .ok payload := payload_eq_ok.mpr ⟨known, rfl, rfl, rfl⟩
    obtain ⟨text, rendered⟩ : ∃ text, payload.toJson.render? layout = some text :=
      (plain.payload told).exists_render?_iff.mpr ⟨position, details⟩
    exact ⟨text, jsonText_eq_ok.mpr ⟨_, told, rendered⟩⟩
  · obtain ⟨payload, told, rendered⟩ := jsonText_eq_ok.mp written
    have exact := (plain.payload told).exact
    have read := read_render? blank exact rendered
    refine ⟨ascii_render? blank exact rendered, ⟨payload, told, read⟩, ?_⟩
    intro other otherPlain same
    obtain ⟨payload', told', rendered'⟩ := jsonText_eq_ok.mp same
    rw [read_render? blank (otherPlain.payload told').exact rendered'] at read
    obtain rfl := Payload.toJson_injective (Except.ok.inj read)
    obtain ⟨kind, message, location, details⟩ := payload_eq_ok.mp told
    obtain ⟨kind', message', location', details'⟩ := payload_eq_ok.mp told'
    exact ⟨kind'.trans kind.symm, message'.trans message.symm, location'.trans location.symm,
      details'.trans details.symm⟩

/-- An error with characters of every kind that is escaped, at a place, with two details. -/
def escapedError : StructuredError :=
  .specific (.malformed "\\ \"\n\x01é😀" (some ⟨-3, "/tmp/ü"⟩)
    [("name", .text "😀"), ("arity", .int 12)])

theorem jsonText_exact_of_escapedError :
    ∃ text payload, escapedError.jsonText ExpressionError.defaultLayout = .ok text ∧
      (∀ c ∈ text.toList, c.toNat < 128) ∧ escapedError.payload = .ok payload ∧
      Json.read text = .ok payload.toJson := by
  have plain : escapedError.Plain := by
    refine ⟨by decide, List.forall_mem_cons.mpr ⟨.inl ⟨_, rfl⟩, ?_⟩⟩
    exact List.forall_mem_singleton.mpr (.inr ⟨_, rfl⟩)
  obtain ⟨text, written⟩ : ∃ text,
      escapedError.jsonText ExpressionError.defaultLayout = .ok text := ⟨_, rfl⟩
  obtain ⟨-, exact⟩ := jsonText_exact blank_defaultLayout plain
  obtain ⟨ascii, ⟨payload, told, read⟩, -⟩ := exact text written
  exact ⟨text, payload, written, ascii, told, read⟩

/-- The classes of errors from which others are derived have no kind, so their errors have no text;
nor has an error with an integer that has too many digits among its details. -/
theorem jsonText_of_baseClass_and_longDetail :
    (base .binding "m" none []).jsonText ExpressionError.defaultLayout =
        .error (.raised "AttributeError" [.text "'BindingError' object has no attribute 'kind'"]) ∧
      (specific (.malformed "m" none [("n", .int (10 ^ digitLimit : Nat))])).jsonText
        ExpressionError.defaultLayout = .error (.value .tooManyDigits) := by
  let payload : Payload := ⟨"syntax_error", "m", none, [("n", .int (10 ^ digitLimit : Nat))]⟩
  have plain : payload.Plain :=
    ⟨List.nodup_singleton _, List.forall_mem_singleton.mpr (.inr ⟨_, rfl⟩)⟩
  have long : payload.toJson.render? ExpressionError.defaultLayout = none := by
    refine (render?_eq_none plain.exact).mpr ⟨(10 ^ digitLimit : Nat), ?_, ?_⟩
    · exact plain.hasInteger_toJson.mpr (.inr ⟨"n", List.mem_singleton.mpr rfl⟩)
    · rw [Int.natAbs_natCast]
  exact ⟨rfl, jsonText_of_long rfl long⟩

end StructuredError

end Formula
