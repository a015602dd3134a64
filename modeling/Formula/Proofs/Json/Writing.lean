import Formula.CommandLine.Outcome
import Formula.Proofs.Value.Closure
import Formula.Proofs.Value.Printing

/-! Which JSON values can be written. All can but those that contain an integer with more digits
than the limit, and those that stand for values with a text contain none. Mappings apart, whose keys
need not be names, every value with a text can be shown so. -/
namespace Formula

namespace Json

/-- The value can be written in every layout. -/
def Writable (json : Json) : Prop :=
  ∀ layout depth, ∃ written, json.chars? layout depth = some written

theorem writable_null : Writable .null :=
  fun _ _ => ⟨_, rfl⟩

theorem writable_bool (b : Bool) : Writable (.bool b) := by
  intro layout depth
  cases b <;> exact ⟨_, rfl⟩

theorem writable_int {n : Int} (short : n.natAbs < 10 ^ digitLimit) : Writable (.int n) := by
  intro layout depth
  have within : ¬digitLimit < (Nat.toDigits 10 n.natAbs).length :=
    mt digitLimit_lt_digitCount.mp (Nat.not_le.mpr short)
  rw [chars?, intLiteral?, if_neg within]
  exact ⟨_, rfl⟩

theorem writable_float (x : Binary64) : Writable (.float x) :=
  fun _ _ => ⟨_, rfl⟩

theorem writable_text (s : String) : Writable (.text s) :=
  fun _ _ => ⟨_, rfl⟩

theorem exists_itemChars {items : List Json} (each : ∀ item ∈ items, item.Writable)
    (layout : Layout) (depth : Nat) : ∃ written, itemChars? layout depth items = some written := by
  induction items with
  | nil => exact ⟨_, rfl⟩
  | cons item items ih =>
    obtain ⟨first, others⟩ := List.forall_mem_cons.mp each
    obtain ⟨written, isFirst⟩ := first layout depth
    obtain ⟨more, areOthers⟩ := ih others
    rw [itemChars?, isFirst, areOthers]
    exact ⟨_, rfl⟩

theorem writable_array {items : List Json} (each : ∀ item ∈ items, item.Writable) :
    Writable (.array items) := by
  intro layout depth
  cases items with
  | nil => exact ⟨_, rfl⟩
  | cons item items =>
    obtain ⟨first, others⟩ := List.forall_mem_cons.mp each
    obtain ⟨written, isFirst⟩ := first layout (depth + 1)
    obtain ⟨more, areOthers⟩ := exists_itemChars others layout (depth + 1)
    rw [chars?, isFirst, areOthers]
    exact ⟨_, rfl⟩

theorem exists_fieldChars {fields : List (String × Json)}
    (each : ∀ field ∈ fields, field.2.Writable) (layout : Layout) (depth : Nat) :
    ∃ written, fieldChars? layout depth fields = some written := by
  induction fields with
  | nil => exact ⟨_, rfl⟩
  | cons field fields ih =>
    obtain ⟨first, others⟩ := List.forall_mem_cons.mp each
    obtain ⟨written, isFirst⟩ := first layout depth
    obtain ⟨more, areOthers⟩ := ih others
    rw [fieldChars?, isFirst, areOthers]
    exact ⟨_, rfl⟩

theorem writable_object {fields : List (String × Json)}
    (each : ∀ field ∈ fields, field.2.Writable) : Writable (.object fields) := by
  intro layout depth
  cases fields with
  | nil => exact ⟨_, rfl⟩
  | cons field fields =>
    obtain ⟨first, others⟩ := List.forall_mem_cons.mp each
    obtain ⟨written, isFirst⟩ := first layout (depth + 1)
    obtain ⟨more, areOthers⟩ := exists_fieldChars others layout (depth + 1)
    rw [chars?, isFirst, areOthers]
    exact ⟨_, rfl⟩

theorem Writable.render {json : Json} (writable : json.Writable) (layout : Layout) :
    ∃ text, json.render? layout = some text := by
  obtain ⟨written, same⟩ := writable layout 0
  rw [render?, same]
  exact ⟨_, rfl⟩

end Json

/-! ### Values -/

namespace CommandLine

/-- A value that JSON has not, and that has a text, is shown by it. -/
theorem shows_text {value : Value} (quoted : value.quoted? = some written) :
    ∃ json, (withinDigits value.text?).map Json.text = .ok json ∧ json.Writable := by
  cases told : value.text? with
  | none =>
    rw [Value.quoted?_of_text? told] at quoted
    contradiction
  | some text => exact ⟨_, rfl, Json.writable_text text⟩

mutual

/-- A value without mappings that can be quoted can be shown as JSON. -/
theorem shows_valueJson : (value : Value) → value.Unmapped → value.quoted? = some written →
    ∃ json, valueJson value = .ok json ∧ json.Writable
  | .none, _, _ => ⟨.null, rfl, Json.writable_null⟩
  | .bool b, _, _ => ⟨.bool b, rfl, Json.writable_bool b⟩
  | .int n, _, quoted => by
    have short : n.natAbs < 10 ^ digitLimit := by
      refine Nat.not_le.mp fun long => ?_
      rw [Value.quoted?, Value.intText?_eq_none.mpr long] at quoted
      contradiction
    rw [Value.quoted?] at quoted
    exact ⟨.int n, by rw [valueJson, quoted]; rfl, Json.writable_int short⟩
  | .float x, _, _ => ⟨.float x, rfl, Json.writable_float x⟩
  | .text s, _, _ => ⟨.text s, rfl, Json.writable_text s⟩
  | .list items, .list each, quoted | .tuple items, .tuple each, quoted => by
    simp only [Value.quoted?, Option.bind_eq_bind, Option.bind_eq_some_iff] at quoted
    obtain ⟨parts, all, _⟩ := quoted
    obtain ⟨documents, shown, writable⟩ := shows_valueJsonAll items each all
    exact ⟨.array documents, by rw [valueJson, shown]; rfl, Json.writable_array writable⟩
  | .decimal _, _, quoted | .fraction _, _, quoted | .shown .., _, quoted => by
    have shows := shows_text quoted
    exact shows

theorem shows_valueJsonAll : (items : List Value) → (∀ item ∈ items, item.Unmapped) →
    Value.quotedAll? items = some parts →
    ∃ documents, valueJsonAll items = .ok documents ∧ ∀ json ∈ documents, json.Writable
  | [], _, _ => ⟨[], rfl, List.forall_mem_nil _⟩
  | item :: items, unmapped, quoted => by
    obtain ⟨one, rest⟩ := List.forall_mem_cons.mp unmapped
    simp only [Value.quotedAll?, Option.bind_eq_bind, Option.bind_eq_some_iff] at quoted
    obtain ⟨first, isFirst, others, areOthers, _⟩ := quoted
    obtain ⟨json, shown, writable⟩ := shows_valueJson item one isFirst
    obtain ⟨documents, shownAll, writableAll⟩ := shows_valueJsonAll items rest areOthers
    refine ⟨json :: documents, ?_, List.forall_mem_cons.mpr ⟨writable, writableAll⟩⟩
    rw [valueJsonAll, shown, shownAll]
    rfl

end

/-- A value without mappings that has a text can be shown as JSON. -/
theorem shows_of_text? {value : Value} (unmapped : value.Unmapped)
    (told : value.text? = some written) : ∃ json, valueJson value = .ok json ∧ json.Writable := by
  cases value with
  | text s => exact ⟨.text s, rfl, Json.writable_text s⟩
  | decimal | fraction | shown =>
    have shown : ∃ json, (withinDigits _).map Json.text = .ok json ∧ json.Writable :=
      ⟨.text written, congrArg (Except.map Json.text ∘ withinDigits) told,
        Json.writable_text written⟩
    exact shown
  | _ => exact shows_valueJson _ unmapped told

end CommandLine

end Formula
