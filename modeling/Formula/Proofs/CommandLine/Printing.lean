import Formula.Proofs.Json.Writing
import Formula.Proofs.Session.Outline

/-! Answers. An outcome is always told with its status, and never in silence. It cannot be told only
where its text would contain an integer with more digits than the limit. -/
namespace Formula.CommandLine

/-- Something is written. -/
def Answer.Speaks (answer : Answer) : Prop :=
  answer.output ≠ "" ∨ answer.complaint ≠ ""

/-- The value, if the outcome is one, has no mapping in it. -/
def Outcome.Unmapped (outcome : Outcome) : Prop :=
  ∀ v, outcome = .value v → v.Unmapped

/-- Telling an outcome would take more digits than the limit. -/
inductive Outcome.Unprintable : Format → Outcome → Prop
  | result (textless : v.text? = none) : Unprintable format (.value v)
  | document (shown : Outcome.json? outcome = .ok (some content))
      (long : content.render? (.blanks 2) = none) : Unprintable .json outcome

theorem line_ne_empty (text : String) : text ++ "\n" ≠ "" := by
  intro same
  have chars := congrArg String.toList same
  simp at chars

theorem speaks_printed (outcome : Outcome) (text : String) : (outcome.printed text).Speaks :=
  .inl (line_ne_empty text)

theorem speaks_complained (outcome : Outcome) (text : String) : (outcome.complained text).Speaks :=
  .inr (line_ne_empty text)

section
variable {outcome : Outcome} {format : Format}

/-- An outcome without a text is a value. -/
theorem unprintable_of_text (failed : outcome.text = .error fault) :
    fault = .value .tooManyDigits ∧ ∃ v, outcome = .value v ∧ v.text? = none := by
  cases outcome with
  | value v =>
    rw [Outcome.text] at failed
    cases shown : v.text? with
    | none =>
      rw [shown] at failed
      exact ⟨(Except.error.inj failed).symm, v, rfl, shown⟩
    | some text =>
      rw [shown] at failed
      contradiction
  | _ => contradiction

theorem exists_json (unmapped : outcome.Unmapped) (told : outcome.text = .ok text) :
    ∃ content, outcome.json? = .ok content := by
  cases outcome with
  | value v =>
    rw [Outcome.text] at told
    cases shown : v.text? with
    | none =>
      rw [shown] at told
      contradiction
    | some written =>
      obtain ⟨json, same, _⟩ := shows_of_text? (unmapped v rfl) shown
      rw [Outcome.json?, same]
      exact ⟨_, rfl⟩
  | _ => exact ⟨_, rfl⟩

theorem answer_missingFile (path : String) (format : Format) :
    ∃ document, (Outcome.missingFile path).answer format =
      .ok ((Outcome.missingFile path).printed document) := by
  have writable := Json.writable_object (List.forall_mem_singleton.mpr
    (Json.writable_text ("File not found: " ++ path)) : ∀ field ∈ [("error", _)], _)
  obtain ⟨document, same⟩ := writable.render .oneLine
  have written :
      Outcome.jsonText .oneLine (.object [("error", .text ("File not found: " ++ path))]) =
        .ok document := by
    rw [Outcome.jsonText, same]
    rfl
  refine ⟨document, bind_eq_ok.mpr ⟨_, rfl, ?_⟩⟩
  cases format with
  | text => exact bind_eq_ok.mpr ⟨document, written, rfl⟩
  | json => exact bind_eq_ok.mpr ⟨document, written, rfl⟩

section
variable (told : outcome.text = .ok text) (present : ∀ path, outcome ≠ .missingFile path)
include told present

theorem answer_text : outcome.answer .text =
    .ok (if outcome.isSuccess then outcome.printed text else outcome.complained text) := by
  cases outcome with
  | missingFile path => exact absurd rfl (present path)
  | _ =>
    rw [Outcome.answer, told]
    rfl

theorem answer_json : outcome.answer .json = (do
    match ← outcome.json? with
    | some content => do
      let document ← Outcome.jsonText (.blanks 2) content
      .ok (outcome.printed document)
    | none => .ok (outcome.complained text)) := by
  cases outcome with
  | missingFile path => exact absurd rfl (present path)
  | _ =>
    rw [Outcome.answer, told]
    rfl

end

theorem answer_of_unprintable (unprintable : outcome.Unprintable format) :
    outcome.answer format = .error (.value .tooManyDigits) := by
  cases unprintable with
  | result textless =>
    rw [Outcome.answer, Outcome.text, textless]
    rfl
  | @document _ content shown long =>
    cases told : outcome.text with
    | error fault =>
      obtain ⟨rfl, _⟩ := unprintable_of_text told
      rw [Outcome.answer, told]
      rfl
    | ok text =>
      have present : ∀ path, outcome ≠ .missingFile path := by
        rintro path rfl
        cases shown
      rw [answer_json told present, shown]
      change Outcome.jsonText _ content >>= _ = _
      rw [Outcome.jsonText, long]
      rfl

/-- An outcome is told, with its status, unless it is unprintable. -/
theorem answer_cases (unmapped : outcome.Unmapped) (format : Format) :
    (∃ answer, outcome.answer format = .ok answer ∧ answer.status = outcome.status ∧
      answer.Speaks) ∨ outcome.Unprintable format := by
  by_cases missing : ∃ path, outcome = .missingFile path
  · obtain ⟨path, rfl⟩ := missing
    obtain ⟨document, answered⟩ := answer_missingFile path format
    exact .inl ⟨_, answered, rfl, speaks_printed _ _⟩
  have present : ∀ path, outcome ≠ .missingFile path := not_exists.mp missing
  cases told : outcome.text with
  | error fault =>
    obtain ⟨_, v, rfl, textless⟩ := unprintable_of_text told
    exact .inr (.result textless)
  | ok text =>
    cases format with
    | text =>
      rw [answer_text told present]
      split
      · exact .inl ⟨_, rfl, rfl, speaks_printed _ _⟩
      · exact .inl ⟨_, rfl, rfl, speaks_complained _ _⟩
    | json =>
      obtain ⟨content?, shown⟩ := exists_json unmapped told
      rw [answer_json told present]
      cases content? with
      | none => exact .inl ⟨_, bind_eq_ok.mpr ⟨_, shown, rfl⟩, rfl, speaks_complained _ _⟩
      | some content =>
        cases written : content.render? (.blanks 2) with
        | none => exact .inr (.document shown written)
        | some document =>
          have rendered : Outcome.jsonText (.blanks 2) content = .ok document := by
            rw [Outcome.jsonText, written]
            rfl
          exact .inl ⟨_, bind_eq_ok.mpr ⟨_, shown, bind_eq_ok.mpr ⟨_, rendered, rfl⟩⟩, rfl,
            speaks_printed _ _⟩

theorem status_of_answer (unmapped : outcome.Unmapped)
    (told : outcome.answer format = .ok answer) :
    answer.status = (if outcome.isSuccess then 0 else 1) ∧ answer.Speaks := by
  rcases answer_cases unmapped format with ⟨same, answered, status, speaks⟩ | unprintable
  · cases answered.symm.trans told
    exact ⟨status, speaks⟩
  · cases (answer_of_unprintable unprintable).symm.trans told

end

end Formula.CommandLine
