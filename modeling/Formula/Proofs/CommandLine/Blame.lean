import Formula.Proofs.CommandLine.Escapes
import Formula.Proofs.CommandLine.Mathematics
import Formula.Proofs.CommandLine.Stages
import Formula.Proofs.Session.Origin

/-! What the report of a failed callback is about. Such a report is made of a failure of arithmetic
or of an inadmissible value, wherever that comes from: the last call of the evaluation may have
raised it, but operators on numbers that are too great or on decimals fail in the same way, and so
does reading a source that is no text. -/
namespace Formula.CommandLine
open Logged

section
variable {config : Config} {source : Source} {particulars : Particulars} {s : Callback.Session}

/-! ### Failures of arithmetic -/

/-- Where no function is called, only what slips through the policy on division is reported. -/
theorem Prepared.slips (prepared : Prepared config source particulars s)
    (noCall : s.root.functionSymbols = [])
    (failed : (s.evaluateRoot standardHost s.policy).1 = .error fault)
    (computational : fault.isComputational = true) : fault.Slips config.numberKind := by
  have provides : s.Provides standardHost s.root (Value.Occurs config.numberKind)
      fun fault => fault.isComputational = true → fault.Slips config.numberKind := by
    constructor
    · intro slot member
      obtain ⟨v, held⟩ := Option.isSome_iff_exists.mp (prepared.bound.values slot member)
      exact ⟨v, held, prepared.occurs held⟩
    · intro slot member
      rw [noCall] at member
      contradiction
  have stays := stays_evaluate (closedUnder_occurs config.numberKind s.policy) provides
    (fun _ => Value.occurs_of_kind) s.root prepared.written (List.Subset.refl _)
    (List.Subset.refl _)
  exact stays.2.fails fault failed computational

/-! ### Reports -/

section
variable {fault : Fault} (computational : fault.isComputational = true)
include computational

theorem ne_expression (error : ExpressionError) : fault ≠ .expression error := by
  rintro rfl
  contradiction

/-- Compiling fails with errors of the expression, but for a source that is no text. -/
theorem compile_eq_error_iff :
    (compile config source).outcome.1 = .error fault ↔ source.text = .error fault := by
  rw [outcome_compile, bind_eq_error, or_iff_left]
  rintro ⟨text, _, refused⟩
  obtain ⟨error, _, same⟩ := mapError_eq_error.mp refused
  exact ne_expression computational error same.symm

/-- Validating fails with errors of the expression, so the evaluation itself has failed. -/
theorem evaluate_eq_error_iff : (evaluate s).outcome.1 = .error fault ↔
    ∃ t, s.validate = .ok t ∧ (t.evaluateRoot standardHost t.policy).1 = .error fault := by
  rw [outcome_evaluate, bind_eq_error, or_iff_right]
  intro invalid
  rcases validate_eq_error invalid with ⟨name, same⟩ | ⟨slot, _, same⟩ <;>
    exact ne_expression computational _ same

/-- Binding fails with errors of the expression. -/
theorem conclude_eq_error_iff
    (compiles : Compiled.compile config.numberKind text source.name = .ok compiled)
    (equipped : Equipped compiled config.policy (·.kind? = some config.numberKind)
      (fun _ => False) s) :
    (conclude particulars (.ok (s, names))).outcome.1 = .error fault ↔
      ∃ t, (bindOptions particulars names s).outcome.1 = .ok t ∧
        (evaluate t).outcome.1 = .error fault := by
  have binds := ends_bindOptions particulars compiles equipped names
  rw [outcome_conclude, bind_eq_error, or_iff_right]
  · refine exists_congr fun t => and_congr_right fun _ => ?_
    rw [bind_eq_error, or_iff_left]
    rintro ⟨value, _, absent⟩
    contradiction
  · intro unbound
    rw [binds.outcome.2 fault unbound] at computational
    contradiction

/-- Failures of arithmetic come from a source that is no text or from the evaluation itself. -/
theorem evaluateSource_eq_error_iff :
    (evaluateSource config source particulars).outcome.1 = .error fault ↔
      source.text = .error fault ∨ ∃ s, Prepared config source particulars s ∧
        (s.evaluateRoot standardHost s.policy).1 = .error fault := by
  have assigns (compiled : Compiled) := ends_assign_start config.numberKind compiled config.policy
    particulars.assignments
  rw [outcome_evaluateSource, bind_eq_error, compile_eq_error_iff computational]
  refine or_congr_right ?_
  constructor
  · rintro ⟨compiled, success, failed⟩
    obtain ⟨text, read, compiles⟩ := outcome_compile_eq_ok.mp success
    rcases bind_eq_error.mp failed with unassigned | ⟨_ | ⟨t, names⟩, assigned, failed⟩
    · rw [(assigns compiled).outcome.2 fault unassigned] at computational
      contradiction
    · contradiction
    have equipped := (assigns compiled).outcome.1 _ assigned t names rfl
    obtain ⟨u, bound, failed⟩ := (conclude_eq_error_iff computational compiles equipped).mp failed
    obtain ⟨s, validated, failed⟩ := (evaluate_eq_error_iff computational).mp failed
    exact ⟨s, ⟨read, compiles, assigned, bound, validated⟩, failed⟩
  · rintro ⟨s, ⟨read, compiles, assigned, bound, validated⟩, failed⟩
    have equipped := (assigns _).outcome.1 _ assigned _ _ rfl
    refine ⟨_, outcome_compile_eq_ok.mpr ⟨_, read, compiles⟩, ?_⟩
    refine bind_eq_error.mpr (.inr ⟨_, assigned, ?_⟩)
    refine (conclude_eq_error_iff computational compiles equipped).mpr ⟨_, bound, ?_⟩
    exact (evaluate_eq_error_iff computational).mpr ⟨s, validated, failed⟩

end

theorem reportFailures_eq_callbackFailure {outcome : Except Fault (Except Misassignment Value)} :
    reportFailures (outcome.map outcomeOf) = .ok (.callbackFailure fault) ↔
      fault.isComputational = true ∧ outcome = .error fault := by
  cases outcome with
  | ok result => cases result <;> exact ⟨nofun, nofun⟩
  | error cause =>
    cases computational : cause.isComputational with
    | true =>
      rw [show reportFailures (Except.map outcomeOf (.error cause)) = _ from
        reportFailures_of_isComputational computational]
      constructor
      · rintro ⟨⟩
        exact ⟨computational, rfl⟩
      · rintro ⟨_, ⟨⟩⟩
        rfl
    | false =>
      refine iff_of_false ?_ ?_
      · cases cause <;> first | contradiction | exact nofun
      · rintro ⟨other, ⟨⟩⟩
        rw [computational] at other
        contradiction

end

/-- What a report of a failed callback is about: the call, last of all, of a callback; an operator,
which without calls fails in those ways only that slip through the policy on division; or bytes
that are no text. -/
inductive Blamed (config : Config) (source : Source) (particulars : Particulars) (fault : Fault) :
    Prop where
  | callback (prepared : Prepared config source particulars s)
      (raises : s.Raises standardHost s.policy s.root fault)
  | operator (prepared : Prepared config source particulars s)
      (failed : (s.evaluateRoot standardHost s.policy).1 = .error fault)
      (refuses : s.Refuses standardHost s.policy s.root fault)
      (slips : particulars.math = false ∨ s.root.functionSymbols = [] →
        fault.Slips config.numberKind)
  | source (undecodable : source.text = .error fault)

/-- A callback is reported to have failed if and only if there is a failure of arithmetic or an
inadmissible value that a callback, an operator or reading the source is to be blamed for. -/
theorem callbackFailure_iff_blamed (config : Config) (source : Source) (particulars : Particulars)
    (fault : Fault) :
    (perform config source particulars .eval).outcome.1 = .ok (.callbackFailure fault) ↔
      fault.isComputational = true ∧ Blamed config source particulars fault := by
  rw [Logged.outcome, run_perform_eval, reportFailures_eq_callbackFailure]
  refine and_congr_right fun computational => ?_
  rw [evaluateSource_eq_error_iff computational]
  constructor
  · rintro (unread | ⟨s, prepared, failed⟩)
    · exact .source unread
    · have other := Fault.isAboutSymbol_of_isOperational
        (Fault.isOperational_of_isComputational computational)
      have origin := origin_of_evaluate prepared.preserved prepared.written other failed
      rcases origin with raises | refuses
      · exact .callback prepared raises
      · refine .operator prepared failed refuses fun plain => ?_
        exact prepared.slips (plain.elim prepared.functionSymbols_eq_nil id) failed computational
  · rintro (⟨prepared, raises⟩ | ⟨prepared, failed, _⟩ | unread)
    · obtain ⟨_, _, _, called, raised⟩ := raises
      have among := called ▸ List.mem_append_right _ List.mem_cons_self
      exact .inr ⟨_, prepared, evaluate_of_event prepared.preserved among raised⟩
    · exact .inr ⟨_, prepared, failed⟩
    · exact .inl unread

/-- The factorial of a negative number: its failure is that of a callback, and is reported so. -/
theorem callbackFailure_of_factorial :
    let config : Config := ⟨.int, true, "WARNING", "text"⟩
    let cause : Fault := .value (.argument "factorial() not defined for negative values")
    (perform config (.inline "factorial(-1)") ⟨none, [], true⟩ .eval).outcome.1 =
      .ok (.callbackFailure cause) := by
  intro config cause
  have scanned : Lexeme.scan 1 "factorial(-1)".toList = [⟨.name "factorial".toList, 1⟩,
      ⟨.mark '(', 10⟩, ⟨.mark '-', 11⟩, ⟨.number ['1'], 12⟩, ⟨.mark ')', 13⟩] := by
    decide +kernel
  let slot : FunctionSlot := ⟨0, "factorial", 1⟩
  let arguments : List Node := [.negation (.literal (.int 1))]
  let compiled : Compiled := ⟨"factorial(-1)", .call slot arguments, ⟨[], [slot]⟩⟩
  have compiles : Compiled.compile .int "factorial(-1)" inlineSource = .ok compiled := by
    rw [Compiled.compile, Term.read, scanned, Grammar.Situation.readOperand_eq_run]
    rfl
  let primitive := Primitive.unary "factorial" "math.factorial" Primitive.orders
  let u : Callback.Session := withPrimitive (.start compiled .checked .empty) slot primitive
  let s : Callback.Session := { u with validated := true }
  have prepared : Prepared config (.inline "factorial(-1)") ⟨none, [], true⟩ s :=
    .intro (t := .start compiled .checked .empty) (u := u) rfl compiles rfl rfl rfl
  let event : CallEvent Callback := ⟨⟨0, .primitive primitive⟩, [.int (-1)], .error cause⟩
  have member : ([], .call slot arguments) ∈ s.root.inPostorder := by
    apply Tree.mem_inPostorder
    rw [Tree.visits_eq]
    exact List.mem_cons_of_mem _ (List.mem_append_right _ List.mem_cons_self)
  have evaluated : s.EvaluatesAllTo standardHost s.policy arguments event.arguments :=
    ⟨s, ⟨rfl, rfl⟩, rfl⟩
  have called : s.root.calls standardHost s.policy s = [] ++ [event] := by
    rfl
  have raises : s.Raises standardHost s.policy s.root cause :=
    .call member rfl evaluated called rfl
  exact (callbackFailure_iff_blamed config _ _ cause).mpr ⟨rfl, .callback prepared raises⟩

/-- A product that is too great is reported as the failure of a callback, where there is none. -/
theorem callbackFailure_of_overflow :
    let config : Config := ⟨.decimal, true, "WARNING", "text"⟩
    ∃ compiled, Compiled.compile .decimal "9e999999*10" inlineSource = .ok compiled ∧
      compiled.root.functionSymbols = [] ∧
      (perform config (.inline "9e999999*10") ⟨none, [], false⟩ .eval).outcome.1 =
        .ok (.callbackFailure (.decimal .overflow)) := by
  intro config
  have scanned : Lexeme.scan 1 "9e999999*10".toList = [⟨.number "9e999999".toList, 1⟩,
      ⟨.mark '*', 9⟩, ⟨.number ['1', '0'], 10⟩] := by
    decide +kernel
  let left : Node := .literal (.decimal (.finite false 9 999999))
  let right : Node := .literal (.decimal (.finite false 10 0))
  let compiled : Compiled := ⟨"9e999999*10", .binary .mul left right, .empty⟩
  have compiles : Compiled.compile .decimal "9e999999*10" inlineSource = .ok compiled := by
    rw [Compiled.compile, Term.read, scanned, Grammar.Situation.readOperand_eq_run]
    rfl
  let start : Callback.Session := .start compiled .checked .empty
  let s : Callback.Session := { start with validated := true }
  have prepared : Prepared config (.inline "9e999999*10") ⟨none, [], false⟩ s :=
    .intro (t := start) rfl compiles rfl rfl rfl
  have failed : (s.evaluateRoot standardHost s.policy).1 = .error (.decimal .overflow) := by
    rfl
  refine ⟨compiled, compiles, rfl, ?_⟩
  rw [Logged.outcome, run_perform_eval, reportFailures_eq_callbackFailure]
  exact ⟨rfl, (evaluateSource_eq_error_iff rfl).mpr (.inr ⟨s, prepared, failed⟩)⟩

end Formula.CommandLine
