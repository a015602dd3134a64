import Formula.CommandLine.Report
import Formula.Proofs.CommandLine.Evaluation
import Formula.Proofs.CommandLine.Logging
import Formula.Proofs.CommandLine.Printing
import Formula.Proofs.Session.Literals

/-! Runs that end with a fault. Without settings files, and with the source of the expression among
the arguments, every request is answered with a status, but for a few causes. Each of these is
named: a literal or a result without a text, a mismatch of types or a want of memory in an
evaluation, and a source so long that its positions have no text. How deep a recursion may go is not
limited here. -/
namespace Formula.CommandLine

namespace Request

/-- What evaluating the expression of a request comes to. -/
def evaluated (request : Request) (config : Config) : Except Fault (Except Misassignment Value) :=
  (evaluateSource config (.inline request.expression) request.particulars).outcome.1

/-- What doing what is requested comes to, where the source is among the arguments. -/
def performed (request : Request) (config : Config) : Except Fault Outcome :=
  (request.outcome config (.inline request.expression)).outcome.1

end Request

/-- Why a request is not answered. -/
inductive Escapes (config : Config) (request : Request) : Fault → Prop
  | literal (command : request.command = .tree) (kind : config.numberKind = .fraction)
      (compiles : Compiled.compile config.numberKind request.expression inlineSource = .ok compiled)
      (member : (depth, .literal v) ∈ compiled.root.preorder 0) (textless : v.text? = none) :
      Escapes config request (.value .tooManyDigits)
  | result (command : request.command = .eval) (evaluated : request.evaluated config = .ok (.ok v))
      (textless : v.text? = none) : Escapes config request (.value .tooManyDigits)
  | mismatch (command : request.command = .eval)
      (evaluated : request.evaluated config = .error (.mismatch cause))
      (mixed : request.particulars.math = true ∨
        config.numberKind = .decimal ∧ config.checkDivision = false) :
      Escapes config request (.mismatch cause)
  | memory (command : request.command = .eval)
      (evaluated : request.evaluated config = .error .memory)
      (math : request.particulars.math = true) : Escapes config request .memory
  | position (performed : request.performed config = .ok outcome)
      (unprintable : outcome.Unprintable config.format)
      (long : 10 ^ digitLimit ≤ request.expression.length + 1) :
      Escapes config request (.value .tooManyDigits)

/-! ### Outcomes -/

/-- The outcome of a computation of which errors of the expression are reported. -/
def reportErrors : Except Fault Outcome → Except Fault Outcome
  | .error (.expression error) => .ok (.expressionError error)
  | other => other

/-- The outcome of a computation of which failures of arithmetic are reported as well. -/
def reportFailures : Except Fault Outcome → Except Fault Outcome
  | .error (.expression error) => .ok (.expressionError error)
  | .error fault => if fault.isComputational then .ok (.callbackFailure fault) else .error fault
  | other => other

theorem reportFailures_of_isComputational (computational : fault.isComputational = true) :
    reportFailures (.error fault) = .ok (.callbackFailure fault) := by
  cases fault <;> first | contradiction | rfl

theorem run_reportingErrors (computation : Logged Outcome) (events : List Event) :
    ((reportingErrors computation).run.run events).1 =
      reportErrors (computation.run.run events).1 := by
  rw [reportingErrors]
  cases run : computation.run.run events with
  | mk outcome later =>
    cases outcome with
    | ok outcome => rw [Logged.run_tryCatch_ok run, reportErrors]; exact nofun
    | error fault =>
      rw [Logged.run_tryCatch_error run]
      cases fault <;> rfl

theorem run_reportingFailures (computation : Logged Outcome) (events : List Event) :
    ((reportingFailures computation).run.run events).1 =
      reportFailures (computation.run.run events).1 := by
  rw [reportingFailures]
  cases run : computation.run.run events with
  | mk outcome later =>
    cases outcome with
    | ok outcome => rw [Logged.run_tryCatch_ok run, reportFailures] <;> exact nofun
    | error fault =>
      rw [Logged.run_tryCatch_error run]
      cases fault <;> rfl

section
variable {config : Config} {request : Request}

/-- The outcome of an evaluation that has come to a value, or found a wrong assignment. -/
def outcomeOf : Except Misassignment Value → Outcome
  | .ok value => .value value
  | .error cause => .misassignment cause

theorem performed_eq (request : Request) (config : Config) : ∃ events, request.performed config =
    ((perform config (.inline request.expression) request.particulars request.command).run.run
      events).1 := by
  refine ⟨[.running request.command.name config], ?_⟩
  rw [Request.performed, Request.outcome, Logged.outcome,
    Logged.run_bind_ok (Logged.run_log _ _), List.nil_append]

/-- A source that does not compile is reported; what one that does is put to says the rest. -/
theorem run_reportingErrors_compile {next : Compiled → Logged Outcome}
    (result : Compiled → Except Fault Outcome)
    (yields : ∀ compiled events, ((next compiled).run.run events).1 = result compiled)
    (text : String) (events : List Event) :
    ((reportingErrors (compile config (.inline text) >>= next)).run.run events).1 =
      match Compiled.compile config.numberKind text inlineSource with
      | .ok compiled => reportErrors (result compiled)
      | .error error => .ok (.expressionError error) := by
  have read : (Source.inline text).text = .ok text := rfl
  obtain ⟨later, run⟩ := run_compile config read events
  rw [Source.name] at run
  rw [run_reportingErrors]
  cases outcome : Compiled.compile config.numberKind text inlineSource with
  | ok compiled =>
    rw [outcome] at run
    rw [Logged.run_bind_ok run, yields]
  | error error =>
    rw [outcome] at run
    rw [Logged.run_bind_error run]
    rfl

theorem performed_check (command : request.command = .check) : request.performed config =
    match Compiled.compile config.numberKind request.expression inlineSource with
    | .ok compiled => .ok (.symbols (compiled.context.variables.map (·.name))
        (compiled.context.functions.map fun slot => (slot.name, slot.arity)))
    | .error error => .ok (.expressionError error) := by
  obtain ⟨events, same⟩ := performed_eq request config
  rw [same, command, perform]
  apply run_reportingErrors_compile fun compiled => .ok (.symbols _ _)
  exact fun _ _ => rfl

theorem performed_tree (command : request.command = .tree) : request.performed config =
    match Compiled.compile config.numberKind request.expression inlineSource with
    | .ok compiled => reportErrors (compiled.root.outline.map .outline)
    | .error error => .ok (.expressionError error) := by
  obtain ⟨events, same⟩ := performed_eq request config
  rw [same, command, perform]
  apply run_reportingErrors_compile fun compiled => compiled.root.outline.map .outline
  intro compiled events
  cases compiled.root.outline <;> rfl

/-- What evaluating a source is reported as. -/
theorem run_perform_eval (config : Config) (source : Source) (particulars : Particulars)
    (events : List Event) : ((perform config source particulars .eval).run.run events).1 =
      reportFailures ((evaluateSource config source particulars).outcome.1.map outcomeOf) := by
  rw [perform, run_reportingFailures, ← unlogged_evaluateSource config source particulars events]
  cases run : (evaluateSource config source particulars).run.run events with
  | mk outcome later =>
    cases outcome with
    | error fault =>
      rw [Logged.run_bind_error run]
      rfl
    | ok outcome =>
      rw [Logged.run_bind_ok run]
      cases outcome <;> rfl

theorem performed_eval (command : request.command = .eval) : request.performed config =
    reportFailures ((request.evaluated config).map outcomeOf) := by
  obtain ⟨events, same⟩ := performed_eq request config
  rw [same, command, run_perform_eval, Request.evaluated]

/-! ### Values -/

theorem unmapped_of_evaluated (evaluated : request.evaluated config = .ok (.ok v)) : v.Unmapped :=
  (ends_evaluateSource config (.inline request.expression) request.particulars).outcome.1 _
    evaluated v rfl

/-- Only an evaluation comes to a value. -/
theorem evaluated_of_performed (performed : request.performed config = .ok (.value v)) :
    request.evaluated config = .ok (.ok v) := by
  cases command : request.command with
  | check =>
    rw [performed_check command] at performed
    split at performed <;> cases performed
  | tree =>
    rw [performed_tree command] at performed
    split at performed
    · next compiled _ =>
      cases described : compiled.root.outline with
      | ok text =>
        rw [described] at performed
        cases performed
      | error fault =>
        rw [described] at performed
        cases fault <;> cases performed
    · cases performed
  | eval =>
    rw [performed_eval command] at performed
    cases evaluated : request.evaluated config with
    | ok outcome =>
      rw [evaluated] at performed
      cases outcome with
      | ok w =>
        cases performed
        rfl
      | error cause => cases performed
    | error fault =>
      rw [evaluated] at performed
      change reportFailures (.error fault) = _ at performed
      unfold reportFailures at performed
      split at performed
      · cases performed
      · split at performed <;> cases performed
      · contradiction

theorem unmapped_of_performed (performed : request.performed config = .ok outcome) :
    outcome.Unmapped := by
  rintro v rfl
  exact unmapped_of_evaluated (evaluated_of_performed performed)

/-! ### Faults -/

theorem escapes_of_tree (failed : request.performed config = .error fault)
    (command : request.command = .tree) : Escapes config request fault := by
  rw [performed_tree command] at failed
  cases compiles : Compiled.compile config.numberKind request.expression inlineSource with
  | error error =>
    rw [compiles] at failed
    contradiction
  | ok compiled =>
    rw [compiles] at failed
    dsimp only at failed
    cases described : compiled.root.outline with
    | ok text =>
      rw [described] at failed
      contradiction
    | error cause =>
      obtain ⟨rfl, depth, v, member, textless⟩ :=
        (outline_eq_error_iff (written_of_compile compiles)).mp described
      rw [described] at failed
      cases failed
      have kind := literals_of_compile compiles 0 _ member v rfl textless
      exact .literal command kind compiles member textless

theorem escapes_of_eval (failed : request.performed config = .error fault)
    (command : request.command = .eval) : Escapes config request fault := by
  rw [performed_eval command] at failed
  have fails := (ends_evaluateSource config (.inline request.expression)
    request.particulars).outcome.2
  cases evaluated : request.evaluated config with
  | ok outcome =>
    rw [evaluated] at failed
    cases outcome <;> contradiction
  | error cause =>
    rw [evaluated] at failed
    cases fails cause evaluated with
    | expression => contradiction
    | computation computational =>
      have reported := reportFailures_of_isComputational computational
      exact absurd (reported.symm.trans failed) nofun
    | mismatch mixed =>
      cases failed
      exact .mismatch command evaluated mixed
    | memory math =>
      cases failed
      exact .memory command evaluated math

/-- A request is not done only for a cause of which it is known that it is not reported. -/
theorem escapes_of_performed (failed : request.performed config = .error fault) :
    Escapes config request fault := by
  cases command : request.command with
  | check =>
    rw [performed_check command] at failed
    split at failed <;> contradiction
  | tree => exact escapes_of_tree failed command
  | eval => exact escapes_of_eval failed command

/-! ### Texts -/

theorem writable_symbolsJson (names : List String) {functions : List (String × Nat)}
    (short : ∀ function ∈ functions, function.2 < 10 ^ digitLimit) :
    (Outcome.symbolsJson names functions).Writable := by
  apply Json.writable_object
  simp only [List.forall_mem_cons]
  refine ⟨Json.writable_text _, Json.writable_array ?_, Json.writable_array ?_,
    List.forall_mem_nil _⟩
  · intro json member
    obtain ⟨name, _, rfl⟩ := List.mem_map.mp member
    exact Json.writable_text name
  · intro json member
    obtain ⟨⟨name, arity⟩, among, rfl⟩ := List.mem_map.mp member
    apply Json.writable_object
    simp only [List.forall_mem_cons]
    exact ⟨Json.writable_text name, Json.writable_int (short _ among), List.forall_mem_nil _⟩

theorem writable_treeJson (text : String) :
    (Json.object [("tree", .array ((Outcome.linesOf text).map .text))]).Writable := by
  refine Json.writable_object (List.forall_mem_singleton.mpr (Json.writable_array ?_))
  intro json member
  obtain ⟨line, _, rfl⟩ := List.mem_map.mp member
  exact Json.writable_text line

theorem writable_callbackJson (fault : Fault) : (Outcome.callbackJson fault).Writable := by
  apply Json.writable_object
  simp only [List.forall_mem_cons]
  refine ⟨Json.writable_text _, Json.writable_text _, ?_, List.forall_mem_nil _⟩
  exact Json.writable_object (List.forall_mem_singleton.mpr (Json.writable_text _))

/-- The outcome is no value, and its JSON document can be written. -/
def Outcome.Writable (outcome : Outcome) : Prop :=
  (∀ v, outcome ≠ .value v) ∧ ∀ content, outcome.json? = .ok (some content) → content.Writable

theorem Outcome.Writable.printable {outcome : Outcome} (writable : outcome.Writable)
    (format : Format) : ¬outcome.Unprintable format := by
  intro unprintable
  cases unprintable with
  | result => exact writable.1 _ rfl
  | document shown long =>
    obtain ⟨text, written⟩ := (writable.2 _ shown).render (.blanks 2)
    rw [long] at written
    contradiction

theorem writable_expressionError (tellable : Tellable length error)
    (short : length + 1 < 10 ^ digitLimit) : (Outcome.expressionError error).Writable := by
  refine ⟨nofun, ?_⟩
  rintro content ⟨⟩
  exact tellable.writable short

section
variable (performed : request.performed config = .ok outcome)
  (short : request.expression.length + 1 < 10 ^ digitLimit)
include performed short

theorem writable_of_check (command : request.command = .check) : outcome.Writable := by
  rw [performed_check command] at performed
  cases compiles : Compiled.compile config.numberKind request.expression inlineSource with
  | ok compiled =>
    rw [compiles] at performed
    obtain rfl := Except.ok.inj performed
    refine ⟨nofun, ?_⟩
    rintro content ⟨⟩
    apply writable_symbolsJson
    intro function member
    obtain ⟨slot, among, rfl⟩ := List.mem_map.mp member
    have bound := arity_le_length compiles slot among
    dsimp only
    omega
  | error error =>
    rw [compiles] at performed
    obtain rfl := Except.ok.inj performed
    exact writable_expressionError (tellable_of_compile compiles) short

theorem writable_of_tree (command : request.command = .tree) : outcome.Writable := by
  rw [performed_tree command] at performed
  cases compiles : Compiled.compile config.numberKind request.expression inlineSource with
  | ok compiled =>
    rw [compiles] at performed
    dsimp only at performed
    cases described : compiled.root.outline with
    | ok text =>
      rw [described] at performed
      obtain rfl := Except.ok.inj performed
      refine ⟨nofun, ?_⟩
      rintro content ⟨⟩
      exact writable_treeJson text
    | error cause =>
      obtain ⟨rfl, _⟩ := (outline_eq_error_iff (written_of_compile compiles)).mp described
      rw [described] at performed
      exact absurd performed nofun
  | error error =>
    rw [compiles] at performed
    obtain rfl := Except.ok.inj performed
    exact writable_expressionError (tellable_of_compile compiles) short

theorem writable_of_eval (command : request.command = .eval) :
    outcome.Writable ∨ ∃ v, outcome = .value v ∧ request.evaluated config = .ok (.ok v) := by
  rw [performed_eval command] at performed
  have fails := (ends_evaluateSource config (.inline request.expression)
      request.particulars).outcome.2
  cases evaluated : request.evaluated config with
  | ok outcome =>
    rw [evaluated] at performed
    cases outcome with
    | ok v =>
      obtain rfl := Except.ok.inj performed
      exact .inr ⟨v, rfl, rfl⟩
    | error cause =>
      obtain rfl := Except.ok.inj performed
      exact .inl ⟨nofun, nofun⟩
  | error cause =>
    rw [evaluated] at performed
    cases fails cause evaluated with
    | expression tellable =>
      obtain rfl := Except.ok.inj performed
      exact .inl (writable_expressionError tellable short)
    | computation computational =>
      have reported := reportFailures_of_isComputational computational
      obtain rfl := Except.ok.inj (reported.symm.trans performed)
      refine .inl ⟨nofun, ?_⟩
      rintro content ⟨⟩
      exact writable_callbackJson cause
    | mismatch | memory => exact absurd performed nofun

/-- Unless the source is too long, only a result can make an outcome unprintable. -/
theorem writable_of_performed : outcome.Writable ∨
    ∃ v, outcome = .value v ∧ request.command = .eval ∧ request.evaluated config = .ok (.ok v) := by
  cases command : request.command with
  | check => exact .inl (writable_of_check performed short command)
  | tree => exact .inl (writable_of_tree performed short command)
  | eval =>
    rcases writable_of_eval performed short command with writable | ⟨v, same, evaluated⟩
    · exact .inl writable
    · exact .inr ⟨v, same, rfl, evaluated⟩

end

theorem escapes_of_unprintable (performed : request.performed config = .ok outcome)
    (unprintable : outcome.Unprintable config.format) :
    Escapes config request (.value .tooManyDigits) := by
  by_cases short : request.expression.length + 1 < 10 ^ digitLimit
  swap
  · exact .position performed unprintable (Nat.not_lt.mp short)
  rcases writable_of_performed performed short with writable | ⟨v, rfl, command, evaluated⟩
  · exact absurd unprintable (writable.printable config.format)
  · refine .result command evaluated ?_
    generalize config.format = format at unprintable
    cases unprintable with
    | result textless => exact textless
    | document shown long =>
      cases told : v.text? with
      | none => rfl
      | some text =>
        obtain ⟨json, same, writable⟩ := shows_of_text? (unmapped_of_evaluated evaluated) told
        rw [Outcome.json?, same] at shown
        cases shown
        have result : (Json.object [("result", json)]).Writable :=
          Json.writable_object (List.forall_mem_singleton.mpr writable)
        obtain ⟨document, written⟩ := result.render (.blanks 2)
        cases long.symm.trans written

/-- A cause that is named keeps a request from being answered. -/
theorem fault_of_escapes (escapes : Escapes config request fault) :
    request.performed config >>= Outcome.answer config.format = .error fault := by
  cases escapes with
  | literal command kind compiles member textless =>
    have described := (outline_eq_error_iff (written_of_compile compiles)).mpr
      ⟨rfl, _, _, member, textless⟩
    rw [performed_tree command, compiles]
    dsimp only
    rw [described]
    rfl
  | result command evaluated textless =>
    rw [performed_eval command, evaluated]
    exact answer_of_unprintable (.result textless)
  | mismatch command evaluated mixed =>
    rw [performed_eval command, evaluated]
    rfl
  | memory command evaluated math =>
    rw [performed_eval command, evaluated]
    rfl
  | position performed unprintable long =>
    rw [performed]
    exact answer_of_unprintable unprintable

/-- A request is not answered if and only if there is a cause that is named. -/
theorem answer_eq_error_iff :
    request.performed config >>= Outcome.answer config.format = .error fault ↔
      Escapes config request fault := by
  constructor
  · intro failed
    rcases bind_eq_error.mp failed with unperformed | ⟨outcome, performed, untold⟩
    · exact escapes_of_performed unperformed
    have unmapped := unmapped_of_performed performed
    rcases answer_cases unmapped config.format with ⟨answer, told, _⟩ | unprintable
    · cases told.symm.trans untold
    · cases (answer_of_unprintable unprintable).symm.trans untold
      exact escapes_of_unprintable performed unprintable
  · exact fault_of_escapes

end

/-! ### Runs -/

theorem linesText_ne_empty {lines : List String} (nonempty : lines ≠ []) :
    linesText lines ≠ "" := by
  obtain ⟨line, others, rfl⟩ := List.exists_cons_of_ne_nil nonempty
  intro same
  have chars := congrArg String.toList same
  simp [linesText, String.join_cons] at chars

theorem speaks_halt (halt : Halt) : halt.answer.Speaks := by
  have usage (command : Option Command) : usageLines command ≠ [] := by
    rcases command with _ | _ | _ | _ <;> exact List.cons_ne_nil _ _
  cases halt with
  | help command => exact .inl (linesText_ne_empty (List.append_ne_nil_of_left_ne_nil (usage _) _))
  | version => exact .inl (line_ne_empty versionText)
  | noCommand => exact .inl (linesText_ne_empty (List.append_ne_nil_of_left_ne_nil (usage _) _))
  | misuse command cause =>
    exact .inr (linesText_ne_empty (List.append_ne_nil_of_left_ne_nil (usage _) _))

/-- Without settings files, what a request whose source is among the arguments is answered with. -/
theorem answer_run {yamlReader : Config.YamlReader} {files : Files.Snapshot} {request : Request}
    (noSettings : Config.find? files Request.startDirectory = none)
    (noPath : request.overrides.configPath = none) (noFile : request.file? = none) :
    let config := Config.standard.overriddenBy request.overrides
    (request.run yamlReader files).answer =
      request.performed config >>= Outcome.answer config.format := by
  have loaded : (Config.load yamlReader files request.overrides.configPath
      Request.startDirectory).outcome = (.ok .standard, []) := by
    rw [Config.load, noPath, noSettings]
    rfl
  have source : request.source files = .ok (.inline request.expression) := by
    rw [Request.source, noFile]
  intro config
  rw [Request.run, loaded]
  dsimp only
  rw [source]
  rfl

/-- Without settings files, and with the source of the expression among the arguments, a run ends
with a status and says something, where a request has the status of its outcome; or it ends with a
fault for one of the causes that are named. A host that bounds the depth of recursion may end a run
with a fault of its own besides. -/
theorem run_answer (yamlReader : Config.YamlReader) (files : Files.Snapshot)
    (arguments : List String)
    (noSettings : Config.find? files Request.startDirectory = none)
    (inline : ∀ request, Request.read arguments = .ok request →
      request.overrides.configPath = none ∧ request.file? = none) :
    (∀ answer, (run yamlReader files arguments).answer = .ok answer → answer.status ∈ [0, 1, 2] ∧
      answer.Speaks ∧ ∀ request, Request.read arguments = .ok request →
        let config := Config.standard.overriddenBy request.overrides
        ∃ outcome, request.performed config = .ok outcome ∧
          outcome.answer config.format = .ok answer ∧
          answer.status = if outcome.isSuccess then 0 else 1) ∧
    ∀ fault, (run yamlReader files arguments).answer = .error fault ↔
      ∃ request, Request.read arguments = .ok request ∧
        Escapes (Config.standard.overriddenBy request.overrides) request fault := by
  rw [run]
  cases read : Request.read arguments with
  | error halt =>
    constructor
    · intro answer answered
      obtain rfl := Except.ok.inj answered
      refine ⟨?_, speaks_halt halt, ?_⟩
      · cases halt <;> simp [Halt.answer]
      · intro request absent
        cases absent
    · intro fault
      constructor
      · intro failed
        cases failed
      · rintro ⟨request, absent, _⟩
        cases absent
  | ok request =>
    obtain ⟨noPath, noFile⟩ := inline request read
    dsimp only
    rw [answer_run noSettings noPath noFile]
    constructor
    · intro answer answered
      obtain ⟨outcome, performed, told⟩ := bind_eq_ok.mp answered
      obtain ⟨status, speaks⟩ := status_of_answer (unmapped_of_performed performed) told
      refine ⟨?_, speaks, ?_⟩
      · rw [status]
        split <;> simp
      · rintro _ ⟨⟩
        exact ⟨outcome, performed, told, status⟩
    · intro fault
      rw [answer_eq_error_iff]
      constructor
      · intro escapes
        exact ⟨request, rfl, escapes⟩
      · rintro ⟨_, ⟨⟩, escapes⟩
        exact escapes

/-- The parenthesis `)` begins no expression, and there is no cause for not reporting that. -/
theorem run_answer_of_parenthesis :
    let files : Files.Snapshot := ⟨[], []⟩
    Config.find? files Request.startDirectory = none ∧
      ∃ answer, (run Yaml.read files ["check", ")"]).answer = .ok answer ∧ answer.status = 1 ∧
        answer.Speaks := by
  intro files
  have noSettings : Config.find? files Request.startDirectory = none := rfl
  obtain ⟨request, read, command, expression, noPath, noFile, settings⟩ : ∃ request,
      Request.read ["check", ")"] = .ok request ∧ request.command = .check ∧
        request.expression = ")" ∧ request.overrides.configPath = none ∧ request.file? = none ∧
        Config.standard.overriddenBy request.overrides = .standard :=
    ⟨_, rfl, rfl, rfl, rfl, rfl, rfl⟩
  have inline : ∀ other, Request.read ["check", ")"] = .ok other →
      other.overrides.configPath = none ∧ other.file? = none := by
    intro other same
    obtain rfl := Except.ok.inj (read.symm.trans same)
    exact ⟨noPath, noFile⟩
  obtain ⟨answers, faults⟩ := run_answer Yaml.read files ["check", ")"] noSettings inline
  refine ⟨noSettings, ?_⟩
  cases reported : (run Yaml.read files ["check", ")"]).answer with
  | error fault =>
    obtain ⟨other, same, escapes⟩ := (faults fault).mp reported
    obtain rfl := Except.ok.inj (read.symm.trans same)
    cases escapes with
    | position _ _ long =>
      rw [expression] at long
      have short : ")".length + 1 < digitLimit := by decide
      exact absurd long (Nat.not_le.mpr (short.trans (Nat.lt_pow_self (by decide))))
    | literal requested => exact absurd (command.symm.trans requested) nofun
    | result requested => exact absurd (command.symm.trans requested) nofun
    | mismatch requested => exact absurd (command.symm.trans requested) nofun
    | memory requested => exact absurd (command.symm.trans requested) nofun
  | ok answer =>
    obtain ⟨_, speaks, status⟩ := answers answer reported
    obtain ⟨outcome, performed, _, same⟩ := status request read
    have scanned : Lexeme.scan 1 ")".toList = [⟨.mark ')', 1⟩] := by decide +kernel
    have refused : Compiled.compile .float ")" inlineSource =
        .error (.malformed "value expected" (some ⟨1, inlineSource⟩) []) := by
      rw [Compiled.compile, Term.read, scanned, Grammar.Situation.readOperand_eq_run]
      rfl
    rw [settings, performed_check command, expression,
      show Config.standard.numberKind = .float from rfl, refused] at performed
    obtain rfl := Except.ok.inj performed
    exact ⟨answer, rfl, same, speaks⟩

/-- The mathematical functions of integers are not meant for other numbers: their complaint is a
mismatch of types, which is not among the failures that are reported. -/
theorem run_of_gcdOfFloats : (run Yaml.read ⟨[], []⟩ ["eval", "gcd(4,6)", "--math"]).answer =
    .error (.mismatch (.notAnInteger "float")) := by
  have scanned : Lexeme.scan 1 "gcd(4,6)".toList = [⟨.name "gcd".toList, 1⟩, ⟨.mark '(', 4⟩,
      ⟨.number ['4'], 5⟩, ⟨.mark ',', 6⟩, ⟨.number ['6'], 7⟩, ⟨.mark ')', 8⟩] := by
    decide +kernel
  obtain ⟨x, y, compiles⟩ : ∃ x y, Compiled.compile .float "gcd(4,6)" inlineSource =
      .ok ⟨"gcd(4,6)", .call ⟨0, "gcd", 2⟩ [.literal (.float x), .literal (.float y)],
        [], [⟨0, "gcd", 2⟩]⟩ := by
    rw [Compiled.compile, Term.read, scanned, Grammar.Situation.readOperand_eq_run]
    exact ⟨_, _, rfl⟩
  have evaluated : (evaluateSource .standard (.inline "gcd(4,6)") ⟨none, [], true⟩).outcome.1 =
      .error (.mismatch (.notAnInteger "float")) := by
    have read : (Source.inline "gcd(4,6)").text = .ok "gcd(4,6)" := rfl
    obtain ⟨later, run⟩ := run_compile .standard read []
    rw [Source.name, show Config.standard.numberKind = .float from rfl, compiles] at run
    rw [evaluateSource, Logged.outcome, Logged.run_bind_ok run]
    rfl
  obtain ⟨request, read, command, noPath, noFile, same⟩ : ∃ request,
      Request.read ["eval", "gcd(4,6)", "--math"] = .ok request ∧ request.command = .eval ∧
        request.overrides.configPath = none ∧ request.file? = none ∧
        request.evaluated (Config.standard.overriddenBy request.overrides) =
          (evaluateSource .standard (.inline "gcd(4,6)") ⟨none, [], true⟩).outcome.1 :=
    ⟨_, rfl, rfl, rfl, rfl, rfl⟩
  rw [run, read]
  refine (answer_run rfl noPath noFile).trans ?_
  rw [performed_eval command, same, evaluated]
  rfl

end Formula.CommandLine
