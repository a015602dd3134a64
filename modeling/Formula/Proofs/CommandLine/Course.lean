import Formula.Proofs.CommandLine.Formats
import Formula.Proofs.Session.Independence

/-! The course of an evaluation. The source is compiled, the arguments are taken from left to right,
each one read and then bound, the session is validated and its expression evaluated. The first step
that fails is the one that is reported, and the log shows that no step was taken after it. If all
steps succeed, only the last value of each name counts, so arguments for different names may come in
any order. -/
namespace Formula.CommandLine
open Logged

/-! ### Arguments -/

/-- What is read from an argument: the name and the value before and behind the first equals sign,
without the white space around them, or why it is no assignment. -/
inductive Reads (kind : NumberKind) (argument : String) :
    Except Misassignment (String × Value) → Prop
  | unseparated (absent : '=' ∉ argument.toList) :
      Reads kind argument (.error (.unseparated argument))
  | invalid (split : argument = name ++ "=" ++ content) (first : '=' ∉ name.toList)
      (unread : kind.read? (Text.strip content) = none) :
      Reads kind argument (.error (.invalidValue name content))
  | assignment (split : argument = name ++ "=" ++ content) (first : '=' ∉ name.toList)
      (read : kind.read? (Text.strip content) = some value) :
      Reads kind argument (.ok (Text.strip name, value))

/-- The arguments are read as assignments of these values to these names. -/
abbrev ReadsAll (kind : NumberKind) : List String → List (String × Value) → Prop :=
  List.Forall₂ fun argument pair => Reads kind argument (.ok pair)

theorem splitAssignment?_of_notMem {text : String} (absent : '=' ∉ text.toList) :
    splitAssignment? text = none := by
  have none : text.toList.dropWhile (· ≠ '=') = [] := by
    refine List.dropWhile_eq_nil_iff.mpr fun c member => decide_eq_true ?_
    rintro rfl
    exact absent member
  rw [splitAssignment?, none]

theorem splitAssignment?_append {name : String} (content : String) (first : '=' ∉ name.toList) :
    splitAssignment? (name ++ "=" ++ content) = some (name, content) := by
  have before : ∀ c ∈ name.toList, decide (c ≠ '=') = true := by
    refine fun c member => decide_eq_true ?_
    rintro rfl
    exact first member
  have text : (name ++ "=" ++ content).toList = name.toList ++ '=' :: content.toList := by simp
  have behind : (name.toList ++ '=' :: content.toList).dropWhile (· ≠ '=') =
      '=' :: content.toList := by
    rw [List.dropWhile_append_of_pos before]
    rfl
  have front : (name.toList ++ '=' :: content.toList).takeWhile (· ≠ '=') = name.toList := by
    refine Grammar.takeWhile_append_of_head before ?_
    rintro _ ⟨⟩
    rfl
  rw [splitAssignment?, text, behind, front, String.ofList_toList]
  simp

/-- Every argument is read in one way. -/
theorem exists_reads (kind : NumberKind) (argument : String) :
    ∃ read, Reads kind argument read := by
  by_cases absent : '=' ∉ argument.toList
  · exact ⟨_, .unseparated absent⟩
  · obtain ⟨name, content, divided, first⟩ := List.eq_append_cons_of_mem (not_not.mp absent)
    have split : argument = String.ofList name ++ "=" ++ String.ofList content := by
      rw [← String.toList_inj, divided]
      simp
    rw [← String.toList_ofList (l := name)] at first
    cases read : kind.read? (Text.strip (String.ofList content)) with
    | none => exact ⟨_, .invalid split first read⟩
    | some value => exact ⟨_, .assignment split first read⟩

theorem Reads.isNumber (reads : Reads kind argument (.ok (name, value))) :
    value.isNumber = true := by
  cases reads with
  | assignment _ _ read => exact Value.isNumber_of_kind? (NumberKind.kind?_of_read? read)

section
variable {kind : NumberKind} {argument : String}

theorem assign_of_reads_error (reads : Reads kind argument (.error cause)) (s : Callback.Session)
    (names arguments : List String) :
    assign kind s names (argument :: arguments) = pure (.error cause) := by
  rw [assign]
  cases reads with
  | unseparated absent => rw [splitAssignment?_of_notMem absent]
  | invalid split first unread =>
    rw [split, splitAssignment?_append _ first]
    dsimp only
    rw [unread]

theorem assign_of_reads (reads : Reads kind argument (.ok (name, value))) (s : Callback.Session)
    (names arguments : List String) : assign kind s names (argument :: arguments) =
      bindVariable s name value >>= fun t => assign kind t (names ++ [name]) arguments := by
  rw [assign]
  cases reads with
  | assignment split first read =>
    rw [split, splitAssignment?_append _ first]
    dsimp only
    rw [read]

end

/-! ### Assignments -/

/-- The assignments of these values to these names. -/
def assignments (pairs : List (String × Value)) : List (Assignment Callback) :=
  pairs.map fun pair => .var pair.1 pair.2

/-- What is logged of these assignments: those of values that have a text. -/
def assignmentEvents (pairs : List (String × Value)) : List Event :=
  pairs.flatMap fun pair => (pair.2.quoted?.map (Event.boundVariable pair.1)).toList

/-- The arguments are read as these pairs, and the session goes over into another by the assignments
that they make. -/
structure Assigned (kind : NumberKind) (s : Callback.Session) (arguments : List String)
    (pairs : List (String × Value)) (t : Callback.Session) : Prop where
  reads : ReadsAll kind arguments pairs
  made : s.assign interface (assignments pairs) = .ok t

section
variable {kind : NumberKind} {s t next : Callback.Session} {arguments front : List String}
  {pairs : List (String × Value)}

theorem Assigned.cons (reads : Reads kind argument (.ok (name, value)))
    (bound : s.bindVariable name value = .ok next) (others : Assigned kind next arguments pairs t) :
    Assigned kind s (argument :: arguments) ((name, value) :: pairs) t where
  reads := .cons reads others.reads
  made := bind_eq_ok.mpr ⟨next, bound, others.made⟩

theorem run_bindVariable (bound : s.bindVariable name value = .ok t) (events : List Event) :
    (bindVariable s name value).run.run events =
      (.ok t, events ++ (value.quoted?.map (Event.boundVariable name)).toList) := by
  rw [bindVariable, bound, run_bind_ok (run_ofExcept _ _)]
  cases value.quoted? with
  | none => rw [Option.map_none, Option.toList_none, List.append_nil]; rfl
  | some quoted => rfl

theorem run_bindVariable_undeclared (absent : s.context.lookupVariable name = none) (value : Value)
    (events : List Event) : (bindVariable s name value).run.run events =
      (.error (.expression (.undefinedVariable name)), events) := by
  rw [bindVariable, Session.bindVariable, absent]
  rfl

/-- What is left to be done when some arguments have been bound. -/
theorem Assigned.run_assign (assigned : Assigned kind s front pairs t)
    (names back : List String) (events : List Event) :
    (assign kind s names (front ++ back)).run.run events =
      (assign kind t (names ++ pairs.map (·.1)) back).run.run
        (events ++ assignmentEvents pairs) := by
  obtain ⟨reads, made⟩ := assigned
  -- Every argument adds its name and its event to those there are, so both must be left open.
  induction reads generalizing s names events with
  | nil =>
    obtain rfl := Except.ok.inj made
    simp [assignmentEvents]
  | cons first _ ih =>
    obtain ⟨next, bound, others⟩ := bind_eq_ok.mp made
    rw [List.cons_append, assign_of_reads first, run_bind_ok (run_bindVariable bound events),
      ih _ _ others]
    simp [assignmentEvents]

theorem binds_of_assign {given : List (Assignment Callback)}
    (made : s.assign interface given = .ok t) : Binds interface s given t := by
  induction given generalizing s with
  | nil =>
    obtain rfl := Except.ok.inj made
    exact .done s
  | cons a given ih =>
    obtain ⟨next, success, others⟩ := bind_eq_ok.mp made
    exact .assign success (ih others)

theorem Assigned.compiled_eq (assigned : Assigned kind s arguments pairs t) :
    t.compiled = s.compiled :=
  (binds_of_assign assigned.made).extends.compiled

/-- Either all arguments are bound, or one of them is the first that is not: it is no assignment, or
it is one to a name that is not declared. -/
theorem assigned_or_stopped (kind : NumberKind) (s : Callback.Session) (arguments : List String) :
    (∃ pairs t, Assigned kind s arguments pairs t) ∨
      ∃ front argument back pairs t, arguments = front ++ argument :: back ∧
        Assigned kind s front pairs t ∧ ((∃ cause, Reads kind argument (.error cause)) ∨
          ∃ name value, Reads kind argument (.ok (name, value)) ∧
            s.context.lookupVariable name = none) := by
  induction arguments generalizing s with
  | nil => exact .inl ⟨[], s, .nil, rfl⟩
  | cons argument arguments ih =>
    obtain ⟨read, reads⟩ := exists_reads kind argument
    cases read with
    | error cause =>
      exact .inr ⟨[], argument, arguments, [], s, rfl, ⟨.nil, rfl⟩, .inl ⟨cause, reads⟩⟩
    | ok pair =>
      obtain ⟨name, value⟩ := pair
      cases found : s.context.lookupVariable name with
      | none =>
        exact .inr ⟨[], argument, arguments, [], s, rfl, ⟨.nil, rfl⟩,
          .inr ⟨name, value, reads, found⟩⟩
      | some slot =>
        have bound : Assignment.attempt interface s (.var name value) = .ok _ :=
          Assignment.attempt_ok_iff.mpr (.var found reads.isNumber)
        rcases ih _ with ⟨pairs, t, assigned⟩ |
          ⟨front, other, back, pairs, t, rfl, assigned, stopped⟩
        · exact .inl ⟨_, t, assigned.cons reads bound⟩
        · exact .inr ⟨_, other, back, _, t, rfl, assigned.cons reads bound, stopped⟩

end

/-! ### Runs -/

/-- The source is compiled, and the arguments are bound in a session that is started with it. -/
structure Begun (config : Config) (source : Source) (text : String) (compiled : Compiled)
    (arguments : List String) (pairs : List (String × Value)) (t : Callback.Session) : Prop where
  compiles : Compiled.compile config.numberKind text source.name = .ok compiled
  assigned : Assigned config.numberKind (.start compiled config.policy .empty) arguments pairs t

/-- What is logged until then. -/
def beginning (text : String) (compiled : Compiled) (pairs : List (String × Value)) : List Event :=
  [.compiling text, .compiled text compiled.context.variables.length
    compiled.context.functions.length] ++ assignmentEvents pairs

section
variable {config : Config} {source : Source} {text : String} {compiled : Compiled}
  {s t u : Callback.Session} {pairs : List (String × Value)} {arguments front : List String}

theorem Begun.context_eq (begun : Begun config source text compiled arguments pairs t) :
    t.context = compiled.context :=
  congrArg Compiled.context begun.assigned.compiled_eq

/-- The source that is logged when the session is validated is the one that was compiled. -/
theorem Begun.source_eq (begun : Begun config source text compiled arguments pairs t)
    (validated : t.validate = .ok u) : u.source = text := by
  obtain ⟨_, rfl⟩ := Session.validate_ok_iff.mp validated
  obtain ⟨_, _, rfl⟩ := compile_eq_ok_iff.mp begun.compiles
  exact congrArg Compiled.source begun.assigned.compiled_eq

theorem run_compile_error (read : source.text = .ok text)
    (refused : Compiled.compile config.numberKind text source.name = .error error) :
    (compile config source).run.run [] = (.error (.expression error), [.compiling text]) := by
  rw [compile, read, run_bind_ok (run_ofExcept _ _), run_bind_ok (run_log _ _), refused]
  rfl

theorem run_compile_ok (read : source.text = .ok text)
    (compiles : Compiled.compile config.numberKind text source.name = .ok compiled) :
    (compile config source).run.run [] = (.ok compiled, beginning text compiled []) := by
  rw [compile, read, run_bind_ok (run_ofExcept _ _), run_bind_ok (run_log _ _), compiles]
  rfl

theorem run_evaluate_error (failed : s.validate = .error fault) (events : List Event) :
    (evaluate s).run.run events = (.error fault, events) := by
  rw [evaluate, failed]
  rfl

theorem run_evaluate_ok (validated : s.validate = .ok t) (events : List Event) :
    (evaluate s).run.run events =
      ((t.evaluateRoot standardHost t.policy).1, events ++ [.validated t.source]) := by
  rw [evaluate, validated]
  rfl

theorem run_bind_congr {first other : Logged α} {events later : List Event}
    (same : first.run.run events = other.run.run later) (next : α → Logged β) :
    (first >>= next).run.run events = (other >>= next).run.run later := by
  rw [ExceptT.run_bind, StateT.run_bind, same]
  rfl

/-- What an evaluation of a source is reported as, with its log. -/
theorem run_perform_of_evaluateSource {particulars : Particulars}
    {result : Except Fault (Except Misassignment Value)}
    (run : (evaluateSource config source particulars).run.run events = (result, later)) :
    (perform config source particulars .eval).run.run events =
      (reportFailures (result.map outcomeOf), later) := by
  rw [perform, reportingFailures]
  cases result with
  | error fault =>
    rw [run_tryCatch_error (run_bind_error run _)]
    cases fault <;> rfl
  | ok outcome => cases outcome <;> exact run_tryCatch_ok (run_bind_ok run _) _

/-- What is left to be done when some arguments have been bound. -/
theorem Begun.run_evaluateSource (read : source.text = .ok text)
    (begun : Begun config source text compiled front pairs t) (divided : arguments = front ++ back)
    (file : Option String) : (evaluateSource config source ⟨file, arguments, false⟩).run.run [] =
      (assign config.numberKind t (pairs.map (·.1)) back >>=
        conclude ⟨file, arguments, false⟩).run.run (beginning text compiled pairs) := by
  subst divided
  rw [evaluateSource_eq, run_bind_ok (run_compile_ok read begun.compiles)]
  exact run_bind_congr (begun.assigned.run_assign [] back _) _

/-- What is left to be done when all arguments have been bound. -/
theorem Begun.run_evaluateSource_all (read : source.text = .ok text)
    (begun : Begun config source text compiled arguments pairs t) (file : Option String) :
    (evaluateSource config source ⟨file, arguments, false⟩).run.run [] =
      (evaluate t >>= fun value => pure (.ok value)).run.run (beginning text compiled pairs) :=
  begun.run_evaluateSource read (List.append_nil _).symm file

end

/-! ### The course -/

/-- The course of an evaluation without mathematics: what it comes to, and what is logged of it. A
step is taken only if all steps before it have succeeded. The expression is evaluated in the session
that validating gives. -/
inductive Course (config : Config) (source : Source) (text : String) (arguments : List String) :
    Except Fault Outcome → List Event → Prop
  | uncompiled (refused : Compiled.compile config.numberKind text source.name = .error error) :
      Course config source text arguments (.ok (.expressionError error)) [.compiling text]
  | malformed (divided : arguments = front ++ argument :: back)
      (begun : Begun config source text compiled front pairs t)
      (reads : Reads config.numberKind argument (.error cause)) :
      Course config source text arguments (.ok (.misassignment cause))
        (beginning text compiled pairs)
  | undeclared (divided : arguments = front ++ argument :: back)
      (begun : Begun config source text compiled front pairs t)
      (reads : Reads config.numberKind argument (.ok (name, value)))
      (absent : compiled.context.lookupVariable name = none) :
      Course config source text arguments (.ok (.expressionError (.undefinedVariable name)))
        (beginning text compiled pairs)
  | invalid (begun : Begun config source text compiled arguments pairs t)
      (unbound : t.validate = .error (.expression error)) :
      Course config source text arguments (.ok (.expressionError error))
        (beginning text compiled pairs)
  | erroneous (begun : Begun config source text compiled arguments pairs t)
      (validated : t.validate = .ok u)
      (failed : (u.evaluateRoot standardHost u.policy).1 = .error (.expression error)) :
      Course config source text arguments (.ok (.expressionError error))
        (beginning text compiled pairs ++ [.validated text])
  | computation (begun : Begun config source text compiled arguments pairs t)
      (validated : t.validate = .ok u)
      (failed : (u.evaluateRoot standardHost u.policy).1 = .error fault)
      (computational : fault.isComputational = true) :
      Course config source text arguments (.ok (.callbackFailure fault))
        (beginning text compiled pairs ++ [.validated text])
  | mismatch (begun : Begun config source text compiled arguments pairs t)
      (validated : t.validate = .ok u)
      (failed : (u.evaluateRoot standardHost u.policy).1 = .error (.mismatch cause))
      (unchecked : config.numberKind = .decimal ∧ config.checkDivision = false) :
      Course config source text arguments (.error (.mismatch cause))
        (beginning text compiled pairs ++ [.validated text])
  | value (begun : Begun config source text compiled arguments pairs t)
      (validated : t.validate = .ok u)
      (evaluated : (u.evaluateRoot standardHost u.policy).1 = .ok v) :
      Course config source text arguments (.ok (.value v))
        (beginning text compiled pairs ++ [.validated text])

section
variable {config : Config} {source : Source} {text : String} {compiled : Compiled}
  {t u : Callback.Session} {pairs : List (String × Value)} {arguments : List String}
  {outcome : Except Fault Outcome} {events : List Event}

/-- What is done after all arguments have been bound and the session has been validated. -/
theorem Begun.run_evaluated (read : source.text = .ok text)
    (begun : Begun config source text compiled arguments pairs t)
    (validated : t.validate = .ok u) (file : Option String) :
    (perform config source ⟨file, arguments, false⟩ .eval).outcome =
      (reportFailures ((u.evaluateRoot standardHost u.policy).1.map .value),
        beginning text compiled pairs ++ [.validated text]) := by
  have run := begun.run_evaluateSource_all read file
  have evaluated := run_evaluate_ok validated (beginning text compiled pairs)
  rw [begun.source_eq validated] at evaluated
  cases result : (u.evaluateRoot standardHost u.policy).1 with
  | error fault =>
    rw [result] at evaluated
    rw [run_bind_error evaluated] at run
    exact run_perform_of_evaluateSource run
  | ok v =>
    rw [result] at evaluated
    rw [run_bind_ok evaluated] at run
    exact run_perform_of_evaluateSource run

/-- A course tells what is done. -/
theorem Course.run_eq (read : source.text = .ok text)
    (course : Course config source text arguments outcome events) (file : Option String) :
    (perform config source ⟨file, arguments, false⟩ .eval).outcome = (outcome, events) := by
  cases course with
  | uncompiled refused =>
    have run : (evaluateSource config source ⟨file, arguments, false⟩).run.run [] = _ :=
      run_bind_error (run_compile_error read refused) _
    exact run_perform_of_evaluateSource run
  | malformed divided begun reads =>
    have run := begun.run_evaluateSource read divided file
    rw [assign_of_reads_error reads, pure_bind] at run
    exact run_perform_of_evaluateSource run
  | undeclared divided begun reads absent =>
    have run := begun.run_evaluateSource read divided file
    rw [← begun.context_eq] at absent
    rw [assign_of_reads reads, bind_assoc,
      run_bind_error (run_bindVariable_undeclared absent _ _)] at run
    exact run_perform_of_evaluateSource run
  | invalid begun unbound =>
    have run := begun.run_evaluateSource_all read file
    rw [run_bind_error (run_evaluate_error unbound _)] at run
    exact run_perform_of_evaluateSource run
  | erroneous begun validated failed =>
    rw [begun.run_evaluated read validated, failed]
    rfl
  | computation begun validated failed computational =>
    rw [begun.run_evaluated read validated, failed]
    exact congrArg (·, _) (reportFailures_of_isComputational computational)
  | mismatch begun validated failed =>
    rw [begun.run_evaluated read validated, failed]
    rfl
  | value begun validated evaluated =>
    rw [begun.run_evaluated read validated, evaluated]
    rfl

/-- An evaluation fails with an error of the expression or in arithmetic, or types mismatch in
divisions of decimals that are not checked. -/
theorem Begun.exists_course (read : source.text = .ok text)
    (begun : Begun config source text compiled arguments pairs t)
    (validated : t.validate = .ok u) :
    ∃ outcome events, Course config source text arguments outcome events := by
  cases evaluated : (u.evaluateRoot standardHost u.policy).1 with
  | ok v => exact ⟨_, _, .value begun validated evaluated⟩
  | error fault =>
    have failed : (evaluateSource config source ⟨none, arguments, false⟩).outcome.1 =
        .error fault := by
      have step := run_evaluate_ok validated (beginning text compiled pairs)
      rw [evaluated] at step
      rw [Logged.outcome, begun.run_evaluateSource_all read, run_bind_error step]
    have failing := (ends_evaluateSource config source ⟨none, arguments, false⟩).outcome.2 _ failed
    cases failing with
    | expression => exact ⟨_, _, .erroneous begun validated evaluated⟩
    | computation computational =>
      exact ⟨_, _, .computation begun validated evaluated computational⟩
    | mismatch mixed =>
      exact ⟨_, _, .mismatch begun validated evaluated (mixed.resolve_left Bool.false_ne_true)⟩
    | memory math => exact absurd math Bool.false_ne_true

/-- Every evaluation takes a course. -/
theorem exists_course (config : Config) (arguments : List String) (read : source.text = .ok text) :
    ∃ outcome events, Course config source text arguments outcome events := by
  cases compiles : Compiled.compile config.numberKind text source.name with
  | error error => exact ⟨_, _, .uncompiled compiles⟩
  | ok compiled =>
    rcases assigned_or_stopped config.numberKind (.start compiled config.policy .empty) arguments
      with ⟨pairs, t, assigned⟩ | ⟨front, argument, back, pairs, t, divided, assigned, stopped⟩
    · have begun : Begun config source text compiled arguments pairs t := ⟨compiles, assigned⟩
      cases validated : t.validate with
      | ok u => exact begun.exists_course read validated
      | error fault =>
        rcases validate_eq_error validated with ⟨name, rfl⟩ | ⟨slot, _, rfl⟩ <;>
          exact ⟨_, _, .invalid begun validated⟩
    · have begun : Begun config source text compiled front pairs t := ⟨compiles, assigned⟩
      rcases stopped with ⟨cause, reads⟩ | ⟨name, value, reads, absent⟩
      · exact ⟨_, _, .malformed divided begun reads⟩
      · exact ⟨_, _, .undeclared divided begun reads absent⟩

/-- There is one course, and it is the one that is taken. -/
theorem outcome_eq_iff_course (read : source.text = .ok text) (file : Option String) :
    (perform config source ⟨file, arguments, false⟩ .eval).outcome = (outcome, events) ↔
      Course config source text arguments outcome events := by
  constructor
  · intro run
    obtain ⟨result, logged, course⟩ := exists_course config arguments read
    obtain ⟨rfl, rfl⟩ := Prod.mk.inj ((course.run_eq read file).symm.trans run)
    exact course
  · intro course
    exact course.run_eq read file

/-! ### Values -/

theorem isNumber_of_readsAll (reads : ReadsAll kind arguments pairs) :
    ∀ pair ∈ pairs, pair.2.isNumber = true := by
  induction reads with
  | nil => exact List.forall_mem_nil _
  | cons first _ ih => exact List.forall_mem_cons.mpr ⟨first.isNumber, ih⟩

/-- Numbers can be assigned to names that are declared, in any order and any number of times. -/
theorem exists_assign_of_declared {given : List (Assignment Callback)}
    (reads : ReadsAll kind arguments pairs)
    (declared : ∀ pair ∈ pairs, (compiled.context.lookupVariable pair.1).isSome = true)
    (among : given ⊆ assignments pairs) (policy : DivisionPolicy) : ∃ t,
      (Session.start compiled policy Record.empty).assign interface given = .ok t := by
  have effects : ∀ a ∈ given, ∃ before after : Callback.Session,
      before.context = compiled.context ∧ Assignment.Effect interface before a after := by
    intro a member
    obtain ⟨pair, here, rfl⟩ := List.mem_map.mp (among member)
    obtain ⟨slot, found⟩ := Option.isSome_iff_exists.mp (declared pair here)
    have number := isNumber_of_readsAll reads pair here
    exact ⟨.start compiled policy .empty, _, rfl, .var found number⟩
  obtain ⟨t, made, _⟩ := exists_assign (s := .start compiled policy .empty) effects
  exact ⟨t, made⟩

/-- Only the last value of each name matters to the evaluation. -/
theorem evaluate_eq_of_last (compiles : Compiled.compile kind text name = .ok compiled)
    {given : List (Assignment Callback)}
    (made : (Session.start compiled policy Record.empty).assign interface (assignments pairs) =
      .ok t)
    (other : (Session.start compiled policy Record.empty).assign interface given = .ok u)
    (last : ∀ symbol, lastFor (assignments pairs) symbol = lastFor given symbol) :
    (t.evaluate standardHost).1 = (u.evaluate standardHost).1 := by
  have binds : Binds standardHost.toInterface _ _ t := binds_of_assign made
  have stateless : standardHost.StatelessAt t.callbacks := by
    refine binds.statelessAt ?_ nofun
    rintro a member callback called
    obtain ⟨pair, _, rfl⟩ := List.mem_map.mp member
    contradiction
  exact (stateless.evaluate_of_last (tabulated_of_compile compiles) binds (binds_of_assign other)
    last).1

/-- What an evaluation comes to when all arguments are bound. -/
theorem Begun.outcome_eq (read : source.text = .ok text)
    (begun : Begun config source text compiled arguments pairs t) (file : Option String) :
    (perform config source ⟨file, arguments, false⟩ .eval).outcome.1 =
      reportFailures ((t.evaluate standardHost).1.map .value) := by
  cases validated : t.validate with
  | ok u =>
    rw [begun.run_evaluated read validated, Session.evaluate_of_ok _ validated]
    rfl
  | error fault =>
    have run := begun.run_evaluateSource_all read file
    rw [run_bind_error (run_evaluate_error validated _)] at run
    rw [Session.evaluate_of_error _ validated]
    exact congrArg Prod.fst (run_perform_of_evaluateSource run)

/-- Arguments that give each name the same value last come to the same. -/
theorem outcome_eq_of_last (read : source.text = .ok text)
    (compiles : Compiled.compile config.numberKind text source.name = .ok compiled)
    (reads : ReadsAll config.numberKind arguments pairs)
    (declared : ∀ pair ∈ pairs, (compiled.context.lookupVariable pair.1).isSome = true)
    {others : List String} {otherPairs : List (String × Value)}
    (readsOther : ReadsAll config.numberKind others otherPairs)
    (last : ∀ symbol, lastFor (assignments otherPairs) symbol =
      lastFor (assignments pairs) symbol) (file : Option String) :
    (perform config source ⟨file, others, false⟩ .eval).outcome.1 =
      (perform config source ⟨file, arguments, false⟩ .eval).outcome.1 := by
  have declaredOther : ∀ pair ∈ otherPairs,
      (compiled.context.lookupVariable pair.1).isSome = true := by
    intro pair member
    have assigned : (lastFor (assignments otherPairs) (.var pair.1)).isSome = true :=
      lastFor_isSome.mpr (List.mem_map.mpr ⟨_, List.mem_map_of_mem member, rfl⟩)
    rw [last, lastFor_isSome] at assigned
    obtain ⟨a, among, same⟩ := List.mem_map.mp assigned
    obtain ⟨own, here, rfl⟩ := List.mem_map.mp among
    rw [← Symbol.var.inj same]
    exact declared own here
  obtain ⟨t, made⟩ := exists_assign_of_declared reads declared (List.Subset.refl _) config.policy
  obtain ⟨u, madeOther⟩ :=
    exists_assign_of_declared readsOther declaredOther (List.Subset.refl _) config.policy
  have begun : Begun config source text compiled arguments pairs t := ⟨compiles, reads, made⟩
  have begunOther : Begun config source text compiled others otherPairs u :=
    ⟨compiles, readsOther, madeOther⟩
  rw [begun.outcome_eq read, begunOther.outcome_eq read,
    evaluate_eq_of_last compiles madeOther made last]

/-- Arguments for different names may come in any order. -/
theorem exists_readsAll_of_perm (reads : ReadsAll kind arguments pairs)
    (distinct : (pairs.map (·.1)).Nodup) {others : List String} (perm : others.Perm arguments) :
    ∃ otherPairs, ReadsAll kind others otherPairs ∧
      ∀ symbol, lastFor (assignments otherPairs) symbol = lastFor (assignments pairs) symbol := by
  obtain ⟨otherPairs, readsOther, rearranged⟩ := List.perm_comp_forall₂ perm reads
  refine ⟨otherPairs, readsOther, lastFor_of_perm ?_⟩
  have apart : (assignments pairs).Pairwise fun a b => a.symbol ≠ b.symbol := by
    refine List.pairwise_map.mpr ((List.pairwise_map.mp distinct).imp fun different same => ?_)
    exact different (Symbol.var.inj same)
  rw [latest, List.pwFilter_eq_self.mpr apart]
  exact rearranged.map _

/-- An outcome that is no success is told as a complaint, or as a JSON document that tells the
same. -/
theorem answered_of_failure {file : Option String} {outcome : Outcome}
    (read : source.text = .ok text)
    (performed : (perform config source ⟨file, arguments, false⟩ .eval).outcome.1 = .ok outcome)
    (failure : outcome.isSuccess = false) :
    ∃ complaint, outcome.text = .ok complaint ∧
      answered (config.inFormat .text) source ⟨file, arguments, false⟩ .eval =
        .ok ⟨1, "", complaint ++ "\n"⟩ ∧
      ((∃ document, answered (config.inFormat .json) source ⟨file, arguments, false⟩ .eval =
          .ok document ∧ document.status = 1 ∧
          Agree outcome ⟨1, "", complaint ++ "\n"⟩ document) ∨
        10 ^ digitLimit ≤ text.length + 1) := by
  have produced := (ends_perform config source ⟨file, arguments, false⟩ .eval).outcome.1 _ performed
  have present := produced.present
  have told : ∃ complaint, outcome.text = .ok complaint ∧
      outcome.answer .text = .ok ⟨1, "", complaint ++ "\n"⟩ := by
    cases produced with
    | symbols | outline | value => contradiction
    | expressionError | callbackFailure | misassignment =>
      exact ⟨_, rfl, answer_text rfl present⟩
  obtain ⟨complaint, isText, answer⟩ := told
  have inFormat (format : Format) :
      answered (config.inFormat format) source ⟨file, arguments, false⟩ .eval =
        outcome.answer format := by
    rw [← perform_congr config source _ .eval format] at performed
    rw [answered_of_ok performed, config.format_inFormat]
  refine ⟨complaint, isText, (inFormat .text).trans answer, ?_⟩
  rw [inFormat]
  -- The complaint is there in any case; only a document needs a source that is not too long.
  by_cases short : source.length + 1 < 10 ^ digitLimit
  swap
  · rw [Source.length_eq read] at short
    exact .inr (Nat.not_lt.mp short)
  rcases produced.agree short with ⟨fault, untold, _⟩ | ⟨other, document, same, shown, agree⟩
  · cases answer.symm.trans untold
  · obtain rfl := Except.ok.inj (answer.symm.trans same)
    exact .inl ⟨document, shown, agree.status_eq.symm, agree⟩

end

/-- What evaluating an expression comes to, and what is logged of it, is its course. If it compiles
and all arguments are read as values of names that are declared, then only the last value of each
name counts: the outcome is that of a session in which these are assigned, in any order, and a value
with a text is printed. So arguments that give each name the same value last, such as the same ones
in another order where their names are different, come to the same outcome. A failure is told with
status 1 and without a result; only the position of an error in a source that is too long cannot be
written in a JSON document. -/
theorem perform_eval_iff_course (config : Config) {source : Source} {text : String}
    (read : source.text = .ok text) (file : Option String) (arguments : List String) :
    let run := fun arguments => (perform config source ⟨file, arguments, false⟩ .eval).outcome
    let answer := fun format =>
      answered (config.inFormat format) source ⟨file, arguments, false⟩ .eval
    (∀ outcome events, run arguments = (outcome, events) ↔
      Course config source text arguments outcome events) ∧
    (∀ compiled pairs, Compiled.compile config.numberKind text source.name = .ok compiled →
      ReadsAll config.numberKind arguments pairs →
      (∀ pair ∈ pairs, (compiled.context.lookupVariable pair.1).isSome = true) →
      (∀ given, given.Perm (latest (assignments pairs)) → ∃ t,
        (Session.start compiled config.policy Record.empty).assign interface given = .ok t ∧
        (run arguments).1 = reportFailures ((t.evaluate standardHost).1.map .value) ∧
        ∀ v shown, (t.evaluate standardHost).1 = .ok v → v.text? = some shown →
          answer .text = .ok ⟨0, shown ++ "\n", ""⟩) ∧
      (∀ others otherPairs, ReadsAll config.numberKind others otherPairs →
        (∀ symbol, lastFor (assignments otherPairs) symbol =
          lastFor (assignments pairs) symbol) → (run others).1 = (run arguments).1) ∧
      ((pairs.map (·.1)).Nodup → ∀ others, others.Perm arguments →
        (run others).1 = (run arguments).1)) ∧
    (∀ failure, (run arguments).1 = .ok failure → failure.isSuccess = false →
      ∃ complaint, failure.text = .ok complaint ∧
        answer .text = .ok ⟨1, "", complaint ++ "\n"⟩ ∧
        ((∃ document, answer .json = .ok document ∧ document.status = 1 ∧
            Agree failure ⟨1, "", complaint ++ "\n"⟩ document) ∨
          10 ^ digitLimit ≤ text.length + 1)) := by
  intro run answer
  refine ⟨fun _ _ => outcome_eq_iff_course read file, ?_,
    fun failure performed => answered_of_failure read performed⟩
  intro compiled pairs compiles reads declared
  refine ⟨?_, fun others otherPairs readsOther last =>
    outcome_eq_of_last read compiles reads declared readsOther last file, ?_⟩
  · intro given perm
    have among : given ⊆ assignments pairs := fun a member =>
      (List.pwFilter_sublist _).subset (perm.mem_iff.mp member)
    obtain ⟨t, made⟩ := exists_assign_of_declared reads declared among config.policy
    obtain ⟨u, madeAll⟩ :=
      exists_assign_of_declared reads declared (List.Subset.refl _) config.policy
    have begun : Begun config source text compiled arguments pairs u := ⟨compiles, reads, madeAll⟩
    have same := evaluate_eq_of_last compiles madeAll made fun symbol =>
      (lastFor_of_perm perm symbol).symm
    have performed := begun.outcome_eq read file
    rw [same] at performed
    refine ⟨t, made, performed, ?_⟩
    intro v shown evaluated written
    rw [evaluated, ← perform_congr config source _ .eval .text] at performed
    refine (answered_of_ok performed).trans ?_
    rw [config.format_inFormat]
    exact answer_value written
  · intro distinct others perm
    obtain ⟨otherPairs, readsOther, last⟩ := exists_readsAll_of_perm reads distinct perm
    exact outcome_eq_of_last read compiles reads declared readsOther last file

/-- In `x-y` the value 3 that is given to `x` last is the one that counts, so 1 is printed. -/
theorem perform_eval_iff_course_of_repeatedName :
    let config : Config := { Config.standard with numberKind := .int }
    let arguments := ["x=1", " y = 2", "x=3"]
    let pairs : List (String × Value) := [("x", .int 1), ("y", .int 2), ("x", .int 3)]
    let compiled : Compiled :=
      ⟨"x-y", .binary .sub (.var ⟨0, "x"⟩) (.var ⟨1, "y"⟩), [⟨0, "x"⟩, ⟨1, "y"⟩], []⟩
    Compiled.compile .int "x-y" inlineSource = .ok compiled ∧ ReadsAll .int arguments pairs ∧
      (∀ pair ∈ pairs, (compiled.context.lookupVariable pair.1).isSome = true) ∧
      latest (assignments pairs) = [.var "y" (.int 2), .var "x" (.int 3)] ∧
      answered (config.inFormat .text) (.inline "x-y") ⟨none, arguments, false⟩ .eval =
        .ok ⟨0, "1\n", ""⟩ := by
  intro config arguments pairs compiled
  have scanned : Lexeme.scan 1 "x-y".toList =
      [⟨.name ['x'], 1⟩, ⟨.mark '-', 2⟩, ⟨.name ['y'], 3⟩] := by decide +kernel
  have compiles : Compiled.compile .int "x-y" inlineSource = .ok compiled := by
    rw [Compiled.compile, Term.read, scanned, Grammar.Situation.readOperand_eq_run]
    rfl
  have reads : ReadsAll .int arguments pairs := by
    have first : Reads .int ("x" ++ "=" ++ "1") (.ok (Text.strip "x", .int 1)) :=
      .assignment rfl (by decide) (by rfl)
    have second : Reads .int (" y " ++ "=" ++ " 2") (.ok (Text.strip " y ", .int 2)) :=
      .assignment rfl (by decide) (by rfl)
    have third : Reads .int ("x" ++ "=" ++ "3") (.ok (Text.strip "x", .int 3)) :=
      .assignment rfl (by decide) (by rfl)
    exact .cons first (.cons second (.cons third .nil))
  have declared : ∀ pair ∈ pairs, (compiled.context.lookupVariable pair.1).isSome = true := by
    decide
  have last : latest (assignments pairs) = [.var "y" (.int 2), .var "x" (.int 3)] := rfl
  refine ⟨compiles, reads, declared, last, ?_⟩
  obtain ⟨_, values, _⟩ := perform_eval_iff_course config
    (rfl : (Source.inline "x-y").text = .ok "x-y") none arguments
  obtain ⟨t, made, _, printed⟩ := (values compiled pairs compiles reads declared).1 _ (.refl _)
  have evaluated : ((Session.start compiled config.policy Record.empty).assign interface
      (latest (assignments pairs))).map (fun t => (t.evaluate standardHost).1) =
        .ok (.ok (.int 1)) := rfl
  rw [made] at evaluated
  exact printed _ _ (Except.ok.inj evaluated) (by rfl)

end Formula.CommandLine
