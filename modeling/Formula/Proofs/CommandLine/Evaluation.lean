import Formula.Proofs.CommandLine.FileSource
import Formula.Proofs.Config.Loading
import Formula.Proofs.Json.Errors
import Formula.Proofs.Session.Closure
import Formula.Proofs.Session.FunctionOrder
import Formula.Proofs.Session.Typing

/-! What evaluating a source can come to. Compiling, assigning, binding and validating fail with
errors of the expression only, and those can be told unless the source is too long for its positions
to be written. Evaluating may fail in arithmetic as well. Beyond that, types mismatch only where
mathematical functions are bound or where the quotients of decimals are not checked, and memory is
used up only where mathematical functions are bound. -/
namespace Formula.CommandLine
open Logged

/-! ### Errors -/

/-- The error has plain details, and it can be told, unless the source is so long that numbers up to
its length cannot. -/
structure Tellable (length : Nat) (error : ExpressionError) : Prop where
  plain : error.payload.Plain
  short : length + 1 < 10 ^ digitLimit → error.payload.Short

theorem Tellable.writable (tellable : Tellable length error)
    (short : length + 1 < 10 ^ digitLimit) : error.toJson.Writable :=
  tellable.plain.writable (tellable.short short)

/-- An error without details can be told where its place can. -/
theorem tellable_of_nil {error : ExpressionError} (none : error.details = [])
    (place : length + 1 < 10 ^ digitLimit → ∀ location, error.location = some location →
      location.position.natAbs < 10 ^ digitLimit) : Tellable length error where
  plain := Payload.plain_of_nil none
  short short := by
    refine ⟨place short, fun name n member => ?_⟩
    change _ ∈ error.details at member
    exact absurd (none ▸ member) List.not_mem_nil

theorem tellable_refusal {refusal : Refusal} (bound : refusal.position ≤ length + 1)
    (name : String) : Tellable length (refusal.toError name) := by
  obtain ⟨cause, position⟩ := refusal
  have place (short : length + 1 < 10 ^ digitLimit) :
      (position : Int).natAbs < 10 ^ digitLimit := Nat.lt_of_le_of_lt bound short
  refine tellable_of_nil ?_ fun short location same => ?_
  · cases cause <;> rfl
  · cases cause <;>
    · obtain rfl := Option.some.inj same
      exact place short

theorem tellable_variable (name : String) {error : ExpressionError}
    (placeless : error.location = none)
    (details : error.details = ExpressionError.variableDetails name) : Tellable length error where
  plain := Payload.plain_of_variableDetails details
  short _ := by
    refine ⟨fun location found => ?_, fun other n member => ?_⟩
    · cases placeless.symm.trans found
    · change _ ∈ error.details at member
      simp [details, ExpressionError.variableDetails] at member

theorem tellable_function (name : String) {error : ExpressionError} (bound : arity ≤ length)
    (placeless : error.location = none)
    (details : error.details = ExpressionError.functionDetails name (arity : Nat)) :
    Tellable length error where
  plain := Payload.plain_of_functionDetails details
  short short := by
    refine ⟨fun location found => ?_, fun other n member => ?_⟩
    · cases placeless.symm.trans found
    · change _ ∈ error.details at member
      obtain ⟨-, rfl⟩ : other = "arity" ∧ n = arity := by
        simpa [details, ExpressionError.functionDetails] using member
      omega

/-- How evaluating a source of the given length can fail. -/
inductive Failing (config : Config) (particulars : Particulars) (length : Nat) : Fault → Prop
  | expression (tellable : Tellable length error) :
      Failing config particulars length (.expression error)
  | computation (computational : fault.isComputational = true) :
      Failing config particulars length fault
  | mismatch (mixed : particulars.math = true ∨
      config.numberKind = .decimal ∧ config.checkDivision = false) :
      Failing config particulars length (.mismatch cause)
  | memory (math : particulars.math = true) : Failing config particulars length .memory

section
variable {config : Config} {particulars : Particulars} {length : Nat}

/-! ### Sessions -/

/-- A session of a compiled expression that has not been validated, with values and callbacks that
have these properties. -/
structure Equipped (compiled : Compiled) (policy : DivisionPolicy) (V : Value → Prop)
    (C : Callback → Prop) (s : Callback.Session) : Prop where
  compiled : s.compiled = compiled
  policy : s.policy = policy
  unchecked : s.validated = false
  values : ∀ n v, s.values n = some v → V v
  callbacks : ∀ n callback, s.callbacks n = some callback → C callback

variable {compiled : Compiled} {policy : DivisionPolicy} {V : Value → Prop} {C : Callback → Prop}
  {s : Callback.Session}

theorem equipped_start : Equipped compiled policy V C (.start compiled policy state) where
  compiled := rfl
  policy := rfl
  unchecked := rfl
  values := nofun
  callbacks := nofun

theorem Equipped.imp {W : Value → Prop} {D : Callback → Prop}
    (equipped : Equipped compiled policy V C s) (weaker : ∀ v, V v → W v)
    (others : ∀ callback, C callback → D callback) : Equipped compiled policy W D s where
  compiled := equipped.compiled
  policy := equipped.policy
  unchecked := equipped.unchecked
  values n v held := weaker v (equipped.values n v held)
  callbacks n callback held := others callback (equipped.callbacks n callback held)

theorem Equipped.withState (equipped : Equipped compiled policy V C s) (state : Record) :
    Equipped compiled policy V C { s with state := state } where
  compiled := equipped.compiled
  policy := equipped.policy
  unchecked := equipped.unchecked
  values := equipped.values
  callbacks := equipped.callbacks

theorem update_eq_some {f : Nat → Option α} (held : update f place (some a) n = some b) :
    b = a ∨ f n = some b := by
  unfold update at held
  split at held
  · exact .inl (Option.some.inj held).symm
  · exact .inr held

theorem Equipped.bindVariable {t : Callback.Session} (equipped : Equipped compiled policy V C s)
    (kept : V value) (bound : s.bindVariable name value = .ok t) :
    Equipped compiled policy V C t := by
  have attempt : Assignment.attempt interface s (.var name value) = .ok t := bound
  obtain ⟨found, number⟩ := Assignment.attempt_ok_iff.mp attempt
  refine ⟨equipped.compiled, equipped.policy, equipped.unchecked, ?_, equipped.callbacks⟩
  intro n v held
  rcases update_eq_some held with rfl | before
  · exact kept
  · exact equipped.values n v before

theorem Equipped.bindFunction {t : Callback.Session} (equipped : Equipped compiled policy V C s)
    (kept : C callback)
    (bound : s.bindFunction interface name arity (.callback callback) = .ok t) :
    Equipped compiled policy V C t := by
  have attempt : Assignment.attempt interface s (.call name arity (.callback callback)) = .ok t :=
    bound
  obtain _ | ⟨found, accepted⟩ := Assignment.attempt_ok_iff.mp attempt
  refine ⟨equipped.compiled, equipped.policy, equipped.unchecked, equipped.values, ?_⟩
  intro n other held
  rcases update_eq_some held with rfl | before
  · exact kept
  · exact equipped.callbacks n other before

/-! ### Steps -/

variable {P : Fault → Prop}

theorem tellable_of_compile {text name : String}
    (failed : Compiled.compile kind text name = .error error) : Tellable text.length error := by
  rw [Compiled.compile] at failed
  cases refused : Term.read kind.read? text with
  | ok term =>
    rw [refused] at failed
    contradiction
  | error refusal =>
    rw [refused] at failed
    rw [← Except.error.inj failed]
    exact tellable_refusal (Term.place_of_read_error refused).2 name

/-- A source that is text is compiled, or the error is reported. -/
theorem ends_compile (config : Config) (source : Source)
    (unread : ∀ fault, source.text = .error fault → P fault)
    (reported : ∀ text error, source.text = .ok text → Tellable text.length error →
      P (.expression error)) :
    Ends (fun compiled => ∃ text, source.text = .ok text ∧
      Compiled.compile config.numberKind text source.name = .ok compiled) P
      (compile config source) := by
  refine ends_bind (Q := fun text => source.text = .ok text) (ends_ofExcept (fun _ read => read)
    unread) fun text read => ends_bind (ends_log _) fun _ _ => ?_
  refine ends_bind (Q := fun compiled => Compiled.compile config.numberKind text source.name =
    .ok compiled) ?_ fun compiled success => ends_bind (ends_log _) fun _ _ =>
      ends_pure ⟨text, read, success⟩
  cases outcome : Compiled.compile config.numberKind text source.name with
  | ok compiled =>
    refine ends_ofExcept ?_ nofun
    rintro _ ⟨⟩
    rfl
  | error error =>
    refine ends_ofExcept nofun ?_
    rintro _ ⟨⟩
    exact reported text error read (tellable_of_compile outcome)

theorem bindVariable_eq_error (number : value.isNumber = true)
    (failed : s.bindVariable name value = .error fault) :
    fault = .expression (.undefinedVariable name) := by
  unfold Session.bindVariable at failed
  split at failed
  · exact (Except.error.inj failed).symm
  · rw [if_pos number] at failed
    contradiction

/-- Binding a variable is logged, and otherwise as in a session. -/
theorem ends_bindVariable_of {Q : Callback.Session → Prop}
    (returns : ∀ t, s.bindVariable name value = .ok t → Q t)
    (fails : ∀ fault, s.bindVariable name value = .error fault → P fault) :
    Ends Q P (bindVariable s name value) := by
  refine ends_bind (ends_ofExcept returns fails) fun t holds => ?_
  dsimp only
  split
  · exact ends_bind (ends_log _) fun _ _ => ends_pure holds
  · exact ends_pure holds

/-- Binding a number to a variable fails only where there is no such variable. -/
theorem ends_bindVariable (reported : ∀ error, Tellable length error → P (.expression error))
    (equipped : Equipped compiled policy V C s) (number : value.isNumber = true) (kept : V value) :
    Ends (Equipped compiled policy V C) P (bindVariable s name value) := by
  refine ends_bindVariable_of (fun t bound => equipped.bindVariable kept bound) ?_
  intro fault failed
  rw [bindVariable_eq_error number failed]
  exact reported _ (tellable_variable name rfl rfl)

theorem bindFunction_eq_error (tabulated : s.context.Tabulated)
    (declared : slot ∈ s.context.functions)
    (failed : s.bindFunction interface slot.name slot.arity (.callback callback) = .error fault) :
    ∃ error : ExpressionError, fault = .expression error ∧ error.location = none ∧
      error.details = ExpressionError.functionDetails slot.name slot.arity := by
  rw [Session.bindFunction, functionSlot?_of_mem tabulated declared] at failed
  dsimp only at failed
  split at failed
  · contradiction
  · exact ⟨_, (Except.error.inj failed).symm, rfl, rfl⟩

/-- Binding a primitive is logged, and otherwise as in the session in which it is made. -/
theorem ends_bindPrimitive_of {Q : Callback.Session → Prop}
    (returns : ∀ t, Session.bindFunction interface
        { s with state := (s.state.make (.primitive primitive)).2 } slot.name slot.arity
        (.callback ⟨s.state.next, .primitive primitive⟩) = .ok t → Q t)
    (fails : ∀ fault, Session.bindFunction interface
        { s with state := (s.state.make (.primitive primitive)).2 } slot.name slot.arity
        (.callback ⟨s.state.next, .primitive primitive⟩) = .error fault → P fault) :
    Ends Q P (bindPrimitive s slot primitive) :=
  ends_bind (ends_ofExcept returns fails) fun _ holds =>
    ends_bind (ends_log _) fun _ _ => ends_pure holds

theorem ends_bindPrimitive (reported : ∀ error, Tellable length error → P (.expression error))
    (tabulated : compiled.Tabulated) (declared : slot ∈ compiled.context.functions)
    (equipped : Equipped compiled policy V C s) (short : slot.arity ≤ length)
    (kept : ∀ id, C ⟨id, .primitive primitive⟩) :
    Ends (Equipped compiled policy V C) P (bindPrimitive s slot primitive) := by
  have made := equipped.withState (s.state.make (.primitive primitive)).2
  refine ends_bindPrimitive_of (fun t bound => made.bindFunction (kept _) bound) ?_
  intro fault failed
  have context : s.context = compiled.context := congrArg Compiled.context equipped.compiled
  obtain ⟨error, rfl, placeless, details⟩ :=
    bindFunction_eq_error (context ▸ tabulated.tabulated) (context ▸ declared) failed
  exact reported _ (tellable_function slot.name short placeless details)

/-! ### Runs of steps -/

theorem exists_float_of_mem_constants (member : constant ∈ mathematicalConstants) :
    ∃ x, constant.2 = .float x := by
  simp only [mathematicalConstants, List.mem_cons, List.not_mem_nil, or_false] at member
  rcases member with rfl | rfl | rfl <;> exact ⟨_, rfl⟩

section
variable (reported : ∀ error, Tellable length error → P (.expression error))
include reported

/-- Assignments give their variables numbers of the kind in use. -/
theorem ends_assign {kind : NumberKind} (texts assigned : List String)
    (equipped : Equipped compiled policy (·.kind? = some kind) C s) :
    Ends (fun outcome => ∀ t names, outcome = .ok (t, names) →
        Equipped compiled policy (·.kind? = some kind) C t)
      P (assign kind s assigned texts) := by
  induction texts generalizing s assigned with
  | nil =>
    apply ends_pure
    rintro t names ⟨⟩
    exact equipped
  | cons text texts ih =>
    rw [assign]
    split
    · exact ends_pure nofun
    · split
      · exact ends_pure nofun
      · next value converted =>
        have own := NumberKind.kind?_of_read? converted
        apply ends_bind (ends_bindVariable reported equipped (Value.isNumber_of_kind? own) own)
        intro t equipped
        exact ih _ equipped

theorem ends_bindConstants (assigned : List String) {constants : List (String × Value)}
    (numbers : ∀ constant ∈ constants, constant.2.isNumber = true ∧ V constant.2)
    (equipped : Equipped compiled policy V C s) :
    Ends (Equipped compiled policy V C) P (bindConstants assigned s constants) := by
  induction constants generalizing s with
  | nil => exact ends_pure equipped
  | cons constant constants ih =>
    obtain ⟨⟨number, kept⟩, others⟩ := List.forall_mem_cons.mp numbers
    rw [bindConstants]
    dsimp only
    split
    · apply ends_bind (ends_bindVariable reported equipped number kept)
      intro t equipped
      exact ih others equipped
    · exact ih others equipped

theorem ends_bindFunctions (tabulated : compiled.Tabulated)
    (short : ∀ slot ∈ compiled.context.functions, slot.arity ≤ length) {slots : List FunctionSlot}
    (declared : ∀ slot ∈ slots, slot ∈ compiled.context.functions)
    (equipped : Equipped compiled policy V Callback.IsOperation s) :
    Ends (Equipped compiled policy V Callback.IsOperation) P (bindFunctions s slots) := by
  induction slots generalizing s with
  | nil => exact ends_pure equipped
  | cons slot slots ih =>
    obtain ⟨first, others⟩ := List.forall_mem_cons.mp declared
    rw [bindFunctions]
    dsimp only
    split
    · next primitive found =>
      have operates := Primitive.operates_mathematical found
      apply ends_bind (ends_bindPrimitive reported tabulated first equipped (short slot first)
        fun id => ⟨primitive, rfl, operates⟩)
      intro t equipped
      exact ih others equipped
    · exact ih others equipped

theorem ends_bindMathematics (assigned : List String) (tabulated : compiled.Tabulated)
    (short : ∀ slot ∈ compiled.context.functions, slot.arity ≤ length) (floats : ∀ x, V (.float x))
    (equipped : Equipped compiled policy V Callback.IsOperation s) :
    Ends (Equipped compiled policy V Callback.IsOperation) P (bindMathematics assigned s) := by
  have numbers : ∀ constant ∈ mathematicalConstants,
      constant.2.isNumber = true ∧ V constant.2 := by
    intro constant member
    obtain ⟨x, same⟩ := exists_float_of_mem_constants member
    rw [same]
    exact ⟨rfl, floats x⟩
  apply ends_bind (ends_bindConstants reported assigned numbers equipped)
  intro t equipped
  apply ends_bindFunctions reported tabulated short _ equipped
  rw [show t.context = compiled.context from congrArg Compiled.context equipped.compiled]
  exact fun _ => id

end

theorem validate_eq_error (failed : s.validate = .error fault) :
    (∃ name, fault = .expression (.uninitializedVariable name)) ∨
      ∃ slot ∈ s.context.functions,
        fault = .expression (.uninitializedFunction slot.name slot.arity) := by
  unfold Session.validate at failed
  split at failed
  · contradiction
  · split at failed
    · exact .inl ⟨_, (Except.error.inj failed).symm⟩
    · next slot _ found =>
      exact .inr ⟨slot, List.mem_of_find?_eq_some found, (Except.error.inj failed).symm⟩
    · contradiction

theorem Equipped.sound (equipped : Equipped compiled policy V C s)
    (tabulated : compiled.Tabulated) : s.Sound where
  table := equipped.compiled.symm ▸ tabulated
  bound checked := absurd checked (by rw [equipped.unchecked]; exact Bool.false_ne_true)

/-- Validating fails only where a symbol is not bound. -/
theorem ends_validate (reported : ∀ error, Tellable length error → P (.expression error))
    (tabulated : compiled.Tabulated)
    (short : ∀ slot ∈ compiled.context.functions, slot.arity ≤ length)
    (equipped : Equipped compiled policy V C s) :
    Ends (fun t => s.Bound ∧ t = { s with validated := true }) P
      (Logged.ofExcept s.validate) := by
  refine ends_ofExcept
    (fun t validated => (equipped.sound tabulated).validate_ok_iff.mp validated) ?_
  intro fault failed
  have context : s.context = compiled.context := congrArg Compiled.context equipped.compiled
  rcases validate_eq_error failed with ⟨name, rfl⟩ | ⟨slot, member, rfl⟩
  · exact reported _ (tellable_variable name rfl rfl)
  · rw [context] at member
    exact reported _ (tellable_function slot.name (short slot member) rfl rfl)

/-- With numbers of the kind in use and without callbacks memory is not used up, and types mismatch
only for decimals of which quotients are not checked. -/
theorem comes_of_numbers {t : Callback.Session} {kind : NumberKind}
    (written : t.root.term.Written kind) (bound : t.Bound) (noCallback : ∀ n, t.callbacks n = none)
    (numbers : ∀ n v, t.values n = some v → v.kind? = some kind) (policy : DivisionPolicy) :
    let host := Callback.host Callback.describedAsBuiltin
    let outcome := (t.evaluateRoot host policy).1
    Fails (· ≠ .memory) outcome ∧
      ((kind = .decimal → policy = .checked) → Fails (·.isMismatch = false) outcome) := by
  intro host outcome
  constructor
  · have provides := provides_values host bound noCallback (P := (· ≠ .memory))
      fun n v held => Value.isNumber_of_kind? (numbers n v held)
    exact (stays_evaluate (closedUnder_isNumber policy) provides
      (fun v own => Value.isNumber_of_kind? own) t.root written (List.Subset.refl _)
      (List.Subset.refl _)).2.fails
  · intro checked
    have provides := provides_values host bound noCallback (P := (·.isMismatch = false))
      fun n v held => Value.arises_of_kind (numbers n v held)
    exact (stays_evaluate (closedUnder_arises checked) provides
      (fun v own => Value.arises_of_kind own) t.root written (List.Subset.refl _)
      (List.Subset.refl _)).2.fails

/-- Evaluating fails in arithmetic, or because types mismatch or memory is used up. There is no
mapping in its value. -/
theorem ends_evaluate (success : Compiled.compile config.numberKind source name = .ok compiled)
    (short : ∀ slot ∈ compiled.context.functions, slot.arity ≤ length)
    (equipped : Equipped compiled config.policy V C s) (unmapped : ∀ v, V v → v.Unmapped)
    (primitives : ∀ callback, C callback → callback.IsOperation)
    (limited : particulars.math = true ∨
      (∀ v, V v → v.kind? = some config.numberKind) ∧ ∀ callback, ¬C callback) :
    Ends Value.Unmapped (Failing config particulars length) (evaluate s) := by
  have root : s.root = compiled.root := congrArg Compiled.root equipped.compiled
  have written : s.root.term.Written config.numberKind := root ▸ written_of_compile success
  refine ends_bind (ends_validate (fun _ => .expression) (tabulated_of_compile success) short
    equipped) ?_
  rintro t ⟨bound, rfl⟩
  have ready : Session.Bound { s with validated := true } := ⟨bound.values, bound.callbacks⟩
  have provides := provides_primitives Callback.describedAsBuiltin ready
    (fun n v held => unmapped v (equipped.values n v held))
    fun n callback held => primitives callback (equipped.callbacks n callback held)
  have comes := (stays_evaluate (closedUnder_operators s.policy) provides
    (fun v own => Value.unmapped_of_isNumber (Value.isNumber_of_kind? own)) s.root written
    (List.Subset.refl _) (List.Subset.refl _)).2
  refine ends_bind (ends_log _) fun _ _ => ends_ofExcept (fun value evaluated => ?_) ?_
  · exact comes.of_eq_ok evaluated
  intro fault failed
  have numbers (own : ∀ v, V v → v.kind? = some config.numberKind)
      (none : ∀ callback, ¬C callback) :=
    comes_of_numbers (t := { s with validated := true }) written ready
      (fun n => Option.eq_none_iff_forall_ne_some.mpr fun callback held =>
        none callback (equipped.callbacks n callback held))
      (fun n v held => own v (equipped.values n v held)) s.policy
  rcases comes.fails fault failed with rfl | operational
  · exact .expression (tellable_of_nil rfl fun _ => nofun)
  cases fault with
  | mismatch cause =>
    apply Failing.mismatch
    by_contra unmixed
    obtain ⟨plain, checked⟩ := not_or.mp unmixed
    obtain ⟨own, none⟩ := limited.resolve_left plain
    refine absurd ((numbers own none).2 ?_ _ failed) nofun
    intro decimal
    rw [equipped.policy, Config.policy]
    cases check : config.checkDivision with
    | true => rfl
    | false => exact absurd ⟨decimal, check⟩ checked
  | memory =>
    apply Failing.memory
    by_contra plain
    obtain ⟨own, none⟩ := limited.resolve_left plain
    exact (numbers own none).1 _ failed rfl
  | _ => exact .computation operational

end

/-- The number of characters of a source; what is no text has none. -/
def Source.length (source : Source) : Nat :=
  match source.text with
  | .ok text => text.length
  | .error _ => 0

theorem Source.length_eq {source : Source} {text : String} (read : source.text = .ok text) :
    source.length = text.length := by
  rw [Source.length, read]

theorem Source.isComputational_of_text {source : Source} (failed : source.text = .error fault) :
    fault.isComputational = true := by
  cases source with
  | inline text => contradiction
  | file path bytes =>
    rcases bind_eq_error.mp failed with failed | ⟨text, _, absent⟩
    · unfold Files.decodeText at failed
      split at failed
      · contradiction
      · cases failed
        rfl
    · contradiction

/-- What evaluating a source comes to. -/
theorem ends_evaluateSource (config : Config) (source : Source) (particulars : Particulars) :
    Ends (fun outcome => ∀ value, outcome = .ok value → value.Unmapped)
      (Failing config particulars source.length) (evaluateSource config source particulars) := by
  have reported (error : ExpressionError) : Tellable source.length error →
      Failing config particulars source.length (.expression error) := .expression
  refine ends_bind (ends_compile config source ?_ ?_) ?_
  · exact fun fault failed => .computation (Source.isComputational_of_text failed)
  · intro text error read tellable
    exact reported error (Source.length_eq read ▸ tellable)
  rintro compiled ⟨text, read, success⟩
  have short : ∀ slot ∈ compiled.context.functions, slot.arity ≤ source.length := by
    rw [Source.length_eq read]
    exact arity_le_length success
  have start : Equipped compiled config.policy (·.kind? = some config.numberKind) (fun _ => False)
      (.start compiled config.policy .empty) := equipped_start
  apply ends_bind (ends_assign reported particulars.assignments [] start)
  intro outcome assigned
  have number (v : Value) (own : v.kind? = some config.numberKind) : v.Unmapped :=
    Value.unmapped_of_isNumber (Value.isNumber_of_kind? own)
  have settle (value : Value) (unmapped : value.Unmapped) :
      Ends (fun outcome => ∀ v, outcome = .ok v → v.Unmapped)
        (Failing config particulars source.length)
        (pure (.ok value) : Logged (Except Misassignment Value)) :=
    ends_pure fun v same => Except.ok.inj same ▸ unmapped
  split
  · exact ends_pure nofun
  · next s names =>
    have equipped := assigned s names rfl
    dsimp only
    split
    · next math =>
      apply ends_bind (ends_bindMathematics reported names (tabulated_of_compile success) short
        .float (equipped.imp number fun _ none => none.elim))
      intro t equipped
      exact ends_bind (ends_evaluate success short equipped (fun _ => id) (fun _ own => own)
        (.inl math)) settle
    · apply ends_bind (ends_evaluate success short equipped number (fun _ none => none.elim)
        (.inr ⟨fun _ own => own, fun _ none => none⟩))
      exact settle

end Formula.CommandLine
