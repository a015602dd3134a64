import Formula.Proofs.Callback.Rebinding
import Formula.Proofs.Grammar.Exactness
import Mathlib.Data.List.Find

/-! Histories of a session. Operations follow one another, each of them succeeding or failing, and
callbacks may bind symbols in the middle of evaluations. What a history has assigned decides which
symbols are bound, and with that which error validating and evaluating give. -/
namespace Formula

/-- What can be done with a session. -/
inductive Operation (κ : Type) where
  | bindVariable (name : String) (value : Value)
  | bindFunction (name : String) (arity : Int) (binding : Binding κ)
  | bind (name : String) (binding : Binding κ)
  | validate
  | evaluate
  | describe

namespace Operation

/-- What a successful outcome gives, and otherwise the session as it was. -/
def settle (s : Session κ σ) : Except Fault (Session κ σ) → Session κ σ
  | .ok t => t
  | .error _ => s

/-- The session after an operation, whether it succeeds or fails. -/
def perform (host : Host κ σ) (s : Session κ σ) : Operation κ → Session κ σ
  | bindVariable name value => settle s (s.bindVariable name value)
  | bindFunction name arity binding =>
    settle s (s.bindFunction host.toInterface name arity binding)
  | bind name binding => settle s (s.bind host.toInterface name binding)
  | validate => settle s s.validate
  | evaluate => (s.evaluate host).2
  | describe => s

/-- The assignment that an operation asks for. -/
def assignment? (interface : Interface κ) : Operation κ → Option (Assignment κ)
  | bindVariable name value => some (.var name value)
  | bindFunction name arity binding => some (.call name arity binding)
  | bind name (.value value) => some (.var name value)
  | bind name (.callback callback) =>
    some (.call name (Session.positionalCount interface callback) (.callback callback))
  | validate | evaluate | describe => none

/-- The assignment that an operation makes, if it asks for one that succeeds. -/
def made (interface : Interface κ) (s : Session κ σ) (op : Operation κ) : List (Assignment κ) :=
  match op.assignment? interface with
  | some a =>
    match a.attempt interface s with
    | .ok _ => [a]
    | .error _ => []
  | none => []

/-- An account of the assignments that an operation makes: an evaluation makes those of its
callbacks. -/
def Accounts (host : Host κ σ) (s : Session κ σ) : Operation κ → List (Assignment κ) → Prop
  | evaluate, account => Binds host.toInterface s account (s.evaluate host).2
  | op, account => account = op.made host.toInterface s

theorem perform_of_assignment {op : Operation κ} (host : Host κ σ) (s : Session κ σ)
    (asks : op.assignment? host.toInterface = some a) :
    op.perform host s = settle s (a.attempt host.toInterface s) := by
  cases op with
  | bindVariable | bindFunction =>
    cases asks
    rfl
  | bind name binding =>
    cases binding with
    | value | callback =>
      cases asks
      rfl
  | validate | evaluate | describe => contradiction

theorem settle_validate (interface : Interface κ) (s : Session κ σ) :
    Binds interface s [] (settle s s.validate) := by
  cases outcome : s.validate with
  | ok t => exact .validate outcome (.done t)
  | error fault => exact .done s

theorem binds_made (interface : Interface κ) (s : Session κ σ) (a : Assignment κ) :
    Binds interface s (match a.attempt interface s with | .ok _ => [a] | .error _ => [])
      (settle s (a.attempt interface s)) := by
  cases outcome : a.attempt interface s with
  | ok t => exact .assign outcome (.done t)
  | error fault => exact .done s

/-- Every operation goes over from session to session by the assignments of its account. -/
theorem Accounts.binds {host : Host κ σ} {op : Operation κ}
    (accounts : op.Accounts host s account) :
    Binds host.toInterface s account (op.perform host s) := by
  cases asks : op.assignment? host.toInterface with
  | some a =>
    have made := binds_made host.toInterface s a
    rw [perform_of_assignment host s asks]
    cases op with
    | evaluate => contradiction
    | _ =>
      cases accounts
      simpa only [Operation.made, asks] using made
  | none =>
    cases op with
    | bindVariable | bindFunction => contradiction
    | bind name binding => cases binding <;> contradiction
    | validate =>
      cases accounts
      exact settle_validate host.toInterface s
    | evaluate => exact accounts
    | describe =>
      cases accounts
      exact .done s

theorem exists_account {host : Host κ σ} (rebinding : host.Rebinding) (s : Session κ σ)
    (op : Operation κ) : ∃ account, op.Accounts host s account := by
  cases op with
  | evaluate => exact rebinding.evaluate_binds s
  | _ => exact ⟨_, rfl⟩

end Operation

/-- The session after several operations. -/
def Session.perform (host : Host κ σ) (s : Session κ σ) (ops : List (Operation κ)) :
    Session κ σ :=
  ops.foldl (fun s op => op.perform host s) s

/-- Operations that follow one another from a session on, with all successful assignments. -/
inductive History (host : Host κ σ) :
    Session κ σ → List (Operation κ) → List (Assignment κ) → Prop where
  | nil (s : Session κ σ) : History host s [] []
  | cons : op.Accounts host s account → History host (op.perform host s) ops made →
      History host s (op :: ops) (account ++ made)

theorem History.binds {host : Host κ σ} (history : History host s ops made) :
    Binds host.toInterface s made (s.perform host ops) := by
  induction history with
  | nil s => exact .done s
  | cons accounts _ ih => exact accounts.binds.trans ih

/-- Every sequence of operations has a history. -/
theorem exists_history {host : Host κ σ} (rebinding : host.Rebinding) (s : Session κ σ)
    (ops : List (Operation κ)) : ∃ made, History host s ops made := by
  induction ops generalizing s with
  | nil => exact ⟨[], .nil s⟩
  | cons op ops ih =>
    obtain ⟨account, accounts⟩ := op.exists_account rebinding s
    obtain ⟨made, history⟩ := ih (op.perform host s)
    exact ⟨account ++ made, .cons accounts history⟩

/-! ### Missing bindings -/

/-- The symbols of a tree. -/
def Node.symbols (node : Node) : List Symbol :=
  node.variableSymbols.map (·.symbol) ++ node.functionSymbols.map (·.symbol)

/-- The first symbol of a table that is not among these, the variables before the functions. -/
def Context.missing? (context : Context) (bound : List Symbol) : Option Symbol :=
  (context.variables.map (·.symbol) ++ context.functions.map (·.symbol)).find?
    fun symbol => !bound.contains symbol

/-- The fault of validating where a symbol is missing. -/
def Symbol.uninitialized : Symbol → Fault
  | var name => .expression (.uninitializedVariable name)
  | call name arity => .expression (.uninitializedFunction name arity)

/-- The fault of evaluating a symbol without a binding. -/
def Symbol.unbound : Symbol → Fault
  | var name => .expression (.unboundVariable name)
  | call name arity => .expression (.unboundFunction name arity)

theorem Symbol.isAboutSymbol_uninitialized (symbol : Symbol) :
    symbol.uninitialized.isAboutSymbol = true := by
  cases symbol <;> rfl

theorem Symbol.isAboutSymbol_unbound (symbol : Symbol) : symbol.unbound.isAboutSymbol = true := by
  cases symbol <;> rfl

theorem Symbol.uninitialized_ne_unbound (symbol other : Symbol) :
    symbol.uninitialized ≠ other.unbound := by
  cases symbol <;> cases other <;> simp [uninitialized, unbound]

theorem Compiled.Tabulated.missing?_isSome {compiled : Compiled} (tabulated : compiled.Tabulated)
    (bound : List Symbol) :
    (compiled.context.missing? bound).isSome = true ↔
      ∃ symbol ∈ compiled.root.symbols, symbol ∉ bound := by
  simp [Context.missing?, Node.symbols, tabulated.mem_variables, tabulated.mem_functions,
    or_and_right, exists_or]

theorem Binds.missing?_eq {s t : Session κ σ} (binds : Binds interface s made t)
    (tabulated : s.context.Tabulated) (valueless : ∀ n, s.values n = none)
    (callbackless : ∀ n, s.callbacks n = none) :
    s.context.missing? (made.map Assignment.symbol) =
      (t.unboundVariable?.map (·.symbol)).or (t.unboundFunction?.map (·.symbol)) := by
  have same := binds.extends.context
  have values : ∀ slot ∈ s.context.variables,
      (!(made.map Assignment.symbol).contains slot.symbol) = (t.values slot.id).isNone := by
    intro slot member
    have bound := binds.isSome_values tabulated member (valueless slot.id)
    rw [← Option.not_isSome, Bool.eq_iff_iff.mpr (bound.trans List.contains_iff_mem.symm)]
  have callbacks : ∀ slot ∈ s.context.functions,
      (!(made.map Assignment.symbol).contains slot.symbol) = (t.callbacks slot.id).isNone := by
    intro slot member
    have bound := binds.isSome_callbacks tabulated member (callbackless slot.id)
    rw [← Option.not_isSome, Bool.eq_iff_iff.mpr (bound.trans List.contains_iff_mem.symm)]
  rw [Context.missing?, List.find?_append, List.find?_map, List.find?_map,
    Session.unboundVariable?, Session.unboundFunction?, same]
  congr 2
  · exact List.find?_congr values
  · exact List.find?_congr callbacks

/-- What validating comes to depends on the assignments made alone. -/
theorem validate_eq_of_binds {compiled : Compiled} (tabulated : compiled.Tabulated)
    (binds : Binds interface (Session.start compiled policy state) made t) :
    t.validate =
      match compiled.context.missing? (made.map Assignment.symbol) with
      | some symbol => .error symbol.uninitialized
      | none => .ok { t with validated := true } := by
  have sound := binds.sound (sound_start tabulated policy state)
  have missing := binds.missing?_eq tabulated.tabulated (fun _ => rfl) (fun _ => rfl)
  change compiled.context.missing? _ = _ at missing
  rw [missing]
  by_cases checked : t.validated = true
  · obtain ⟨noVariable, noFunction⟩ :=
      (Session.unbound_eq_none_iff sound).mpr (sound.bound checked)
    rw [noVariable, noFunction]
    exact Session.validate_ok_iff.mpr ⟨.inl checked, rfl⟩
  · rw [Session.validate, if_neg checked]
    cases t.unboundVariable? with
    | some slot => rfl
    | none => cases t.unboundFunction? <;> rfl

theorem Session.calls_of_error {s : Session κ σ} (host : Host κ σ)
    (failed : s.validate = .error fault) : s.calls host = [] := by
  have recorded := s.validate_withState (s.state, ([] : List (CallEvent κ)))
  rw [failed] at recorded
  rw [calls, evaluate_of_error host.recording recorded]
  rfl

/-- After any history, and in the middle of an evaluation after it, whether callbacks bind or not:
bound slots stay bound, and the cached flag is true only if every symbol of the source is bound; the
fault of a symbol without a binding comes from a callback; and validating and evaluating fail for an
uninitialized symbol exactly if some symbol of the source has never been bound, naming the first
one of the table and calling nothing, unless a callback raises such a fault. -/
theorem History.invariant {host : Host κ σ} (rebinding : host.Rebinding)
    (success : Compiled.compile kind source name = .ok compiled)
    (history : History host (Session.start compiled policy state) ops made)
    (onward : Binds host.toInterface ((Session.start compiled policy state).perform host ops)
      account s) :
    let missing? := compiled.context.missing? ((made ++ account).map Assignment.symbol)
    ((Session.start compiled policy state).perform host ops).Extends s ∧
    (∀ more, s.Extends (s.perform host more)) ∧
    (s.validated = true → s.Bound) ∧
    (∀ symbol : Symbol, (s.evaluate host).1 = .error symbol.unbound →
      ∃ call ∈ s.calls host, call.outcome = .error symbol.unbound) ∧
    (missing?.isSome = true ↔
      ∃ symbol ∈ compiled.root.symbols, symbol ∉ (made ++ account).map Assignment.symbol) ∧
    match missing? with
    | some symbol => s.validate = .error symbol.uninitialized ∧
        s.evaluate host = (.error symbol.uninitialized, s) ∧ s.calls host = []
    | none => (∃ t, s.validate = .ok t) ∧
        ∀ symbol : Symbol, (s.evaluate host).1 = .error symbol.uninitialized →
          ∃ call ∈ s.calls host, call.outcome = .error symbol.uninitialized := by
  intro missing?
  have tabulated := tabulated_of_compile success
  have binds := history.binds.trans onward
  have sound : s.Sound := binds.sound (sound_start tabulated policy state)
  have validated : s.validate = match missing? with
      | some symbol => .error symbol.uninitialized
      | none => .ok { s with validated := true } :=
    validate_eq_of_binds tabulated binds
  have present : missing?.isSome = true ↔
      ∃ symbol ∈ compiled.root.symbols, symbol ∉ (made ++ account).map Assignment.symbol :=
    tabulated.missing?_isSome _
  -- From here on, what is missing counts only as the two facts above tell it.
  clear_value missing?
  have extending : ∀ more, s.Extends (s.perform host more) := by
    intro more
    obtain ⟨_, later⟩ := exists_history rebinding s more
    exact later.binds.extends
  have ofCallback : ∀ symbol : Symbol, (s.evaluate host).1 = .error symbol.unbound →
      ∃ call ∈ s.calls host, call.outcome = .error symbol.unbound := by
    intro symbol failed
    rcases rebinding.fault_origin sound failed symbol.isAboutSymbol_unbound with invalid | raised
    · rw [validated] at invalid
      cases missing? with
      | none => contradiction
      | some other =>
        exact absurd (Except.error.inj invalid) (other.uninitialized_ne_unbound symbol)
    · exact raised
  refine ⟨onward.extends, extending, sound.bound, ofCallback, present, ?_⟩
  cases missing? with
  | some symbol =>
    exact ⟨validated, s.evaluate_of_error host validated, s.calls_of_error host validated⟩
  | none =>
    refine ⟨⟨_, validated⟩, ?_⟩
    intro symbol failed
    rcases rebinding.fault_origin sound failed symbol.isAboutSymbol_uninitialized with
      invalid | raised
    · rw [validated] at invalid
      contradiction
    · exact raised

/-- What `f(x)+y` is compiled to. -/
def Compiled.callAndVariable : Compiled :=
  ⟨"f(x)+y", .binary .add (.call ⟨0, "f", 1⟩ [.var ⟨0, "x"⟩]) (.var ⟨1, "y"⟩),
    ⟨[⟨0, "x"⟩, ⟨1, "y"⟩], [⟨0, "f", 1⟩]⟩⟩

theorem compile_callAndVariable :
    Compiled.compile .int "f(x)+y" "<expr>" = .ok .callAndVariable := by
  let none : Grammar.Blanks := ⟨[], fun _ absent => absurd absent List.not_mem_nil⟩
  let letter (c : Char) (alpha : c.isAlpha = true) : Grammar.Name :=
    ⟨c, [], alpha, fun _ absent => absurd absent List.not_mem_nil⟩
  let argument : Grammar.Phrase .sum :=
    .sum (.product (.var none (letter 'x' rfl)) .noFactor) .noAddend
  let call : Grammar.Phrase .atom :=
    .call none (letter 'f' rfl) none (.someArguments argument .noFurther) none
  let sum : Grammar.Phrase .sum := .sum (.product call .noFactor)
    (.addend none .add (.inl rfl) (.product (.var none (letter 'y' rfl)) .noFactor) .noAddend)
  have denotes : Grammar.Derivation.term? NumberKind.int.read? ⟨sum, none⟩ =
      some (.binary .add (.call "f" [.var "x"]) (.var "y")) := rfl
  exact compile_of_term? denotes rfl "<expr>"

/-- A callback that binds `y` again in the middle of an evaluation. -/
theorem History.invariant_of_script :
    let rebind : Callback := ⟨0, .script "f" (.fixed 1) (.bindVariable "y")⟩
    let ops : List (Operation Callback) := [.bindVariable "x" (.int 1), .bindVariable "y" (.int 2),
      .bind "f" (.callback rebind), .evaluate]
    let made : List (Assignment Callback) := [.var "x" (.int 1), .var "y" (.int 2),
      .call "f" 1 (.callback rebind), .var "y" (.int 1)]
    let host := Callback.host Callback.shown
    let start : Callback.Session := .start .callAndVariable .checked .empty
    Compiled.compile .int "f(x)+y" "<expr>" = .ok .callAndVariable ∧ History host start ops made ∧
      ∃ s, Binds host.toInterface (start.perform host ops) [.var "y" (.int 7)] s ∧
        s.values 1 = some (.int 7) ∧ ∃ t, s.validate = .ok t := by
  intro rebind ops made host start
  have first : (Operation.bindVariable "x" (.int 1)).Accounts host start
      [.var "x" (.int 1)] := rfl
  have second : (Operation.bindVariable "y" (.int 2)).Accounts host
      (start.perform host (ops.take 1)) [.var "y" (.int 2)] := rfl
  have third : (Operation.bind "f" (.callback rebind)).Accounts host
      (start.perform host (ops.take 2)) [.call "f" 1 (.callback rebind)] := rfl
  have fourth : Operation.evaluate.Accounts host (start.perform host (ops.take 3))
      [.var "y" (.int 1)] :=
    .validate rfl (.state _ (.assign rfl (.done _)))
  have history : History host start ops made :=
    .cons first (.cons second (.cons third (.cons fourth (.nil _))))
  have onward : ∃ s, Binds host.toInterface (start.perform host ops) [.var "y" (.int 7)] s ∧
      s.values 1 = some (.int 7) := ⟨_, .assign rfl (.done _), rfl⟩
  obtain ⟨s, binds, held⟩ := onward
  obtain ⟨_, _, _, _, _, outcome⟩ := History.invariant (Callback.rebinding_host Callback.shown)
    compile_callAndVariable history binds
  have complete : Compiled.callAndVariable.context.missing?
      ((made ++ [Assignment.var "y" (.int 7)]).map Assignment.symbol) = none := rfl
  rw [complete] at outcome
  exact ⟨compile_callAndVariable, history, s, binds, held, outcome.1⟩

end Formula
