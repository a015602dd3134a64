import Formula.Proofs.Session.History
import Formula.Proofs.Session.SymbolTable
import Formula.Proofs.Value.Printing

/-! Binding is atomic. The three ways to bind ask for one assignment each. It is refused for one of
three causes, which are looked for in turn, and then nothing has changed; or it gives one slot its
value, and everything else stays, namesakes of the symbol included. -/
namespace Formula

/-- The fault of binding a symbol that does not occur: that it is undefined, or that the number of
arguments has too many digits to say so. -/
def Symbol.undefined : Symbol → Fault
  | var name => .expression (.undefinedVariable name)
  | call name arity =>
    if arity.natAbs < 10 ^ digitLimit then .expression (.undefinedFunction name arity)
    else .value .tooManyDigits

theorem Symbol.undefined_call (name : String) (arity : Int) :
    (call name arity).undefined = .ofError (.undefinedFunction name arity) := by
  rw [undefined]
  split
  · next short => exact (Fault.ofError_of_short (by rintro n ⟨⟩; exact short)).symm
  · next long => exact (Fault.ofError_of_long rfl (Nat.le_of_not_lt long)).symm

/-- The fault of binding a symbol to a value of this text that cannot be bound to it. -/
def Symbol.misfit (quoted : String) : Symbol → Fault
  | var name => .mismatch (.variableValue name quoted)
  | call name arity => .mismatch (.functionValue name arity quoted)

section
variable {s : Session κ σ} (table : s.compiled.Tabulated)
include table

theorem lookupVariable_iff {name : String} : s.context.lookupVariable name = some slot ↔
    slot ∈ s.context.variables ∧ slot.symbol = .var name := by
  constructor
  · intro found
    obtain ⟨member, rfl⟩ := Context.lookupVariable_some found
    exact ⟨member, rfl⟩
  · rintro ⟨member, same⟩
    obtain rfl := Symbol.var.inj same
    exact table.tabulated.lookupVariable_eq_some member

theorem functionSlot?_iff {name : String} {arity : Int} : s.functionSlot? name arity = some slot ↔
    slot ∈ s.context.functions ∧ slot.symbol = .call name arity := by
  constructor
  · intro found
    obtain ⟨member, rfl, rfl⟩ := functionSlot?_some found
    exact ⟨member, rfl⟩
  · rintro ⟨member, same⟩
    obtain ⟨rfl, rfl⟩ := Symbol.call.inj same
    exact functionSlot?_of_mem table.tabulated member

/-- What occurs in the tree has a slot. -/
theorem mem_symbols_iff {symbol : Symbol} : symbol ∈ s.root.symbols ↔
    (∃ slot ∈ s.context.variables, slot.symbol = symbol) ∨
      ∃ slot ∈ s.context.functions, slot.symbol = symbol := by
  have variableSlots : ∀ slot, slot ∈ s.context.variables ↔ slot ∈ s.root.variableSymbols :=
    table.mem_variables
  have functionSlots : ∀ slot, slot ∈ s.context.functions ↔ slot ∈ s.root.functionSymbols :=
    table.mem_functions
  simp only [Node.symbols, List.mem_append, List.mem_map, variableSlots, functionSlots]

theorem mem_symbols_var {name : String} :
    .var name ∈ s.root.symbols ↔ ∃ slot, s.context.lookupVariable name = some slot := by
  simp only [mem_symbols_iff table, lookupVariable_iff table, FunctionSlot.symbol, reduceCtorEq,
    and_false, exists_false, or_false]

theorem mem_symbols_call {name : String} {arity : Int} :
    .call name arity ∈ s.root.symbols ↔ ∃ slot, s.functionSlot? name arity = some slot := by
  simp only [mem_symbols_iff table, functionSlot?_iff table, VariableSlot.symbol, reduceCtorEq,
    and_false, exists_false, false_or]

end

namespace Assignment

/-- The value that cannot be bound, whatever the symbol: what is no number to a variable, or what is
no callback to a function. -/
def misfit? : Assignment κ → Option Value
  | var _ value => if value.isNumber then none else some value
  | call _ _ (.value value) => some value
  | call _ _ (.callback _) => none

/-- Why an assignment is refused. The causes exclude each other: each is looked for only where those
before it are not the case. -/
inductive Refused (interface : Interface κ) (s : Session κ σ) : Assignment κ → Fault → Prop where
  | undefined : a.symbol ∉ s.root.symbols → Refused interface s a a.symbol.undefined
  | misfit : a.symbol ∈ s.root.symbols → a.misfit? = some value → value.quoted? = some quoted →
      Refused interface s a (a.symbol.misfit quoted)
  | unquotable : a.symbol ∈ s.root.symbols → a.misfit? = some value → value.quoted? = none →
      Refused interface s a (.value .tooManyDigits)
  | arity : .call name arity ∈ s.root.symbols →
      Session.accepts interface callback arity.toNat = false →
      interface.shown callback = .ok shown →
      Refused interface s (.call name arity (.callback callback))
        (.expression (.arityMismatch name arity shown))
  | unshown : .call name arity ∈ s.root.symbols →
      Session.accepts interface callback arity.toNat = false →
      interface.shown callback = .error fault →
      Refused interface s (.call name arity (.callback callback)) fault

section
variable {interface : Interface κ} {s : Session κ σ} {a : Assignment κ}

theorem misfit?_var_eq_some {name : String} {value other : Value} :
    (var name value : Assignment κ).misfit? = some other ↔
      value.isNumber = false ∧ value = other := by
  cases number : value.isNumber <;> simp [misfit?, number]

/-- A value that cannot be bound is quoted in the message. -/
theorem attempt_of_misfit (table : s.compiled.Tabulated) (declared : a.symbol ∈ s.root.symbols)
    (unfit : a.misfit? = some value) : a.attempt interface s =
      (withinDigits value.quoted? >>= fun quoted => .error (a.symbol.misfit quoted)) := by
  cases a with
  | var name given =>
    obtain ⟨slot, found⟩ := (mem_symbols_var table).mp declared
    obtain ⟨number, rfl⟩ := misfit?_var_eq_some.mp unfit
    simp only [attempt, Session.bindVariable, found, number]
    rfl
  | call name arity binding =>
    obtain ⟨slot, found⟩ := (mem_symbols_call table).mp declared
    cases binding with
    | value given =>
      cases unfit
      simp only [attempt, Session.bindFunction, found]
      rfl
    | callback => contradiction

/-- A callback that cannot be called with as many arguments is shown in the message. -/
theorem attempt_of_rejected (table : s.compiled.Tabulated)
    (declared : .call name arity ∈ s.root.symbols)
    (rejected : Session.accepts interface callback arity.toNat = false) :
    (call name arity (.callback callback)).attempt interface s =
      .error (Session.arityFault interface name arity callback) := by
  obtain ⟨slot, found⟩ := (mem_symbols_call table).mp declared
  obtain ⟨_, _, rfl⟩ := functionSlot?_some found
  rw [Int.toNat_natCast] at rejected
  simp only [attempt, Session.bindFunction, found, rejected]
  rfl

/-- What is refused fails for that cause. -/
theorem Refused.attempt (table : s.compiled.Tabulated) (refused : Refused interface s a fault) :
    a.attempt interface s = .error fault := by
  cases refused with
  | undefined absent =>
    cases a with
    | var name value =>
      have missing : s.context.lookupVariable name = none :=
        Option.eq_none_iff_forall_ne_some.mpr fun slot found =>
          absent ((mem_symbols_var table).mpr ⟨slot, found⟩)
      simp only [Assignment.attempt, Session.bindVariable, missing]
      rfl
    | call name arity binding =>
      have missing : s.functionSlot? name arity = none :=
        Option.eq_none_iff_forall_ne_some.mpr fun slot found =>
          absent ((mem_symbols_call table).mpr ⟨slot, found⟩)
      simp only [Assignment.attempt, Session.bindFunction, missing]
      rw [symbol, Symbol.undefined_call]
  | misfit declared unfit quoted =>
    rw [attempt_of_misfit table declared unfit, quoted]
    rfl
  | unquotable declared unfit quoted =>
    rw [attempt_of_misfit table declared unfit, quoted]
    rfl
  | arity declared rejected shows =>
    rw [attempt_of_rejected table declared rejected, Session.arityFault, shows]
  | unshown declared rejected fails =>
    rw [attempt_of_rejected table declared rejected, Session.arityFault, fails]

/-- An assignment that is not refused has its effect. -/
theorem exists_effect_or_refused (table : s.compiled.Tabulated) (interface : Interface κ)
    (a : Assignment κ) : (∃ t, Effect interface s a t) ∨ ∃ fault, Refused interface s a fault := by
  by_cases declared : a.symbol ∈ s.root.symbols
  · cases unfit : a.misfit? with
    | some value =>
      cases quoted : value.quoted? with
      | some text => exact .inr ⟨_, .misfit declared unfit quoted⟩
      | none => exact .inr ⟨_, .unquotable declared unfit quoted⟩
    | none =>
      cases a with
      | var name value =>
        obtain ⟨slot, found⟩ := (mem_symbols_var table).mp declared
        cases number : value.isNumber with
        | true => exact .inl ⟨_, .var found number⟩
        | false =>
          rw [misfit?_var_eq_some.mpr ⟨number, rfl⟩] at unfit
          contradiction
      | call name arity binding =>
        cases binding with
        | value value => contradiction
        | callback callback =>
          obtain ⟨slot, found⟩ := (mem_symbols_call table).mp declared
          obtain ⟨_, _, rfl⟩ := functionSlot?_some found
          cases accepted : Session.accepts interface callback slot.arity with
          | true => exact .inl ⟨_, .call found accepted⟩
          | false =>
            cases shows : interface.shown callback with
            | ok shown => exact .inr ⟨_, .arity declared accepted shows⟩
            | error fault => exact .inr ⟨_, .unshown declared accepted shows⟩
  · exact .inr ⟨_, .undefined declared⟩

theorem attempt_error_iff (table : s.compiled.Tabulated) :
    a.attempt interface s = .error fault ↔ Refused interface s a fault := by
  refine ⟨fun failed => ?_, fun refused => refused.attempt table⟩
  rcases exists_effect_or_refused table interface a with ⟨t, effect⟩ | ⟨other, refused⟩
  · rw [attempt_ok_iff.mpr effect] at failed
    contradiction
  · rw [refused.attempt table] at failed
    cases failed
    exact refused

end

/-- One slot has been given what is assigned: the slot of the symbol, which no other slot of the
table shares. All else is as before. -/
structure Sets (s : Session κ σ) (a : Assignment κ) (t : Session κ σ) : Prop where
  compiled : t.compiled = s.compiled
  validated : t.validated = s.validated
  policy : t.policy = s.policy
  state : t.state = s.state
  target : (∃ slot ∈ s.context.variables, slot.symbol = a.symbol ∧ a.value?.isSome ∧
      ∀ other ∈ s.context.variables, other.symbol = a.symbol → other = slot) ∨
    ∃ slot ∈ s.context.functions, slot.symbol = a.symbol ∧ a.callback?.isSome ∧
      ∀ other ∈ s.context.functions, other.symbol = a.symbol → other = slot
  values : ∀ slot ∈ s.context.variables,
    t.values slot.id = if a.symbol = slot.symbol then a.value? else s.values slot.id
  callbacks : ∀ slot ∈ s.context.functions,
    t.callbacks slot.id = if a.symbol = slot.symbol then a.callback? else s.callbacks slot.id

theorem Effect.sets {interface : Interface κ} {s t : Session κ σ} {a : Assignment κ}
    (tabulated : s.context.Tabulated) (effect : Effect interface s a t) : Sets s a t where
  compiled := effect.extends.compiled
  validated := effect.validated
  policy := effect.extends.policy
  state := by cases effect <;> rfl
  target := by
    cases effect with
    | @var name slot value found =>
      obtain ⟨member, rfl⟩ := Context.lookupVariable_some found
      refine .inl ⟨slot, member, rfl, rfl, fun other occurs same => ?_⟩
      exact tabulated.keyedVariables.eq_of_key occurs member (Symbol.var.inj same)
    | @call name arity slot callback found =>
      obtain ⟨member, rfl, rfl⟩ := functionSlot?_some found
      refine .inr ⟨slot, member, rfl, rfl, fun other occurs same => ?_⟩
      obtain ⟨named, counted⟩ := Symbol.call.inj same
      exact tabulated.keyedFunctions.eq_of_key occurs member
        (Prod.ext named (Int.ofNat_inj.mp counted))
  values _ := effect.values_eq tabulated
  callbacks _ := effect.callbacks_eq tabulated

end Assignment

/-- Each of the three ways to bind makes one assignment. It fails for the first of three causes and
leaves the session as it was, or sets the slot of one symbol and nothing else. Each cause has an
error of its own, unless a number of arguments, a value or a callback cannot be told in the
message. -/
theorem binding_atomic {s : Session κ σ}
    (success : Compiled.compile kind source name = .ok s.compiled) (host : Host κ σ)
    {op : Operation κ} (asks : op.assignment? host.toInterface = some a) :
    (∀ fault, a.attempt host.toInterface s = .error fault ↔
      a.Refused host.toInterface s fault) ∧
    (∀ fault, a.attempt host.toInterface s = .error fault → op.perform host s = s) ∧
    ∀ t, a.attempt host.toInterface s = .ok t → op.perform host s = t ∧ a.Sets s t := by
  have table := tabulated_of_compile success
  have performed := op.perform_of_assignment host s asks
  refine ⟨fun fault => Assignment.attempt_error_iff table, ?_, ?_⟩
  · intro fault failed
    rw [performed, failed]
    rfl
  · intro t bound
    rw [performed, bound]
    exact ⟨rfl, (Assignment.attempt_ok_iff.mp bound).sets table.tabulated⟩

/-- A callback of one parameter that is assigned to `f` goes to the function of one argument; the
function without arguments and the variable of that name stay as they are. -/
theorem binding_atomic_of_namesakes :
    let negate : Callback := ⟨0, .script "f" (.fixed 1) .negation⟩
    let host := Callback.host Callback.shown
    let s : Callback.Session := .start .namesakes .checked .empty
    let t := (Operation.bind "f" (.callback negate)).perform host s
    Compiled.compile .int "f(a)-f()+f+a" "<expr>" = .ok s.compiled ∧
      t = s.setCallback ⟨0, "f", 1⟩ (some negate) ∧ t.callbacks 1 = none ∧ t.values 1 = none ∧
      s.bindFunction host.toInterface "f" 0 (.callback negate) =
        .error (.expression (.arityMismatch "f" 0 "<f>")) := by
  intro negate host s t
  have success : Compiled.compile .int "f(a)-f()+f+a" "<expr>" = .ok s.compiled := compile_namesakes
  have item : (Operation.bind "f" (.callback negate)).assignment? host.toInterface =
    some (.call "f" 1 (.callback negate)) := rfl
  have direct : (Operation.bindFunction "f" 0 (.callback negate)).assignment? host.toInterface =
    some (.call "f" 0 (.callback negate)) := rfl
  obtain ⟨_, _, bound⟩ := binding_atomic success host item
  obtain ⟨same, sets⟩ := bound (s.setCallback ⟨0, "f", 1⟩ (some negate)) rfl
  obtain ⟨refused, _, _⟩ := binding_atomic success host direct
  refine ⟨success, same, ?_, ?_, (refused _).mpr (.arity (by decide) rfl rfl)⟩
  · exact (congrArg (Session.callbacks · 1) same).trans (sets.callbacks ⟨1, "f", 0⟩ (by decide))
  · exact (congrArg (Session.values · 1) same).trans (sets.values ⟨1, "f"⟩ (by decide))

/-- A list has no text where it contains a fraction without one. -/
theorem Value.quoted?_list_fraction {q : Rat} (long : 10 ^ digitLimit ≤ q.num.natAbs) :
    (Value.list [.fraction q]).quoted? = .none := by
  have none : quotedFraction? q = .none := by
    rw [quotedFraction?, intText?_eq_none.mpr long]
    rfl
  rw [quoted?, quotedAll?, quoted?, none]
  rfl

/-- A list is no number, but where it cannot be quoted the message cannot be written, and binding
fails with another fault. -/
theorem bindVariable_of_longFraction :
    let compiled : Compiled := ⟨"x", .var ⟨0, "x"⟩, ⟨[⟨0, "x"⟩], []⟩⟩
    let s : Callback.Session := .start compiled .checked .empty
    let value : Value := .list [.fraction (10 ^ digitLimit : Nat)]
    Compiled.compile .float "x" "<expr>" = .ok compiled ∧ value.isNumber = false ∧
      s.bindVariable "x" value = .error (.value .tooManyDigits) := by
  intro compiled s value
  have unquotable : value.quoted? = none :=
    Value.quoted?_list_fraction (by rw [Rat.num_natCast, Int.natAbs_natCast])
  have scanned : Lexeme.scan 1 "x".toList = [⟨.name ['x'], 1⟩] := by decide +kernel
  have success : Compiled.compile .float "x" "<expr>" = .ok compiled := by
    rw [Compiled.compile, Term.read, scanned, Grammar.Situation.readOperand_eq_run]
    rfl
  have refused : Assignment.Refused (Callback.interface Callback.shown) s (.var "x" value)
      (.value .tooManyDigits) :=
    .unquotable (List.mem_singleton.mpr rfl) rfl unquotable
  have failed := refused.attempt (tabulated_of_compile success)
  rw [Assignment.attempt] at failed
  exact ⟨success, rfl, failed⟩

end Formula
