import Formula.Expression.Session
import Formula.Proofs.Symbols

/-! Bindings of a session. Every change of a session that binding and validating can make is a
sequence of assignments that succeed one after the other. What a slot holds after such a sequence
is what the last assignment for its symbol gave, or what it held before; so bound slots stay bound,
and a session that counts as validated has all its symbols bound. -/
namespace Formula

/-- What is bound: a variable, or a function with a number of arguments. -/
inductive Symbol where
  | var (name : String)
  | call (name : String) (arity : Int)
  deriving DecidableEq

def VariableSlot.symbol (slot : VariableSlot) : Symbol :=
  .var slot.name

def FunctionSlot.symbol (slot : FunctionSlot) : Symbol :=
  .call slot.name slot.arity

/-- A binding that is asked for. -/
inductive Assignment (κ : Type) where
  | var (name : String) (value : Value)
  | call (name : String) (arity : Int) (binding : Binding κ)

namespace Assignment

def symbol : Assignment κ → Symbol
  | var name _ => .var name
  | call name arity _ => .call name arity

/-- Binds what is asked for. -/
def attempt (interface : Interface κ) (s : Session κ σ) :
    Assignment κ → Except Fault (Session κ σ)
  | var name value => s.bindVariable name value
  | call name arity binding => s.bindFunction interface name arity binding

/-- The value given to a variable. -/
def value? : Assignment κ → Option Value
  | var _ value => some value
  | call .. => none

/-- The callback given to a function. -/
def callback? : Assignment κ → Option κ
  | call _ _ (.callback callback) => some callback
  | _ => none

/-- What an assignment that succeeds does. -/
inductive Effect (interface : Interface κ) (s : Session κ σ) :
    Assignment κ → Session κ σ → Prop where
  | var : s.context.lookupVariable name = some slot → value.isNumber = true →
      Effect interface s (.var name value)
        { s with values := update s.values slot.id (some value) }
  | call : s.functionSlot? name arity = some slot →
      Session.accepts interface callback slot.arity = true →
      Effect interface s (.call name arity (.callback callback))
        { s with callbacks := update s.callbacks slot.id (some callback) }

theorem setValue_of_isNumber (s : Session κ σ) (slot : VariableSlot) {value : Value}
    (number : value.isNumber = true) :
    s.setValue slot value = { s with values := update s.values slot.id (some value) } := by
  cases value with
  | none => contradiction
  | _ => rfl

/-- An assignment succeeds if and only if it can have its effect, and then has it. -/
theorem attempt_ok_iff {interface : Interface κ} {s t : Session κ σ} {a : Assignment κ} :
    a.attempt interface s = .ok t ↔ Effect interface s a t := by
  constructor
  · intro success
    cases a with
    | var name value =>
      simp only [attempt, Session.bindVariable] at success
      split at success
      · contradiction
      · next slot found =>
        split at success
        · next number =>
          cases success
          rw [setValue_of_isNumber s slot number]
          exact .var found number
        · cases quoted : withinDigits value.quoted? <;> rw [quoted] at success <;> contradiction
    | call name arity binding =>
      simp only [attempt, Session.bindFunction] at success
      split at success
      · contradiction
      · next slot found =>
        split at success
        · next value =>
          cases quoted : withinDigits value.quoted? <;> rw [quoted] at success <;> contradiction
        · split at success
          · next accepted =>
            cases success
            exact .call found accepted
          · contradiction
  · rintro (⟨found, number⟩ | ⟨found, accepted⟩)
    · simp only [attempt, Session.bindVariable, found, if_pos number]
      rw [setValue_of_isNumber s _ number]
    · simp only [attempt, Session.bindFunction, found, if_pos accepted, Session.setCallback]

end Assignment

/-- A session goes over into another through these assignments, one after the other, between which
callbacks change their state and the session is validated. -/
inductive Binds (interface : Interface κ) :
    Session κ σ → List (Assignment κ) → Session κ σ → Prop where
  | done (s : Session κ σ) : Binds interface s [] s
  | state (state : σ) : Binds interface { s with state := state } made t →
      Binds interface s made t
  | assign : a.attempt interface s = .ok next → Binds interface next made t →
      Binds interface s (a :: made) t
  | validate : s.validate = .ok next → Binds interface next made t → Binds interface s made t

theorem Binds.trans (first : Binds interface s made t) (second : Binds interface t others u) :
    Binds interface s (made ++ others) u := by
  induction first with
  | done => exact second
  | state state _ ih => exact .state state (ih second)
  | assign success _ ih => exact .assign success (ih second)
  | validate success _ ih => exact .validate success (ih second)

/-! ### What stays -/

namespace Session

theorem validate_ok_iff {s t : Session κ σ} : s.validate = .ok t ↔
    (s.validated = true ∨ s.unboundVariable? = none ∧ s.unboundFunction? = none) ∧
      t = { s with validated := true } := by
  unfold validate
  by_cases checked : s.validated = true
  · have same : { s with validated := true } = s := by
      cases s
      simp_all
    simp [checked, same, eq_comm]
  · rw [if_neg checked]
    cases s.unboundVariable? <;> cases s.unboundFunction? <;> simp [checked, eq_comm]

/-- Every symbol of the source is bound. -/
structure Bound (s : Session κ σ) : Prop where
  values : ∀ slot ∈ s.root.variableSymbols, (s.values slot.id).isSome = true
  callbacks : ∀ slot ∈ s.root.functionSymbols, (s.callbacks slot.id).isSome = true

/-- The compiled expression of a session. -/
def compiled (s : Session κ σ) : Compiled :=
  ⟨s.source, s.root, s.context⟩

/-- The symbol table is that of the tree, and only a session with all symbols bound counts as
validated. -/
structure Sound (s : Session κ σ) : Prop where
  table : s.compiled.Tabulated
  bound : s.validated = true → s.Bound

/-- The second session is of the same expression, and what is bound in the first is bound. -/
structure Extends (s t : Session κ σ) : Prop where
  compiled : t.compiled = s.compiled
  policy : t.policy = s.policy
  values : ∀ n, (s.values n).isSome = true → (t.values n).isSome = true
  callbacks : ∀ n, (s.callbacks n).isSome = true → (t.callbacks n).isSome = true

theorem Extends.refl (s : Session κ σ) : s.Extends s :=
  ⟨rfl, rfl, fun _ => id, fun _ => id⟩

theorem Extends.root {s t : Session κ σ} (later : s.Extends t) : t.root = s.root :=
  congrArg Compiled.root later.compiled

theorem Extends.context {s t : Session κ σ} (later : s.Extends t) : t.context = s.context :=
  congrArg Compiled.context later.compiled

theorem Extends.trans {s t u : Session κ σ} (first : s.Extends t) (second : t.Extends u) :
    s.Extends u :=
  ⟨second.compiled.trans first.compiled, second.policy.trans first.policy,
    fun n bound => second.values n (first.values n bound),
    fun n bound => second.callbacks n (first.callbacks n bound)⟩

theorem Bound.extends {s t : Session κ σ} (bound : s.Bound) (later : s.Extends t) : t.Bound := by
  constructor
  · intro slot member
    rw [later.root] at member
    exact later.values _ (bound.values slot member)
  · intro slot member
    rw [later.root] at member
    exact later.callbacks _ (bound.callbacks slot member)

end Session

theorem isSome_update {f : Nat → Option α} (place : Nat) (value : α) (n : Nat)
    (bound : (f n).isSome = true) : (update f place (some value) n).isSome = true := by
  unfold update
  split
  · rfl
  · exact bound

theorem Assignment.Effect.extends {a : Assignment κ} (effect : Effect interface s a t) :
    s.Extends t := by
  cases effect with
  | var => exact ⟨rfl, rfl, isSome_update _ _, fun _ => id⟩
  | call => exact ⟨rfl, rfl, fun _ => id, isSome_update _ _⟩

theorem Assignment.Effect.validated {a : Assignment κ} (effect : Effect interface s a t) :
    t.validated = s.validated := by
  cases effect <;> rfl

/-- A slot that is bound stays bound. -/
theorem Binds.extends (binds : Binds interface s made t) : s.Extends t := by
  induction binds with
  | done s => exact .refl s
  | state state _ ih => exact ⟨ih.compiled, ih.policy, ih.values, ih.callbacks⟩
  | assign success _ ih => exact (Assignment.attempt_ok_iff.mp success).extends.trans ih
  | validate success _ ih =>
    obtain ⟨_, rfl⟩ := Session.validate_ok_iff.mp success
    exact ⟨ih.compiled, ih.policy, ih.values, ih.callbacks⟩

namespace Session

theorem unbound_eq_none_iff {s : Session κ σ} (sound : s.Sound) :
    (s.unboundVariable? = none ∧ s.unboundFunction? = none) ↔ s.Bound := by
  have variableSlots : ∀ slot, slot ∈ s.context.variables ↔ slot ∈ s.root.variableSymbols :=
    sound.table.mem_variables
  have functionSlots : ∀ slot, slot ∈ s.context.functions ↔ slot ∈ s.root.functionSymbols :=
    sound.table.mem_functions
  simp only [unboundVariable?, unboundFunction?, List.find?_eq_none, Bool.not_eq_true,
    Option.isNone_eq_false_iff, variableSlots, functionSlots]
  exact ⟨fun ⟨values, callbacks⟩ => ⟨values, callbacks⟩,
    fun bound => ⟨bound.values, bound.callbacks⟩⟩

/-- Validating succeeds if and only if every symbol is bound. -/
theorem Sound.validate_ok_iff {s t : Session κ σ} (sound : s.Sound) :
    s.validate = .ok t ↔ s.Bound ∧ t = { s with validated := true } := by
  rw [Session.validate_ok_iff, unbound_eq_none_iff sound]
  constructor
  · rintro ⟨checked | bound, rfl⟩
    · exact ⟨sound.bound checked, rfl⟩
    · exact ⟨bound, rfl⟩
  · rintro ⟨bound, rfl⟩
    exact ⟨.inr bound, rfl⟩

end Session

/-- The cached flag is never wrong. -/
theorem Binds.sound (binds : Binds interface s made t) (sound : s.Sound) : t.Sound := by
  induction binds with
  | done => exact sound
  | state state _ ih =>
    exact ih ⟨sound.table,
      fun checked => ⟨(sound.bound checked).values, (sound.bound checked).callbacks⟩⟩
  | assign success _ ih =>
    have effect := Assignment.attempt_ok_iff.mp success
    have later := effect.extends
    refine ih ⟨?_, ?_⟩
    · rw [later.compiled]
      exact sound.table
    · rw [effect.validated]
      exact fun checked => (sound.bound checked).extends later
  | validate success _ ih =>
    obtain ⟨bound, rfl⟩ := sound.validate_ok_iff.mp success
    exact ih ⟨sound.table, fun _ => ⟨bound.values, bound.callbacks⟩⟩

theorem sound_start {compiled : Compiled} (tabulated : compiled.Tabulated)
    (policy : DivisionPolicy) (state : σ) :
    (Session.start compiled policy state : Session κ σ).Sound :=
  ⟨tabulated, fun checked => absurd checked Bool.false_ne_true⟩

/-! ### What slots hold -/

theorem functionSlot?_some {s : Session κ σ} (found : s.functionSlot? name arity = some slot) :
    slot ∈ s.context.functions ∧ slot.name = name ∧ (slot.arity : Int) = arity := by
  unfold Session.functionSlot? at found
  split at found
  · contradiction
  · obtain ⟨member, named, count⟩ := Context.lookupFunction_some found
    exact ⟨member, named, by omega⟩

/-- The last assignment for a symbol. -/
def lastFor (made : List (Assignment κ)) (symbol : Symbol) : Option (Assignment κ) :=
  made.reverse.find? fun a => a.symbol = symbol

theorem lastFor_cons (a : Assignment κ) (made : List (Assignment κ)) (symbol : Symbol) :
    lastFor (a :: made) symbol =
      (lastFor made symbol).or (if a.symbol = symbol then some a else none) := by
  by_cases same : a.symbol = symbol <;> simp [lastFor, List.find?_append, same]

/-- What the last assignment for a symbol gives, or else what was there before. -/
def lastGiven (made : List (Assignment κ)) (symbol : Symbol) (given : Assignment κ → Option β)
    (before : Option β) : Option β :=
  match lastFor made symbol with
  | some a => given a
  | none => before

theorem lastGiven_cons (a : Assignment κ) (made : List (Assignment κ)) (symbol : Symbol)
    (given : Assignment κ → Option β) (before : Option β) :
    lastGiven (a :: made) symbol given before =
      lastGiven made symbol given (if a.symbol = symbol then given a else before) := by
  simp only [lastGiven, lastFor_cons]
  cases lastFor made symbol with
  | some b => rfl
  | none => by_cases same : a.symbol = symbol <;> simp [same]

theorem lastFor_isSome {made : List (Assignment κ)} {symbol : Symbol} :
    (lastFor made symbol).isSome = true ↔ symbol ∈ made.map Assignment.symbol := by
  simp [lastFor, List.find?_isSome]

namespace Assignment

theorem Effect.values_eq {a : Assignment κ} (effect : Effect interface s a t)
    (tabulated : s.context.Tabulated) (member : slot ∈ s.context.variables) :
    t.values slot.id = if a.symbol = slot.symbol then a.value? else s.values slot.id := by
  cases effect with
  | @var name other value found =>
    obtain ⟨otherMember, rfl⟩ := Context.lookupVariable_some found
    by_cases same : other.name = slot.name
    · obtain rfl := tabulated.keyedVariables.eq_of_key otherMember member same
      simp [value?, update, symbol, VariableSlot.symbol]
    · have apart : slot.id ≠ other.id := fun equal =>
        same (congrArg _ (tabulated.keyedVariables.eq_of_number otherMember member equal.symm))
      simp [update, symbol, VariableSlot.symbol, same, apart]
  | call => simp [symbol, VariableSlot.symbol]

theorem Effect.callbacks_eq {a : Assignment κ} (effect : Effect interface s a t)
    (tabulated : s.context.Tabulated) (member : slot ∈ s.context.functions) :
    t.callbacks slot.id = if a.symbol = slot.symbol then a.callback? else s.callbacks slot.id := by
  cases effect with
  | var => simp [symbol, FunctionSlot.symbol]
  | @call name arity other callback found =>
    obtain ⟨otherMember, rfl, rfl⟩ := functionSlot?_some found
    by_cases same : other.name = slot.name ∧ other.arity = slot.arity
    · obtain rfl := tabulated.keyedFunctions.eq_of_key otherMember member
        (Prod.ext same.1 same.2)
      simp [callback?, update, symbol, FunctionSlot.symbol]
    · have apart : slot.id ≠ other.id := by
        intro equal
        obtain rfl := tabulated.keyedFunctions.eq_of_number otherMember member equal.symm
        exact same ⟨rfl, rfl⟩
      have different : (Assignment.call other.name other.arity (.callback callback)).symbol ≠
          slot.symbol := by
        intro equal
        obtain ⟨named, counted⟩ := Symbol.call.inj equal
        exact same ⟨named, Int.ofNat_inj.mp counted⟩
      rw [if_neg different]
      exact if_neg apart

theorem Effect.isSome_value? {a : Assignment κ} (effect : Effect interface s a t)
    {slot : VariableSlot} (same : a.symbol = slot.symbol) : a.value?.isSome = true := by
  cases effect with
  | var => rfl
  | call => contradiction

theorem Effect.isSome_callback? {a : Assignment κ} (effect : Effect interface s a t)
    {slot : FunctionSlot} (same : a.symbol = slot.symbol) : a.callback?.isSome = true := by
  cases effect with
  | var => contradiction
  | call => rfl

end Assignment

/-- A variable has the value of its last assignment. -/
theorem Binds.values_eq {s t : Session κ σ} (binds : Binds interface s made t)
    (tabulated : s.context.Tabulated) (member : slot ∈ s.context.variables) :
    t.values slot.id =
      lastGiven made slot.symbol Assignment.value? (s.values slot.id) := by
  induction binds with
  | done => rfl
  | state state _ ih => exact ih tabulated member
  | assign success _ ih =>
    have effect := Assignment.attempt_ok_iff.mp success
    have later := effect.extends.context
    rw [ih (later ▸ tabulated) (later ▸ member), lastGiven_cons, effect.values_eq tabulated member]
  | validate success _ ih =>
    obtain ⟨_, rfl⟩ := Session.validate_ok_iff.mp success
    exact ih tabulated member

/-- A function has the callback of its last assignment. -/
theorem Binds.callbacks_eq {s t : Session κ σ} (binds : Binds interface s made t)
    (tabulated : s.context.Tabulated) (member : slot ∈ s.context.functions) :
    t.callbacks slot.id =
      lastGiven made slot.symbol Assignment.callback? (s.callbacks slot.id) := by
  induction binds with
  | done => rfl
  | state state _ ih => exact ih tabulated member
  | assign success _ ih =>
    have effect := Assignment.attempt_ok_iff.mp success
    have later := effect.extends.context
    rw [ih (later ▸ tabulated) (later ▸ member), lastGiven_cons,
      effect.callbacks_eq tabulated member]
  | validate success _ ih =>
    obtain ⟨_, rfl⟩ := Session.validate_ok_iff.mp success
    exact ih tabulated member

/-- All that is assigned succeeds in a session of the same expression. -/
theorem Binds.effect_of_mem {s t : Session κ σ} (binds : Binds interface s made t)
    (member : a ∈ made) :
    ∃ before after : Session κ σ, before.context = s.context ∧
      Assignment.Effect interface before a after := by
  induction binds with
  | done => contradiction
  | state state _ ih => exact ih member
  | assign success _ ih =>
    have effect := Assignment.attempt_ok_iff.mp success
    rcases List.mem_cons.mp member with rfl | member
    · exact ⟨_, _, rfl, effect⟩
    · obtain ⟨before, after, same, later⟩ := ih member
      exact ⟨before, after, same.trans effect.extends.context, later⟩
  | validate success _ ih =>
    obtain ⟨_, rfl⟩ := Session.validate_ok_iff.mp success
    exact ih member

/-- A variable without a value before has one if an assignment was made for it. -/
theorem Binds.isSome_values {s t : Session κ σ} (binds : Binds interface s made t)
    (tabulated : s.context.Tabulated) (member : slot ∈ s.context.variables)
    (unbound : s.values slot.id = none) :
    (t.values slot.id).isSome = true ↔ slot.symbol ∈ made.map Assignment.symbol := by
  rw [binds.values_eq tabulated member, ← lastFor_isSome, unbound, lastGiven]
  cases found : lastFor made slot.symbol with
  | none => simp
  | some a =>
    have last : a.symbol = slot.symbol := by simpa using List.find?_some found
    have among : a ∈ made := List.mem_reverse.mp (List.mem_of_find?_eq_some found)
    obtain ⟨_, _, _, effect⟩ := binds.effect_of_mem among
    simp [effect.isSome_value? last]

/-- A function without a callback before has one if an assignment was made for it. -/
theorem Binds.isSome_callbacks {s t : Session κ σ} (binds : Binds interface s made t)
    (tabulated : s.context.Tabulated) (member : slot ∈ s.context.functions)
    (unbound : s.callbacks slot.id = none) :
    (t.callbacks slot.id).isSome = true ↔ slot.symbol ∈ made.map Assignment.symbol := by
  rw [binds.callbacks_eq tabulated member, ← lastFor_isSome, unbound, lastGiven]
  cases found : lastFor made slot.symbol with
  | none => simp
  | some a =>
    have last : a.symbol = slot.symbol := by simpa using List.find?_some found
    have among : a ∈ made := List.mem_reverse.mp (List.mem_of_find?_eq_some found)
    obtain ⟨_, _, _, effect⟩ := binds.effect_of_mem among
    simp [effect.isSome_callback? last]

end Formula
