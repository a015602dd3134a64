import Formula.Proofs.CommandLine.Evaluation
import Formula.Proofs.Session.Arity

/-! Mathematics by name. The constants go to the variables of their names that are not assigned, and
the primitives to the functions of their names. This fails only at a function that has the name of a
primitive and a number of arguments with which it cannot be called; functions without a primitive
are left alone. -/
namespace Formula

namespace Primitive

/-- The primitive can be called with `count` arguments, as far as is known. -/
def accepts (primitive : Primitive) (count : Nat) : Bool :=
  match primitive.signature with
  | some signature => signature.accepts count
  | none => true

theorem name_of_mathematical? {called : String} (found : mathematical? called = some primitive) :
    primitive.name = called := by
  simpa using List.find?_some found

end Primitive

/-- There is a mathematical primitive of the name of the function, but it cannot be called with as
many arguments. -/
def FunctionSlot.misfits (slot : FunctionSlot) : Bool :=
  (Primitive.mathematical? slot.name).any fun primitive => !primitive.accepts slot.arity

/-- The error of binding a function to the mathematical primitive of its name. -/
def FunctionSlot.misfit (slot : FunctionSlot) : Fault :=
  .expression (.arityMismatch slot.name slot.arity ("<built-in function " ++ slot.name ++ ">"))

namespace CommandLine
open Logged

section
variable {s : Callback.Session} {P : Fault → Prop}

/-! ### Constants -/

/-- The variables that are not assigned have been given the constants of their names. -/
structure BindsConstants (assigned : List String) (constants : List (String × Value))
    (s t : Callback.Session) : Prop where
  same : ∃ values, t = { s with values := values }
  constant : ∀ slot ∈ s.context.variables, ∀ value, (slot.name, value) ∈ constants →
    slot.name ∉ assigned → t.values slot.id = some value
  other : ∀ slot ∈ s.context.variables, slot.name ∈ assigned ∨ slot.name ∉ constants.map (·.1) →
    t.values slot.id = s.values slot.id

theorem bindVariable_of_lookup (found : s.context.lookupVariable name = some slot)
    (number : value.isNumber = true) : s.bindVariable name value =
      .ok { s with values := update s.values slot.id (some value) } := by
  rw [Session.bindVariable, found, ← Assignment.setValue_of_isNumber s slot number]
  exact if_pos number

theorem BindsConstants.skip (tabulated : s.context.Tabulated)
    (free : s.context.lookupVariable name = none ∨ name ∈ assigned)
    (binds : BindsConstants assigned constants s t) :
    BindsConstants assigned ((name, value) :: constants) s t := by
  refine ⟨binds.same, ?_, ?_⟩
  · intro slot member given occurs unassigned
    rcases List.mem_cons.mp occurs with first | later
    · obtain ⟨rfl, rfl⟩ := Prod.mk.inj first
      rcases free with absent | taken
      · rw [tabulated.lookupVariable_eq_some member] at absent
        contradiction
      · contradiction
    · exact binds.constant slot member given later unassigned
  · intro slot member excluded
    exact binds.other slot member (excluded.imp_right (List.not_mem_of_not_mem_cons ·))

theorem BindsConstants.bind (tabulated : s.context.Tabulated)
    (found : s.context.lookupVariable name = some target) (fresh : name ∉ constants.map (·.1))
    (unassigned : name ∉ assigned)
    (binds : BindsConstants assigned constants
      { s with values := update s.values target.id (some value) } t) :
    BindsConstants assigned ((name, value) :: constants) s t := by
  obtain ⟨declared, rfl⟩ := Context.lookupVariable_some found
  refine ⟨binds.same, ?_, ?_⟩
  · intro slot member given occurs free
    rcases List.mem_cons.mp occurs with first | later
    · obtain ⟨named, rfl⟩ := Prod.mk.inj first
      obtain rfl := tabulated.keyedVariables.eq_of_key member declared named
      exact (binds.other slot member (.inr fresh)).trans (if_pos rfl)
    · exact binds.constant slot member given later free
  · intro slot member excluded
    have apart : slot.id ≠ target.id := by
      intro same
      obtain rfl := tabulated.keyedVariables.eq_of_number member declared same
      exact excluded.elim unassigned (absurd List.mem_cons_self)
    have before := excluded.imp_right (List.not_mem_of_not_mem_cons ·)
    exact (binds.other slot member before).trans (if_neg apart)

/-- Constants are bound without failure. -/
theorem ends_bindConstants_exact (tabulated : s.context.Tabulated) (assigned : List String)
    {constants : List (String × Value)} (distinct : (constants.map (·.1)).Nodup)
    (numbers : ∀ constant ∈ constants, constant.2.isNumber = true) :
    Ends (BindsConstants assigned constants s) P (bindConstants assigned s constants) := by
  induction constants generalizing s with
  | nil =>
    exact ends_pure ⟨⟨s.values, rfl⟩, fun _ _ _ absent => absurd absent List.not_mem_nil,
      fun _ _ _ => rfl⟩
  | cons constant constants ih =>
    obtain ⟨name, value⟩ := constant
    obtain ⟨fresh, others⟩ := List.nodup_cons.mp distinct
    obtain ⟨number, rest⟩ := List.forall_mem_cons.mp numbers
    rw [bindConstants]
    dsimp only
    by_cases taken : name ∈ assigned
    · rw [if_neg (by simp [taken])]
      exact (ih tabulated others rest).imp (fun t binds => binds.skip tabulated (.inr taken))
        fun _ fails => fails
    · cases found : s.context.lookupVariable name with
      | none =>
        rw [if_neg (by simp)]
        exact (ih tabulated others rest).imp (fun t binds => binds.skip tabulated (.inl found))
          fun _ fails => fails
      | some target =>
        rw [if_pos (by simp [taken])]
        have bound := bindVariable_of_lookup found number
        let next : Callback.Session :=
          { s with values := update s.values target.id (some value) }
        have first : Ends (· = next) P (bindVariable s name value) := by
          refine ends_bindVariable_of (fun t same => ?_) fun fault failed => ?_
          · exact (Except.ok.inj (bound.symm.trans same)).symm
          · cases bound.symm.trans failed
        refine ends_bind first ?_
        rintro _ rfl
        refine (ih (s := next) tabulated others rest).imp ?_ fun _ fails => fails
        exact fun t binds => binds.bind tabulated found fresh taken

/-! ### Functions -/

/-- The session in which a function has been given a primitive. -/
def withPrimitive (s : Callback.Session) (slot : FunctionSlot) (primitive : Primitive) :
    Callback.Session :=
  { s with
    callbacks := update s.callbacks slot.id (some ⟨s.state.next, .primitive primitive⟩)
    state := (s.state.make (.primitive primitive)).2 }

/-- A primitive goes to the function of its name if it can be called with as many arguments. -/
theorem ends_bindPrimitive_exact (tabulated : s.context.Tabulated)
    (declared : target ∈ s.context.functions)
    (found : Primitive.mathematical? target.name = some primitive) :
    Ends (fun t => target.misfits = false ∧ t = withPrimitive s target primitive)
      (fun fault => target.misfits = true ∧ fault = target.misfit)
      (bindPrimitive s target primitive) := by
  have misfits : target.misfits = !primitive.accepts target.arity := by
    rw [FunctionSlot.misfits, found]
    rfl
  have misfit : target.misfit = Session.arityFault interface target.name target.arity
      ⟨s.state.next, .primitive primitive⟩ := by
    rw [FunctionSlot.misfit, ← Primitive.name_of_mathematical? found]
    rfl
  have bound : Session.bindFunction interface
      { s with state := (s.state.make (.primitive primitive)).2 } target.name target.arity
      (.callback ⟨s.state.next, .primitive primitive⟩) =
        if primitive.accepts target.arity then .ok (withPrimitive s target primitive)
        else .error target.misfit := by
    have slot : Session.functionSlot?
        { s with state := (s.state.make (.primitive primitive)).2 } target.name target.arity =
          some target := functionSlot?_of_mem tabulated declared
    rw [Session.bindFunction, slot, misfit]
    rfl
  apply ends_bindPrimitive_of
  all_goals
    rw [bound, misfits]
    cases primitive.accepts target.arity
  · intro t same
    contradiction
  · exact fun t same => ⟨rfl, (Except.ok.inj same).symm⟩
  · exact fun fault same => ⟨rfl, (Except.error.inj same).symm⟩
  · intro fault same
    contradiction

/-- The function has been given the mathematical primitive of its name, if there is one. -/
def Mathematized (s t : Callback.Session) (slot : FunctionSlot) : Prop :=
  match Primitive.mathematical? slot.name with
  | some primitive => ∃ id, t.callbacks slot.id = some ⟨id, .primitive primitive⟩
  | none => t.callbacks slot.id = s.callbacks slot.id

/-- The given functions of the table, and no others, have been given primitives. -/
structure BindsFunctions (slots : List FunctionSlot) (s t : Callback.Session) : Prop where
  same : ∃ callbacks record, t = { s with callbacks := callbacks, state := record }
  given : ∀ slot ∈ slots, Mathematized s t slot
  other : ∀ slot ∈ s.context.functions, slot ∉ slots → t.callbacks slot.id = s.callbacks slot.id

theorem BindsFunctions.skip (declared : slot ∈ s.context.functions)
    (absent : Primitive.mathematical? slot.name = none) (binds : BindsFunctions slots s t) :
    BindsFunctions (slot :: slots) s t := by
  refine ⟨binds.same, ?_, fun other member apart => ?_⟩
  · refine List.forall_mem_cons.mpr ⟨?_, binds.given⟩
    by_cases again : slot ∈ slots
    · exact binds.given slot again
    · rw [Mathematized, absent]
      exact binds.other slot declared again
  · exact binds.other other member (List.not_mem_of_not_mem_cons apart)

theorem BindsFunctions.bind (tabulated : s.context.Tabulated)
    (declared : target ∈ s.context.functions) (within : slots ⊆ s.context.functions)
    (found : Primitive.mathematical? target.name = some primitive)
    (binds : BindsFunctions slots (withPrimitive s target primitive) t) :
    BindsFunctions (target :: slots) s t := by
  have apart {slot : FunctionSlot} (member : slot ∈ s.context.functions) (other : slot ≠ target) :
      (withPrimitive s target primitive).callbacks slot.id = s.callbacks slot.id :=
    if_neg fun same => other (tabulated.keyedFunctions.eq_of_number member declared same)
  refine ⟨?_, List.forall_mem_cons.mpr ⟨?_, fun slot later => ?_⟩, fun slot member outside => ?_⟩
  · obtain ⟨callbacks, record, rfl⟩ := binds.same
    exact ⟨callbacks, record, rfl⟩
  · by_cases again : target ∈ slots
    · have given := binds.given target again
      rw [Mathematized, found] at given ⊢
      exact given
    · rw [Mathematized, found]
      exact ⟨_, (binds.other target declared again).trans (if_pos rfl)⟩
  · have given := binds.given slot later
    rw [Mathematized] at given ⊢
    cases named : Primitive.mathematical? slot.name with
    | some other =>
      rw [named] at given
      exact given
    | none =>
      rw [named] at given
      refine given.trans (apart (within later) ?_)
      rintro rfl
      rw [found] at named
      contradiction
  · obtain ⟨other, beyond⟩ := List.ne_and_not_mem_of_not_mem_cons outside
    exact (binds.other slot member beyond).trans (apart member other)

/-- Primitives are bound unless one does not fit; then the first one that does not is reported. -/
theorem ends_bindFunctions_exact (tabulated : s.context.Tabulated) {slots : List FunctionSlot}
    (declared : slots ⊆ s.context.functions) :
    Ends (fun t => (∀ slot ∈ slots, slot.misfits = false) ∧ BindsFunctions slots s t)
      (fun fault => ∃ slot, slots.find? (·.misfits) = some slot ∧ fault = slot.misfit)
      (bindFunctions s slots) := by
  induction slots generalizing s with
  | nil =>
    exact ends_pure ⟨List.forall_mem_nil _, ⟨_, _, rfl⟩, List.forall_mem_nil _, fun _ _ _ => rfl⟩
  | cons target slots ih =>
    obtain ⟨here, within⟩ := List.cons_subset.mp declared
    have later (fits : target.misfits = false) {fault : Fault} :
        (∃ slot, slots.find? (·.misfits) = some slot ∧ fault = slot.misfit) →
          ∃ slot, (target :: slots).find? (·.misfits) = some slot ∧ fault = slot.misfit := by
      rintro ⟨slot, first, same⟩
      exact ⟨slot, (List.find?_cons_of_neg (by simp [fits])).trans first, same⟩
    rw [bindFunctions]
    cases found : Primitive.mathematical? target.name with
    | none =>
      have fits : target.misfits = false := by
        rw [FunctionSlot.misfits, found]
        rfl
      refine (ih tabulated within).imp ?_ fun _ => later fits
      rintro t ⟨others, binds⟩
      exact ⟨List.forall_mem_cons.mpr ⟨fits, others⟩, binds.skip here found⟩
    | some primitive =>
      have first := ends_bindPrimitive_exact tabulated here found
      refine ends_bind (first.imp (fun _ bound => bound) ?_) ?_
      · rintro fault ⟨unfit, same⟩
        exact ⟨target, List.find?_cons_of_pos unfit, same⟩
      · rintro _ ⟨fits, rfl⟩
        refine (ih (s := withPrimitive s target primitive) tabulated within).imp ?_
          fun _ => later fits
        rintro t ⟨others, binds⟩
        exact ⟨List.forall_mem_cons.mpr ⟨fits, others⟩,
          binds.bind tabulated here within found⟩

end

/-! ### Both -/

/-- Mathematics has been bound to the names that the expression has for it. Nothing else is
changed. -/
structure BindsMathematics (assigned : List String) (s t : Callback.Session) : Prop where
  compiled : t.compiled = s.compiled
  validated : t.validated = s.validated
  policy : t.policy = s.policy
  constant : ∀ slot ∈ s.context.variables, ∀ value, (slot.name, value) ∈ mathematicalConstants →
    slot.name ∉ assigned → t.values slot.id = some value
  other : ∀ slot ∈ s.context.variables,
    slot.name ∈ assigned ∨ slot.name ∉ mathematicalConstants.map (·.1) →
    t.values slot.id = s.values slot.id
  function : ∀ slot ∈ s.context.functions, Mathematized s t slot

theorem ends_bindMathematics_exact {s : Callback.Session} (tabulated : s.context.Tabulated)
    (assigned : List String) :
    Ends (fun t => (∀ slot ∈ s.context.functions, slot.misfits = false) ∧
        BindsMathematics assigned s t)
      (fun fault => ∃ slot, s.context.functions.find? (·.misfits) = some slot ∧
        fault = slot.misfit) (bindMathematics assigned s) := by
  have numbers : ∀ constant ∈ mathematicalConstants, constant.2.isNumber = true := by
    intro constant member
    obtain ⟨x, same⟩ := exists_float_of_mem_constants member
    rw [same]
    rfl
  refine ends_bind (ends_bindConstants_exact tabulated assigned (by decide) numbers) ?_
  rintro _ ⟨⟨values, rfl⟩, constant, other⟩
  refine (ends_bindFunctions_exact (s := { s with values := values }) tabulated
    (List.Subset.refl _)).imp ?_ fun _ unfit => unfit
  rintro _ ⟨fits, ⟨callbacks, record, rfl⟩, given, _⟩
  exact ⟨fits, rfl, rfl, rfl, constant, other, given⟩

/-- Mathematics is bound unless a function of the expression has the name of a primitive but not
its number of arguments; then the first such function is reported. -/
theorem bindMathematics_exact {s : Callback.Session}
    (success : Compiled.compile kind source name = .ok s.compiled) (assigned : List String) :
    match s.context.functions.find? (·.misfits) with
    | some slot => (bindMathematics assigned s).outcome.1 = .error slot.misfit
    | none => ∃ t, (bindMathematics assigned s).outcome.1 = .ok t ∧
      BindsMathematics assigned s t := by
  have tabulated : s.context.Tabulated := (tabulated_of_compile success).tabulated
  obtain ⟨returned, failed⟩ := (ends_bindMathematics_exact tabulated assigned).outcome
  cases outcome : (bindMathematics assigned s).outcome.1 with
  | ok t =>
    obtain ⟨fits, binds⟩ := returned t outcome
    rw [List.find?_eq_none.mpr (by simpa using fits)]
    exact ⟨t, rfl, binds⟩
  | error fault =>
    obtain ⟨slot, first, rfl⟩ := failed fault outcome
    rw [first]

/-- The sine and the circle number are bound; what is not from mathematics is left alone. -/
theorem bindMathematics_exact_of_sine :
    let compiled : Compiled := ⟨"sin(x)+f(pi)",
      .binary .add (.call ⟨0, "sin", 1⟩ [.var ⟨0, "x"⟩]) (.call ⟨1, "f", 1⟩ [.var ⟨1, "pi"⟩]),
      ⟨[⟨0, "x"⟩, ⟨1, "pi"⟩], [⟨0, "sin", 1⟩, ⟨1, "f", 1⟩]⟩⟩
    let s : Callback.Session := .start compiled .checked .empty
    Compiled.compile .float "sin(x)+f(pi)" "<expr>" = .ok s.compiled ∧
      ∃ t, (bindMathematics [] s).outcome.1 = .ok t ∧ t.values 0 = none ∧
        t.values 1 = some (.float .pi) ∧ t.callbacks 1 = none ∧
        ∃ id primitive, Primitive.mathematical? "sin" = some primitive ∧
          t.callbacks 0 = some ⟨id, .primitive primitive⟩ := by
  intro compiled s
  have scanned : Lexeme.scan 1 "sin(x)+f(pi)".toList =
      [⟨.name ['s', 'i', 'n'], 1⟩, ⟨.mark '(', 4⟩, ⟨.name ['x'], 5⟩, ⟨.mark ')', 6⟩, ⟨.mark '+', 7⟩,
        ⟨.name ['f'], 8⟩, ⟨.mark '(', 9⟩, ⟨.name ['p', 'i'], 10⟩, ⟨.mark ')', 12⟩] := by
    decide +kernel
  have success : Compiled.compile .float "sin(x)+f(pi)" "<expr>" = .ok s.compiled := by
    rw [Compiled.compile, Term.read, scanned, Grammar.Situation.readOperand_eq_run]
    rfl
  have fits : s.context.functions.find? (·.misfits) = none := by
    rfl
  have bound := bindMathematics_exact success []
  rw [fits] at bound
  obtain ⟨t, outcome, binds⟩ := bound
  refine ⟨success, t, outcome, binds.other ⟨0, "x"⟩ (by decide) (.inr (by decide)), ?_, ?_, ?_⟩
  · exact binds.constant ⟨1, "pi"⟩ (by decide) _ List.mem_cons_self (by decide)
  · exact binds.function ⟨1, "f", 1⟩ (by decide)
  · obtain ⟨id, held⟩ := binds.function ⟨0, "sin", 1⟩ (by decide)
    exact ⟨id, _, rfl, held⟩

/-- The sine of two numbers is an error before anything is evaluated. -/
theorem bindMathematics_sineOfTwo :
    let sine : FunctionSlot := ⟨0, "sin", 2⟩
    let compiled : Compiled := ⟨"sin(1,2)", .call sine [.literal (.float (.ofScientific false 1 0)),
      .literal (.float (.ofScientific false 2 0))], ⟨[], [sine]⟩⟩
    Compiled.compile .float "sin(1,2)" "<expr>" = .ok compiled ∧
      (bindMathematics [] (.start compiled .checked .empty)).outcome.1 =
        .error (.expression (.arityMismatch "sin" 2 "<built-in function sin>")) := by
  intro sine compiled
  have scanned : Lexeme.scan 1 "sin(1,2)".toList =
      [⟨.name ['s', 'i', 'n'], 1⟩, ⟨.mark '(', 4⟩, ⟨.number ['1'], 5⟩, ⟨.mark ',', 6⟩,
        ⟨.number ['2'], 7⟩, ⟨.mark ')', 8⟩] := by
    decide +kernel
  constructor
  · rw [Compiled.compile, Term.read, scanned, Grammar.Situation.readOperand_eq_run]
    rfl
  · rfl

end CommandLine

end Formula
