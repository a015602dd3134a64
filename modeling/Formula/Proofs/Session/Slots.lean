import Formula.Proofs.Session.SymbolTable
import Mathlib.Data.List.Induction

/-! Symbol tables in use. Whatever is defined and looked up, in whatever order, a symbol has a slot
from its first definition on, and every later definition and lookup of it answers with that slot. A
table only grows, at its end, and so its slots stay where they are found; and what is found under
two symbols are two slots, since slots are numbered by their places. -/
namespace Formula

/-- A slot of either kind. -/
inductive Slot where
  | var (slot : VariableSlot)
  | call (slot : FunctionSlot)

namespace Slot

def symbol : Slot → Symbol
  | var slot => slot.symbol
  | call slot => slot.symbol

/-- The slots are one and the same: what is bound to the one is bound to the other. -/
def Same : Slot → Slot → Prop
  | var slot, var other => slot.id = other.id
  | call slot, call other => slot.id = other.id
  | _, _ => False

end Slot

namespace Context

/-- What can be asked of a symbol table. -/
inductive Operation where
  | defineVariable (name : String)
  | defineFunction (name : String) (arguments : List Node)
  | lookupVariable (name : String)
  | lookupFunction (name : String) (arity : Int)

inductive Answer where
  | node (node : Node)
  | foundVariable (found : Option VariableSlot)
  | foundFunction (found : Option FunctionSlot)

def find? (context : Context) : Symbol → Option Slot
  | .var name => (context.lookupVariable name).map .var
  | .call name arity => (context.findFunction name arity).map .call

/-- The slot in an answer. -/
def Answer.slot? : Answer → Option Slot
  | node (.var slot) => some (.var slot)
  | node (.call slot _) => some (.call slot)
  | node _ => none
  | foundVariable found => found.map .var
  | foundFunction found => found.map .call

namespace Operation

/-- What an operation answers, and the table after it. -/
def perform (context : Context) : Operation → Answer × Context
  | defineVariable name =>
    let (slot, context) := context.defineVariable name
    (.node (.var slot), context)
  | defineFunction name arguments =>
    let (node, context) := context.defineCall name arguments
    (.node node, context)
  | lookupVariable name => (.foundVariable (context.lookupVariable name), context)
  | lookupFunction name arity => (.foundFunction (context.findFunction name arity), context)

/-- The symbol that an operation is about. -/
def symbol : Operation → Symbol
  | defineVariable name | lookupVariable name => .var name
  | defineFunction name arguments => .call name arguments.length
  | lookupFunction name arity => .call name arity

def defines : Operation → Bool
  | defineVariable _ | defineFunction .. => true
  | lookupVariable _ | lookupFunction .. => false

/-- The name of the variable that an operation defines. -/
def name? : Operation → Option String
  | defineVariable name => some name
  | defineFunction .. | lookupVariable _ | lookupFunction .. => none

/-- The name and the number of arguments of the function that an operation defines. -/
def key? : Operation → Option (String × Nat)
  | defineFunction name arguments => some (name, arguments.length)
  | defineVariable _ | lookupVariable _ | lookupFunction .. => none

end Operation

/-- The table after several operations on a new one. -/
def after (ops : List Operation) : Context :=
  ops.foldl (fun context op => (op.perform context).2) empty

/-- The answer of an operation after several others on a new table. -/
def answer (ops : List Operation) (op : Operation) : Answer :=
  (op.perform (after ops)).1

/-! ### Steps -/

section
variable {context : Context}

/-- The table has the slot. -/
def Holds (context : Context) : Slot → Prop
  | .var slot => slot ∈ context.variables
  | .call slot => slot ∈ context.functions

/-- What is found under a symbol is in the table, and is the slot of that symbol. -/
theorem holds_of_find? (found : context.find? symbol = some slot) :
    context.Holds slot ∧ slot.symbol = symbol := by
  cases symbol with
  | var name =>
    obtain ⟨stored, lookup, rfl⟩ := Option.map_eq_some_iff.mp found
    obtain ⟨member, named⟩ := lookupVariable_some lookup
    exact ⟨member, congrArg Symbol.var named⟩
  | call name arity =>
    obtain ⟨stored, lookup, rfl⟩ := Option.map_eq_some_iff.mp found
    obtain ⟨member, named, counted⟩ := findFunction_some lookup
    exact ⟨member, by simp only [Slot.symbol, FunctionSlot.symbol, named, counted]⟩

theorem lookupVariable_defineVariable (context : Context) (name : String) :
    (context.defineVariable name).2.lookupVariable name = some (context.defineVariable name).1 := by
  unfold defineVariable
  split
  · assumption
  · next missing =>
    unfold lookupVariable at missing ⊢
    simp [missing]

theorem lookupFunction_defineFunction (context : Context) (name : String) (arity : Nat) :
    (context.defineFunction name arity).2.lookupFunction name arity =
      some (context.defineFunction name arity).1 := by
  unfold defineFunction
  split
  · assumption
  · next missing =>
    unfold lookupFunction at missing ⊢
    simp [missing]

/-- An operation answers with the slot that its symbol has afterwards. -/
theorem slot?_perform (context : Context) (op : Operation) :
    (op.perform context).1.slot? = (op.perform context).2.find? op.symbol := by
  cases op with
  | defineVariable name =>
    exact (congrArg (Option.map Slot.var) (lookupVariable_defineVariable context name)).symm
  | defineFunction name arguments =>
    have found := lookupFunction_defineFunction context name arguments.length
    rw [← findFunction_natCast] at found
    exact (congrArg (Option.map Slot.call) found).symm
  | lookupVariable | lookupFunction => rfl

/-- A table grows at its end. -/
theorem exists_more (context : Context) (op : Operation) : ∃ more calls,
    (op.perform context).2.variables = context.variables ++ more ∧
      (op.perform context).2.functions = context.functions ++ calls := by
  cases op with
  | defineVariable name =>
    simp only [Operation.perform, defineVariable]
    split
    · exact ⟨[], [], by simp, by simp⟩
    · exact ⟨_, [], rfl, by simp⟩
  | defineFunction name arguments =>
    simp only [Operation.perform, defineCall, defineFunction]
    split
    · exact ⟨[], [], by simp, by simp⟩
    · exact ⟨[], _, by simp, rfl⟩
  | lookupVariable | lookupFunction => exact ⟨[], [], by simp [Operation.perform]⟩

/-- A slot that is found stays to be found. -/
theorem find?_perform (op : Operation) (found : context.find? symbol = some slot) :
    (op.perform context).2.find? symbol = some slot := by
  obtain ⟨more, calls, grown, called⟩ := exists_more context op
  cases symbol with
  | var name =>
    obtain ⟨stored, lookup, rfl⟩ := Option.map_eq_some_iff.mp found
    unfold lookupVariable at lookup
    simp [find?, lookupVariable, grown, List.find?_append, lookup]
  | call name arity =>
    obtain ⟨stored, lookup, rfl⟩ := Option.map_eq_some_iff.mp found
    unfold findFunction at lookup
    split at lookup
    · contradiction
    · next natural =>
      unfold lookupFunction at lookup
      simp [find?, findFunction, natural, lookupFunction, called, List.find?_append, lookup]

theorem tabulated_perform (tabulated : context.Tabulated) (op : Operation) :
    (op.perform context).2.Tabulated := by
  cases op with
  | defineVariable name => exact (defineVariable_adds context name).2.tabulated tabulated
  | defineFunction name arguments =>
    exact (defineFunction_adds context name arguments.length).2.tabulated tabulated
  | lookupVariable | lookupFunction => exact tabulated

theorem Lists.perform (lists : context.Lists names keys) (op : Operation) :
    (op.perform context).2.Lists (names ++ op.name?.toList) (keys ++ op.key?.toList) := by
  cases op with
  | defineVariable name =>
    rw [Operation.name?, Operation.key?, Option.toList_none, List.append_nil]
    exact lists.defineVariable name
  | defineFunction name arguments =>
    rw [Operation.name?, Operation.key?, Option.toList_none, List.append_nil]
    exact lists.defineFunction name arguments.length
  | lookupVariable | lookupFunction =>
    rw [Operation.name?, Operation.key?, Option.toList_none, List.append_nil, Option.toList_none,
      List.append_nil]
    exact lists

/-- Slots that are found under two symbols are two slots. -/
theorem Tabulated.eq_of_same (tabulated : context.Tabulated)
    (first : context.find? symbol = some slot) (second : context.find? other = some otherSlot)
    (same : slot.Same otherSlot) : symbol = other := by
  obtain ⟨held, rfl⟩ := holds_of_find? first
  obtain ⟨otherHeld, rfl⟩ := holds_of_find? second
  cases slot with
  | var slot =>
    cases otherSlot with
    | var other => rw [tabulated.keyedVariables.eq_of_number held otherHeld same]
    | call other => contradiction
  | call slot =>
    cases otherSlot with
    | var other => contradiction
    | call other => rw [tabulated.keyedFunctions.eq_of_number held otherHeld same]

end

/-! ### Runs -/

theorem after_concat (ops : List Operation) (op : Operation) :
    after (ops ++ [op]) = (op.perform (after ops)).2 := by
  rw [after, List.foldl_append]
  rfl

theorem tabulated_after (ops : List Operation) : (after ops).Tabulated := by
  induction ops using List.reverseRecOn with
  | nil => exact tabulated_empty
  | append_singleton ops op ih =>
    rw [after_concat]
    exact tabulated_perform ih op

/-- A table lists the symbols that have been defined, each where it was defined first. -/
theorem lists_after (ops : List Operation) :
    (after ops).Lists (ops.filterMap Operation.name?) (ops.filterMap Operation.key?) := by
  induction ops using List.reverseRecOn with
  | nil => exact lists_empty
  | append_singleton ops op ih =>
    have step := ih.perform op
    rw [after_concat, List.filterMap_append, List.filterMap_append]
    cases op <;> exact step

/-- What is found is found after any further operations. -/
theorem find?_after_append (ops more : List Operation)
    (found : (after ops).find? symbol = some slot) :
    (after (ops ++ more)).find? symbol = some slot := by
  induction more using List.reverseRecOn with
  | nil =>
    rw [List.append_nil]
    exact found
  | append_singleton more op ih =>
    rw [← List.append_assoc, after_concat]
    exact find?_perform op ih

theorem slot?_answer (ops : List Operation) (op : Operation) :
    (answer ops op).slot? = (after (ops ++ [op])).find? op.symbol := by
  rw [after_concat]
  exact slot?_perform (after ops) op

theorem Operation.name?_eq_some {op : Operation} :
    op.name? = some name ↔ op.defines = true ∧ op.symbol = .var name := by
  cases op <;> simp [name?, defines, symbol]

theorem Operation.key?_eq_some {op : Operation} {count : Nat} :
    op.key? = some (name, count) ↔ op.defines = true ∧ op.symbol = .call name count := by
  cases op with
  | defineFunction callee arguments =>
    have counts : arguments.length = count ↔ (arguments.length : Int) = count := by omega
    simp only [key?, defines, symbol, Option.some.injEq, Prod.mk.injEq, Symbol.call.injEq, true_and,
      counts]
  | defineVariable | lookupVariable | lookupFunction => simp [key?, defines, symbol]

/-- Functions are defined with as many arguments as there are. -/
theorem Operation.exists_count {op : Operation} (defines : op.defines = true)
    (same : op.symbol = .call name arity) : ∃ count : Nat, (count : Int) = arity := by
  cases op with
  | defineFunction callee arguments => exact ⟨arguments.length, (Symbol.call.inj same).2⟩
  | defineVariable | lookupVariable => contradiction
  | lookupFunction => contradiction

/-- A symbol is found exactly if it has been defined. -/
theorem find?_after_eq_none_iff (ops : List Operation) (symbol : Symbol) :
    (after ops).find? symbol = none ↔ ∀ op ∈ ops, op.defines = true → op.symbol ≠ symbol := by
  have lists := lists_after ops
  cases symbol with
  | var name =>
    rw [find?, Option.map_eq_none_iff, lists.lookupVariable_eq_none_iff]
    simp only [List.mem_filterMap, Operation.name?_eq_some, not_exists, not_and]
  | call name arity =>
    rw [find?, Option.map_eq_none_iff, lists.findFunction_eq_none_iff]
    simp only [List.mem_filterMap, Operation.key?_eq_some, not_exists, not_and]
    constructor
    · intro absent op member defines same
      obtain ⟨count, rfl⟩ := Operation.exists_count defines same
      exact absent count rfl op member defines same
    · rintro absent count rfl op member defines
      exact absent op member defines

/-- Whatever operations have come first on a new symbol table, and whichever comes next. The table
lists the variables and the functions that have been defined, each once, in the order in which they
were defined first. The answer has a slot, unless a symbol is looked up that has not been defined;
the slot is that of the symbol, any later operation on the symbol answers with it, and one on
another symbol answers with another slot or with none. A definition of a function answers with the
call that has exactly the given arguments, and its slot has their number; a lookup leaves the table
as it is. -/
theorem answer_stable (ops : List Operation) (op : Operation) :
    (after ops).variables.map (·.name) = (ops.filterMap Operation.name?).eraseDups ∧
    (after ops).functions.map (fun slot => (slot.name, slot.arity)) =
      (ops.filterMap Operation.key?).eraseDups ∧
    ((after ops).variables.map (·.name)).Nodup ∧
    ((after ops).functions.map fun slot => (slot.name, slot.arity)).Nodup ∧
    ((answer ops op).slot? = none ↔ op.defines = false ∧
      ∀ earlier ∈ ops, earlier.defines = true → earlier.symbol ≠ op.symbol) ∧
    (∀ slot, (answer ops op).slot? = some slot → slot.symbol = op.symbol ∧
      ∀ between later,
        (later.symbol = op.symbol → (answer (ops ++ op :: between) later).slot? = some slot) ∧
        (later.symbol ≠ op.symbol → ∀ other,
          (answer (ops ++ op :: between) later).slot? = some other → ¬slot.Same other)) ∧
    (∀ name, op = .defineVariable name → ∃ slot : VariableSlot,
      answer ops op = .node (.var slot) ∧ slot.name = name) ∧
    (∀ name arguments, op = .defineFunction name arguments → ∃ slot : FunctionSlot,
      answer ops op = .node (.call slot arguments) ∧ slot.name = name ∧
        slot.arity = arguments.length) ∧
    (op.defines = false → after (ops ++ [op]) = after ops) := by
  have lists := lists_after ops
  have tabulated := tabulated_after ops
  refine ⟨lists.names_eq, lists.keys_eq, tabulated.keyedVariables.keys,
    tabulated.keyedFunctions.keys, ?_, fun slot found => ?_, ?_, ?_, ?_⟩
  · rw [slot?_answer, find?_after_eq_none_iff]
    simp only [List.mem_append, List.mem_singleton]
    constructor
    · intro absent
      exact ⟨Bool.eq_false_iff.mpr fun defines => absent op (.inr rfl) defines rfl,
        fun earlier member => absent earlier (.inl member)⟩
    · rintro ⟨looksUp, absent⟩ earlier (member | rfl) defines
      · exact absent earlier member defines
      · rw [looksUp] at defines
        contradiction
  · rw [slot?_answer] at found
    refine ⟨(holds_of_find? found).2, fun between later => ?_⟩
    have stays := find?_after_append _ (between ++ [later]) found
    have last := slot?_answer (ops ++ op :: between) later
    simp only [List.append_assoc, List.cons_append] at stays last
    rw [last]
    refine ⟨fun same => same ▸ stays, fun different other otherFound same => ?_⟩
    exact different ((tabulated_after _).eq_of_same stays otherFound same).symm
  · rintro name rfl
    exact ⟨_, rfl, (defineVariable_adds (after ops) name).1⟩
  · rintro name arguments rfl
    exact ⟨_, rfl, (defineFunction_adds (after ops) name arguments.length).1,
      defineFunction_arity (after ops) name arguments.length⟩
  · intro looksUp
    rw [after_concat]
    cases op with
    | defineVariable | defineFunction => contradiction
    | lookupVariable | lookupFunction => rfl

/-- A variable and a function of one name, with operations on other symbols between them. -/
theorem answer_stable_of_namesakes :
    (answer [.defineVariable "f"] (.defineFunction "f" [.var ⟨0, "f"⟩])).slot? =
        some (.call ⟨0, "f", 1⟩) ∧
      (answer [.defineVariable "f", .defineFunction "f" [.var ⟨0, "f"⟩], .defineFunction "f" []]
        (.lookupFunction "f" 1)).slot? = some (.call ⟨0, "f", 1⟩) ∧
      ¬(Slot.call ⟨0, "f", 1⟩).Same (.call ⟨1, "f", 0⟩) := by
  obtain ⟨_, _, _, _, _, stable, _⟩ :=
    answer_stable [.defineVariable "f"] (.defineFunction "f" [.var ⟨0, "f"⟩])
  have slot : (answer [.defineVariable "f"] (.defineFunction "f" [.var ⟨0, "f"⟩])).slot? =
      some (.call ⟨0, "f", 1⟩) :=
    rfl
  obtain ⟨_, stays⟩ := stable _ slot
  refine ⟨slot, (stays [.defineFunction "f" []] (.lookupFunction "f" 1)).1 rfl, ?_⟩
  exact (stays [] (.defineFunction "f" [])).2 (by decide) _ rfl

end Context

end Formula
