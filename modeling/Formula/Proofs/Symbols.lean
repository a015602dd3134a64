import Formula.Expression.Session
import Mathlib.Data.List.Nodup

/-! Resolving a term gives its own tree back, with a slot in the place of every name, and a symbol
table that holds exactly these slots. In a table, slots are told apart by their numbers as well as
by their keys. -/
namespace Formula

namespace Tree

mutual

/-- The tree with other symbols. -/
def rename (onVariable : ν → ν') (onFunction : φ → φ') : Tree ν φ → Tree ν' φ'
  | literal value => literal value
  | negation operand => negation (operand.rename onVariable onFunction)
  | binary op left right =>
    binary op (left.rename onVariable onFunction) (right.rename onVariable onFunction)
  | var symbol => var (onVariable symbol)
  | call symbol arguments => call (onFunction symbol) (renameAll onVariable onFunction arguments)
  | foreign value => foreign value

def renameAll (onVariable : ν → ν') (onFunction : φ → φ') : List (Tree ν φ) → List (Tree ν' φ')
  | [] => []
  | tree :: trees => tree.rename onVariable onFunction :: renameAll onVariable onFunction trees

end

mutual

/-- The variables of a tree from left to right. -/
def variableSymbols : Tree ν φ → List ν
  | literal _ | foreign _ => []
  | negation operand => operand.variableSymbols
  | binary _ left right => left.variableSymbols ++ right.variableSymbols
  | var symbol => [symbol]
  | call _ arguments => variableSymbolsAll arguments

def variableSymbolsAll : List (Tree ν φ) → List ν
  | [] => []
  | tree :: trees => tree.variableSymbols ++ variableSymbolsAll trees

end

mutual

/-- The functions of a tree from left to right, each after those of its arguments. -/
def functionSymbols : Tree ν φ → List φ
  | literal _ | foreign _ | var _ => []
  | negation operand => operand.functionSymbols
  | binary _ left right => left.functionSymbols ++ right.functionSymbols
  | call symbol arguments => functionSymbolsAll arguments ++ [symbol]

def functionSymbolsAll : List (Tree ν φ) → List φ
  | [] => []
  | tree :: trees => tree.functionSymbols ++ functionSymbolsAll trees

end

mutual

/-- The call sites of a tree from left to right, each after those in its arguments, as functions
with their numbers of arguments. -/
def callSites : Tree ν φ → List (φ × Nat)
  | literal _ | foreign _ | var _ => []
  | negation operand => operand.callSites
  | binary _ left right => left.callSites ++ right.callSites
  | call symbol arguments => callSitesAll arguments ++ [(symbol, arguments.length)]

def callSitesAll : List (Tree ν φ) → List (φ × Nat)
  | [] => []
  | tree :: trees => tree.callSites ++ callSitesAll trees

end

mutual

theorem functionSymbols_eq_map_callSites : (tree : Tree ν φ) →
    tree.functionSymbols = tree.callSites.map (·.1)
  | literal _ | foreign _ | var _ => rfl
  | negation operand => functionSymbols_eq_map_callSites operand
  | binary _ left right => by
    rw [functionSymbols, callSites, List.map_append, functionSymbols_eq_map_callSites left,
      functionSymbols_eq_map_callSites right]
  | call symbol arguments => by
    rw [functionSymbols, callSites, List.map_append, functionSymbolsAll_eq_map_callSites arguments]
    rfl

theorem functionSymbolsAll_eq_map_callSites : (trees : List (Tree ν φ)) →
    functionSymbolsAll trees = (callSitesAll trees).map (·.1)
  | [] => rfl
  | tree :: trees => by
    rw [functionSymbolsAll, callSitesAll, List.map_append, functionSymbols_eq_map_callSites tree,
      functionSymbolsAll_eq_map_callSites trees]

end

end Tree

/-- The term of a node: every slot is replaced by the name of its symbol. -/
def Node.term (node : Node) : Term :=
  node.rename (·.name) (·.name)

namespace Node

theorem term_eq_literal {node : Node} (same : node.term = .literal value) :
    node = .literal value := by
  cases node <;> simp_all [term, Tree.rename]

theorem term_eq_var {node : Node} (same : node.term = .var name) :
    ∃ slot, node = .var slot ∧ slot.name = name := by
  cases node <;> simp_all [term, Tree.rename]

theorem term_eq_negation {node : Node} {inner : Term} (same : node.term = .negation inner) :
    ∃ operand : Node, node = .negation operand ∧ operand.term = inner := by
  cases node <;> simp_all [term, Tree.rename]

theorem term_eq_binary {node : Node} (same : node.term = .binary op first second) :
    ∃ left right : Node,
      node = .binary op left right ∧ left.term = first ∧ right.term = second := by
  cases node <;> simp_all [term, Tree.rename]

theorem term_eq_call {node : Node} {inner : List Term} (same : node.term = .call name inner) :
    ∃ slot arguments, node = .call slot arguments := by
  cases node <;> simp_all [term, Tree.rename]

end Node

/-! ### Tables -/

/-- Slots are numbered by their places, and no two have the same key. -/
structure Keyed (number : α → Nat) (key : α → β) (slots : List α) : Prop where
  numbers : slots.map number = List.range slots.length
  keys : (slots.map key).Nodup

section
variable {number : α → Nat} {key : α → β} {slots : List α}

theorem Keyed.snoc (keyed : Keyed number key slots) (next : number slot = slots.length)
    (fresh : ∀ other ∈ slots, key other ≠ key slot) : Keyed number key (slots ++ [slot]) := by
  constructor
  · simp [keyed.numbers, next, List.range_succ]
  · simpa [List.nodup_append] using ⟨keyed.keys, fresh⟩

theorem Keyed.eq_of_number (keyed : Keyed number key slots) (left : a ∈ slots) (right : b ∈ slots)
    (same : number a = number b) : a = b :=
  List.inj_on_of_nodup_map (keyed.numbers ▸ List.nodup_range) left right same

theorem Keyed.eq_of_key (keyed : Keyed number key slots) (left : a ∈ slots) (right : b ∈ slots)
    (same : key a = key b) : a = b :=
  List.inj_on_of_nodup_map keyed.keys left right same

end

namespace Context

/-- Both tables are keyed: variables by name, functions by name and number of arguments. -/
structure Tabulated (context : Context) : Prop where
  keyedVariables : Keyed (·.id) (·.name) context.variables
  keyedFunctions : Keyed (·.id) (fun slot => (slot.name, slot.arity)) context.functions

theorem tabulated_empty : empty.Tabulated :=
  ⟨⟨rfl, List.nodup_nil⟩, ⟨rfl, List.nodup_nil⟩⟩

/-- The second table has the slots of the first and these, and stays a table. -/
structure Adds (context : Context) (names : List VariableSlot) (calls : List FunctionSlot)
    (later : Context) : Prop where
  mem_variables : ∀ slot, slot ∈ later.variables ↔ slot ∈ context.variables ∨ slot ∈ names
  mem_functions : ∀ slot, slot ∈ later.functions ↔ slot ∈ context.functions ∨ slot ∈ calls
  tabulated : context.Tabulated → later.Tabulated

theorem Adds.refl (context : Context) : Adds context [] [] context :=
  ⟨by simp, by simp, id⟩

theorem Adds.trans (first : Adds context names calls middle)
    (second : Adds middle otherNames otherCalls later) :
    Adds context (names ++ otherNames) (calls ++ otherCalls) later :=
  ⟨by simp [first.mem_variables, second.mem_variables, or_assoc],
    by simp [first.mem_functions, second.mem_functions, or_assoc],
    fun tabulated => second.tabulated (first.tabulated tabulated)⟩

theorem lookupVariable_some {context : Context} (found : context.lookupVariable name = some slot) :
    slot ∈ context.variables ∧ slot.name = name :=
  ⟨List.mem_of_find?_eq_some found, by simpa using List.find?_some found⟩

theorem lookupFunction_some {context : Context}
    (found : context.lookupFunction name arity = some slot) :
    slot ∈ context.functions ∧ slot.name = name ∧ slot.arity = arity :=
  ⟨List.mem_of_find?_eq_some found, by simpa using List.find?_some found⟩

theorem defineVariable_adds (context : Context) (name : String) :
    (context.defineVariable name).1.name = name ∧
      Adds context [(context.defineVariable name).1] [] (context.defineVariable name).2 := by
  unfold defineVariable
  split
  · next slot found =>
    obtain ⟨member, named⟩ := lookupVariable_some found
    refine ⟨named, ?_, by simp, id⟩
    intro other
    simp only [List.mem_singleton, iff_self_or]
    rintro rfl
    exact member
  · next missing =>
    refine ⟨rfl, by simp, by simp, fun tabulated => ⟨tabulated.keyedVariables.snoc rfl ?_,
      tabulated.keyedFunctions⟩⟩
    intro other member
    simpa using List.find?_eq_none.mp missing other member

theorem defineFunction_adds (context : Context) (name : String) (arity : Nat) :
    (context.defineFunction name arity).1.name = name ∧
      Adds context [] [(context.defineFunction name arity).1]
        (context.defineFunction name arity).2 := by
  unfold defineFunction
  split
  · next slot found =>
    obtain ⟨member, named, _⟩ := lookupFunction_some found
    refine ⟨named, by simp, ?_, id⟩
    intro other
    simp only [List.mem_singleton, iff_self_or]
    rintro rfl
    exact member
  · next missing =>
    refine ⟨rfl, by simp, by simp, fun tabulated => ⟨tabulated.keyedVariables,
      tabulated.keyedFunctions.snoc rfl ?_⟩⟩
    intro other member
    simpa using List.find?_eq_none.mp missing other member

mutual

/-- Resolving keeps the term and adds its symbols. -/
theorem resolve_adds (context : Context) : (term : Term) →
    (context.resolve term).1.term = term ∧
      Adds context (context.resolve term).1.variableSymbols (context.resolve term).1.functionSymbols
        (context.resolve term).2
  | .literal value => ⟨rfl, .refl context⟩
  | .foreign value => ⟨rfl, .refl context⟩
  | .negation operand => by
    obtain ⟨same, adds⟩ := resolve_adds context operand
    exact ⟨congrArg Tree.negation same, adds⟩
  | .binary op left right => by
    obtain ⟨sameLeft, first⟩ := resolve_adds context left
    obtain ⟨sameRight, second⟩ := resolve_adds (context.resolve left).2 right
    refine ⟨?_, first.trans second⟩
    exact (congrArg (Tree.binary op · _) sameLeft).trans (congrArg (Tree.binary op left) sameRight)
  | .var name => by
    obtain ⟨same, adds⟩ := defineVariable_adds context name
    exact ⟨congrArg Tree.var same, adds⟩
  | .call name arguments => by
    obtain ⟨sameArguments, first⟩ := resolveAll_adds context arguments
    obtain ⟨same, second⟩ := defineFunction_adds (context.resolveAll arguments).2 name
      (context.resolveAll arguments).1.length
    have both := first.trans second
    rw [List.append_nil] at both
    refine ⟨?_, both⟩
    exact (congrArg (Tree.call · _) same).trans (congrArg (Tree.call name) sameArguments)

theorem resolveAll_adds (context : Context) : (terms : List Term) →
    Tree.renameAll (·.name) (·.name) (context.resolveAll terms).1 = terms ∧
      Adds context (Tree.variableSymbolsAll (context.resolveAll terms).1)
        (Tree.functionSymbolsAll (context.resolveAll terms).1) (context.resolveAll terms).2
  | [] => ⟨rfl, .refl context⟩
  | term :: terms => by
    obtain ⟨same, first⟩ := resolve_adds context term
    obtain ⟨sameOthers, second⟩ := resolveAll_adds (context.resolve term).2 terms
    refine ⟨?_, first.trans second⟩
    exact (congrArg (List.cons · _) same).trans (congrArg (List.cons term) sameOthers)

end

/-! ### Order and arguments -/

/-- The tables list these names and these functions with their numbers of arguments, each where it
first occurs. -/
structure Lists (context : Context) (names : List String) (keys : List (String × Nat)) : Prop where
  names_eq : context.variables.map (·.name) = names.eraseDups
  keys_eq : context.functions.map (fun slot => (slot.name, slot.arity)) = keys.eraseDups

theorem lists_empty : empty.Lists [] [] :=
  ⟨rfl, rfl⟩

theorem eraseDups_snoc_of_mem [BEq α] [LawfulBEq α] {a : α} {as : List α} (present : a ∈ as) :
    (as ++ [a]).eraseDups = as.eraseDups := by
  simp [List.eraseDups_append, List.removeAll, present]

theorem eraseDups_snoc_of_not_mem [BEq α] [LawfulBEq α] {a : α} {as : List α} (absent : a ∉ as) :
    (as ++ [a]).eraseDups = as.eraseDups ++ [a] := by
  simp [List.eraseDups_append, List.removeAll, absent, List.eraseDups_cons]

theorem Lists.mem_names {context : Context} (lists : context.Lists names keys) :
    name ∈ names ↔ ∃ slot ∈ context.variables, slot.name = name := by
  rw [← List.mem_eraseDups, ← lists.names_eq, List.mem_map]

theorem Lists.mem_keys {context : Context} (lists : context.Lists names keys) :
    (name, arity) ∈ keys ↔ ∃ slot ∈ context.functions, slot.name = name ∧ slot.arity = arity := by
  rw [← List.mem_eraseDups, ← lists.keys_eq, List.mem_map]
  simp only [Prod.mk.injEq]

theorem Lists.defineVariable {context : Context} (lists : context.Lists names keys)
    (name : String) : (context.defineVariable name).2.Lists (names ++ [name]) keys := by
  unfold Context.defineVariable
  split
  · next slot found =>
    have present : name ∈ names := lists.mem_names.mpr ⟨slot, lookupVariable_some found⟩
    exact ⟨by rw [eraseDups_snoc_of_mem present, lists.names_eq], lists.keys_eq⟩
  · next missing =>
    have absent : name ∉ names := by
      intro present
      obtain ⟨slot, member, named⟩ := lists.mem_names.mp present
      exact List.find?_eq_none.mp missing slot member (by simp [named])
    refine ⟨?_, lists.keys_eq⟩
    rw [eraseDups_snoc_of_not_mem absent, List.map_append, lists.names_eq]
    rfl

theorem Lists.defineFunction {context : Context} (lists : context.Lists names keys)
    (name : String) (arity : Nat) :
    (context.defineFunction name arity).2.Lists names (keys ++ [(name, arity)]) := by
  unfold Context.defineFunction
  split
  · next slot found =>
    have present : (name, arity) ∈ keys := lists.mem_keys.mpr ⟨slot, lookupFunction_some found⟩
    exact ⟨lists.names_eq, by rw [eraseDups_snoc_of_mem present, lists.keys_eq]⟩
  · next missing =>
    have absent : (name, arity) ∉ keys := by
      intro present
      obtain ⟨slot, member, named, counted⟩ := lists.mem_keys.mp present
      exact List.find?_eq_none.mp missing slot member (by simp [named, counted])
    refine ⟨lists.names_eq, ?_⟩
    rw [eraseDups_snoc_of_not_mem absent, List.map_append, lists.keys_eq]
    rfl

theorem length_resolveAll (context : Context) (terms : List Term) :
    (context.resolveAll terms).1.length = terms.length := by
  induction terms generalizing context with
  | nil => rfl
  | cons term terms ih => exact congrArg (· + 1) (ih _)

mutual

/-- Resolving lists the symbols of the term after those before. -/
theorem Lists.resolve {context : Context} (lists : context.Lists names keys) : (term : Term) →
    (context.resolve term).2.Lists (names ++ term.variableSymbols) (keys ++ term.callSites)
  | .literal _ | .foreign _ => by
    rw [Tree.variableSymbols, Tree.callSites, List.append_nil, List.append_nil]
    exact lists
  | .negation operand => lists.resolve operand
  | .binary _ left right => by
    have both := (lists.resolve left).resolve right
    rw [List.append_assoc, List.append_assoc] at both
    exact both
  | .var name => by
    rw [Tree.variableSymbols, Tree.callSites, List.append_nil]
    exact lists.defineVariable name
  | .call name arguments => by
    have called := (lists.resolveAll arguments).defineFunction name arguments.length
    rw [List.append_assoc] at called
    change ((context.resolveAll arguments).2.defineFunction name
      (context.resolveAll arguments).1.length).2.Lists _ _
    rw [length_resolveAll]
    exact called

theorem Lists.resolveAll {context : Context} (lists : context.Lists names keys) :
    (terms : List Term) → (context.resolveAll terms).2.Lists
      (names ++ Tree.variableSymbolsAll terms) (keys ++ Tree.callSitesAll terms)
  | [] => by
    rw [Tree.variableSymbolsAll, Tree.callSitesAll, List.append_nil, List.append_nil]
    exact lists
  | term :: terms => by
    have both := (lists.resolve term).resolveAll terms
    rw [List.append_assoc, List.append_assoc] at both
    exact both

end

theorem defineFunction_arity (context : Context) (name : String) (arity : Nat) :
    (context.defineFunction name arity).1.arity = arity := by
  unfold defineFunction
  split
  · next slot found => exact (lookupFunction_some found).2.2
  · rfl

mutual

/-- Every call has as many arguments as its slot. -/
theorem arity_of_mem_callSites (context : Context) : (term : Term) →
    ∀ call ∈ (context.resolve term).1.callSites, call.1.arity = call.2
  | .literal _ | .foreign _ | .var _ => fun _ absent => absurd absent List.not_mem_nil
  | .negation operand => arity_of_mem_callSites context operand
  | .binary _ left right =>
    List.forall_mem_append.mpr ⟨arity_of_mem_callSites context left,
      arity_of_mem_callSites (context.resolve left).2 right⟩
  | .call name arguments =>
    List.forall_mem_append.mpr ⟨arity_of_mem_callSitesAll context arguments,
      List.forall_mem_singleton.mpr (defineFunction_arity _ name _)⟩

theorem arity_of_mem_callSitesAll (context : Context) : (terms : List Term) →
    ∀ call ∈ Tree.callSitesAll (context.resolveAll terms).1, call.1.arity = call.2
  | [] => fun _ absent => absurd absent List.not_mem_nil
  | term :: terms =>
    List.forall_mem_append.mpr ⟨arity_of_mem_callSites context term,
      arity_of_mem_callSitesAll (context.resolve term).2 terms⟩

end

end Context

theorem compile_eq_ok_iff :
    Compiled.compile kind source name = .ok compiled ↔ ∃ term,
      Term.read kind.read? source = .ok term ∧
      compiled = ⟨source, (Context.empty.resolve term).1, (Context.empty.resolve term).2⟩ := by
  unfold Compiled.compile
  cases Term.read kind.read? source with
  | error refusal => simp
  | ok term => simp [eq_comm]

/-- The symbol table of a compiled expression has the symbols of its tree, in which every call has
as many arguments as its slot. -/
structure Compiled.Tabulated (compiled : Compiled) : Prop where
  tabulated : compiled.context.Tabulated
  mem_variables : ∀ slot,
    slot ∈ compiled.context.variables ↔ slot ∈ compiled.root.variableSymbols
  mem_functions : ∀ slot,
    slot ∈ compiled.context.functions ↔ slot ∈ compiled.root.functionSymbols
  arities : ∀ call ∈ compiled.root.callSites, call.1.arity = call.2

theorem tabulated_of_compile (success : Compiled.compile kind source name = .ok compiled) :
    compiled.Tabulated := by
  obtain ⟨term, _, rfl⟩ := compile_eq_ok_iff.mp success
  obtain ⟨_, adds⟩ := Context.resolve_adds .empty term
  have noVariable : ∀ slot, slot ∉ Context.empty.variables := fun _ => List.not_mem_nil
  have noFunction : ∀ slot, slot ∉ Context.empty.functions := fun _ => List.not_mem_nil
  refine ⟨adds.tabulated Context.tabulated_empty, ?_, ?_,
    Context.arity_of_mem_callSites .empty term⟩
  · intro slot
    rw [adds.mem_variables, or_iff_right (noVariable slot)]
  · intro slot
    rw [adds.mem_functions, or_iff_right (noFunction slot)]

/-- The tables of a compiled expression list the symbols of its tree. -/
theorem lists_of_compile (success : Compiled.compile kind source name = .ok compiled) :
    compiled.context.Lists compiled.root.term.variableSymbols compiled.root.term.callSites := by
  obtain ⟨term, _, rfl⟩ := compile_eq_ok_iff.mp success
  have same := (Context.resolve_adds .empty term).1
  simpa only [same, List.nil_append] using Context.lists_empty.resolve term

end Formula
