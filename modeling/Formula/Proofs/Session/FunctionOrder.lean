import Formula.Proofs.Grammar.Calls
import Formula.Proofs.Session.SymbolTable
import Mathlib.Data.List.Induction

/-! The order in which functions are listed. A function gets its slot at the closing parenthesis of
its first call, so functions are listed in the order in which the first call of each ends. This is
the order in which the first calls begin if no call stands inside a call of another function. -/
namespace Formula

namespace Grammar

/-- Some call of the first function has a lesser place than all calls of the second. -/
def ComesFirst (place : Call → Nat) (calls : List Call) (key other : String × Nat) : Prop :=
  ∃ a ∈ calls, a.key = key ∧ ∀ b ∈ calls, b.key = other → place a < place b

/-- No call stands inside a call of another function. -/
def Apart (calls : List Call) : Prop :=
  ∀ a ∈ calls, ∀ b ∈ calls, b.begins < a.begins → a.ends < b.ends → a.key = b.key

/-- Keys without repetitions are in the order of the first entries with these keys. -/
theorem pairwise_eraseDups_map [BEq β] [LawfulBEq β] {R : α → α → Prop} {key : α → β}
    {entries : List α} (ordered : entries.Pairwise R) :
    (entries.map key).eraseDups.Pairwise fun k other =>
      ∃ a ∈ entries, key a = k ∧ ∀ b ∈ entries, key b = other → R a b := by
  induction entries using List.reverseRecOn with
  | nil => exact .nil
  | append_singleton entries last ih =>
    obtain ⟨ordered, _, before⟩ := List.pairwise_append.mp ordered
    have precedes {a : α} (member : a ∈ entries) : R a last :=
      before a member last (List.mem_singleton.mpr rfl)
    -- Among keys listed before, the last entry comes after all that counted as first so far.
    have extended := (ih ordered).imp fun {k other} ⟨a, member, keyed, first⟩ =>
      show ∃ a ∈ entries ++ [last], key a = k ∧ ∀ b ∈ entries ++ [last], key b = other → R a b from
      ⟨a, List.mem_append_left _ member, keyed, fun b occurs same => by
        rcases List.mem_append.mp occurs with earlier | isLast
        · exact first b earlier same
        · rw [List.mem_singleton.mp isLast]
          exact precedes member⟩
    rw [List.map_append, List.map_singleton]
    by_cases repeated : key last ∈ entries.map key
    · rw [Context.eraseDups_snoc_of_mem repeated]
      exact extended
    · rw [Context.eraseDups_snoc_of_not_mem repeated]
      refine List.pairwise_append.mpr ⟨extended, List.pairwise_singleton _ _, ?_⟩
      intro k listed other isLast
      obtain ⟨a, member, keyed⟩ := List.mem_map.mp (List.mem_eraseDups.mp listed)
      refine ⟨a, List.mem_append_left _ member, keyed, fun b occurs same => ?_⟩
      rcases List.mem_append.mp occurs with earlier | isLast'
      · rw [List.mem_singleton.mp isLast] at same
        exact absurd (same ▸ List.mem_map_of_mem earlier) repeated
      · rw [List.mem_singleton.mp isLast']
        exact precedes member

end Grammar

open Grammar

/-- What the slot of a function is for. -/
def FunctionSlot.key (slot : FunctionSlot) : String × Nat :=
  (slot.name, slot.arity)

/-- The functions that a compiled expression lists. -/
def Compiled.functionKeys (compiled : Compiled) : List (String × Nat) :=
  compiled.context.functions.map FunctionSlot.key

section
variable {compiled : Compiled} {d : Derivation}

theorem functionKeys_eq (success : Compiled.compile kind source name = .ok compiled)
    (text : d.text = source.toList) :
    compiled.root.term.callSites = d.calls.map Call.key ∧
      compiled.functionKeys = (d.calls.map Call.key).eraseDups := by
  have sites := Derivation.callSites_eq (term?_of_compile success text)
  rw [← sites]
  exact ⟨rfl, (lists_of_compile success).keys_eq⟩

/-- No function has more arguments than the source has characters. -/
theorem arity_le_length (success : Compiled.compile kind source name = .ok compiled) :
    ∀ slot ∈ compiled.context.functions, slot.arity ≤ source.length := by
  intro slot member
  obtain ⟨d, text, _⟩ := exists_derivation (root_term success)
  obtain ⟨_, listed⟩ := functionKeys_eq success text
  have keyed : slot.key ∈ compiled.functionKeys := List.mem_map_of_mem member
  rw [listed, List.mem_eraseDups] at keyed
  obtain ⟨call, occurs, same⟩ := List.mem_map.mp keyed
  have bound := d.sum.arity_le 1 call occurs
  have length := congrArg List.length text
  rw [Derivation.text, List.length_append, String.length_toList] at length
  have arity : call.arity = slot.arity := congrArg Prod.snd same
  unfold width at bound
  omega

theorem pairwise_precedes (listed : compiled.functionKeys = (d.calls.map Call.key).eraseDups) :
    compiled.functionKeys.Pairwise fun key other =>
      ∃ a ∈ d.calls, a.key = key ∧ ∀ b ∈ d.calls, b.key = other → a.Precedes b := by
  rw [listed]
  exact pairwise_eraseDups_map d.placed.ordered

/-- Functions are listed in the order in which their first calls end. -/
theorem pairwise_ends (listed : compiled.functionKeys = (d.calls.map Call.key).eraseDups) :
    compiled.functionKeys.Pairwise (ComesFirst Call.ends d.calls) :=
  (pairwise_precedes listed).imp fun ⟨a, member, keyed, first⟩ =>
    ⟨a, member, keyed, fun b occurs same => (first b occurs same).1⟩

theorem pairwise_begins (listed : compiled.functionKeys = (d.calls.map Call.key).eraseDups)
    (different : compiled.functionKeys.Nodup) (apart : Apart d.calls) :
    compiled.functionKeys.Pairwise (ComesFirst Call.begins d.calls) := by
  refine ((pairwise_precedes listed).and different).imp ?_
  rintro key other ⟨⟨a, member, rfl, first⟩, differ⟩
  refine ⟨a, member, rfl, fun b occurs same => ?_⟩
  obtain ⟨ends, before | inside⟩ := first b occurs same
  · have bounds := d.placed.bounds a member
    omega
  · exact absurd ((apart a member b occurs inside ends).trans same) differ

/-- Of the unbound functions, the one listed first is named. -/
theorem validate_first {s : Session κ σ} {R : String × Nat → String × Nat → Prop}
    (ordered : (s.context.functions.map FunctionSlot.key).Pairwise R)
    (unchecked : s.validated = false)
    (bound : ∀ slot ∈ s.context.variables, (s.values slot.id).isSome = true)
    (member : unbound ∈ s.context.functions) (missing : s.callbacks unbound.id = none) :
    ∃ slot ∈ s.context.functions, s.callbacks slot.id = none ∧
      s.validate = .error (.expression (.uninitializedFunction slot.name slot.arity)) ∧
      ∀ other ∈ s.context.functions, s.callbacks other.id = none → other ≠ slot →
        R slot.key other.key := by
  have noVariable : s.unboundVariable? = none := by
    refine List.find?_eq_none.mpr fun slot member => ?_
    simpa using Option.isSome_iff_ne_none.mp (bound slot member)
  cases found : s.unboundFunction? with
  | none => exact absurd (by rw [missing]; rfl) (List.find?_eq_none.mp found unbound member)
  | some slot =>
    obtain ⟨none_, before, after, functions, boundBefore⟩ := List.find?_eq_some_iff_append.mp found
    have failed :
        s.validate = .error (.expression (.uninitializedFunction slot.name slot.arity)) := by
      rw [Session.validate, unchecked, noVariable, found]
      rfl
    refine ⟨slot, by rw [functions]; simp, Option.isNone_iff_eq_none.mp none_, failed, ?_⟩
    intro other occurs absent different
    rw [functions, List.mem_append, List.mem_cons] at occurs
    rcases occurs with earlier | same | later
    · have present := boundBefore other earlier
      rw [absent] at present
      contradiction
    · exact absurd same different
    · rw [functions, List.map_append, List.map_cons] at ordered
      exact (List.pairwise_cons.mp (List.pairwise_append.mp ordered).2.1).1 _
        (List.mem_map_of_mem later)

/-- The functions of a compiled source are those called in its text, in the order in which the first
call of each ends. If no call stands inside a call of another function, this is the order in which
the first calls begin. With all variables bound, validating names the unbound function that comes
first in this order. -/
theorem compile_functionOrder (success : Compiled.compile kind source name = .ok compiled)
    (text : d.text = source.toList) :
    (∀ call ∈ d.calls, call.begins < call.ends ∧
      ⟨.name call.name.toList, call.begins⟩ ∈ Lexeme.scan 1 source.toList ∧
      ⟨.mark ')', call.ends⟩ ∈ Lexeme.scan 1 source.toList) ∧
    compiled.root.term.callSites = d.calls.map Call.key ∧
    compiled.functionKeys.Nodup ∧
    (∀ key, key ∈ compiled.functionKeys ↔ ∃ call ∈ d.calls, call.key = key) ∧
    compiled.functionKeys.Pairwise (ComesFirst Call.ends d.calls) ∧
    (Apart d.calls → compiled.functionKeys.Pairwise (ComesFirst Call.begins d.calls)) ∧
    ∀ (κ σ : Type) (s : Session κ σ), s.compiled = compiled → s.validated = false →
      (∀ slot ∈ s.context.variables, (s.values slot.id).isSome = true) →
      ∀ unbound ∈ s.context.functions, s.callbacks unbound.id = none →
        ∃ slot ∈ s.context.functions, s.callbacks slot.id = none ∧
          s.validate = .error (.expression (.uninitializedFunction slot.name slot.arity)) ∧
          ∀ other ∈ s.context.functions, s.callbacks other.id = none → other ≠ slot →
            ComesFirst Call.ends d.calls slot.key other.key ∧
            (Apart d.calls → ComesFirst Call.begins d.calls slot.key other.key) := by
  obtain ⟨sites, listed⟩ := functionKeys_eq success text
  have different : compiled.functionKeys.Nodup :=
    (tabulated_of_compile success).tabulated.keyedFunctions.keys
  have ends := pairwise_ends listed
  have begins := pairwise_begins listed different
  refine ⟨?_, sites, different, ?_, ends, begins, ?_⟩
  · intro call member
    have scanned := d.scan_text 1
    rw [text] at scanned
    rw [scanned]
    exact ⟨(d.placed.bounds call member).2.1, d.placed.located call member⟩
  · intro key
    rw [listed, List.mem_eraseDups, List.mem_map]
  · rintro κ σ s rfl unchecked bound unbound member missing
    have ordered : (s.context.functions.map FunctionSlot.key).Pairwise fun key other =>
        ComesFirst Call.ends d.calls key other ∧
          (Apart d.calls → ComesFirst Call.begins d.calls key other) := by
      by_cases apart : Apart d.calls
      · exact (ends.and (begins apart)).imp fun both => ⟨both.1, fun _ => both.2⟩
      · exact ends.imp fun first => ⟨first, fun holds => absurd holds apart⟩
    exact validate_first ordered unchecked bound member missing

end

/-! ### Sources -/

namespace Grammar

theorem alphanum_of_mem_nil : ∀ c ∈ [], Char.isAlphanum c = true :=
  List.forall_mem_nil _

/-- The call of a function with a name of one letter, without white space. -/
def Phrase.callOf (letter : Char) (alpha : letter.isAlpha = true)
    (arguments : Phrase .arguments) : Phrase .product :=
  let name : Name := ⟨letter, [], alpha, alphanum_of_mem_nil⟩
  .product (.call .nothing name .nothing arguments .nothing) .noFactor

/-- The derivation of `f()+g()`. -/
def Derivation.consecutiveCalls : Derivation :=
  ⟨.sum (.callOf 'f' rfl .noArgument)
    (.addend .nothing .add (.inl rfl) (.callOf 'g' rfl .noArgument) .noAddend), .nothing⟩

/-- The derivation of `f(g())`. -/
def Derivation.nestedCalls : Derivation :=
  ⟨.sum (.callOf 'f' rfl
    (.someArguments (.sum (.callOf 'g' rfl .noArgument) .noAddend) .noFurther)) .noAddend, .nothing⟩

end Grammar

/-- What `f()+g()` is compiled to. -/
def Compiled.consecutiveCalls : Compiled :=
  ⟨"f()+g()", .binary .add (.call ⟨0, "f", 0⟩ []) (.call ⟨1, "g", 0⟩ []),
    ⟨[], [⟨0, "f", 0⟩, ⟨1, "g", 0⟩]⟩⟩

/-- What `f(g())` is compiled to. -/
def Compiled.nestedCalls : Compiled :=
  ⟨"f(g())", .call ⟨1, "f", 1⟩ [.call ⟨0, "g", 0⟩ []], ⟨[], [⟨0, "g", 0⟩, ⟨1, "f", 1⟩]⟩⟩

theorem compile_functionOrder_of_consecutiveCalls :
    Compiled.compile .int "f()+g()" "<expr>" = .ok .consecutiveCalls ∧
      Derivation.consecutiveCalls.text = "f()+g()".toList ∧
      Compiled.consecutiveCalls.functionKeys.Pairwise
        (ComesFirst Call.begins Derivation.consecutiveCalls.calls) := by
  have success : Compiled.compile .int "f()+g()" "<expr>" = .ok .consecutiveCalls :=
    compile_of_term? (d := .consecutiveCalls) rfl rfl "<expr>"
  have text : Derivation.consecutiveCalls.text = "f()+g()".toList := rfl
  have calls : Derivation.consecutiveCalls.calls = [⟨"f", 0, 1, 3⟩, ⟨"g", 0, 5, 7⟩] := rfl
  have apart : Apart Derivation.consecutiveCalls.calls := by
    rw [calls]
    unfold Apart
    decide
  obtain ⟨_, _, _, _, _, begins, _⟩ := compile_functionOrder success text
  exact ⟨success, text, begins apart⟩

/-- The function whose call begins later is listed first, because its call ends first, and it is the
one that validating names. -/
theorem functionKeys_of_nestedCalls :
    Compiled.compile .int "f(g())" "<expr>" = .ok .nestedCalls ∧
      (∀ d : Derivation, d.text = "f(g())".toList →
        ¬Compiled.nestedCalls.functionKeys.Pairwise (ComesFirst Call.begins d.calls)) ∧
      ∀ (κ σ : Type) (policy : DivisionPolicy) (state : σ),
        (Session.start .nestedCalls policy state : Session κ σ).validate =
          .error (.expression (.uninitializedFunction "g" 0)) := by
  have text : Derivation.nestedCalls.text = "f(g())".toList := rfl
  refine ⟨compile_of_term? (d := .nestedCalls) rfl rfl "<expr>", ?_, fun _ _ _ _ => rfl⟩
  intro d same ordered
  obtain rfl : d = .nestedCalls := Derivation.unique (same.trans text.symm)
  have calls : Derivation.nestedCalls.calls = [⟨"g", 0, 3, 5⟩, ⟨"f", 1, 1, 6⟩] := rfl
  rw [calls] at ordered
  obtain ⟨a, member, keyed, first⟩ := (List.pairwise_cons.mp ordered).1 ("f", 1) (by decide)
  have begins := first ⟨"f", 1, 1, 6⟩ (by decide) rfl
  rcases List.mem_cons.mp member with rfl | other
  · exact absurd begins (by decide)
  · obtain rfl := List.mem_singleton.mp other
    exact absurd keyed (by decide)

end Formula
