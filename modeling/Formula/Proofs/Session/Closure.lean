import Formula.Callback.Script
import Formula.Proofs.Callback.Mathematics
import Formula.Proofs.Session.Outline
import Formula.Proofs.Value.Closure

/-! Evaluation with callbacks that leave the session alone. What operators and callbacks keep of
values, and what is known of the faults that they raise, holds of a whole evaluation. -/
namespace Formula

/-- The symbols of a tree are bound, to values with a property and to callbacks that keep it and
leave the session as it is. -/
structure Session.Provides (host : Host κ σ) (root : Node) (V : Value → Prop) (P : Fault → Prop)
    (s : Session κ σ) : Prop where
  value : slot ∈ root.variableSymbols → ∃ v, s.values slot.id = some v ∧ V v
  callback : slot ∈ root.functionSymbols → ∃ callback, s.callbacks slot.id = some callback ∧
    ∀ values, (∀ v ∈ values, V v) →
      ∃ outcome, (host.call callback values).run s = (outcome, s) ∧ Comes V P outcome

/-- A computation leaves the session as it is, and comes to something with the properties. -/
def Stays (V : α → Prop) (P : Fault → Prop) (s : Session κ σ) (outcome : Outcome κ σ α) : Prop :=
  outcome.2 = s ∧ Comes V P outcome.1

section
variable {V : α → Prop} {W : β → Prop} {P : Fault → Prop} {s : Session κ σ}

theorem stays_andThen {outcome : Outcome κ σ α} {next : α → Session κ σ → Outcome κ σ β}
    (first : Stays V P s outcome) (second : ∀ a, V a → Stays W P s (next a s)) :
    Stays W P s (andThen outcome next) := by
  obtain ⟨outcome, t⟩ := outcome
  obtain ⟨rfl, comes⟩ := first
  cases outcome with
  | ok a => exact second a comes
  | error fault => exact ⟨rfl, comes⟩

end

section
variable {host : Host κ σ} {policy : DivisionPolicy} {root : Node} {V : Value → Prop}
  {P : Fault → Prop} {s : Session κ σ}

mutual

/-- What operators and callbacks keep, evaluating keeps. -/
theorem stays_evaluate (closed : ClosedUnder policy V P) (provides : s.Provides host root V P)
    (own : ∀ v : Value, v.kind? = some kind → V v) : (node : Node) → node.term.Written kind →
      node.variableSymbols ⊆ root.variableSymbols → node.functionSymbols ⊆ root.functionSymbols →
      Stays V P s ((Node.evaluate host policy node).run s)
  | .literal value, written, _, _ => by
    obtain ⟨number, _⟩ := written
    exact ⟨rfl, own value number⟩
  | .negation operand, written, names, calls => by
    have below := Node.children_written written operand (List.mem_singleton.mpr rfl)
    rw [Node.evaluate_negation]
    apply stays_andThen (stays_evaluate closed provides own operand below names calls)
    intro value kept
    exact ⟨rfl, closed.negate kept⟩
  | .binary op left right, written, names, calls => by
    have below := Node.children_written written
    obtain ⟨namesLeft, namesRight⟩ := List.append_subset.mp names
    obtain ⟨callsLeft, callsRight⟩ := List.append_subset.mp calls
    have first := stays_evaluate closed provides own left (below left (by simp [Tree.children]))
      namesLeft callsLeft
    have second := stays_evaluate closed provides own right
      (below right (by simp [Tree.children])) namesRight callsRight
    rw [Node.evaluate_binary]
    apply stays_andThen first
    intro v keptLeft
    apply stays_andThen second
    intro w keptRight
    exact ⟨rfl, closed.combine keptLeft keptRight⟩
  | .var slot, _, names, _ => by
    obtain ⟨v, held, kept⟩ := provides.value (names (List.mem_singleton.mpr rfl))
    rw [Node.evaluate_var, Node.readValue, held]
    exact ⟨rfl, kept⟩
  | .call slot arguments, written, names, calls => by
    have below := Node.children_written written
    obtain ⟨callsArguments, callsSlot⟩ := List.append_subset.mp calls
    obtain ⟨callback, held, keeps⟩ := provides.callback (callsSlot (List.mem_singleton.mpr rfl))
    have bound : Node.checkCallback slot s = .ok () := by
      rw [Node.checkCallback, held]
      rfl
    rw [Node.evaluate_call, bound, andThen_ok]
    apply stays_andThen
      (stays_evaluateAll closed provides own arguments below names callsArguments)
    intro values kept
    obtain ⟨outcome, called, comes⟩ := keeps values kept
    rw [Node.callSlot, held]
    dsimp only
    rw [called]
    exact ⟨rfl, comes⟩
  | .foreign _, written, _, _ => by
    obtain ⟨absurd, _⟩ := written
    exact absurd.elim

theorem stays_evaluateAll (closed : ClosedUnder policy V P) (provides : s.Provides host root V P)
    (own : ∀ v : Value, v.kind? = some kind → V v) : (nodes : List Node) →
      (∀ node ∈ nodes, Term.Written kind (Node.term node)) →
      Tree.variableSymbolsAll nodes ⊆ root.variableSymbols →
      Tree.functionSymbolsAll nodes ⊆ root.functionSymbols →
      Stays (fun values => ∀ v ∈ values, V v) P s ((Node.evaluateAll host policy nodes).run s)
  | [], _, _, _ => ⟨rfl, List.forall_mem_nil _⟩
  | node :: nodes, written, names, calls => by
    obtain ⟨first, others⟩ := List.forall_mem_cons.mp written
    obtain ⟨namesFirst, namesOthers⟩ := List.append_subset.mp names
    obtain ⟨callsFirst, callsOthers⟩ := List.append_subset.mp calls
    rw [Node.evaluateAll_cons]
    apply stays_andThen
      (stays_evaluate closed provides own node first namesFirst callsFirst)
    intro value kept
    apply stays_andThen
      (stays_evaluateAll closed provides own nodes others namesOthers callsOthers)
    intro values keptAll
    exact ⟨rfl, List.forall_mem_cons.mpr ⟨kept, keptAll⟩⟩

end

end

/-! ### Primitives -/

/-- The callback is a primitive that fails as operations on values do. -/
def Callback.IsOperation (callback : Callback) : Prop :=
  ∃ primitive, callback.blueprint = .primitive primitive ∧ primitive.Operates

theorem call_primitive (shown : Callback → String) {callback : Callback}
    (made : callback.blueprint = .primitive primitive) (values : List Value)
    (s : Callback.Session) :
    ((Callback.host shown).call callback values).run s = (primitive.apply values, s) := by
  rw [Callback.host]
  dsimp only
  rw [Callback.call, made]
  rfl

theorem provides_primitives {s : Callback.Session} (shown : Callback → String) (bound : s.Bound)
    (values : ∀ n v, s.values n = some v → v.Unmapped)
    (primitives : ∀ n callback, s.callbacks n = some callback → callback.IsOperation) :
    s.Provides (Callback.host shown) s.root Value.Unmapped Fault.IsOfOperators where
  value member := by
    obtain ⟨v, held⟩ := Option.isSome_iff_exists.mp (bound.values _ member)
    exact ⟨v, held, values _ v held⟩
  callback member := by
    obtain ⟨callback, held⟩ := Option.isSome_iff_exists.mp (bound.callbacks _ member)
    refine ⟨callback, held, fun arguments unmapped => ?_⟩
    obtain ⟨primitive, made, operates⟩ := primitives _ callback held
    exact ⟨_, call_primitive shown made arguments s,
      (operates arguments unmapped).imp fun _ => .inr⟩

/-- Where no callback is bound, no symbol of a function can be. -/
theorem provides_values {s : Session κ σ} {V : Value → Prop} {P : Fault → Prop}
    (host : Host κ σ) (bound : s.Bound) (noCallback : ∀ n, s.callbacks n = none)
    (values : ∀ n v, s.values n = some v → V v) : s.Provides host s.root V P where
  value member := by
    obtain ⟨v, held⟩ := Option.isSome_iff_exists.mp (bound.values _ member)
    exact ⟨v, held, values _ v held⟩
  callback member := by
    have present := bound.callbacks _ member
    rw [noCallback] at present
    contradiction

end Formula
