import Formula.Proofs.Session.Binding
import Formula.Proofs.Value.Faults

/-! Evaluation from session to session. What evaluating does at each kind of node is stated once;
from it follow a rule for what all callbacks keep, and a rule for evaluations that go on side by
side. The second shows that recording the calls of an evaluation does not change it. -/
namespace Formula

/-- What a computation comes to, and the session it ends in. -/
abbrev Outcome (κ σ α : Type) := Except Fault α × Session κ σ

/-- Goes on after an outcome, unless it is a fault. -/
def andThen (outcome : Outcome κ σ α) (next : α → Session κ σ → Outcome κ σ β) :
    Outcome κ σ β :=
  match outcome with
  | (.ok a, t) => next a t
  | (.error fault, t) => (.error fault, t)

@[simp]
theorem andThen_ok (a : α) (t : Session κ σ) (next : α → Session κ σ → Outcome κ σ β) :
    andThen (.ok a, t) next = next a t :=
  rfl

theorem andThen_pure (outcome : Except Fault α) (t : Session κ σ) (next : α → Except Fault β) :
    andThen (outcome, t) (fun a u => (next a, u)) = (outcome >>= next, t) := by
  cases outcome <;> rfl

theorem andThen_eq_ok {outcome : Outcome κ σ α} {next : α → Session κ σ → Outcome κ σ β} :
    andThen outcome next = (.ok b, u) ↔
      ∃ a t, outcome = (.ok a, t) ∧ next a t = (.ok b, u) := by
  rcases outcome with ⟨_ | a, t⟩ <;> simp [andThen]

namespace Node
variable (host : Host κ σ) (policy : DivisionPolicy)

/-! ### Steps -/

theorem run_bind (run : Run κ σ α) (next : α → Run κ σ β) (s : Session κ σ) :
    (run >>= next).run s = andThen (run.run s) fun a t => (next a).run t := by
  change (fun outcome : Outcome κ σ α => ExceptT.bindCont next outcome.1 outcome.2) (run.run s) = _
  rcases run.run s with ⟨_ | _, t⟩ <;> rfl

theorem run_get (s : Session κ σ) : (get : Run κ σ (Session κ σ)).run s = (.ok s, s) :=
  rfl

theorem evaluate_negation (operand : Node) (s : Session κ σ) :
    (evaluate host policy (.negation operand)).run s =
      andThen ((evaluate host policy operand).run s) fun value t => (value.negate, t) := by
  rw [evaluate, run_bind]
  rfl

theorem evaluate_binary (op : BinaryOperator) (left right : Node) (s : Session κ σ) :
    (evaluate host policy (.binary op left right)).run s =
      andThen ((evaluate host policy left).run s) fun first t =>
        andThen ((evaluate host policy right).run t) fun second u =>
          (Value.combine policy op first second, u) := by
  rw [evaluate, run_bind]
  congr 1
  funext first t
  rw [run_bind]
  rfl

theorem evaluate_binary_of_ok {left right : Node} {s t u : Session κ σ} (op : BinaryOperator)
    (runLeft : (evaluate host policy left).run s = (.ok first, t))
    (runRight : (evaluate host policy right).run t = (.ok second, u)) :
    (evaluate host policy (.binary op left right)).run s =
      (Value.combine policy op first second, u) := by
  rw [evaluate_binary, runLeft, andThen_ok, runRight, andThen_ok]

/-- What a variable comes to. -/
def readValue (slot : VariableSlot) (s : Session κ σ) : Except Fault Value :=
  match s.values slot.id with
  | some value => .ok value
  | none => .error (.expression (.unboundVariable slot.name))

theorem evaluate_var (slot : VariableSlot) (s : Session κ σ) :
    (evaluate host policy (.var slot)).run s = (readValue slot s, s) := by
  rw [evaluate, run_bind, run_get, andThen_ok, readValue]
  cases s.values slot.id <;> rfl

/-- What the name of a function comes to before the arguments are evaluated. -/
def checkCallback (slot : FunctionSlot) (s : Session κ σ) : Except Fault Unit :=
  if (s.callbacks slot.id).isNone then
    .error (.expression (.unboundFunction slot.name slot.arity))
  else .ok ()

/-- Calls what is bound to a function. -/
def callSlot (slot : FunctionSlot) (values : List Value) (s : Session κ σ) : Outcome κ σ Value :=
  match s.callbacks slot.id with
  | some callback => (host.call callback values).run s
  | none => (.error (.mismatch (.notCallable "NoneType")), s)

theorem evaluate_call (slot : FunctionSlot) (arguments : List Node) (s : Session κ σ) :
    (evaluate host policy (.call slot arguments)).run s =
      andThen (checkCallback slot s, s) fun _ t =>
        andThen ((evaluateAll host policy arguments).run t) fun values u =>
          callSlot host slot values u := by
  rw [evaluate, run_bind, run_get, andThen_ok, checkCallback]
  split
  · rfl
  · change ExceptT.run (evaluateAll host policy arguments >>= _) s = _
    rw [run_bind, andThen_ok]
    congr 1
    funext values t
    rw [run_bind, run_get, andThen_ok, callSlot]
    cases t.callbacks slot.id <;> rfl

theorem evaluate_foreign (value : Value) (s : Session κ σ) :
    (evaluate host policy (.foreign value)).run s =
      andThen (withinDigits value.quoted?, s) fun quoted t =>
        (.error (.mismatch (.notEvaluable quoted)), t) := by
  rw [evaluate, run_bind]
  rfl

theorem evaluateAll_cons (node : Node) (nodes : List Node) (s : Session κ σ) :
    (evaluateAll host policy (node :: nodes)).run s =
      andThen ((evaluate host policy node).run s) fun value t =>
        andThen ((evaluateAll host policy nodes).run t) fun values u =>
          (.ok (value :: values), u) := by
  rw [evaluateAll, run_bind]
  congr 1
  funext value t
  rw [run_bind]
  rfl

/-- There are as many values as nodes. -/
theorem length_of_evaluateAll {nodes : List Node} {s t : Session κ σ}
    (success : (evaluateAll host policy nodes).run s = (.ok values, t)) :
    values.length = nodes.length := by
  induction nodes generalizing s values with
  | nil =>
    cases success
    rfl
  | cons node nodes ih =>
    rw [evaluateAll_cons] at success
    obtain ⟨_, _, _, success⟩ := andThen_eq_ok.mp success
    obtain ⟨others, _, evaluated, success⟩ := andThen_eq_ok.mp success
    cases success
    exact congrArg (· + 1) (ih evaluated)

end Node

/-! ### What callbacks keep -/

/-- The session of an outcome satisfies the invariant, and a fault comes only with what it may
come with. -/
def Keeps (Inv : Session κ σ → Prop) (Bad : Fault → Session κ σ → Prop) :
    Outcome κ σ α → Prop
  | (.ok _, t) => Inv t
  | (.error fault, t) => Bad fault t

theorem keeps_andThen_of_eq {Inv : Session κ σ → Prop} {outcome : Outcome κ σ α}
    {next : α → Session κ σ → Outcome κ σ β} (first : Keeps Inv Bad outcome)
    (second : ∀ a t, outcome = (.ok a, t) → Inv t → Keeps Inv Bad (next a t)) :
    Keeps Inv Bad (andThen outcome next) := by
  rcases outcome with ⟨fault | a, t⟩
  · exact first
  · exact second a t rfl first

theorem keeps_andThen {Inv : Session κ σ → Prop} {outcome : Outcome κ σ α}
    {next : α → Session κ σ → Outcome κ σ β} (first : Keeps Inv Bad outcome)
    (second : ∀ a t, Inv t → Keeps Inv Bad (next a t)) :
    Keeps Inv Bad (andThen outcome next) :=
  keeps_andThen_of_eq first fun a t _ inv => second a t inv

/-- The calls of a tree, each with as many values as it has arguments, keep the invariant, and all
faults of its evaluation may come with it. -/
structure Maintains (host : Host κ σ) (root : Node) (Inv : Session κ σ → Prop)
    (Bad : Fault → Session κ σ → Prop) : Prop where
  own : Inv s → fault.isAboutSymbol = false → Bad fault s
  unboundVariable : Inv s → slot ∈ root.variableSymbols → s.values slot.id = none →
    Bad (.expression (.unboundVariable slot.name)) s
  unboundFunction : Inv s → slot ∈ root.functionSymbols → s.callbacks slot.id = none →
    Bad (.expression (.unboundFunction slot.name slot.arity)) s
  call : Inv s → (slot, values.length) ∈ root.callSites → s.callbacks slot.id = some callback →
    Keeps Inv Bad ((host.call callback values).run s)

namespace Maintains
variable {host : Host κ σ} {root : Node} {Inv : Session κ σ → Prop}
  {Bad : Fault → Session κ σ → Prop}

theorem computed (maintains : Maintains host root Inv Bad) (inv : Inv s)
    {outcome : Except Fault α} (computes : Computes outcome) :
    Keeps Inv Bad (outcome, s) := by
  cases outcome with
  | ok a => exact inv
  | error fault => exact maintains.own inv (computes fault rfl)

theorem readValue (maintains : Maintains host root Inv Bad) (inv : Inv s)
    (member : slot ∈ root.variableSymbols) : Keeps Inv Bad (Node.readValue slot s, s) := by
  unfold Node.readValue
  cases held : s.values slot.id with
  | some value => exact inv
  | none => exact maintains.unboundVariable inv member held

theorem checkCallback (maintains : Maintains host root Inv Bad) (inv : Inv s)
    (member : slot ∈ root.functionSymbols) : Keeps Inv Bad (Node.checkCallback slot s, s) := by
  unfold Node.checkCallback
  split
  · next unbound =>
    exact maintains.unboundFunction inv member (Option.isNone_iff_eq_none.mp unbound)
  · exact inv

theorem callSlot (maintains : Maintains host root Inv Bad) (inv : Inv s)
    (member : (slot, values.length) ∈ root.callSites) :
    Keeps Inv Bad (Node.callSlot host slot values s) := by
  unfold Node.callSlot
  cases held : s.callbacks slot.id with
  | some callback => exact maintains.call inv member held
  | none => exact maintains.own inv rfl

mutual

/-- What every call keeps, evaluating keeps. -/
theorem evaluate (maintains : Maintains host root Inv Bad) (policy : DivisionPolicy)
    (inv : Inv s) : (node : Node) → node.variableSymbols ⊆ root.variableSymbols →
      node.callSites ⊆ root.callSites → Keeps Inv Bad ((Node.evaluate host policy node).run s)
  | .literal _, _, _ => inv
  | .negation operand, names, calls => by
    rw [Node.evaluate_negation]
    exact keeps_andThen (maintains.evaluate policy inv operand names calls) fun value t inv =>
      maintains.computed inv (Value.computes_negate value)
  | .binary op left right, names, calls => by
    obtain ⟨namesLeft, namesRight⟩ := List.append_subset.mp names
    obtain ⟨callsLeft, callsRight⟩ := List.append_subset.mp calls
    rw [Node.evaluate_binary]
    refine keeps_andThen (maintains.evaluate policy inv left namesLeft callsLeft) ?_
    intro first t inv
    refine keeps_andThen (maintains.evaluate policy inv right namesRight callsRight) ?_
    intro second u inv
    exact maintains.computed inv (Value.computes_combine policy op first second)
  | .var slot, names, _ => by
    rw [Node.evaluate_var]
    exact maintains.readValue inv (names (List.mem_singleton.mpr rfl))
  | .call slot arguments, names, calls => by
    obtain ⟨callsArguments, callsSlot⟩ := List.append_subset.mp calls
    have member := callsSlot (List.mem_singleton.mpr rfl)
    have defined : slot ∈ root.functionSymbols := by
      rw [Tree.functionSymbols_eq_map_callSites]
      exact List.mem_map_of_mem member
    rw [Node.evaluate_call]
    refine keeps_andThen (maintains.checkCallback inv defined) ?_
    intro _ _ inv
    refine keeps_andThen_of_eq (maintains.evaluateAll policy inv arguments names callsArguments) ?_
    intro values t evaluated inv
    exact maintains.callSlot inv (Node.length_of_evaluateAll host policy evaluated ▸ member)
  | .foreign value, _, _ => by
    rw [Node.evaluate_foreign]
    exact keeps_andThen (maintains.computed inv (computes_withinDigits _)) fun _ _ inv =>
      maintains.own inv rfl

theorem evaluateAll (maintains : Maintains host root Inv Bad) (policy : DivisionPolicy)
    (inv : Inv s) : (nodes : List Node) →
      Tree.variableSymbolsAll nodes ⊆ root.variableSymbols →
      Tree.callSitesAll nodes ⊆ root.callSites →
      Keeps Inv Bad ((Node.evaluateAll host policy nodes).run s)
  | [], _, _ => inv
  | node :: nodes, names, calls => by
    obtain ⟨namesFirst, namesOthers⟩ := List.append_subset.mp names
    obtain ⟨callsFirst, callsOthers⟩ := List.append_subset.mp calls
    rw [Node.evaluateAll_cons]
    refine keeps_andThen (maintains.evaluate policy inv node namesFirst callsFirst) ?_
    intro value t inv
    refine keeps_andThen (maintains.evaluateAll policy inv nodes namesOthers callsOthers) ?_
    exact fun values u inv => inv

end

end Maintains

/-! ### Side by side -/

/-- Both computations come to the same, in related sessions. -/
def Alike (R : Session κ σ → Session κ τ → Prop) (first : Outcome κ σ α)
    (second : Outcome κ τ α) : Prop :=
  first.1 = second.1 ∧ R first.2 second.2

theorem alike_andThen {R : Session κ σ → Session κ τ → Prop} {first : Outcome κ σ α}
    {second : Outcome κ τ α} {next : α → Session κ σ → Outcome κ σ β}
    {after : α → Session κ τ → Outcome κ τ β} (alike : Alike R first second)
    (onward : ∀ a s t, R s t → Alike R (next a s) (after a t)) :
    Alike R (andThen first next) (andThen second after) := by
  rcases first with ⟨outcome, s⟩
  rcases second with ⟨_, t⟩
  obtain ⟨rfl, related⟩ := alike
  cases outcome with
  | error fault => exact ⟨rfl, related⟩
  | ok a => exact onward a s t related

/-- Related sessions hold the same for the symbols of a tree, and calls keep them related. -/
structure Simulates (host : Host κ σ) (other : Host κ τ) (root : Node)
    (R : Session κ σ → Session κ τ → Prop) : Prop where
  sameValue : R s t → slot ∈ root.variableSymbols → s.values slot.id = t.values slot.id
  sameCallback : R s t → slot ∈ root.functionSymbols → s.callbacks slot.id = t.callbacks slot.id
  call : R s t → slot ∈ root.functionSymbols → s.callbacks slot.id = some callback →
    Alike R ((host.call callback values).run s) ((other.call callback values).run t)

namespace Simulates
variable {host : Host κ σ} {other : Host κ τ} {root : Node}
  {R : Session κ σ → Session κ τ → Prop}

theorem callSlot (simulates : Simulates host other root R) (related : R s t)
    (member : slot ∈ root.functionSymbols) (values : List Value) :
    Alike R (Node.callSlot host slot values s) (Node.callSlot other slot values t) := by
  unfold Node.callSlot
  rw [← simulates.sameCallback related member]
  cases held : s.callbacks slot.id with
  | some callback => exact simulates.call related member held
  | none => exact ⟨rfl, related⟩

mutual

/-- Evaluations from related sessions come to the same. -/
theorem evaluate (simulates : Simulates host other root R) (policy : DivisionPolicy)
    (related : R s t) : (node : Node) → node.variableSymbols ⊆ root.variableSymbols →
      node.functionSymbols ⊆ root.functionSymbols →
      Alike R ((Node.evaluate host policy node).run s) ((Node.evaluate other policy node).run t)
  | .literal _, _, _ => ⟨rfl, related⟩
  | .negation operand, names, calls => by
    rw [Node.evaluate_negation, Node.evaluate_negation]
    exact alike_andThen (simulates.evaluate policy related operand names calls)
      fun _ _ _ related => ⟨rfl, related⟩
  | .binary op left right, names, calls => by
    obtain ⟨namesLeft, namesRight⟩ := List.append_subset.mp names
    obtain ⟨callsLeft, callsRight⟩ := List.append_subset.mp calls
    rw [Node.evaluate_binary, Node.evaluate_binary]
    refine alike_andThen (simulates.evaluate policy related left namesLeft callsLeft) ?_
    intro first s t related
    refine alike_andThen (simulates.evaluate policy related right namesRight callsRight) ?_
    exact fun _ _ _ related => ⟨rfl, related⟩
  | .var slot, names, _ => by
    have same := simulates.sameValue related (names (List.mem_singleton.mpr rfl))
    rw [Node.evaluate_var, Node.evaluate_var, Node.readValue, same]
    exact ⟨rfl, related⟩
  | .call slot arguments, names, calls => by
    obtain ⟨callsArguments, callsSlot⟩ := List.append_subset.mp calls
    have member := callsSlot (List.mem_singleton.mpr rfl)
    have same : Node.checkCallback slot s = Node.checkCallback slot t := by
      unfold Node.checkCallback
      rw [simulates.sameCallback related member]
    rw [Node.evaluate_call, Node.evaluate_call]
    refine alike_andThen ⟨same, related⟩ ?_
    intro _ s t related
    refine alike_andThen (simulates.evaluateAll policy related arguments names callsArguments) ?_
    intro values s t related
    exact simulates.callSlot related member values
  | .foreign value, _, _ => by
    rw [Node.evaluate_foreign, Node.evaluate_foreign]
    exact alike_andThen ⟨rfl, related⟩ fun _ _ _ related => ⟨rfl, related⟩

theorem evaluateAll (simulates : Simulates host other root R) (policy : DivisionPolicy)
    (related : R s t) : (nodes : List Node) →
      Tree.variableSymbolsAll nodes ⊆ root.variableSymbols →
      Tree.functionSymbolsAll nodes ⊆ root.functionSymbols →
      Alike R ((Node.evaluateAll host policy nodes).run s)
        ((Node.evaluateAll other policy nodes).run t)
  | [], _, _ => ⟨rfl, related⟩
  | node :: nodes, names, calls => by
    obtain ⟨namesFirst, namesOthers⟩ := List.append_subset.mp names
    obtain ⟨callsFirst, callsOthers⟩ := List.append_subset.mp calls
    rw [Node.evaluateAll_cons, Node.evaluateAll_cons]
    refine alike_andThen (simulates.evaluate policy related node namesFirst callsFirst) ?_
    intro value s t related
    refine alike_andThen (simulates.evaluateAll policy related nodes namesOthers callsOthers) ?_
    exact fun _ _ _ related => ⟨rfl, related⟩

end

end Simulates

end Formula
