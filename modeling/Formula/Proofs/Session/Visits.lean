import Formula.Proofs.Session.CallOrder

/-! The course of an evaluation. It goes down and up in the tree: on the way down to a node its
symbol has to be bound, and on the way up from it the node is computed or called. What one such
visit may come to is said once; an evaluation makes its visits one after the other, until one of
them fails. -/
namespace Formula

/-! ### Visits to the nodes of a tree -/

/-- A visit to a node of a tree, on the way down to its children or on the way up from them. The
place of a node consists of the numbers of the children that lead to it from the root. -/
inductive Visit (ν φ : Type) where
  | down (place : List Nat) (node : Tree ν φ)
  | up (place : List Nat) (node : Tree ν φ)

namespace Visit

def place : Visit ν φ → List Nat
  | down place _ | up place _ => place

def down? : Visit ν φ → Option (List Nat × Tree ν φ)
  | down place node => some (place, node)
  | up _ _ => none

def up? : Visit ν φ → Option (List Nat × Tree ν φ)
  | down _ _ => none
  | up place node => some (place, node)

@[simp]
theorem down?_eq_some {visit : Visit ν φ} :
    visit.down? = some entry ↔ visit = .down entry.1 entry.2 := by
  cases visit <;> simp [down?, Prod.ext_iff]

@[simp]
theorem up?_eq_some {visit : Visit ν φ} :
    visit.up? = some entry ↔ visit = .up entry.1 entry.2 := by
  cases visit <;> simp [up?, Prod.ext_iff]

end Visit

namespace Tree

mutual

/-- The visits to the nodes of a tree at a place. -/
def visits (place : List Nat) : Tree ν φ → List (Visit ν φ)
  | literal value => [.down place (literal value), .up place (literal value)]
  | negation operand => .down place (negation operand) ::
    (operand.visits (place ++ [0]) ++ [.up place (negation operand)])
  | binary op left right => .down place (binary op left right) ::
    (left.visits (place ++ [0]) ++
      (right.visits (place ++ [1]) ++ [.up place (binary op left right)]))
  | var symbol => [.down place (var symbol), .up place (var symbol)]
  | call symbol arguments => .down place (call symbol arguments) ::
    (visitsAll place 0 arguments ++ [.up place (call symbol arguments)])
  | foreign value => [.down place (foreign value), .up place (foreign value)]

/-- The visits to the nodes of consecutive children of a place. -/
def visitsAll (place : List Nat) (first : Nat) : List (Tree ν φ) → List (Visit ν φ)
  | [] => []
  | tree :: trees => tree.visits (place ++ [first]) ++ visitsAll place (first + 1) trees

end

/-- The nodes of a tree with their places, in pre-order. -/
def inPreorder (tree : Tree ν φ) : List (List Nat × Tree ν φ) :=
  (tree.visits []).filterMap Visit.down?

/-- The nodes of a tree with their places, in post-order. -/
def inPostorder (tree : Tree ν φ) : List (List Nat × Tree ν φ) :=
  (tree.visits []).filterMap Visit.up?

theorem visits_eq (place : List Nat) (tree : Tree ν φ) : tree.visits place =
    .down place tree :: (visitsAll place 0 tree.children ++ [.up place tree]) := by
  cases tree <;> simp [visits, visitsAll, children]

end Tree

/-! ### Visits of an evaluation -/

/-- The fault that an outcome is. -/
def faultOf : Except Fault α → Option Fault
  | .ok _ => none
  | .error fault => some fault

theorem faultOf_eq_some {outcome : Except Fault α} :
    faultOf outcome = some fault ↔ outcome = .error fault := by
  cases outcome <;> simp [faultOf]

namespace Session

/-- The second session has the bindings of the first. -/
structure SharesBindings (s : Session κ σ) (t : Session κ τ) : Prop where
  values : t.values = s.values
  callbacks : t.callbacks = s.callbacks

section
variable (host : Host κ σ) (policy : DivisionPolicy) (s : Session κ σ)

/-- With these bindings, and some state of the callbacks, the node evaluates to the value. -/
def EvaluatesTo (node : Node) (value : Value) : Prop :=
  ∃ t : Session κ σ, s.SharesBindings t ∧ ((Node.evaluate host policy node).run t).1 = .ok value

def EvaluatesAllTo (nodes : List Node) (values : List Value) : Prop :=
  ∃ t : Session κ σ, s.SharesBindings t ∧
    ((Node.evaluateAll host policy nodes).run t).1 = .ok values

end

/-- The fault of a node whose symbol is not bound. -/
def lack? (s : Session κ σ) : Node → Option Fault
  | .var slot =>
    match s.values slot.id with
    | some _ => none
    | none => some (.expression (.unboundVariable slot.name))
  | .call slot _ =>
    match s.callbacks slot.id with
    | some _ => none
    | none => some (.expression (.unboundFunction slot.name slot.arity))
  | .literal _ | .negation _ | .binary _ _ _ | .foreign _ => none

end Session

section
variable (host : Host κ σ) (policy : DivisionPolicy) (s : Session κ σ)

/-- The calls that a visit makes and the fault it ends with. On the way down the symbol of a node
has to be bound; on the way up an operator is applied to the values of its operands, and what is
bound to a function is called with those of the arguments. -/
inductive Visited : Visit VariableSlot FunctionSlot → List (CallEvent κ) → Option Fault →
    Prop where
  | down (place : List Nat) (node : Node) : Visited (.down place node) [] (s.lack? node)
  | literal : Visited (.up place (.literal value)) [] none
  | negation : s.EvaluatesTo host policy operand value →
    Visited (.up place (.negation operand)) [] (faultOf value.negate)
  | binary : s.EvaluatesTo host policy left first → s.EvaluatesTo host policy right second →
    Visited (.up place (.binary op left right)) [] (faultOf (Value.combine policy op first second))
  | var : Visited (.up place (.var slot)) [] none
  | call : s.callbacks slot.id = some event.callback →
    s.EvaluatesAllTo host policy arguments event.arguments →
    Visited (.up place (.call slot arguments)) [event] (faultOf event.outcome)
  | foreign (value : Value) : Visited (.up place (.foreign value)) []
    (faultOf (withinDigits value.quoted? >>= fun quoted =>
      (.error (.mismatch (.notEvaluable quoted)) : Except Fault Value)))

/-- The calls that consecutive visits make and the fault they end with. A fault ends them. -/
inductive Visiting : List (Visit VariableSlot FunctionSlot) → List (CallEvent κ) → Option Fault →
    Prop where
  | done : Visiting [] [] none
  | stop : Visited host policy s visit events (some fault) →
    Visiting (visit :: visits) events (some fault)
  | next : Visited host policy s visit events none → Visiting visits later fault? →
    Visiting (visit :: visits) (events ++ later) fault?

end

section
variable {host : Host κ σ} {policy : DivisionPolicy} {s : Session κ σ}

theorem Visiting.single (visited : Visited host policy s visit events fault?) :
    Visiting host policy s [visit] events fault? := by
  cases fault? with
  | some fault => exact .stop visited
  | none =>
    rw [← List.append_nil events]
    exact .next visited .done

theorem Visiting.stopped (visiting : Visiting host policy s visits events (some fault))
    (more : List (Visit VariableSlot FunctionSlot)) :
    Visiting host policy s (visits ++ more) events (some fault) := by
  generalize ended : some fault = fault? at visiting
  induction visiting with
  | done => cases ended
  | stop visited => exact .stop visited
  | next visited _ ih => exact .next visited (ih ended)

theorem Visiting.append (first : Visiting host policy s visits events none)
    (second : Visiting host policy s more later fault?) :
    Visiting host policy s (visits ++ more) (events ++ later) fault? := by
  generalize ended : none = ending at first
  induction first with
  | done => exact second
  | stop _ => cases ended
  | next visited _ ih =>
    rw [List.append_assoc]
    exact .next visited (ih ended)

/-- A fault is that of the last visit. -/
theorem Visiting.exists_last (visiting : Visiting host policy s visits events (some fault)) :
    ∃ visit ∈ visits, ∃ earlier last, events = earlier ++ last ∧
      Visited host policy s visit last (some fault) := by
  generalize ended : some fault = fault? at visiting
  induction visiting with
  | done => cases ended
  | stop visited =>
    cases ended
    exact ⟨_, List.mem_cons_self, [], _, rfl, visited⟩
  | @next visit events visits later _ _ _ ih =>
    obtain ⟨other, member, earlier, last, rfl, visited⟩ := ih ended
    exact ⟨other, List.mem_cons_of_mem _ member, events ++ earlier, last,
      (List.append_assoc ..).symm, visited⟩

/-! ### Evaluations make the visits of their tree -/

theorem evaluatesTo_of_recorded {t u : Session κ (σ × List (CallEvent κ))}
    (shares : s.SharesBindings t)
    (evaluated : (Node.evaluate host.recording policy node).run t = (.ok value, u)) :
    s.EvaluatesTo host policy node value := by
  obtain ⟨same, _⟩ := (Session.simulates_recording host node).evaluate (t := t) policy rfl node
    (List.Subset.refl _) (List.Subset.refl _)
  exact ⟨t.forget, ⟨shares.values, shares.callbacks⟩, by rw [same, evaluated]⟩

theorem evaluatesAllTo_of_recorded {t u : Session κ (σ × List (CallEvent κ))}
    (shares : s.SharesBindings t)
    (evaluated : (Node.evaluateAll host.recording policy nodes).run t = (.ok values, u)) :
    s.EvaluatesAllTo host policy nodes values := by
  have simulates := Session.simulates_recording host (.call ⟨0, "", 0⟩ nodes)
  obtain ⟨same, _⟩ := simulates.evaluateAll (t := t) policy rfl nodes (List.Subset.refl _)
    (List.subset_append_left _ _)
  exact ⟨t.forget, ⟨shares.values, shares.callbacks⟩, by rw [same, evaluated]⟩

/-- A computation that makes the given visits, after the recorded calls `log`. -/
structure Makes (host : Host κ σ) (policy : DivisionPolicy) (s : Session κ σ)
    (log : List (CallEvent κ)) (visits : List (Visit VariableSlot FunctionSlot))
    (outcome : Outcome κ (σ × List (CallEvent κ)) α) : Prop where
  shares : s.SharesBindings outcome.2
  visiting : ∃ events, outcome.2.state.2 = log ++ events ∧
    Visiting host policy s visits events (faultOf outcome.1)

namespace Makes
variable {log : List (CallEvent κ)} {t : Session κ (σ × List (CallEvent κ))}

theorem andThen {outcome : Outcome κ (σ × List (CallEvent κ)) α}
    {next : α → Session κ (σ × List (CallEvent κ)) → Outcome κ (σ × List (CallEvent κ)) β}
    (first : Makes host policy s log visits outcome)
    (second : ∀ a t, outcome = (.ok a, t) → s.SharesBindings t →
      Makes host policy s t.state.2 more (next a t)) :
    Makes host policy s log (visits ++ more) (Formula.andThen outcome next) := by
  obtain ⟨events, recorded, visiting⟩ := first.visiting
  rcases outcome with ⟨fault | a, t⟩
  · exact ⟨first.shares, events, recorded, visiting.stopped more⟩
  · have after := second a t rfl first.shares
    obtain ⟨later, others, onward⟩ := after.visiting
    refine ⟨after.shares, events ++ later, ?_, visiting.append onward⟩
    rw [andThen_ok, others, ← List.append_assoc, ← recorded]

/-- No visit is left to make. -/
theorem nil (shares : s.SharesBindings t) (a : α) : Makes host policy s t.state.2 [] (.ok a, t) :=
  ⟨shares, [], (List.append_nil _).symm, .done⟩

/-- A last visit without a call. -/
theorem last {outcome : Except Fault α} (shares : s.SharesBindings t)
    (visited : Visited host policy s visit [] (faultOf outcome)) :
    Makes host policy s t.state.2 [visit] (outcome, t) :=
  ⟨shares, [], (List.append_nil _).symm, .single visited⟩

theorem down {outcome : Outcome κ (σ × List (CallEvent κ)) α} {node : Node}
    (bound : s.lack? node = none) (makes : Makes host policy s log visits outcome) :
    Makes host policy s log (.down place node :: visits) outcome := by
  obtain ⟨events, recorded, visiting⟩ := makes.visiting
  have visited : Visited host policy s (.down place node) [] (s.lack? node) := .down place node
  rw [bound] at visited
  exact ⟨makes.shares, events, recorded, .next visited visiting⟩

/-- A node whose symbol is not bound ends the visits. -/
theorem lacking {node : Node} (shares : s.SharesBindings t) (unbound : s.lack? node = some fault) :
    Makes (α := α) host policy s t.state.2 (.down place node :: visits) (.error fault, t) := by
  have visited : Visited host policy s (.down place node) [] (s.lack? node) := .down place node
  rw [unbound] at visited
  exact ⟨shares, [], (List.append_nil _).symm, .stop visited⟩

end Makes

theorem makes_callSlot (preserved : s.Preserved host) (place : List Nat)
    {t : Session κ (σ × List (CallEvent κ))} (shares : s.SharesBindings t)
    (bound : s.callbacks slot.id = some callback)
    (evaluated : s.EvaluatesAllTo host policy arguments values) :
    Makes host policy s t.state.2 [.up place (.call slot arguments)]
      (Node.callSlot host.recording slot values t) := by
  obtain ⟨keepsValues, keepsCallbacks⟩ := preserved _ _ bound values t.forget
  rw [Node.callSlot, shares.callbacks, bound]
  refine ⟨⟨keepsValues.trans shares.values, keepsCallbacks.trans shares.callbacks⟩, _, rfl, ?_⟩
  exact .single (.call bound evaluated)

mutual

/-- An evaluation makes the visits to the nodes of its tree. -/
theorem makes_evaluate (preserved : s.Preserved host) (policy : DivisionPolicy)
    {t : Session κ (σ × List (CallEvent κ))} (shares : s.SharesBindings t) (place : List Nat) :
    (node : Node) → Makes host policy s t.state.2 (node.visits place)
      ((Node.evaluate host.recording policy node).run t)
  | .literal value => .down rfl (.last shares .literal)
  | .negation operand => by
    rw [Node.evaluate_negation]
    refine .down rfl ((makes_evaluate preserved policy shares (place ++ [0]) operand).andThen ?_)
    intro value u evaluated after
    exact .last after (.negation (evaluatesTo_of_recorded shares evaluated))
  | .binary op left right => by
    rw [Node.evaluate_binary]
    refine .down rfl ((makes_evaluate preserved policy shares (place ++ [0]) left).andThen ?_)
    intro first u evaluatedLeft between
    refine (makes_evaluate preserved policy between (place ++ [1]) right).andThen ?_
    intro second v evaluatedRight after
    exact .last after (.binary (evaluatesTo_of_recorded shares evaluatedLeft)
      (evaluatesTo_of_recorded between evaluatedRight))
  | .var slot => by
    rw [Node.evaluate_var, Node.readValue, shares.values]
    cases held : s.values slot.id with
    | none => exact .lacking shares (by rw [Session.lack?, held])
    | some value => exact .down (by rw [Session.lack?, held]) (.last shares .var)
  | .call slot arguments => by
    rw [Node.evaluate_call, Node.checkCallback, shares.callbacks]
    cases held : s.callbacks slot.id with
    | none => exact .lacking shares (by rw [Session.lack?, held])
    | some callback =>
      refine .down (by rw [Session.lack?, held]) ?_
      refine (makes_evaluateAll preserved policy shares place 0 arguments).andThen ?_
      intro values u evaluated after
      exact makes_callSlot preserved place after held (evaluatesAllTo_of_recorded shares evaluated)
  | .foreign value => by
    rw [Node.evaluate_foreign, andThen_pure]
    exact .down rfl (.last shares (.foreign value))

theorem makes_evaluateAll (preserved : s.Preserved host) (policy : DivisionPolicy)
    {t : Session κ (σ × List (CallEvent κ))} (shares : s.SharesBindings t) (place : List Nat)
    (first : Nat) : (nodes : List Node) →
    Makes host policy s t.state.2 (Tree.visitsAll place first nodes)
      ((Node.evaluateAll host.recording policy nodes).run t)
  | [] => .nil shares []
  | node :: nodes => by
    rw [Node.evaluateAll_cons]
    refine (makes_evaluate preserved policy shares _ node).andThen ?_
    intro value u _ between
    rw [← List.append_nil (Tree.visitsAll ..)]
    refine (makes_evaluateAll preserved policy between place (first + 1) nodes).andThen ?_
    exact fun values v _ after => .nil after (value :: values)

end

/-- The calls and the fault of an evaluation are those of its visits. -/
theorem visiting_evaluate (preserved : s.Preserved host) (policy : DivisionPolicy) (node : Node) :
    Visiting host policy s (node.visits []) (node.calls host policy s)
      (faultOf ((Node.evaluate host policy node).run s).1) := by
  obtain ⟨_, events, recorded, visiting⟩ :=
    makes_evaluate (t := s.withState (s.state, [])) preserved policy ⟨rfl, rfl⟩ [] node
  have calls : node.calls host policy s = events := recorded
  rw [calls, run_eq_recorded]
  exact visiting

end

end Formula
