import Formula.Proofs.Callback.Rebinding
import Formula.Proofs.Session.Policies

/-! The order of calls. The calls of a tree are made once each and in post-order: a call comes after
those in its arguments, and its arguments are evaluated from left to right. What a call is given are
the values of its own arguments, in which the calls have come to what was recorded for them. -/
namespace Formula

namespace Tree

mutual

/-- The calls of a tree with their arguments, in post-order. -/
def callNodes : Tree ν φ → List (φ × List (Tree ν φ))
  | negation operand => operand.callNodes
  | binary _ left right => left.callNodes ++ right.callNodes
  | call symbol arguments => callNodesAll arguments ++ [(symbol, arguments)]
  | literal _ | var _ | foreign _ => []

def callNodesAll : List (Tree ν φ) → List (φ × List (Tree ν φ))
  | [] => []
  | tree :: trees => tree.callNodes ++ callNodesAll trees

end

/-- A call comes after those in its arguments. -/
def Closed (nodes : List (φ × List (Tree ν φ))) : Prop :=
  ∀ i symbol arguments, nodes[i]? = some (symbol, arguments) → ∃ before after,
    nodes = before ++ (callNodesAll arguments ++ (symbol, arguments) :: after) ∧
    i = before.length + (callNodesAll arguments).length

theorem Closed.append {nodes more : List (φ × List (Tree ν φ))} (closed : Closed nodes)
    (others : Closed more) : Closed (nodes ++ more) := by
  intro i symbol arguments found
  rw [List.getElem?_append] at found
  split at found
  · obtain ⟨before, after, rfl, place⟩ := closed i symbol arguments found
    exact ⟨before, after ++ more, by simp, place⟩
  · obtain ⟨before, after, rfl, place⟩ := others _ symbol arguments found
    refine ⟨nodes ++ before, after, by simp, ?_⟩
    rw [List.length_append]
    omega

mutual

theorem closed_callNodes : (tree : Tree ν φ) → Closed tree.callNodes
  | negation operand => closed_callNodes operand
  | binary _ left right => (closed_callNodes left).append (closed_callNodes right)
  | call symbol arguments => by
    intro i callee given found
    rw [callNodes, List.getElem?_append] at found
    split at found
    · obtain ⟨before, after, nodes, place⟩ :=
        closed_callNodesAll arguments i callee given found
      exact ⟨before, after ++ [(symbol, arguments)], by rw [callNodes, nodes]; simp, place⟩
    · next beyond =>
      rw [List.getElem?_singleton] at found
      obtain ⟨only, same⟩ := Option.ite_none_right_eq_some.mp found
      cases same
      exact ⟨[], [], by rw [callNodes, List.nil_append], by rw [List.length_nil]; omega⟩
  | literal _ | var _ | foreign _ => nofun

theorem closed_callNodesAll : (trees : List (Tree ν φ)) → Closed (callNodesAll trees)
  | [] => nofun
  | tree :: trees => (closed_callNodes tree).append (closed_callNodesAll trees)

end

end Tree

namespace Node

mutual

/-- The value of a node whose variables hold the given values and whose calls, counted in post-order
from `first`, come to the given outcomes. -/
def valueFrom (held : Nat → Option Value) (policy : DivisionPolicy)
    (outcomes : Nat → Except Fault Value) (first : Nat) : Node → Except Fault Value
  | .literal value => .ok value
  | .negation operand => do
    let value ← valueFrom held policy outcomes first operand
    value.negate
  | .binary op left right => do
    let leftValue ← valueFrom held policy outcomes first left
    let rightValue ← valueFrom held policy outcomes (first + left.callNodes.length) right
    Value.combine policy op leftValue rightValue
  | .var slot =>
    match held slot.id with
    | some value => .ok value
    | none => .error (.expression (.unboundVariable slot.name))
  | .call _ arguments => outcomes (first + (Tree.callNodesAll arguments).length)
  | .foreign value => do
    let quoted ← withinDigits value.quoted?
    .error (.mismatch (.notEvaluable quoted))

def valuesFrom (held : Nat → Option Value) (policy : DivisionPolicy)
    (outcomes : Nat → Except Fault Value) (first : Nat) : List Node → Except Fault (List Value)
  | [] => .ok []
  | node :: nodes => do
    let value ← valueFrom held policy outcomes first node
    let values ← valuesFrom held policy outcomes (first + node.callNodes.length) nodes
    .ok (value :: values)

end

end Node

/-- The outcomes are those of the calls recorded, and any for calls beyond these. -/
def Records (outcomes : Nat → Except Fault Value) (events : List (CallEvent κ)) : Prop :=
  ∀ i event, events[i]? = some event → outcomes i = event.outcome

namespace Session

/-- The events of an evaluation are calls of the first of the call nodes of the tree, one event for
each: a call of the callback that is bound to the node, with the values of the node's arguments. If
the evaluation comes to a value, they are calls of all call nodes, and the value is that of the
tree. -/
structure CallsInOrder (s : Session κ σ) (policy : DivisionPolicy) (node : Node)
    (outcome : Except Fault Value) (events : List (CallEvent κ)) : Prop where
  invokes : ∀ i event, events[i]? = some event → ∃ before slot arguments after,
    node.callNodes = before ++ (Tree.callNodesAll arguments ++ (slot, arguments) :: after) ∧
    i = before.length + (Tree.callNodesAll arguments).length ∧
    s.callbacks slot.id = some event.callback ∧
    ∀ outcomes, Records outcomes events →
      Node.valuesFrom s.values policy outcomes before.length arguments = .ok event.arguments
  complete : ∀ value, outcome = .ok value → events.length = node.callNodes.length ∧
    ∀ outcomes, Records outcomes events →
      Node.valueFrom s.values policy outcomes 0 node = .ok value

end Session

/-- Calls of the callback leave the bindings as they are. They may change the state of the
callbacks, which may have an influence on later calls. -/
def Host.Preserves (host : Host κ σ) (callback : κ) : Prop :=
  ∀ arguments s, ((host.call callback arguments).run s).2.values = s.values ∧
    ((host.call callback arguments).run s).2.callbacks = s.callbacks

theorem Host.Stateless.preserves {host : Host κ σ} (stateless : host.Stateless callback) :
    host.Preserves callback := by
  intro arguments s
  obtain ⟨outcome, run⟩ := stateless arguments
  obtain ⟨state, same⟩ := run s
  rw [same]
  exact ⟨rfl, rfl⟩

/-! ### Events of consecutive computations -/

namespace Session

/-- The events are calls of the first of the given nodes. Calls are counted from `first`, and those
in the arguments of a node come right before it. -/
def Invokes (s : Session κ σ) (policy : DivisionPolicy) (outcomes : Nat → Except Fault Value)
    (first : Nat) (nodes : List (FunctionSlot × List Node)) (events : List (CallEvent κ)) : Prop :=
  ∀ i event, events[i]? = some event → ∃ slot arguments start,
    nodes[i]? = some (slot, arguments) ∧
    start + (Tree.callNodesAll arguments).length = first + i ∧
    s.callbacks slot.id = some event.callback ∧
    Node.valuesFrom s.values policy outcomes start arguments = .ok event.arguments

variable {s : Session κ σ} {policy : DivisionPolicy} {outcomes : Nat → Except Fault Value}

theorem invokes_nil (first : Nat) (nodes : List (FunctionSlot × List Node)) :
    s.Invokes policy outcomes first nodes [] :=
  nofun

theorem Invokes.append_nodes (invokes : s.Invokes policy outcomes first nodes events)
    (more : List (FunctionSlot × List Node)) :
    s.Invokes policy outcomes first (nodes ++ more) events := by
  intro i event found
  obtain ⟨slot, arguments, start, node, rest⟩ := invokes i event found
  refine ⟨slot, arguments, start, ?_, rest⟩
  rw [List.getElem?_append_left (List.getElem?_eq_some_iff.mp node).1, node]

theorem Invokes.append (invokes : s.Invokes policy outcomes first nodes events)
    (all : events.length = nodes.length)
    (others : s.Invokes policy outcomes (first + nodes.length) more later) :
    s.Invokes policy outcomes first (nodes ++ more) (events ++ later) := by
  intro i event found
  rw [List.getElem?_append] at found
  split at found
  · exact invokes.append_nodes more i event found
  · next beyond =>
    rw [all] at found beyond
    obtain ⟨slot, arguments, start, node, place, rest⟩ := others _ event found
    refine ⟨slot, arguments, start, ?_, by omega, rest⟩
    rw [List.getElem?_append_right (Nat.le_of_not_lt beyond), node]

end Session

theorem exists_records (events : List (CallEvent κ)) : ∃ outcomes, Records outcomes events := by
  refine ⟨fun i => (events[i]?.map CallEvent.outcome).getD (.ok .none), fun i event found => ?_⟩
  simp only [found, Option.map_some, Option.getD_some]

theorem Records.of_append {outcomes : Nat → Except Fault Value} {events later : List (CallEvent κ)}
    (records : Records outcomes (events ++ later)) : Records outcomes events := by
  intro i event found
  refine records i event ?_
  rw [List.getElem?_append_left (List.getElem?_eq_some_iff.mp found).1, found]

/-- A computation that goes on after the recorded calls `log` and makes the calls `events`. These
are calls of the first of the given nodes and, if it succeeds, of all of them, and the result
satisfies `Result`. What calls come to is assumed to satisfy `Given`. -/
structure Follows (s : Session κ σ) (policy : DivisionPolicy)
    (Given : (Nat → Except Fault Value) → Prop) (log events : List (CallEvent κ))
    (nodes : List (FunctionSlot × List Node)) (Result : (Nat → Except Fault Value) → α → Prop)
    (outcome : Outcome κ (σ × List (CallEvent κ)) α) : Prop where
  values : outcome.2.values = s.values
  callbacks : outcome.2.callbacks = s.callbacks
  recorded : outcome.2.state.2 = log ++ events
  complete : ∀ a, outcome.1 = .ok a → events.length = nodes.length
  invokes : ∀ outcomes, Given outcomes → Records outcomes (log ++ events) →
    s.Invokes policy outcomes log.length nodes events
  result : ∀ a, outcome.1 = .ok a → ∀ outcomes, Given outcomes → Records outcomes (log ++ events) →
    Result outcomes a

namespace Follows
variable {s : Session κ σ} {policy : DivisionPolicy} {Given : (Nat → Except Fault Value) → Prop}
  {log : List (CallEvent κ)}

theorem weaken {Weaker : (Nat → Except Fault Value) → Prop} {outcome : Outcome κ _ α}
    (follows : Follows s policy Weaker log events nodes Result outcome)
    (weaker : ∀ outcomes, Given outcomes → Weaker outcomes) :
    Follows s policy Given log events nodes Result outcome where
  values := follows.values
  callbacks := follows.callbacks
  recorded := follows.recorded
  complete := follows.complete
  invokes outcomes given := follows.invokes outcomes (weaker outcomes given)
  result a success outcomes given := follows.result a success outcomes (weaker outcomes given)

/-- A computation without calls. -/
theorem pure {t : Session κ (σ × List (CallEvent κ))} {outcome : Except Fault α}
    {Result : (Nat → Except Fault Value) → α → Prop} (values : t.values = s.values)
    (callbacks : t.callbacks = s.callbacks) (recorded : t.state.2 = log)
    (result : ∀ a, outcome = .ok a → ∀ outcomes, Given outcomes → Result outcomes a) :
    Follows s policy Given log [] [] Result (outcome, t) where
  values := values
  callbacks := callbacks
  recorded := by rw [recorded, List.append_nil]
  complete _ _ := rfl
  invokes outcomes _ _ := Session.invokes_nil _ _
  result a success outcomes given _ := result a success outcomes given

/-- A computation that fails before any call. -/
theorem failed {t : Session κ (σ × List (CallEvent κ))} {fault : Fault}
    {Result : (Nat → Except Fault Value) → α → Prop} (values : t.values = s.values)
    (callbacks : t.callbacks = s.callbacks) (recorded : t.state.2 = log) :
    Follows s policy Given log [] nodes Result (.error fault, t) where
  values := values
  callbacks := callbacks
  recorded := by rw [recorded, List.append_nil]
  complete := nofun
  invokes outcomes _ _ := Session.invokes_nil _ _
  result := nofun

/-- A computation goes on with the calls after those of another. -/
theorem andThen {outcome : Outcome κ (σ × List (CallEvent κ)) α}
    {next : α → Session κ (σ × List (CallEvent κ)) → Outcome κ (σ × List (CallEvent κ)) β}
    {Result : (Nat → Except Fault Value) → β → Prop}
    (first : Follows s policy Given log events nodes Middle outcome)
    (second : ∀ a t, t.values = s.values → t.callbacks = s.callbacks →
      t.state.2.length = log.length + nodes.length →
      ∃ later, Follows s policy (fun outcomes => Given outcomes ∧ Middle outcomes a) t.state.2 later
        more Result (next a t)) :
    ∃ all, Follows s policy Given log all (nodes ++ more) Result
      (Formula.andThen outcome next) := by
  rcases outcome with ⟨fault | a, t⟩
  · exact ⟨events, {
      values := first.values
      callbacks := first.callbacks
      recorded := first.recorded
      complete := nofun
      invokes := fun outcomes given records =>
        (first.invokes outcomes given records).append_nodes more
      result := nofun }⟩
  · have all := first.complete a rfl
    have recorded : t.state.2 = log ++ events := first.recorded
    have length : t.state.2.length = log.length + nodes.length := by
      rw [recorded, List.length_append, all]
    obtain ⟨later, after⟩ := second a t first.values first.callbacks length
    have middle {outcomes : Nat → Except Fault Value} (given : Given outcomes)
        (records : Records outcomes (log ++ (events ++ later))) : Middle outcomes a :=
      first.result a rfl outcomes given
        (by rw [← List.append_assoc] at records; exact records.of_append)
    refine ⟨events ++ later, ?_⟩
    constructor
    · exact after.values
    · exact after.callbacks
    · rw [andThen_ok, after.recorded, recorded, List.append_assoc]
    · intro b success
      rw [List.length_append, List.length_append, all, after.complete b success]
    · intro outcomes given records
      have front := first.invokes outcomes given
        (by rw [← List.append_assoc] at records; exact records.of_append)
      have back := after.invokes outcomes ⟨given, middle given records⟩
        (by rw [recorded, List.append_assoc]; exact records)
      exact front.append all (by rwa [length] at back)
    · intro b success outcomes given records
      exact after.result b success outcomes ⟨given, middle given records⟩
        (by rw [recorded, List.append_assoc]; exact records)

/-- A computation whose result is worked out without further calls. -/
theorem computed {outcome : Outcome κ (σ × List (CallEvent κ)) α} {compute : α → Except Fault β}
    {Result : (Nat → Except Fault Value) → β → Prop}
    (first : Follows s policy Given log events nodes Middle outcome)
    (result : ∀ a b, compute a = .ok b → ∀ outcomes, Given outcomes → Middle outcomes a →
      Result outcomes b) :
    Follows s policy Given log events nodes Result
      (Formula.andThen outcome fun a t => (compute a, t)) := by
  rcases outcome with ⟨fault | a, t⟩
  · exact {
      values := first.values
      callbacks := first.callbacks
      recorded := first.recorded
      complete := nofun
      invokes := first.invokes
      result := nofun }
  · exact {
      values := first.values
      callbacks := first.callbacks
      recorded := first.recorded
      complete := fun _ _ => first.complete a rfl
      invokes := first.invokes
      result := fun b success outcomes given records =>
        result a b success outcomes given (first.result a rfl outcomes given records) }

end Follows

/-! ### Evaluation -/

section
variable {host : Host κ σ} {s : Session κ σ}

/-- The callbacks that are bound leave the bindings as they are. -/
def Session.Preserved (host : Host κ σ) (s : Session κ σ) : Prop :=
  ∀ slot callback, s.callbacks slot = some callback → host.Preserves callback

theorem Session.preserved_start (compiled : Compiled) (policy : DivisionPolicy) (state : σ) :
    (Session.start compiled policy state).Preserved host :=
  nofun

theorem Session.Preserved.setCallback (preserved : s.Preserved host) (slot : FunctionSlot)
    (preserves : host.Preserves callback) :
    (s.setCallback slot (some callback)).Preserved host := by
  intro place bound held
  change update s.callbacks slot.id (some callback) place = some bound at held
  unfold update at held
  split at held
  · cases held
    exact preserves
  · exact preserved place bound held

theorem follows_callSlot (preserved : s.Preserved host) (slot : FunctionSlot)
    (arguments : List Node) (values : List Value) {t : Session κ (σ × List (CallEvent κ))}
    (sameValues : t.values = s.values) (sameCallbacks : t.callbacks = s.callbacks)
    (length : t.state.2.length = first + (Tree.callNodesAll arguments).length) :
    ∃ events, Follows s policy
      (fun outcomes => Node.valuesFrom s.values policy outcomes first arguments = .ok values)
      t.state.2 events [(slot, arguments)]
      (fun outcomes value =>
        Node.valueFrom s.values policy outcomes first (.call slot arguments) = .ok value)
      (Node.callSlot host.recording slot values t) := by
  unfold Node.callSlot
  cases held : t.callbacks slot.id with
  | none => exact ⟨[], .failed sameValues sameCallbacks rfl⟩
  | some callback =>
    have bound : s.callbacks slot.id = some callback := by rw [← sameCallbacks, held]
    obtain ⟨keepsValues, keepsCallbacks⟩ := preserved _ _ bound values t.forget
    refine ⟨[⟨callback, values, ((host.call callback values).run t.forget).1⟩], ?_⟩
    constructor
    · exact keepsValues.trans sameValues
    · exact keepsCallbacks.trans sameCallbacks
    · rfl
    · exact fun _ _ => rfl
    · rintro outcomes evaluated _ (_ | i) event found
      · cases found
        exact ⟨slot, arguments, first, rfl, length.symm, bound, evaluated⟩
      · contradiction
    · intro value success outcomes _ records
      rw [Node.valueFrom, ← success, ← length]
      exact records _ _ List.getElem?_concat_length

mutual

/-- An evaluation makes the calls of its node in their order. -/
theorem follows_evaluate (preserved : s.Preserved host) (policy : DivisionPolicy)
    {t : Session κ (σ × List (CallEvent κ))} (sameValues : t.values = s.values)
    (sameCallbacks : t.callbacks = s.callbacks) : (node : Node) →
    ∃ events, Follows s policy (fun _ => True) t.state.2 events node.callNodes
      (fun outcomes value =>
        Node.valueFrom s.values policy outcomes t.state.2.length node = .ok value)
      ((Node.evaluate host.recording policy node).run t)
  | .literal value => ⟨[], .pure sameValues sameCallbacks rfl fun _ success _ _ => success⟩
  | .negation operand => by
    rw [Node.evaluate_negation]
    obtain ⟨events, follows⟩ := follows_evaluate preserved policy sameValues sameCallbacks operand
    refine ⟨events, follows.computed fun value result success outcomes _ evaluated => ?_⟩
    rw [Node.valueFrom, evaluated]
    exact success
  | .binary op left right => by
    rw [Node.evaluate_binary]
    obtain ⟨events, follows⟩ := follows_evaluate preserved policy sameValues sameCallbacks left
    refine follows.andThen fun leftValue u values callbacks length => ?_
    obtain ⟨later, after⟩ := follows_evaluate preserved policy values callbacks right
    refine ⟨later, (after.weaken fun _ _ => trivial).computed ?_⟩
    intro rightValue result success outcomes ⟨_, evaluatedLeft⟩ evaluatedRight
    rw [length] at evaluatedRight
    rw [Node.valueFrom, evaluatedLeft]
    change (Node.valueFrom _ _ _ _ right >>= _) = _
    rw [evaluatedRight]
    exact success
  | .var slot => by
    rw [Node.evaluate_var]
    refine ⟨[], .pure sameValues sameCallbacks rfl fun value success outcomes _ => ?_⟩
    rw [Node.readValue, sameValues] at success
    rw [Node.valueFrom]
    exact success
  | .call slot arguments => by
    rw [Node.evaluate_call]
    -- A function without callback is found out before its arguments are evaluated.
    cases checked : Node.checkCallback slot t with
    | error fault => exact ⟨[], .failed sameValues sameCallbacks rfl⟩
    | ok checked =>
      obtain ⟨events, follows⟩ :=
        follows_evaluateAll preserved policy sameValues sameCallbacks arguments
      refine follows.andThen fun values u sameValues sameCallbacks length => ?_
      exact (follows_callSlot preserved slot arguments values sameValues sameCallbacks length).imp
        fun later after => after.weaken fun _ given => given.2
  | .foreign value => by
    rw [Node.evaluate_foreign]
    have quoted : Follows s policy (fun _ => True) t.state.2 [] [] (fun _ _ => True)
        (withinDigits value.quoted?, t) :=
      .pure sameValues sameCallbacks rfl fun _ _ _ _ => trivial
    exact ⟨[], quoted.computed nofun⟩

theorem follows_evaluateAll (preserved : s.Preserved host) (policy : DivisionPolicy)
    {t : Session κ (σ × List (CallEvent κ))} (sameValues : t.values = s.values)
    (sameCallbacks : t.callbacks = s.callbacks) : (nodes : List Node) →
    ∃ events, Follows s policy (fun _ => True) t.state.2 events (Tree.callNodesAll nodes)
      (fun outcomes values =>
        Node.valuesFrom s.values policy outcomes t.state.2.length nodes = .ok values)
      ((Node.evaluateAll host.recording policy nodes).run t)
  | [] => ⟨[], .pure sameValues sameCallbacks rfl fun _ success _ _ => success⟩
  | node :: nodes => by
    rw [Node.evaluateAll_cons]
    obtain ⟨events, follows⟩ := follows_evaluate preserved policy sameValues sameCallbacks node
    refine follows.andThen fun value u values callbacks length => ?_
    obtain ⟨later, after⟩ := follows_evaluateAll preserved policy values callbacks nodes
    refine ⟨later, (after.weaken fun _ _ => trivial).computed ?_⟩
    intro others result success outcomes ⟨_, evaluated⟩ evaluatedAll
    rw [length] at evaluatedAll
    rw [Node.valuesFrom, evaluated]
    change (Node.valuesFrom _ _ _ _ nodes >>= _) = _
    rw [evaluatedAll]
    exact success

end

/-- The calls of the evaluation of a node are those of its call nodes. -/
theorem callsInOrder_evaluate (preserved : s.Preserved host) (policy : DivisionPolicy)
    (node : Node) : s.CallsInOrder policy node ((Node.evaluate host policy node).run s).1
      (node.calls host policy s) := by
  obtain ⟨events, follows⟩ := follows_evaluate (t := s.withState (s.state, [])) preserved policy
    rfl rfl node
  have recorded : node.calls host policy s = events := follows.recorded
  have value : ((Node.evaluate host policy node).run s).1 =
      ((Node.evaluate host.recording policy node).run (s.withState (s.state, []))).1 := by
    rw [run_eq_recorded]
  rw [recorded, value]
  constructor
  · intro i event found
    obtain ⟨outcomes, records⟩ := exists_records events
    obtain ⟨slot, arguments, _, called, _, bound, _⟩ :=
      follows.invokes outcomes trivial records i event found
    obtain ⟨before, after, nodes, place⟩ := Tree.closed_callNodes node i slot arguments called
    refine ⟨before, slot, arguments, after, nodes, place, bound, fun outcomes records => ?_⟩
    obtain ⟨_, _, start, again, sum, _, values⟩ :=
      follows.invokes outcomes trivial records i event found
    obtain ⟨rfl, rfl⟩ := Prod.mk.inj (Option.some.inj (called.symm.trans again))
    obtain rfl : start = before.length := by
      change start + _ = 0 + i at sum
      omega
    exact values
  · intro result success
    refine ⟨follows.complete result success, fun outcomes records => ?_⟩
    exact follows.result result success outcomes trivial records

/-- Callbacks that leave the bindings as they are get called once for each call node of the tree, in
post-order and with the values of the arguments of the node, under either division policy. If
the evaluation fails, those of the first call nodes have been called. -/
theorem calls_inOrder (host : Host κ σ) (s : Session κ σ) (preserved : s.Preserved host) :
    (∀ policy node, s.CallsInOrder policy node ((Node.evaluate host policy node).run s).1
      (node.calls host policy s)) ∧
    s.CallsInOrder s.policy s.root (s.evaluate host).1 (s.calls host) := by
  refine ⟨callsInOrder_evaluate preserved, ?_⟩
  cases outcome : s.validate with
  | error fault =>
    have validated := s.validate_withState (s.state, ([] : List (CallEvent κ)))
    rw [outcome] at validated
    rw [Session.calls, Session.evaluate_of_error host outcome,
      Session.evaluate_of_error host.recording validated]
    constructor
    · intro i event found
      contradiction
    · intro result success
      contradiction
  | ok t =>
    have calls : s.calls host = t.root.calls host t.policy t :=
      (Session.evaluate_eq_recorded host outcome).2
    obtain ⟨_, rfl⟩ := Session.validate_ok_iff.mp outcome
    rw [calls, Session.evaluate_of_ok host outcome]
    obtain ⟨invokes, complete⟩ := callsInOrder_evaluate (s := { s with validated := true })
      preserved s.policy s.root
    exact ⟨invokes, complete⟩

/-- Calls that share a slot, one of them inside another. -/
theorem calls_inOrder_of_sharedSlot :
    let f : FunctionSlot := ⟨0, "f", 1⟩
    let root : Node := .binary .add (.call f [.call f [.literal (.int 6)]])
      (.call f [.literal (.int 2)])
    let negate : Callback := ⟨0, .script "f" (.fixed 1) .negation⟩
    let start : Callback.Session := .start ⟨"f(f(6))+f(2)", root, ⟨[], [f]⟩⟩ .checked .empty
    let s := start.setCallback f (some negate)
    let host := Callback.host Callback.shown
    s.Preserved host ∧ (s.evaluate host).1 = .ok (.int 4) ∧
      s.CallsInOrder .checked root (.ok (.int 4)) (s.calls host) ∧ (s.calls host).length = 3 := by
  intro f root negate start s host
  have preserved : s.Preserved host := by
    intro slot callback held
    obtain rfl : negate = callback := by
      change update (fun _ => none) 0 (some negate) slot = some callback at held
      unfold update at held
      obtain ⟨_, same⟩ := Option.ite_none_right_eq_some.mp held
      exact Option.some.inj same
    have computes : negate.blueprint.computes = true := rfl
    exact (Callback.stateless_of_computes Callback.shown computes).preserves
  have evaluated : (s.evaluate host).1 = .ok (.int 4) := by
    rfl
  have inOrder := (calls_inOrder host s preserved).2
  rw [evaluated] at inOrder
  exact ⟨preserved, evaluated, inOrder, (inOrder.complete _ rfl).1⟩

end

end Formula
