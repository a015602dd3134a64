import Formula.Proofs.Session.Closure
import Formula.Proofs.Session.Visits

/-! Where the fault of an evaluation comes from. An evaluation that fails fails with its last visit,
so a fault that is not about a symbol comes from the last call or from an operator; and a call that
fails is the last one. -/
namespace Formula

/-! ### Visited nodes -/

/-- The node that is visited. -/
def Visit.node : Visit ν φ → Tree ν φ
  | down _ node | up _ node => node

namespace Tree

theorem exists_of_mem_visitsAll {visit : Visit ν φ} {trees : List (Tree ν φ)}
    (made : visit ∈ visitsAll place first trees) :
    ∃ tree ∈ trees, ∃ i, visit ∈ tree.visits (place ++ [i]) := by
  induction trees generalizing first with
  | nil => contradiction
  | cons tree trees ih =>
    rcases List.mem_append.mp made with here | later
    · exact ⟨tree, List.mem_cons_self, first, here⟩
    · obtain ⟨other, member, found⟩ := ih later
      exact ⟨other, List.mem_cons_of_mem _ member, found⟩

/-- What passes from trees to their children holds of all nodes that are visited. -/
theorem forall_mem_visits {P : Tree ν φ → Prop}
    (passes : ∀ tree : Tree ν φ, P tree → ∀ child ∈ tree.children, P child) (tree : Tree ν φ)
    (holds : P tree) (place : List Nat) : ∀ visit ∈ tree.visits place, P visit.node := by
  induction tree using children_induction generalizing place with
  | step tree ih =>
    intro visit made
    rw [visits_eq, List.mem_cons, List.mem_append, List.mem_singleton] at made
    rcases made with rfl | inner | rfl
    · exact holds
    · obtain ⟨child, member, i, below⟩ := exists_of_mem_visitsAll inner
      exact ih child member (passes tree holds child member) _ visit below
    · exact holds

theorem mem_inPostorder {tree : Tree ν φ} (made : .up place node ∈ tree.visits []) :
    (place, node) ∈ tree.inPostorder :=
  List.mem_filterMap.mpr ⟨_, made, rfl⟩

end Tree

section
variable {host : Host κ σ} {policy : DivisionPolicy} {s : Session κ σ}

theorem Session.isAboutSymbol_of_lack? {node : Node} (lacks : s.lack? node = some fault) :
    fault.isAboutSymbol = true := by
  unfold Session.lack? at lacks
  split at lacks
  · split at lacks
    · contradiction
    · cases lacks
      rfl
  · split at lacks
    · contradiction
    · cases lacks
      rfl
  all_goals contradiction

/-! ### Calls that fail -/

theorem Visited.fault_of_event (visited : Visited host policy s visit events fault?)
    (member : event ∈ events) (failed : event.outcome = .error fault) : fault? = some fault := by
  cases visited with
  | call =>
    cases List.mem_singleton.mp member
    exact faultOf_eq_some.mpr failed
  | _ => contradiction

/-- The fault of a call ends the visits. -/
theorem Visiting.fault_of_event (visiting : Visiting host policy s visits events fault?)
    (member : event ∈ events) (failed : event.outcome = .error fault) : fault? = some fault := by
  induction visiting with
  | done => contradiction
  | stop visited => exact visited.fault_of_event member failed
  | next visited _ ih =>
    rcases List.mem_append.mp member with here | later
    · cases visited.fault_of_event here failed
    · exact ih later

/-- What a call fails with is what the evaluation fails with. -/
theorem evaluate_of_event (preserved : s.Preserved host) {node : Node}
    (member : event ∈ node.calls host policy s) (failed : event.outcome = .error fault) :
    ((Node.evaluate host policy node).run s).1 = .error fault :=
  faultOf_eq_some.mp ((visiting_evaluate preserved policy node).fault_of_event member failed)

/-! ### Origins -/

variable (host policy s) in
/-- The last call of the evaluation, of what is bound to a function of the tree with the values of
the arguments, fails with the fault. -/
inductive Session.Raises (root : Node) : Fault → Prop where
  | call (member : (place, .call slot arguments) ∈ root.inPostorder)
      (bound : s.callbacks slot.id = some event.callback)
      (evaluated : s.EvaluatesAllTo host policy arguments event.arguments)
      (called : root.calls host policy s = earlier ++ [event])
      (failed : event.outcome = .error fault) : Session.Raises root fault

variable (host policy s) in
/-- An operator of the tree, applied to the values of its operands, fails with the fault. -/
inductive Session.Refuses (root : Node) : Fault → Prop where
  | negation (member : (place, .negation operand) ∈ root.inPostorder)
      (evaluated : s.EvaluatesTo host policy operand value)
      (failed : value.negate = .error fault) : Session.Refuses root fault
  | binary (member : (place, .binary op left right) ∈ root.inPostorder)
      (evaluatedLeft : s.EvaluatesTo host policy left first)
      (evaluatedRight : s.EvaluatesTo host policy right second)
      (failed : Value.combine policy op first second = .error fault) : Session.Refuses root fault

/-- A fault of an evaluation that is not about a symbol comes from a call or from an operator. -/
theorem origin_of_evaluate (preserved : s.Preserved host) {root : Node}
    (written : root.term.Written kind) (other : fault.isAboutSymbol = false)
    (failed : ((Node.evaluate host policy root).run s).1 = .error fault) :
    s.Raises host policy root fault ∨ s.Refuses host policy root fault := by
  have visiting := visiting_evaluate preserved policy root
  rw [faultOf_eq_some.mpr failed] at visiting
  obtain ⟨visit, made, earlier, last, calls, visited⟩ := visiting.exists_last
  have own : Term.Written kind (Node.term visit.node) :=
    Tree.forall_mem_visits (fun _ => Node.children_written) root written [] visit made
  generalize ended : some fault = fault? at visited
  cases visited with
  | down place node =>
    rw [Session.isAboutSymbol_of_lack? ended.symm] at other
    contradiction
  | literal => contradiction
  | negation evaluated =>
    exact .inr (.negation (Tree.mem_inPostorder made) evaluated (faultOf_eq_some.mp ended.symm))
  | binary evaluatedLeft evaluatedRight =>
    exact .inr (.binary (Tree.mem_inPostorder made) evaluatedLeft evaluatedRight
      (faultOf_eq_some.mp ended.symm))
  | var => contradiction
  | call bound evaluated =>
    exact .inl (.call (Tree.mem_inPostorder made) bound evaluated calls
      (faultOf_eq_some.mp ended.symm))
  | foreign =>
    obtain ⟨absurd, _⟩ := own
    exact absurd.elim

end

end Formula
